import TabletDrain.Text.Bytes
import Mathlib.Data.String.Basic
import Mathlib.Data.List.Lex

/-! Texts are ordered by their characters, which is the order of the bytes that encode them. -/
namespace TabletDrain.Text

theorem toList_loop (array : ByteArray) (i : Nat) (start : List UInt8) :
    ByteArray.toList.loop array i start = start.reverse ++ array.data.toList.drop i := by
  fun_induction ByteArray.toList.loop array i start with
  | case1 i start inside ih =>
    have inside' : i < array.data.toList.length := inside
    have byte : array.get! i = array.data.toList[i] := getElem!_pos array.data i inside
    rw [ih, List.drop_eq_getElem_cons inside', byte, List.reverse_cons, List.append_assoc]
    rfl
  | case2 i start beyond =>
    rw [List.drop_eq_nil_of_le (Nat.le_of_not_lt beyond), List.append_nil]

theorem bytes_eq_flatMap (text : List Char) : bytes text = text.flatMap String.utf8EncodeChar := by
  refine congrArg (text.flatMap ·) (funext fun c => ?_)
  have encoded : c.toString.toByteArray = [c].utf8Encode := String.toByteArray_ofList
  rw [ByteArray.toList, toList_loop, String.toUTF8_eq_toByteArray, encoded, List.utf8Encode,
    List.data_toByteArray]
  simp

/-- A longer encoding begins with a greater byte, and those of one length hold the digits of their
characters to base 64, the highest first. -/
theorem encode_append_lt {c d : Char} (less : c < d) (rest others : List UInt8) :
    String.utf8EncodeChar c ++ rest < String.utf8EncodeChar d ++ others := by
  have before : c.val.toNat < d.val.toNat := less
  have valid : d.val.toNat < 1114112 := by
    have isChar := d.valid
    simp only [UInt32.isValidChar, Nat.isValidChar] at isChar
    omega
  have byte (n : Nat) (small : n < 256) : (UInt8.ofNat n).toNat = n := UInt8.toNat_ofNat_of_lt' small
  have digits (n : Nat) : n / 4096 = n / 64 / 64 ∧ n / 262144 = n / 64 / 64 / 64 := by omega
  have length (n : Nat) :
      n ≤ 127 ∨ ¬n ≤ 127 ∧ n ≤ 2047 ∨ ¬n ≤ 2047 ∧ n ≤ 65535 ∨ ¬n ≤ 65535 := by omega
  unfold String.utf8EncodeChar
  generalize c.val.toNat = v at *
  generalize d.val.toNat = w at *
  dsimp only
  rcases length v with one | ⟨_, two⟩ | ⟨_, three⟩ | four <;>
    rcases length w with one' | ⟨_, two'⟩ | ⟨_, three'⟩ | four'
  -- the encoding of the smaller one is never the longer one
  case inr.inl.inl | inr.inr.inl.inl | inr.inr.inr.inl => omega
  case inr.inr.inl.inr.inl | inr.inr.inr.inr.inl | inr.inr.inr.inr.inr.inl => omega
  all_goals
    simp (disch := omega) only [if_pos, if_neg, List.cons_append, List.nil_append,
      List.cons_lt_cons_iff, UInt8.lt_iff_toNat_lt, ← UInt8.toNat_inj, byte, digits]
    omega

theorem encode_ne_nil (c : Char) : String.utf8EncodeChar c ≠ [] := by
  rw [← List.length_pos_iff, String.length_utf8EncodeChar]
  exact c.utf8Size_pos

theorem flatMap_encode_lt {shorter longer : List Char} (less : shorter < longer) :
    shorter.flatMap String.utf8EncodeChar < longer.flatMap String.utf8EncodeChar := by
  induction less with
  | @nil c rest =>
    obtain ⟨byte, others, first⟩ := List.exists_cons_of_ne_nil (encode_ne_nil c)
    rw [List.flatMap_cons, first]
    exact List.nil_lt_cons _ _
  | cons _ ih => exact List.append_left_lt ih
  | rel less => exact encode_append_lt less _ _

theorem bytes_lt_iff {a b : String} : bytes a.toList < bytes b.toList ↔ a < b := by
  rw [bytes_eq_flatMap, bytes_eq_flatMap]
  constructor
  · intro less
    rcases Std.lt_trichotomy a b with before | same | after
    · exact before
    · exact absurd (same ▸ less) (List.lt_irrefl _)
    · exact absurd (flatMap_encode_lt (String.lt_iff_toList_lt.mp after)) (List.lt_asymm less)
  · intro less
    exact flatMap_encode_lt (String.lt_iff_toList_lt.mp less)

end TabletDrain.Text
