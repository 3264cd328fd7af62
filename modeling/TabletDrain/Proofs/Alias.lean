import TabletDrain.Proofs.Keyed
import TabletDrain.Proofs.Text.Split
import TabletDrain.Tablet

/-! The text of an alias tells the alias: the digits hold no dash, so that the last dash ends the
cell, and they read back as the number. -/
namespace TabletDrain

namespace Text

theorem isDigit_of_mem_paddedDigits {width n : Nat} {c : Char} (member : c ∈ paddedDigits width n) :
    c.isDigit = true := by
  rcases List.mem_append.mp member with zero | digit
  · rw [(List.mem_replicate.mp zero).2]
    rfl
  · exact Nat.isDigit_of_mem_toDigits (by decide) (by decide) digit

theorem ofDigitChars_paddedDigits (width n : Nat) :
    Nat.ofDigitChars 10 (paddedDigits width n) 0 = n := by
  unfold paddedDigits digits
  rw [Nat.ofDigitChars_append, Nat.ofDigitChars_replicate_zero, Nat.mul_zero,
    Nat.ofDigitChars_ten_toDigits]

end Text

namespace Alias

theorem toList_text (name : Alias) :
    name.text.toList = name.cell.toList ++ '-' :: Text.paddedDigits 10 name.uid := by
  simp [text, Text.padded]

theorem splitLast_text (name : Alias) :
    Text.splitLast '-' name.text.toList =
      some (name.cell.toList, Text.paddedDigits 10 name.uid) := by
  rw [toList_text]
  apply Text.splitLast_append
  intro member
  exact absurd (Text.isDigit_of_mem_paddedDigits member) (by decide)

theorem text_injective : Function.Injective text := by
  intro a b same
  have parts := splitLast_text a
  rw [same, splitLast_text b] at parts
  simp only [Option.some.injEq, Prod.mk.injEq, String.toList_inj] at parts
  have uid : a.uid = b.uid := by
    rw [← Text.ofDigitChars_paddedDigits 10 a.uid, ← parts.2, Text.ofDigitChars_paddedDigits]
  have cell : a.cell = b.cell := parts.1.symm
  cases a
  cases b
  simp_all

@[simp] theorem text_inj {a b : Alias} : a.text = b.text ↔ a = b := text_injective.eq_iff

end Alias

/-- Of the tablets with one name the last is in the map, under the text of the name. -/
theorem Tablet.get?_index_eq_some_iff {tablets : List Tablet} {key : String} {tablet : Tablet} :
    (index tablets).get? key = some tablet ↔ ∃ earlier later,
      tablets = earlier ++ tablet :: later ∧ tablet.name.text = key ∧
        ∀ other ∈ later, other.name ≠ tablet.name := by
  rw [index, Keyed.get?_ofList_eq_some_iff]
  constructor
  · rintro ⟨_, _, split, absent⟩
    obtain ⟨earlier, _, rfl, _, split⟩ := List.map_eq_append_iff.mp split
    obtain ⟨found, later, rfl, same, rfl⟩ := List.map_eq_cons_iff.mp split
    cases same
    refine ⟨earlier, later, rfl, rfl, fun other member same => absent ?_⟩
    rw [List.map_map]
    exact List.mem_map.mpr ⟨other, member, congrArg Alias.text same⟩
  · rintro ⟨earlier, later, rfl, rfl, last⟩
    refine ⟨_, _, List.map_append, fun member => ?_⟩
    rw [List.map_map] at member
    obtain ⟨other, later, same⟩ := List.mem_map.mp member
    exact last other later (Alias.text_inj.mp same)

/-- The tablets of the topology stand under the texts of their names. -/
theorem Tablet.text_of_get?_index {tablets : List Tablet} {key : String} {tablet : Tablet}
    (found : (index tablets).get? key = some tablet) : tablet.name.text = key := by
  obtain ⟨_, _, _, named, _⟩ := get?_index_eq_some_iff.mp found
  exact named

end TabletDrain
