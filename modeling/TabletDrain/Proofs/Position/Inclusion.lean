import TabletDrain.Proofs.Position.Order
import TabletDrain.Proofs.Position.Written
import TabletDrain.Proofs.Text.Order

/-! Comparing range by range is comparing transaction by transaction, as long as the ranges of each
server are in normal form. So positions that are read include each other only where they are the same,
or where both include nothing. -/
namespace TabletDrain.Position

/-- Nothing is included everywhere, a set of transactions in one that holds each of them, and a place in
a log file in one that is no earlier: in a later file by its bytes, or in the same file. -/
inductive Includes : Position → Position → Prop
  | nothing {mine theirs : Position} : theirs.isZero = true → Includes mine theirs
  | transactions {own other : Keyed (List Interval)} :
      (∀ server n, (transactions other).Holds server n → (transactions own).Holds server n) →
        Includes (transactions own) (transactions other)
  | laterFile {file otherFile : String} {offset otherOffset : Nat} :
      Text.bytes otherFile.toList < Text.bytes file.toList →
        Includes (logFile file offset) (logFile otherFile otherOffset)
  | sameFile {file : String} {offset otherOffset : Nat} :
      otherOffset ≤ offset → Includes (logFile file offset) (logFile file otherOffset)

section Sets

variable {own other : Keyed (List Interval)} {server : String} {ranges : List Interval}

theorem holds_iff_of_get? (found : own.get? server = some ranges) {n : Nat} :
    (transactions own).Holds server n ↔ Interval.Hold ranges n := by
  simp only [Holds, found, Option.some.injEq, exists_eq_left']

theorem Kept.exists_holds (kept : Kept own) (found : own.get? server = some ranges) :
    ∃ n, (transactions own).Holds server n := by
  obtain ⟨some, normal, _⟩ := kept server ranges found
  obtain ⟨range, member⟩ := List.exists_mem_of_ne_nil ranges some
  exact ⟨range.first, (holds_iff_of_get? found).mpr (Interval.hold_first (normal.proper range member) member)⟩

theorem atLeast_iff_holds (kept : Kept own) (kept' : Kept other) :
    (transactions own).atLeast (transactions other) = true ↔
      ∀ server n, (transactions other).Holds server n → (transactions own).Holds server n := by
  rw [atLeast_transactions_iff]
  constructor
  · rintro includes server n ⟨ranges, found, range, member, covers⟩
    obtain ⟨held, found', covered⟩ := includes server ranges found
    have normal := (kept server held found').normal
    have proper := (kept' server ranges found).normal.proper range member
    refine ⟨held, found', (normal.hold_iff_contains proper).mpr ?_ n covers⟩
    exact covered_iff.mp covered range member
  · intro holds server ranges found
    obtain ⟨n, told⟩ := kept'.exists_holds found
    obtain ⟨held, found', _⟩ := holds server n told
    have normal := (kept server held found').normal
    refine ⟨held, found', covered_iff.mpr fun range member => ?_⟩
    have proper := (kept' server ranges found).normal.proper range member
    refine (normal.hold_iff_contains proper).mp fun n covers => ?_
    exact (holds_iff_of_get? found').mp (holds server n ⟨ranges, found, range, member, covers⟩)

theorem Kept.eq_of_holds (kept : Kept own) (kept' : Kept other)
    (same : ∀ server n, (transactions own).Holds server n ↔ (transactions other).Holds server n) :
    own = other := by
  refine Keyed.ext_get? fun server => ?_
  cases found : own.get? server with
  | none =>
    cases found' : other.get? server with
    | none => rfl
    | some ranges =>
      obtain ⟨n, told⟩ := kept'.exists_holds found'
      obtain ⟨_, found'', _⟩ := (same server n).mpr told
      cases found.symm.trans found''
  | some ranges =>
    obtain ⟨n, told⟩ := kept.exists_holds found
    obtain ⟨ranges', found', _⟩ := (same server n).mp told
    have equal : ranges = ranges' := by
      refine (kept _ _ found).normal.eq_of_hold (kept' _ _ found').normal fun n => ?_
      rw [← holds_iff_of_get? found, ← holds_iff_of_get? found']
      exact same server n
    rw [found', equal]

end Sets

section Decoded

variable {p q : String} {a b : Position}

theorem atLeast_iff_includes (decodes : decode p = .ok a) (decodes' : decode q = .ok b) :
    a.atLeast b = true ↔ Includes a b := by
  constructor
  · intro least
    rcases atLeast_cases least with nothing | ⟨own, other, rfl, rfl⟩ | ⟨file, _, otherFile, _, rfl, rfl⟩
    · exact .nothing nothing
    · exact .transactions ((atLeast_iff_holds (kept_of_decode decodes) (kept_of_decode decodes')).mp least)
    · rcases atLeast_logFile_iff.mp least with before | ⟨rfl, less⟩
      · exact .laterFile (Text.bytes_lt_iff.mpr before)
      · exact .sameFile less
  · intro includes
    cases includes with
    | nothing zero => exact atLeast_of_isZero zero a
    | transactions holds =>
      exact (atLeast_iff_holds (kept_of_decode decodes) (kept_of_decode decodes')).mpr holds
    | laterFile before => exact atLeast_logFile_iff.mpr (.inl (Text.bytes_lt_iff.mp before))
    | sameFile less => exact atLeast_logFile_iff.mpr (.inr ⟨rfl, less⟩)

theorem eq_of_atLeast (decodes : decode p = .ok a) (decodes' : decode q = .ok b)
    (least : a.atLeast b = true) (least' : b.atLeast a = true) (something : ¬b.isZero = true) : a = b := by
  rcases atLeast_cases least with nothing | ⟨own, other, rfl, rfl⟩ | ⟨file, _, otherFile, _, rfl, rfl⟩
  · exact absurd nothing something
  · have kept := kept_of_decode decodes
    have kept' := kept_of_decode decodes'
    have here := (atLeast_iff_holds kept kept').mp least
    have there := (atLeast_iff_holds kept' kept).mp least'
    rw [kept.eq_of_holds kept' fun server n => ⟨there server n, here server n⟩]
  · rw [atLeast_logFile_iff] at least least'
    rcases least with before | ⟨rfl, less⟩
    · rcases least' with before' | ⟨rfl, _⟩
      · exact absurd (String.lt_trans before before') (String.lt_irrefl _)
      · exact absurd before (String.lt_irrefl _)
    · rcases least' with before' | ⟨_, less'⟩
      · exact absurd before' (String.lt_irrefl _)
      · rw [Nat.le_antisymm less' less]

/-- One position is at least another exactly if it includes that one. This is an order of the positions
that are read, up to those that say nothing. -/
theorem atLeast_is_inclusion (decodes : decode p = .ok a) (decodes' : decode q = .ok b) :
    (a.atLeast b = true ↔ Includes a b) ∧ a.atLeast a = true ∧
      (∀ c, a.atLeast b = true → b.atLeast c = true → a.atLeast c = true) ∧
      (a.atLeast b = true ∧ b.atLeast a = true ↔ a = b ∨ a.isZero = true ∧ b.isZero = true) := by
  refine ⟨atLeast_iff_includes decodes decodes', atLeast_refl a, fun _ => atLeast_trans, ?_⟩
  constructor
  · rintro ⟨least, least'⟩
    by_cases nothing : b.isZero = true
    · exact .inr ⟨isZero_of_atLeast nothing least', nothing⟩
    · exact .inl (eq_of_atLeast decodes decodes' least least' nothing)
  · rintro (rfl | ⟨nothing, nothing'⟩)
    · exact ⟨atLeast_refl a, atLeast_refl a⟩
    · exact ⟨atLeast_of_isZero nothing' a, atLeast_of_isZero nothing b⟩

/-- A range up to the largest number is included where only two ranges together cover it. -/
theorem atLeast_is_inclusion_sample :
    ∃ a b, decode ("MySQL56/" ++ "3e11:18446744073709551615:1-18446744073709551614") = .ok a ∧
      decode ("MySQL56/" ++ "3E11:7-18446744073709551615") = .ok b ∧ Includes a b ∧
      a.atLeast b = true ∧ ¬b.atLeast a = true := by
  have reads : (entriesOf "3e11:18446744073709551615:1-18446744073709551614".toList).mapM readEntry =
      .ok [("3e11".toList, [⟨18446744073709551615, 18446744073709551615⟩, ⟨1, 18446744073709551614⟩])] := by
    decide +kernel
  have reads' : (entriesOf "3E11:7-18446744073709551615".toList).mapM readEntry =
      .ok [("3e11".toList, [⟨7, 18446744073709551615⟩])] := by
    decide +kernel
  have decodes := decode_of_entries reads
  have decodes' := decode_of_entries reads'
  refine ⟨_, _, decodes, decodes', ?included, (atLeast_is_inclusion decodes decodes').1.mpr ?included,
    mt (atLeast_is_inclusion decodes' decodes).1.mp ?_⟩
  case included =>
    refine .transactions fun server n told => ?_
    rw [holds_gathered_iff] at told ⊢
    simp only [List.mem_singleton, exists_eq_left, Interval.hold_cons, Interval.not_hold_nil, or_false,
      Interval.covers] at told ⊢
    exact ⟨told.1, by omega⟩
  · intro includes
    cases includes with
    | nothing zero => exact absurd zero (by decide)
    | transactions holds =>
      have first := holds "3e11" 1 (holds_gathered_iff.mpr ⟨_, List.mem_singleton_self _, rfl, by
        simp [Interval.covers]⟩)
      rw [holds_gathered_iff] at first
      simp [Interval.covers] at first

end Decoded

end TabletDrain.Position
