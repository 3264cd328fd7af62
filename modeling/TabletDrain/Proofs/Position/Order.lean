import TabletDrain.Position.Basic
import TabletDrain.Proofs.Keyed

/-! Positions are ordered by what they include. Every position includes itself, and what it includes
takes along all that is included there; but two positions may each hold what the other one lacks. -/
namespace TabletDrain

theorem Interval.contains_refl (range : Interval) : range.contains range = true := by
  simp [contains]

theorem Interval.contains_trans {outer middle inner : Interval}
    (here : outer.contains middle = true) (there : middle.contains inner = true) :
    outer.contains inner = true := by
  simp only [contains, Bool.and_eq_true, decide_eq_true_eq] at *
  omega

namespace Position

variable {a b c : Position}

section Ranges

variable {mine theirs others : List Interval}

theorem covered_iff :
    covered theirs mine = true ↔ ∀ range ∈ theirs, ∃ own ∈ mine, own.contains range = true := by
  simp only [covered, List.all_eq_true, List.any_eq_true]

theorem covered_refl (ranges : List Interval) : covered ranges ranges = true :=
  covered_iff.mpr fun range member => ⟨range, member, range.contains_refl⟩

theorem covered_trans (here : covered theirs mine = true) (there : covered others theirs = true) :
    covered others mine = true := by
  refine covered_iff.mpr fun range member => ?_
  obtain ⟨middle, inside, holds⟩ := covered_iff.mp there range member
  obtain ⟨own, mine, holds'⟩ := covered_iff.mp here middle inside
  exact ⟨own, mine, Interval.contains_trans holds' holds⟩

end Ranges

theorem atLeast_of_isZero (nothing : b.isZero = true) (a : Position) : a.atLeast b = true := by
  unfold atLeast
  rw [nothing, Bool.true_or]

theorem atLeast_transactions_iff {own other : Keyed (List Interval)} :
    (transactions own).atLeast (transactions other) = true ↔
      ∀ server ranges, other.get? server = some ranges →
        ∃ held, own.get? server = some held ∧ covered ranges held = true := by
  have all : (transactions own).atLeast (transactions other) = true ↔
      ∀ entry ∈ other.entries, ∃ held, own.get? entry.1 = some held ∧ covered entry.2 held = true := by
    by_cases nothing : (transactions other).isZero = true
    · have none : other.entries = [] := List.isEmpty_iff.mp nothing
      simp [atLeast_of_isZero nothing, none]
    · rw [atLeast, Bool.eq_false_iff.mpr nothing, Bool.false_or, List.all_eq_true]
      refine forall₂_congr fun entry _ => ?_
      cases found : own.get? entry.1 <;> simp [found]
  rw [all]
  constructor
  · intro holds server ranges found
    exact holds (server, ranges) (Keyed.mem_entries_iff.mpr found)
  · intro holds entry member
    exact holds entry.1 entry.2 (Keyed.get?_of_mem member)

theorem atLeast_logFile_iff {file otherFile : String} {offset otherOffset : Nat} :
    (logFile file offset).atLeast (logFile otherFile otherOffset) = true ↔
      otherFile < file ∨ otherFile = file ∧ otherOffset ≤ offset := by
  change (false || if file = otherFile then decide (otherOffset ≤ offset)
    else decide (otherFile < file)) = true ↔ _
  by_cases same : file = otherFile
  · subst same
    simp
  · simp [same, Ne.symm same]

theorem atLeast_refl (a : Position) : a.atLeast a = true := by
  cases a with
  | zero => rfl
  | transactions set =>
    exact atLeast_transactions_iff.mpr fun server ranges found => ⟨ranges, found, covered_refl ranges⟩
  | logFile file offset => exact atLeast_logFile_iff.mpr (.inr ⟨rfl, Nat.le_refl _⟩)

/-- Beyond what says nothing, only positions of one kind are compared. -/
theorem atLeast_cases (holds : a.atLeast b = true) :
    b.isZero = true ∨ (∃ own other, a = transactions own ∧ b = transactions other) ∨
      ∃ file offset otherFile otherOffset, a = logFile file offset ∧
        b = logFile otherFile otherOffset := by
  by_cases nothing : b.isZero = true
  · exact .inl nothing
  · unfold atLeast at holds
    rw [Bool.eq_false_iff.mpr nothing, Bool.false_or] at holds
    split at holds
    · exact .inr (.inl ⟨_, _, rfl, rfl⟩)
    · exact .inr (.inr ⟨_, _, _, _, rfl, rfl⟩)
    · cases holds

/-- What includes nothing includes no more than nothing. -/
theorem isZero_of_atLeast (nothing : a.isZero = true) (holds : a.atLeast b = true) :
    b.isZero = true := by
  rcases atLeast_cases holds with zero | ⟨own, other, rfl, rfl⟩ | ⟨_, _, _, _, rfl, _⟩
  · exact zero
  · refine Keyed.isEmpty_iff.mpr fun server => ?_
    cases found : other.get? server with
    | none => rfl
    | some ranges =>
      obtain ⟨held, inside, _⟩ := atLeast_transactions_iff.mp holds server ranges found
      rw [Keyed.isEmpty_iff.mp nothing] at inside
      cases inside
  · cases nothing

theorem atLeast_trans (here : a.atLeast b = true) (there : b.atLeast c = true) :
    a.atLeast c = true := by
  by_cases nothing : c.isZero = true
  · exact atLeast_of_isZero nothing a
  have something : ¬b.isZero = true := fun zero => nothing (isZero_of_atLeast zero there)
  rcases atLeast_cases there with zero | ⟨middle, last, rfl, rfl⟩ | ⟨middle, _, last, _, rfl, rfl⟩
  · exact absurd zero nothing
  · rcases atLeast_cases here with zero | ⟨first, _, rfl, same⟩ | ⟨_, _, _, _, _, same⟩
    · exact absurd zero something
    · cases same
      refine atLeast_transactions_iff.mpr fun server ranges found => ?_
      obtain ⟨between, inside, covers⟩ := atLeast_transactions_iff.mp there server ranges found
      obtain ⟨held, outside, covers'⟩ := atLeast_transactions_iff.mp here server between inside
      exact ⟨held, outside, covered_trans covers' covers⟩
    · cases same
  · rcases atLeast_cases here with zero | ⟨_, _, _, same⟩ | ⟨first, _, _, _, rfl, same⟩
    · exact absurd zero something
    · cases same
    · cases same
      rw [atLeast_logFile_iff] at *
      rcases here with before | ⟨rfl, less⟩
      · rcases there with before' | ⟨rfl, _⟩
        · exact .inl (String.lt_trans before' before)
        · exact .inl before
      · rcases there with before' | ⟨rfl, less'⟩
        · exact .inl before'
        · exact .inr ⟨rfl, Nat.le_trans less' less⟩

end Position

end TabletDrain
