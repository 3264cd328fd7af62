import TabletDrain.Position.Basic
import Mathlib.Data.List.Pairwise

/-! Joining ranges keeps the numbers that they cover and leaves a gap between any two of them. In that
form they are determined by those numbers, and include others range by range as soon as they do number
by number. -/
namespace TabletDrain.Interval

variable {ranges mine theirs : List Interval} {range current next : Interval} {n : Nat}

/-- One of the ranges covers the number. -/
def Hold (ranges : List Interval) (n : Nat) : Prop := ∃ range ∈ ranges, range.covers n

/-- No range is empty, and each ends before the next one begins, with a gap between them. -/
structure IsNormal (ranges : List Interval) : Prop where
  proper : ∀ range ∈ ranges, range.first ≤ range.last
  apart : ranges.Pairwise fun a b => a.last + 1 < b.first

def Ascending (ranges : List Interval) : Prop := ranges.Pairwise fun a b => a.first ≤ b.first

@[simp] theorem not_hold_nil : ¬Hold [] n := by simp [Hold]

@[simp] theorem hold_cons : Hold (range :: ranges) n ↔ range.covers n ∨ Hold ranges n := by
  simp [Hold]

theorem Ascending.join {last : Nat} (ascending : Ascending (current :: next :: ranges)) :
    Ascending (⟨current.first, last⟩ :: ranges) := by
  simp only [Ascending, List.pairwise_cons, List.forall_mem_cons] at ascending ⊢
  exact ⟨ascending.1.2, ascending.2.2⟩

theorem covers_join (before : current.first ≤ next.first) (touch : next.first ≤ current.last + 1) :
    covers ⟨current.first, max current.last next.last⟩ n ↔ current.covers n ∨ next.covers n := by
  simp only [covers]
  omega

theorem hold_mergeFrom (ascending : Ascending (current :: ranges)) :
    Hold (mergeFrom current ranges) n ↔ Hold (current :: ranges) n := by
  induction ranges generalizing current with
  | nil => rfl
  | cons next rest ih =>
    have before : current.first ≤ next.first :=
      List.rel_of_pairwise_cons ascending List.mem_cons_self
    rw [mergeFrom]
    split
    · rename_i touch
      rw [ih ascending.join, hold_cons, covers_join before touch, hold_cons, hold_cons, or_assoc]
    · rw [hold_cons, ih ascending.of_cons, ← hold_cons]

theorem first_le_of_mem_mergeFrom (ascending : Ascending (current :: ranges))
    (member : range ∈ mergeFrom current ranges) : current.first ≤ range.first := by
  induction ranges generalizing current with
  | nil => exact Nat.le_of_eq (congrArg first (List.mem_singleton.mp member)).symm
  | cons next rest ih =>
    have before : current.first ≤ next.first :=
      List.rel_of_pairwise_cons ascending List.mem_cons_self
    rw [mergeFrom] at member
    split at member
    · exact (ih ascending.join member :)
    · rcases List.mem_cons.mp member with rfl | inside
      · exact Nat.le_refl _
      · exact Nat.le_trans before (ih ascending.of_cons inside)

theorem isNormal_mergeFrom (ascending : Ascending (current :: ranges))
    (proper : ∀ range ∈ current :: ranges, range.first ≤ range.last) :
    IsNormal (mergeFrom current ranges) := by
  induction ranges generalizing current with
  | nil => exact ⟨proper, List.pairwise_singleton _ _⟩
  | cons next rest ih =>
    obtain ⟨first, second, others⟩ : current.first ≤ current.last ∧ next.first ≤ next.last ∧
        ∀ range ∈ rest, range.first ≤ range.last := by simpa using proper
    rw [mergeFrom]
    split
    · refine ih ascending.join (List.forall_mem_cons.mpr ⟨?_, others⟩)
      exact Nat.le_trans first (Nat.le_max_left _ _)
    · rename_i gap
      have later := ih ascending.of_cons (List.forall_mem_cons.mpr ⟨second, others⟩)
      refine ⟨List.forall_mem_cons.mpr ⟨first, later.proper⟩,
        List.pairwise_cons.mpr ⟨fun range member => ?_, later.apart⟩⟩
      have after := first_le_of_mem_mergeFrom ascending.of_cons member
      omega

theorem ascending_mergeSort (ranges : List Interval) : Ascending (ranges.mergeSort precedes) := by
  have sorted : (ranges.mergeSort precedes).Pairwise fun a b => precedes a b = true := by
    apply List.pairwise_mergeSort
    · intro a b c
      simp only [precedes]
      split <;> split <;> split <;> simp only [decide_eq_true_eq] <;> omega
    · intro a b
      simp only [precedes]
      split <;> split <;> simp only [Bool.or_eq_true, decide_eq_true_eq] <;> omega
  refine sorted.imp fun {a b} before => ?_
  simp only [precedes] at before
  split at before <;> simp only [decide_eq_true_eq] at before <;> omega

theorem normalize_eq (ranges : List Interval) : normalize ranges = merge (ranges.mergeSort precedes) :=
  rfl

theorem hold_normalize : Hold (normalize ranges) n ↔ Hold ranges n := by
  have sorted : Hold (ranges.mergeSort precedes) n ↔ Hold ranges n := by simp [Hold]
  rw [normalize_eq, ← sorted]
  have ascending := ascending_mergeSort ranges
  cases split : ranges.mergeSort precedes with
  | nil => rfl
  | cons first rest => exact hold_mergeFrom (split ▸ ascending)

theorem isNormal_normalize (proper : ∀ range ∈ ranges, range.first ≤ range.last) :
    IsNormal (normalize ranges) := by
  rw [normalize_eq]
  have ascending := ascending_mergeSort ranges
  have proper' : ∀ range ∈ ranges.mergeSort precedes, range.first ≤ range.last := by simpa using proper
  cases split : ranges.mergeSort precedes with
  | nil => exact ⟨List.forall_mem_nil _, .nil⟩
  | cons first rest =>
    rw [split] at ascending proper'
    exact isNormal_mergeFrom ascending proper'

theorem hold_first (proper : range.first ≤ range.last) (member : range ∈ ranges) :
    Hold ranges range.first := ⟨range, member, Nat.le_refl _, proper⟩

theorem hold_last (proper : range.first ≤ range.last) (member : range ∈ ranges) :
    Hold ranges range.last := ⟨range, member, proper, Nat.le_refl _⟩

namespace IsNormal

theorem before_or_after (normal : IsNormal ranges) {other : Interval} (member : range ∈ ranges)
    (member' : other ∈ ranges) (different : range ≠ other) :
    range.last + 1 < other.first ∨ other.last + 1 < range.first := by
  have symmetric : Std.Symm fun a b : Interval => a.last + 1 < b.first ∨ b.last + 1 < a.first :=
    ⟨fun _ _ => Or.symm⟩
  have apart : ranges.Pairwise fun a b => a.last + 1 < b.first ∨ b.last + 1 < a.first :=
    normal.apart.imp Or.inl
  exact apart.forall member member' different

/-- Right behind a range there is a gap. -/
theorem not_hold_after (normal : IsNormal ranges) (member : range ∈ ranges) :
    ¬Hold ranges (range.last + 1) := by
  rintro ⟨other, inside, starts, ends⟩
  have proper := normal.proper range member
  by_cases same : range = other
  · subst same
    omega
  · have := normal.before_or_after member inside same
    omega

theorem hold_iff_contains (normal : IsNormal mine) (proper : range.first ≤ range.last) :
    (∀ n, range.covers n → Hold mine n) ↔ ∃ own ∈ mine, own.contains range = true := by
  constructor
  · intro holds
    obtain ⟨own, member, starts, reaches⟩ := holds range.first ⟨Nat.le_refl _, proper⟩
    refine ⟨own, member, ?_⟩
    by_contra short
    have ends : own.last < range.last := by
      simp only [contains, Bool.and_eq_true, decide_eq_true_eq] at short
      omega
    exact normal.not_hold_after member (holds (own.last + 1) ⟨by omega, ends⟩)
  · rintro ⟨own, member, contains⟩ n ⟨starts, ends⟩
    simp only [Interval.contains, Bool.and_eq_true, decide_eq_true_eq] at contains
    exact ⟨own, member, by omega, by omega⟩

theorem hold_tail_iff (normal : IsNormal (current :: ranges)) :
    Hold ranges n ↔ Hold (current :: ranges) n ∧ current.last < n := by
  rw [hold_cons]
  constructor
  · rintro ⟨range, member, starts, ends⟩
    have after := List.rel_of_pairwise_cons normal.apart member
    exact ⟨.inr ⟨range, member, starts, ends⟩, by omega⟩
  · rintro ⟨⟨_, ends⟩ | later, beyond⟩
    · omega
    · exact later

theorem of_cons (normal : IsNormal (current :: ranges)) : IsNormal ranges :=
  ⟨(List.forall_mem_cons.mp normal.proper).2, normal.apart.of_cons⟩

theorem first_le (normal : IsNormal (current :: ranges)) (holds : Hold (current :: ranges) n) :
    current.first ≤ n := by
  obtain ⟨range, member, starts, _⟩ := holds
  rcases List.mem_cons.mp member with rfl | inside
  · exact starts
  · have proper := normal.proper current List.mem_cons_self
    have after := List.rel_of_pairwise_cons normal.apart inside
    omega

theorem last_le (normal : IsNormal (current :: ranges)) (first : range.first = current.first)
    (holds : ∀ n, range.covers n → Hold (current :: ranges) n) : range.last ≤ current.last := by
  by_contra beyond
  have proper := normal.proper current List.mem_cons_self
  exact normal.not_hold_after List.mem_cons_self (holds (current.last + 1) ⟨by omega, by omega⟩)

/-- Ranges in this form are determined by the numbers that they cover. -/
theorem eq_of_hold (normal : IsNormal mine) (normal' : IsNormal theirs)
    (same : ∀ n, Hold mine n ↔ Hold theirs n) : mine = theirs := by
  induction mine generalizing theirs with
  | nil =>
    cases theirs with
    | nil => rfl
    | cons other others =>
      have held : Hold (other :: others) other.first :=
        hold_first (normal'.proper other List.mem_cons_self) List.mem_cons_self
      exact absurd ((same _).mpr held) not_hold_nil
  | cons own rest ih =>
    have ownHeld : ∀ n, own.covers n → Hold (own :: rest) n := fun n covers => hold_cons.mpr (.inl covers)
    have ownFirst := hold_first (normal.proper own List.mem_cons_self) (List.mem_cons_self (l := rest))
    cases theirs with
    | nil => exact absurd ((same _).mp ownFirst) not_hold_nil
    | cons other others =>
      have otherHeld : ∀ n, other.covers n → Hold (other :: others) n := fun n covers =>
        hold_cons.mpr (.inl covers)
      have otherFirst := hold_first (normal'.proper other List.mem_cons_self)
        (List.mem_cons_self (l := others))
      have first : own.first = other.first := Nat.le_antisymm
        (normal.first_le ((same _).mpr otherFirst)) (normal'.first_le ((same _).mp ownFirst))
      have last : own.last = other.last := Nat.le_antisymm
        (normal'.last_le first fun n covers => (same n).mp (ownHeld n covers))
        (normal.last_le first.symm fun n covers => (same n).mpr (otherHeld n covers))
      have equal : own = other := by
        cases own
        cases other
        simp_all
      subst equal
      have tails : rest = others := ih normal.of_cons normal'.of_cons fun n => by
        rw [normal.hold_tail_iff, normal'.hold_tail_iff, same]
      rw [tails]

end IsNormal

theorem normalize_eq_of_hold (proper : ∀ range ∈ ranges, range.first ≤ range.last)
    (normal : IsNormal mine) (same : ∀ n, Hold ranges n ↔ Hold mine n) : normalize ranges = mine :=
  (isNormal_normalize proper).eq_of_hold normal fun n => hold_normalize.trans (same n)

end TabletDrain.Interval
