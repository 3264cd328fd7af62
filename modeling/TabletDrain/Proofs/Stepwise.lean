import Mathlib.Data.List.Forall2

/-! One thing after another: lists that are related member by member, and steps that may fail. -/
namespace TabletDrain

variable {ε α β : Type}

section Members

variable {R : α → β → Prop} {items : List α} {values : List β}

theorem exists_of_mem_left (related : List.Forall₂ R items values) {item : α} (member : item ∈ items) :
    ∃ value ∈ values, R item value := by
  induction related with
  | nil => cases member
  | cons here _ ih =>
    rcases List.mem_cons.mp member with rfl | inside
    · exact ⟨_, List.mem_cons_self, here⟩
    · obtain ⟨value, inside', relates⟩ := ih inside
      exact ⟨value, List.mem_cons_of_mem _ inside', relates⟩

theorem exists_of_mem_right (related : List.Forall₂ R items values) {value : β}
    (member : value ∈ values) : ∃ item ∈ items, R item value :=
  exists_of_mem_left (R := flip R) related.flip member

theorem exists_forall₂_iff :
    (∃ values, List.Forall₂ R items values) ↔ ∀ item ∈ items, ∃ value, R item value := by
  constructor
  · rintro ⟨values, related⟩ item member
    obtain ⟨value, _, relates⟩ := exists_of_mem_left related member
    exact ⟨value, relates⟩
  · intro each
    induction items with
    | nil => exact ⟨[], .nil⟩
    | cons item rest ih =>
      obtain ⟨here, later⟩ := List.forall_mem_cons.mp each
      obtain ⟨value, relates⟩ := here
      obtain ⟨values, related⟩ := ih later
      exact ⟨value :: values, .cons relates related⟩

end Members

theorem exists_of_bind_eq_ok {first : Except ε α} {next : α → Except ε β} {result : β}
    (done : (first >>= next) = .ok result) : ∃ value, first = .ok value ∧ next value = .ok result := by
  cases first with
  | error failure => cases done
  | ok value => exact ⟨value, rfl, done⟩

theorem mapM_eq_ok_iff {step : α → Except ε β} {items : List α} {values : List β} :
    items.mapM step = .ok values ↔ List.Forall₂ (fun item value => step item = .ok value) items values := by
  induction items generalizing values with
  | nil =>
    simp only [List.mapM_nil, pure, Except.pure, Except.ok.injEq, List.forall₂_nil_left_iff, eq_comm]
  | cons item rest ih =>
    rw [List.mapM_cons, List.forall₂_cons_left_iff]
    constructor
    · intro done
      obtain ⟨value, first, done⟩ := exists_of_bind_eq_ok done
      obtain ⟨others, further, done⟩ := exists_of_bind_eq_ok done
      cases done
      exact ⟨value, others, first, ih.mp further, rfl⟩
    · rintro ⟨value, others, first, further, rfl⟩
      rw [first, ih.mpr further]
      rfl

theorem mapM_eq_some_iff {step : α → Option β} {items : List α} {values : List β} :
    items.mapM step = some values ↔ List.Forall₂ (fun item value => step item = some value) items values := by
  induction items generalizing values with
  | nil => simp only [List.mapM_nil, pure, Option.some.injEq, List.forall₂_nil_left_iff, eq_comm]
  | cons item rest ih =>
    rw [List.mapM_cons, List.forall₂_cons_left_iff, Option.bind_eq_bind, Option.bind_eq_some_iff]
    constructor
    · rintro ⟨value, first, done⟩
      obtain ⟨others, further, done⟩ := Option.bind_eq_some_iff.mp done
      cases done
      exact ⟨value, others, first, ih.mp further, rfl⟩
    · rintro ⟨value, others, first, further, rfl⟩
      refine ⟨value, first, ?_⟩
      rw [ih.mpr further]
      rfl

end TabletDrain
