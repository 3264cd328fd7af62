import TabletDrain.Proofs.Pod.Markers

/-! What the controller makes of a pod: it adds its answers to one with a request, and takes back what
is left of them on one without. All else stays, and a pod with a request keeps what it has. -/
namespace TabletDrain.Pod

/-- The annotation is one of the two that the controller answers with. -/
def IsAnswer (key : String) : Prop := key = acknowledgedMarker ∨ key = finishedMarker

/-- What may become of a pod in the hands of the controller. -/
structure Tended (before after : Pod) : Prop where
  reannotated : Reannotated before after
  foreign : ∀ key, ¬IsAnswer key → after.annotation? key = before.annotation? key
  lasting : before.markers.started = true →
    ∀ key value, before.annotation? key = some value → after.annotation? key = some value

namespace Tended

variable {before after later : Pod}

theorem refl (pod : Pod) : Tended pod pod := ⟨.refl pod, fun _ _ => rfl, fun _ _ _ found => found⟩

theorem started (tended : Tended before after) : after.markers.started = before.markers.started := by
  have same := tended.foreign startedMarker (by simp [IsAnswer, startedMarker, acknowledgedMarker,
    finishedMarker])
  exact congrArg Option.isSome same

theorem trans (first : Tended before after) (second : Tended after later) : Tended before later where
  reannotated := first.reannotated.trans second.reannotated
  foreign key foreign := (second.foreign key foreign).trans (first.foreign key foreign)
  lasting started key value found :=
    second.lasting (first.started.trans started) key value (first.lasting started key value found)

end Tended

theorem annotation?_mark (pod : Pod) (key stamp k : String) :
    (pod.mark key stamp).annotation? k =
      if key = k then some ((pod.annotation? key).getD stamp) else pod.annotation? k := by
  unfold mark
  cases present : pod.annotation? key with
  | none => simp [annotation?_annotate]
  | some value =>
    by_cases same : key = k
    · subst same
      simp [present]
    · simp [same]

variable {pod sent : Pod} {key stamp : String}

theorem tended_mark (answer : IsAnswer key) (pod : Pod) (stamp : String) :
    Tended pod (pod.mark key stamp) where
  reannotated := reannotated_mark pod key stamp
  foreign other foreign := by
    have differ : key ≠ other := fun same => foreign (same ▸ answer)
    rw [annotation?_mark, if_neg differ]
  lasting _ other value found := by
    rw [annotation?_mark]
    split
    · rename_i same
      rw [same, found, Option.getD_some]
    · exact found

theorem tended_unmark (answer : IsAnswer key) (idle : pod.markers.started = false) :
    Tended pod (pod.unmark key) where
  reannotated := reannotated_unmark pod key
  foreign other foreign := by
    have differ : key ≠ other := fun same => foreign (same ▸ answer)
    rw [annotation?_unmark, if_neg differ]
  lasting started := absurd (idle.symm.trans started) (by decide)

/-- A pod with a request is sent with a new answer; the value of each new one is the time. -/
structure Answered (stamp : String) (listed sent : Pod) : Prop where
  started : listed.markers.started = true
  tended : Tended listed sent
  news : ∃ key, listed.annotation? key = none ∧ sent.annotation? key = some stamp
  stamped : ∀ key value, sent.annotation? key = some value →
    listed.annotation? key = some value ∨ IsAnswer key ∧ value = stamp

/-- A pod without a request is sent without what was left of the answers to one. -/
structure Cleared (listed sent : Pod) : Prop where
  withdrawn : listed.markers.isAborted = true
  tended : Tended listed sent
  gone : ∀ key, IsAnswer key → sent.annotation? key = none

/-- How a pod that is sent differs from the pod as it is listed. -/
def Amended (stamp : String) (listed sent : Pod) : Prop :=
  Answered stamp listed sent ∨ Cleared listed sent

theorem Amended.tended (amended : Amended stamp pod sent) : Tended pod sent :=
  amended.elim Answered.tended Cleared.tended

private theorem stamped_mark {start : Pod} (answer : IsAnswer key)
    (stamped : ∀ other value, pod.annotation? other = some value →
      start.annotation? other = some value ∨ IsAnswer other ∧ value = stamp) :
    ∀ other value, (pod.mark key stamp).annotation? other = some value →
      start.annotation? other = some value ∨ IsAnswer other ∧ value = stamp := by
  intro other value found
  rw [annotation?_mark] at found
  by_cases same : key = other
  · subst same
    cases present : pod.annotation? key with
    | none =>
      rw [present, if_pos rfl] at found
      exact .inr ⟨answer, (Option.some.inj found).symm⟩
    | some old =>
      rw [present, if_pos rfl] at found
      exact stamped key value (present.trans found)
  · rw [if_neg same] at found
    exact stamped other value found

private theorem new_of_unmarked (stamp : String)
    (absent : (pod.annotation? key).isSome = false) :
    pod.annotation? key = none ∧ (pod.mark key stamp).annotation? key = some stamp := by
  have absent : pod.annotation? key = none := Option.not_isSome_iff_eq_none.mp (by simp [absent])
  exact ⟨absent, by rw [annotation?_mark, if_pos rfl, absent, Option.getD_none]⟩

theorem answered_of_acknowledge (started : pod.markers.started = true)
    (set : pod.setDrainState? .acknowledged stamp = some (sent, true)) : Answered stamp pod sent := by
  simp only [setDrainState?, Option.some.injEq, Prod.mk.injEq, Bool.not_eq_true'] at set
  obtain ⟨marked, fresh⟩ := set
  subst marked
  exact ⟨started, tended_mark (.inl rfl) pod stamp, ⟨_, new_of_unmarked stamp fresh⟩,
    stamped_mark (.inl rfl) fun _ _ found => .inl found⟩

theorem answered_of_finish (started : pod.markers.started = true)
    (set : pod.setDrainState? .finished stamp = some (sent, true)) : Answered stamp pod sent := by
  simp only [setDrainState?, Option.some.injEq, Prod.mk.injEq, Bool.or_eq_true,
    Bool.not_eq_true'] at set
  obtain ⟨marked, fresh⟩ := set
  subst marked
  have second := tended_mark (.inr rfl) (pod.mark acknowledgedMarker stamp) stamp
  have apart : acknowledgedMarker ≠ finishedMarker := by decide
  refine ⟨started, (tended_mark (.inl rfl) pod stamp).trans second, ?_,
    stamped_mark (.inr rfl) (stamped_mark (.inl rfl) fun _ _ found => .inl found)⟩
  rcases fresh with unacknowledged | unfinished
  · obtain ⟨absent, added⟩ := new_of_unmarked stamp unacknowledged
    refine ⟨acknowledgedMarker, absent, ?_⟩
    rw [annotation?_mark, if_neg apart.symm, added]
  · have kept : (pod.mark acknowledgedMarker stamp).annotation? finishedMarker =
        pod.annotation? finishedMarker := by
      rw [annotation?_mark, if_neg apart]
    change (pod.annotation? finishedMarker).isSome = false at unfinished
    rw [← kept] at unfinished
    obtain ⟨absent, added⟩ := new_of_unmarked stamp unfinished
    exact ⟨finishedMarker, kept ▸ absent, added⟩

theorem cleared_of_clear (idle : pod.markers.started = false)
    (set : pod.setDrainState? .notDraining stamp = some (sent, true)) : Cleared pod sent := by
  simp only [setDrainState?, Option.some.injEq, Prod.mk.injEq, Bool.or_eq_true] at set
  obtain ⟨cleared, left⟩ := set
  subst cleared
  have first : Tended pod (pod.unmark finishedMarker) := tended_unmark (.inr rfl) idle
  refine ⟨?_, first.trans (tended_unmark (.inl rfl) (first.started.trans idle)), ?_⟩
  · rw [Markers.isAborted, idle]
    simpa using left.symm
  · intro key answer
    rw [annotation?_unmark, annotation?_unmark]
    rcases answer with same | same <;> simp [same]

end TabletDrain.Pod
