import TabletDrain.Pod.Markers

/-! What setting a drain state does to a pod: the annotations alone change, and the markers become
those of the state, except that `finished` is only ever taken away together with `acknowledged`. -/
namespace TabletDrain

namespace Markers

/-- The state that a pod counts as being in; one that is finished counts as finished, acknowledged
or not. -/
def state (markers : Markers) : DrainState :=
  if markers.started = false then .notDraining
  else if markers.finished then .finished
  else if markers.acknowledged then .acknowledged
  else .draining

def towards (markers : Markers) : DrainState → Markers
  | .notDraining => ⟨markers.started, false, false⟩
  | .draining => markers
  | .acknowledged => ⟨markers.started, true, markers.finished⟩
  | .finished => ⟨markers.started, true, true⟩

variable (markers : Markers)

theorem state_eq_notDraining_iff : markers.state = .notDraining ↔ markers.started = false := by
  obtain ⟨started, acknowledged, finished⟩ := markers
  cases started <;> cases acknowledged <;> cases finished <;> simp [state]

theorem state_eq_draining_iff : markers.state = .draining ↔
    markers.started = true ∧ markers.acknowledged = false ∧ markers.finished = false := by
  obtain ⟨started, acknowledged, finished⟩ := markers
  cases started <;> cases acknowledged <;> cases finished <;> simp [state]

theorem state_eq_acknowledged_iff : markers.state = .acknowledged ↔
    markers.started = true ∧ markers.acknowledged = true ∧ markers.finished = false := by
  obtain ⟨started, acknowledged, finished⟩ := markers
  cases started <;> cases acknowledged <;> cases finished <;> simp [state]

theorem state_eq_finished_iff : markers.state = .finished ↔
    markers.started = true ∧ markers.finished = true := by
  obtain ⟨started, acknowledged, finished⟩ := markers
  cases started <;> cases acknowledged <;> cases finished <;> simp [state]

variable {markers} in
theorem unanswered_of_idle (settled : markers.isAborted = false) (idle : markers.started = false) :
    markers.acknowledged = false ∧ markers.finished = false := by
  simpa [isAborted, idle] using settled

end Markers

namespace Pod

/-- The pods differ in nothing but their annotations. -/
def Reannotated (before after : Pod) : Prop := after = { before with annotations := after.annotations }

namespace Reannotated

variable {before after later : Pod}

theorem refl (pod : Pod) : Reannotated pod pod := rfl

theorem trans (first : Reannotated before after) (second : Reannotated after later) :
    Reannotated before later := by
  unfold Reannotated at *
  rw [second, first]

theorem shownName (same : Reannotated before after) : after.shownName = before.shownName := by
  rw [same]
  rfl

theorem label? (same : Reannotated before after) : after.label? = before.label? := by
  rw [same]
  rfl

theorem carries (same : Reannotated before after) (labels : Keyed String) :
    after.carries labels = before.carries labels := by
  rw [same]
  rfl

theorem tablet? (same : Reannotated before after) : after.tablet? = before.tablet? := by
  rw [same]
  rfl

theorem isReady (same : Reannotated before after) : after.isReady = before.isReady := by
  rw [same]
  rfl

theorem image? (same : Reannotated before after) (container : String) :
    after.image? container = before.image? container := by
  rw [same]
  rfl

end Reannotated

theorem annotation?_annotate (pod : Pod) (key value k : String) :
    (pod.annotate key value).annotation? k = if key = k then some value else pod.annotation? k := by
  simp only [annotation?, annotate, Option.bind_some, Keyed.get?_insert]
  cases pod.annotations <;> rfl

theorem annotation?_unmark (pod : Pod) (key k : String) :
    (pod.unmark key).annotation? k = if key = k then none else pod.annotation? k := by
  unfold annotation? unmark
  cases pod.annotations with
  | none => simp
  | some annotations => simp [Keyed.get?_erase]

theorem isSome_annotation?_mark (pod : Pod) (key stamp k : String) :
    ((pod.mark key stamp).annotation? k).isSome = (decide (key = k) || (pod.annotation? k).isSome) := by
  unfold mark
  by_cases present : (pod.annotation? key).isSome
  · by_cases same : key = k
    · subst same
      simp [present]
    · simp [present, same]
  · rw [if_neg present, annotation?_annotate]
    by_cases same : key = k <;> simp [same]

theorem reannotated_annotate (pod : Pod) (key value : String) :
    Reannotated pod (pod.annotate key value) := rfl

theorem reannotated_mark (pod : Pod) (key stamp : String) :
    Reannotated pod (pod.mark key stamp) := by
  unfold mark
  split
  · exact .refl pod
  · exact reannotated_annotate pod key stamp

theorem reannotated_unmark (pod : Pod) (key : String) : Reannotated pod (pod.unmark key) := rfl

variable {pod updated : Pod} {state : DrainState} {stamp : String} {changed : Bool}

theorem reannotated_of_setDrainState?
    (set : pod.setDrainState? state stamp = some (updated, changed)) : Reannotated pod updated := by
  cases state with
  | notDraining =>
    cases set
    exact (reannotated_unmark pod _).trans (reannotated_unmark _ _)
  | draining => cases set
  | acknowledged =>
    cases set
    exact reannotated_mark pod _ _
  | finished =>
    cases set
    exact (reannotated_mark pod _ _).trans (reannotated_mark _ _ _)

theorem markers_of_setDrainState?
    (set : pod.setDrainState? state stamp = some (updated, changed)) :
    updated.markers = pod.markers.towards state := by
  cases state with
  | notDraining =>
    cases set
    simp [markers, Markers.towards, annotation?_unmark, startedMarker, acknowledgedMarker,
      finishedMarker]
  | draining => cases set
  | acknowledged =>
    cases set
    simp [markers, Markers.towards, isSome_annotation?_mark, startedMarker, acknowledgedMarker,
      finishedMarker]
  | finished =>
    cases set
    simp [markers, Markers.towards, isSome_annotation?_mark, startedMarker, acknowledgedMarker,
      finishedMarker]

/-- A move counts as a change exactly when it changes the markers. -/
theorem changed_of_setDrainState?
    (set : pod.setDrainState? state stamp = some (updated, changed)) :
    changed = decide (pod.markers.towards state ≠ pod.markers) := by
  unfold setDrainState? at set
  generalize pod.markers = markers at set
  obtain ⟨started, acknowledged, finished⟩ := markers
  cases state with
  | notDraining =>
    cases set
    cases acknowledged <;> cases finished <;> simp [Markers.towards]
  | draining => cases set
  | acknowledged =>
    cases set
    cases acknowledged <;> simp [Markers.towards]
  | finished =>
    cases set
    cases acknowledged <;> cases finished <;> simp [Markers.towards]

theorem exists_setDrainState? (pod : Pod) (stamp : String) (controlled : state ≠ .draining) :
    ∃ updated, pod.setDrainState? state stamp =
      some (updated, decide (pod.markers.towards state ≠ pod.markers)) := by
  cases set : pod.setDrainState? state stamp with
  | none =>
    cases state with
    | draining => exact absurd rfl controlled
    | notDraining => cases set
    | acknowledged => cases set
    | finished => cases set
  | some result =>
    obtain ⟨updated, changed⟩ := result
    rw [changed_of_setDrainState? set]
    exact ⟨updated, rfl⟩

theorem drainState_ok_or_error (pod : Pod) :
    pod.drainState = .ok pod.markers.state ∨
      ∃ reason, pod.drainState = .error ⟨pod.markers.state, reason⟩ := by
  unfold drainState Markers.state
  rcases pod.markers with ⟨started, acknowledged, finished⟩
  cases started <;> cases acknowledged <;> cases finished <;> simp

end Pod

end TabletDrain
