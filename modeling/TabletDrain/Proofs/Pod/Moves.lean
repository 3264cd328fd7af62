import TabletDrain.Proofs.Keyed
import TabletDrain.Proofs.Pod.Tending

/-! Any number of calls that set a drain state, one after the other. What they leave of the controller's
answers depends on the calls since the last one that took the answers back, and on what the pod had at
first only where none did. A call says that it changed the pod exactly if it did, and so never twice in
a row. -/
namespace TabletDrain

/-- A call for a state that the controller may set, with the time that it is made at. -/
structure Move where
  state : DrainState
  stamp : String
  controlled : state ≠ .draining

namespace Move

/-- What the call makes of a pod. -/
def apply (move : Move) (pod : Pod) : Pod :=
  ((pod.setDrainState? move.state move.stamp).map Prod.fst).getD pod

def NeverClear (moves : List Move) : Prop := ∀ move ∈ moves, move.state ≠ .notDraining

/-- A call for one of the states has no call after it that takes the answers back. -/
def Stands (states : DrainState → Prop) (moves : List Move) : Prop :=
  ∃ before move later, moves = before ++ move :: later ∧ states move.state ∧ NeverClear later

variable {move : Move} {rest : List Move} {states : DrainState → Prop}

theorem neverClear_cons : NeverClear (move :: rest) ↔ move.state ≠ .notDraining ∧ NeverClear rest :=
  List.forall_mem_cons

theorem not_stands_nil : ¬Stands states [] := by
  rintro ⟨before, move, later, split, _⟩
  cases before <;> cases split

theorem stands_cons :
    Stands states (move :: rest) ↔ states move.state ∧ NeverClear rest ∨ Stands states rest := by
  constructor
  · rintro ⟨before, other, later, split, found, quiet⟩
    cases before with
    | nil =>
      cases split
      exact .inl ⟨found, quiet⟩
    | cons first before =>
      cases split
      exact .inr ⟨before, other, later, rfl, found, quiet⟩
  · rintro (⟨found, quiet⟩ | ⟨before, other, later, rfl, found, quiet⟩)
    · exact ⟨[], move, rest, rfl, found, quiet⟩
    · exact ⟨move :: before, other, later, rfl, found, quiet⟩

end Move

theorem Markers.towards_towards (markers : Markers) (state : DrainState) :
    (markers.towards state).towards state = markers.towards state := by
  cases state <;> rfl

namespace Pod

def afterMoves (pod : Pod) (moves : List Move) : Pod := moves.foldl (fun pod move => move.apply pod) pod

theorem drainState_eq_ok {pod : Pod}
    (sound : pod.markers.finished = true → pod.markers.acknowledged = true) :
    pod.drainState = .ok pod.markers.state := by
  unfold drainState Markers.state
  revert sound
  rcases pod.markers with ⟨started, acknowledged, finished⟩
  cases started <;> cases acknowledged <;> cases finished <;> simp

section OneCall

variable (pod : Pod) (move : Move)

theorem setDrainState?_eq_apply :
    pod.setDrainState? move.state move.stamp =
      some (move.apply pod, decide (pod.markers.towards move.state ≠ pod.markers)) := by
  obtain ⟨updated, set⟩ := exists_setDrainState? pod move.stamp move.controlled
  rw [Move.apply, set]
  rfl

theorem markers_apply : (move.apply pod).markers = pod.markers.towards move.state :=
  markers_of_setDrainState? (setDrainState?_eq_apply pod move)

theorem reannotated_apply : Reannotated pod (move.apply pod) :=
  reannotated_of_setDrainState? (setDrainState?_eq_apply pod move)

variable {pod}

theorem unmark_of_absent {key : String} (absent : pod.annotation? key = none) : pod.unmark key = pod := by
  unfold annotation? at absent
  unfold unmark
  cases held : pod.annotations with
  | none => rw [Option.map_none, ← held]
  | some annotations =>
    rw [held, Option.bind_some] at absent
    have same : annotations.erase key = annotations := by
      refine Keyed.ext_get? fun other => ?_
      rw [Keyed.get?_erase]
      split
      · rename_i equal
        exact (equal ▸ absent).symm
      · rfl
    rw [Option.map_some, same, ← held]

theorem mark_of_present {key stamp : String} (present : (pod.annotation? key).isSome = true) :
    pod.mark key stamp = pod := if_pos present

/-- Where the markers are as they should be, there is nothing to add and nothing to take back. -/
theorem apply_eq_self (settled : pod.markers.towards move.state = pod.markers) : move.apply pod = pod := by
  obtain ⟨state, stamp, controlled⟩ := move
  have acknowledged := congrArg Markers.acknowledged settled
  have finished := congrArg Markers.finished settled
  cases state with
  | draining => exact absurd rfl controlled
  | notDraining =>
    have absent {key : String} (unmarked : false = (pod.annotation? key).isSome) :
        pod.annotation? key = none := Option.isNone_iff_eq_none.mp (Option.isSome_eq_false_iff.mp unmarked.symm)
    change (pod.unmark finishedMarker).unmark acknowledgedMarker = pod
    rw [unmark_of_absent (absent finished), unmark_of_absent (absent acknowledged)]
  | acknowledged => exact mark_of_present acknowledged.symm
  | finished =>
    change (pod.mark acknowledgedMarker stamp).mark finishedMarker stamp = pod
    rw [mark_of_present acknowledged.symm, mark_of_present finished.symm]

theorem apply_eq_self_iff : move.apply pod = pod ↔ pod.markers.towards move.state = pod.markers := by
  refine ⟨fun same => ?_, apply_eq_self move⟩
  rw [← markers_apply, same]

/-- A call tells whether it changes the pod, and made again it changes nothing. -/
theorem apply_tells_change (pod : Pod) : ∃ changed,
    pod.setDrainState? move.state move.stamp = some (move.apply pod, changed) ∧
      (changed = true ↔ move.apply pod ≠ pod) ∧
      ∀ stamp, (move.apply pod).setDrainState? move.state stamp = some (move.apply pod, false) := by
  refine ⟨_, setDrainState?_eq_apply pod move, ?_, fun stamp => ?_⟩
  · rw [decide_eq_true_iff, not_iff_not, apply_eq_self_iff]
  · let again : Move := ⟨move.state, stamp, move.controlled⟩
    have settled : (move.apply pod).markers.towards move.state = (move.apply pod).markers := by
      rw [markers_apply, Markers.towards_towards]
    have same : again.apply (move.apply pod) = move.apply pod := apply_eq_self again settled
    have set := setDrainState?_eq_apply (move.apply pod) again
    rwa [same, decide_eq_false (not_not.mpr settled)] at set

theorem annotation?_apply_of_foreign (pod : Pod) {key : String} (foreign : ¬IsAnswer key) :
    (move.apply pod).annotation? key = pod.annotation? key := by
  obtain ⟨state, stamp, controlled⟩ := move
  have acknowledged : acknowledgedMarker ≠ key := fun same => foreign (.inl same.symm)
  have finished : finishedMarker ≠ key := fun same => foreign (.inr same.symm)
  cases state with
  | draining => exact absurd rfl controlled
  | notDraining =>
    change ((pod.unmark finishedMarker).unmark acknowledgedMarker).annotation? key = _
    rw [annotation?_unmark, if_neg acknowledged, annotation?_unmark, if_neg finished]
  | acknowledged =>
    change (pod.mark acknowledgedMarker stamp).annotation? key = _
    rw [annotation?_mark, if_neg acknowledged]
  | finished =>
    change ((pod.mark acknowledgedMarker stamp).mark finishedMarker stamp).annotation? key = _
    rw [annotation?_mark, if_neg finished, annotation?_mark, if_neg acknowledged]

theorem annotations_mark_ne_none (pod : Pod) (key stamp : String) : (pod.mark key stamp).annotations ≠ none := by
  intro none
  have marked := isSome_annotation?_mark pod key stamp key
  rw [annotation?, none] at marked
  simp at marked

/-- The pod gets a map of annotations only with a marker in it. -/
theorem annotations_apply_eq_none_iff (pod : Pod) :
    (move.apply pod).annotations = none ↔ pod.annotations = none ∧ move.state = .notDraining := by
  obtain ⟨state, stamp, controlled⟩ := move
  cases state with
  | draining => exact absurd rfl controlled
  | notDraining =>
    change ((pod.annotations.map _).map _) = none ↔ _
    simp
  | acknowledged => exact iff_of_false (annotations_mark_ne_none _ _ _) (fun both => nomatch both.2)
  | finished => exact iff_of_false (annotations_mark_ne_none _ _ _) (fun both => nomatch both.2)

end OneCall

section Calls

variable {moves : List Move}

/-- What is so after every call for some states, and is no more after the answers were taken back. -/
private theorem flag_afterMoves (flag : Markers → Bool) (states : DrainState → Prop)
    (step : ∀ state (markers : Markers), state ≠ .draining → (flag (markers.towards state) = true ↔
      states state ∨ state ≠ .notDraining ∧ flag markers = true))
    (answers : ∀ state, states state → state ≠ .notDraining) (pod : Pod) (moves : List Move) :
    flag (pod.afterMoves moves).markers = true ↔
      Move.Stands states moves ∨ Move.NeverClear moves ∧ flag pod.markers = true := by
  induction moves generalizing pod with
  | nil => simp [afterMoves, Move.not_stands_nil, Move.NeverClear]
  | cons move rest ih =>
    change flag ((move.apply pod).afterMoves rest).markers = true ↔ _
    have answers := answers move.state
    rw [ih, markers_apply, step _ _ move.controlled, Move.stands_cons, Move.neverClear_cons]
    tauto

theorem acknowledged_afterMoves (pod : Pod) (moves : List Move) :
    (pod.afterMoves moves).markers.acknowledged = true ↔
      Move.Stands (fun state => state = .acknowledged ∨ state = .finished) moves ∨
        Move.NeverClear moves ∧ pod.markers.acknowledged = true := by
  refine flag_afterMoves Markers.acknowledged _ (fun state markers controlled => ?_) ?_ pod moves
  · cases state <;> simp_all [Markers.towards]
  · rintro state (rfl | rfl) <;> decide

theorem finished_afterMoves (pod : Pod) (moves : List Move) :
    (pod.afterMoves moves).markers.finished = true ↔
      Move.Stands (· = .finished) moves ∨ Move.NeverClear moves ∧ pod.markers.finished = true := by
  refine flag_afterMoves Markers.finished _ (fun state markers controlled => ?_) ?_ pod moves
  · cases state <;> simp_all [Markers.towards]
  · rintro state rfl
    decide

theorem reannotated_afterMoves (pod : Pod) (moves : List Move) : Reannotated pod (pod.afterMoves moves) := by
  induction moves generalizing pod with
  | nil => exact .refl pod
  | cons move rest ih => exact (reannotated_apply pod move).trans (ih _)

theorem annotation?_afterMoves_of_foreign (pod : Pod) (moves : List Move) {key : String}
    (foreign : ¬IsAnswer key) : (pod.afterMoves moves).annotation? key = pod.annotation? key := by
  induction moves generalizing pod with
  | nil => rfl
  | cons move rest ih => exact (ih _).trans (annotation?_apply_of_foreign move pod foreign)

theorem annotations_afterMoves_eq_none_iff (pod : Pod) (moves : List Move) :
    (pod.afterMoves moves).annotations = none ↔
      pod.annotations = none ∧ ∀ move ∈ moves, move.state = .notDraining := by
  induction moves generalizing pod with
  | nil => simp [afterMoves]
  | cons move rest ih =>
    change ((move.apply pod).afterMoves rest).annotations = none ↔ _
    rw [ih, annotations_apply_eq_none_iff, List.forall_mem_cons, and_assoc]

/-- No call leaves a pod finished and not acknowledged. -/
theorem drainState_afterMoves (pod : Pod) (some : moves ≠ []) :
    (pod.afterMoves moves).drainState = .ok (pod.afterMoves moves).markers.state := by
  obtain ⟨before, move, rfl⟩ := List.eq_nil_or_concat' moves |>.resolve_left some
  rw [afterMoves, List.foldl_concat]
  refine drainState_eq_ok ?_
  rw [markers_apply]
  have controlled := move.controlled
  cases state : move.state with
  | draining => exact absurd state controlled
  | notDraining => exact id
  | acknowledged => exact fun _ => rfl
  | finished => exact fun _ => rfl

end Calls

/-- After any calls an answer is there exactly if some call for it came after the last one that took the
answers back, or if it was there at first and none took it back. All else of the pod stays. Each call
tells whether it changes the pod, which one that is made again does not. So after any call at all the
pod is in a valid state, and only a call that takes the answers back undoes a finished one. -/
theorem answers_after_calls (pod : Pod) (moves : List Move) :
    let after := pod.afterMoves moves
    (∀ move : Move, ∃ changed,
      after.setDrainState? move.state move.stamp = some (move.apply after, changed) ∧
        (changed = true ↔ move.apply after ≠ after) ∧
        ∀ stamp, (move.apply after).setDrainState? move.state stamp = some (move.apply after, false)) ∧
    (after.markers.acknowledged = true ↔
      Move.Stands (fun state => state = .acknowledged ∨ state = .finished) moves ∨
        Move.NeverClear moves ∧ pod.markers.acknowledged = true) ∧
    (after.markers.finished = true ↔
      Move.Stands (· = .finished) moves ∨ Move.NeverClear moves ∧ pod.markers.finished = true) ∧
    Reannotated pod after ∧
    (∀ key, ¬IsAnswer key → after.annotation? key = pod.annotation? key) ∧
    (after.annotations = none ↔ pod.annotations = none ∧ ∀ move ∈ moves, move.state = .notDraining) ∧
    (moves ≠ [] → after.drainState = .ok after.markers.state) ∧
    (Move.NeverClear moves → pod.markers.state = .finished → after.markers.state = .finished) := by
  intro after
  refine ⟨fun move => apply_tells_change move after, acknowledged_afterMoves pod moves,
    finished_afterMoves pod moves, reannotated_afterMoves pod moves,
    fun key => annotation?_afterMoves_of_foreign pod moves,
    annotations_afterMoves_eq_none_iff pod moves, drainState_afterMoves pod, fun quiet isFinished => ?_⟩
  rw [Markers.state_eq_finished_iff] at isFinished ⊢
  have foreign : ¬IsAnswer startedMarker := by
    simp [IsAnswer, startedMarker, acknowledgedMarker, finishedMarker]
  have started := congrArg Option.isSome (annotation?_afterMoves_of_foreign pod moves foreign)
  exact ⟨started.trans isFinished.1, (finished_afterMoves pod moves).mpr (.inr ⟨quiet, isFinished.2⟩)⟩

/-- A pod that is finished and not acknowledged, and a pod without any annotations. -/
theorem answers_after_calls_sample :
    let pod (annotations : Option (Keyed String)) : Pod :=
      ⟨some "tablet-1", none, none, none, annotations, none, none, "\x7b\x7d"⟩
    let invalid := pod (some (.ofList [(startedMarker, "0"), (finishedMarker, "0"), ("team", "a")]))
    let acknowledge : Move := ⟨.acknowledged, "1", by decide⟩
    let clear : Move := ⟨.notDraining, "2", by decide⟩
    let finish : Move := ⟨.finished, "3", by decide⟩
    let after := invalid.afterMoves [acknowledge, finish]
    ¬IsAnswer "team" ∧ after.annotation? "team" = some "a" ∧
      Move.NeverClear [acknowledge, finish] ∧ invalid.markers.state = .finished ∧
      invalid.drainState = .error ⟨.finished, "finished without acknowledged"⟩ ∧
      after.drainState = .ok .finished ∧
      ((pod none).afterMoves [finish, clear, acknowledge]).markers = ⟨false, true, false⟩ ∧
      ((pod none).afterMoves [clear]).annotations = none := by
  intro pod invalid acknowledge clear finish after
  have foreign : ¬IsAnswer "team" := by simp [IsAnswer, acknowledgedMarker, finishedMarker]
  have quiet : Move.NeverClear [acknowledge, finish] := by simp [Move.NeverClear, acknowledge, finish]
  have isFinished : invalid.markers.state = .finished := by decide +kernel
  obtain ⟨_, _, _, _, others, _, valid, lasting⟩ := answers_after_calls invalid [acknowledge, finish]
  refine ⟨foreign, ?_, quiet, isFinished, by decide +kernel, ?_, by decide +kernel, ?_⟩
  · rw [others "team" foreign]
    decide +kernel
  · rw [valid (List.cons_ne_nil _ _), lasting quiet isFinished]
  · exact (answers_after_calls (pod none) [clear]).2.2.2.2.2.1.mpr ⟨rfl, by simp [clear]⟩

end Pod

end TabletDrain
