import TabletDrain.Proofs.Keyed
import TabletDrain.Proofs.Pod.Tending

/-! Pods without the times in their answers. What a drain looks at is there all the same, and what it
makes of a pod differs with the time in nothing else. -/
namespace TabletDrain

namespace Pod

instance (key : String) : Decidable (IsAnswer key) := inferInstanceAs (Decidable (_ ∨ _))

def unstamped (pod : Pod) : Pod :=
  { pod with
    annotations := pod.annotations.map fun annotations =>
      annotations.mapKeyed fun key value => if IsAnswer key then "" else value }

variable {key : String} {state : DrainState} (pod : Pod) (stamp : String)

theorem reannotated_unstamped : Reannotated pod pod.unstamped := rfl

theorem annotation?_unstamped (key : String) :
    pod.unstamped.annotation? key =
      (pod.annotation? key).map fun value => if IsAnswer key then "" else value := by
  unfold annotation? unstamped
  cases pod.annotations with
  | none => rfl
  | some annotations => exact Keyed.get?_mapKeyed _ _ _

theorem markers_unstamped : pod.unstamped.markers = pod.markers := by
  simp only [markers, annotation?_unstamped, Option.isSome_map]

theorem shownName_of_unstamped_eq {pod other : Pod} (alike : other.unstamped = pod.unstamped) :
    other.shownName = pod.shownName := by
  have named := congrArg shownName alike
  exact named

theorem unstamped_mark (answer : IsAnswer key) :
    (pod.mark key stamp).unstamped = pod.unstamped.mark key "" := by
  unfold mark
  rw [annotation?_unstamped, Option.isSome_map]
  split
  · rfl
  · unfold annotate unstamped
    dsimp only
    rw [Option.map_some, Keyed.mapKeyed_insert, if_pos answer]
    cases pod.annotations <;> rfl

theorem unstamped_unmark : (pod.unmark key).unstamped = pod.unstamped.unmark key := by
  unfold unmark unstamped
  cases pod.annotations with
  | none => rfl
  | some annotations => simp [Keyed.mapKeyed_erase]

/-- Moving towards a state at any time comes to the same without the times. -/
theorem map_setDrainState? (state : DrainState) :
    (pod.setDrainState? state stamp).map (Prod.map unstamped id) =
      pod.unstamped.setDrainState? state "" := by
  unfold setDrainState?
  rw [markers_unstamped]
  cases state with
  | notDraining => simp [unstamped_unmark]
  | draining => rfl
  | acknowledged => simp [unstamped_mark _ _ (.inl rfl)]
  | finished => simp [unstamped_mark _ _ (.inl rfl), unstamped_mark _ _ (.inr rfl)]

/-- What becomes of a pod at two times. -/
theorem setDrainState?_cases (pod : Pod) (state : DrainState) (stamp stamp' : String) :
    (pod.setDrainState? state stamp = none ∧ pod.setDrainState? state stamp' = none) ∨
      ∃ updated updated' changed, pod.setDrainState? state stamp = some (updated, changed) ∧
        pod.setDrainState? state stamp' = some (updated', changed) ∧
        updated'.unstamped = updated.unstamped := by
  have same := (pod.map_setDrainState? stamp state).trans (pod.map_setDrainState? stamp' state).symm
  cases first : pod.setDrainState? state stamp with
  | none =>
    rw [first, Option.map_none, eq_comm, Option.map_eq_none_iff] at same
    exact .inl ⟨rfl, same⟩
  | some result =>
    rw [first, Option.map_some, eq_comm, Option.map_eq_some_iff] at same
    obtain ⟨⟨updated', changed'⟩, second, alike⟩ := same
    obtain ⟨pods, changes⟩ := Prod.mk.inj alike
    exact .inr ⟨_, _, _, rfl, second.trans (congrArg _ (congrArg _ changes)), pods⟩

end Pod

end TabletDrain
