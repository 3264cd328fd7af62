import TabletDrain.Proofs.Drain.Settling
import TabletDrain.Proofs.Pass.Freeze
import TabletDrain.Proofs.Pass.Refinement

/-! A pass whose updates all succeed makes one round of the markers of the pods in view, whether it
clears answers or moves requests along. -/
namespace TabletDrain

namespace ShardSpec

def marks (spec : ShardSpec) (pods : List Pod) : Keyed Markers := (spec.view pods).map Pod.markers

variable {spec : ShardSpec} {pods : List Pod} {key : String} {pod : Pod} {markers : Markers}

theorem get?_marks (distinct : spec.Distinct pods) : (spec.marks pods).get? key = some markers ↔
    ∃ pod ∈ pods, spec.inView pod = true ∧ pod.key? = some key ∧ pod.markers = markers := by
  rw [marks, Keyed.get?_map, Option.map_eq_some_iff]
  simp only [get?_view distinct, and_assoc]

end ShardSpec

namespace Pass.Context

variable {context : Context} {primary : Alias} {key : String} {pod : Pod}

theorem asked_marks (context : Context) :
    Drain.asked (context.shard.spec.marks context.cluster.pods) = Drain.requests context.view :=
  Drain.asked_markers _

theorem anyAborted_marks (context : Context) :
    Drain.anyAborted (context.shard.spec.marks context.cluster.pods) = isAborting context.view := by
  rw [Drain.anyAborted, isAborting, ShardSpec.marks, Keyed.values, Keyed.values, Keyed.map,
    List.map_map, List.any_map, List.any_map]
  rfl

/-- The aim of a pass that moves requests along is that of a round. -/
theorem aim_eq_answered (context : Context) (primary : Alias) (key : String) (pod : Pod) :
    context.aim primary key pod = pod.markers.answered
      ((Drain.advance (Drain.asked (context.shard.spec.marks context.cluster.pods))
        (some primary.text)).get? key) (key = primary.text) := by
  rw [asked_marks, aim, next]
  rcases (Drain.advance (Drain.requests context.view) (some primary.text)).get? key with
    _ | _ | _ | _ | _
  · rfl
  · rfl
  · rfl
  · rfl
  · by_cases isPrimary : key = primary.text <;> simp [Markers.answered, isPrimary]

section Admitted

variable (admitted : context.Admitted primary)

include admitted

theorem markers_landing (distinct : context.shard.spec.Distinct context.cluster.pods)
    (updated : ∀ update ∈ context.updates, (context.reply update).Succeeds)
    (found : context.view.get? key = some pod) :
    (context.landing context.updates pod).markers =
      if isAborting context.view then pod.markers.cleared else context.aim primary key pod := by
  have whole := List.prefix_refl context.updates
  obtain ⟨member, inView, keyed⟩ := (ShardSpec.get?_view distinct).mp found
  by_cases aborting : isAborting context.view = true
  · rw [if_pos aborting, Markers.cleared]
    by_cases aborted : pod.markers.isAborted = true
    · obtain ⟨sent, inside⟩ := mem_updates_of_aborted aborting admitted found aborted
      have cleared := (cleared_of_mem_updates aborting inside).2
      have landed := landing_of_mem distinct.names whole inside (updated _ inside)
      dsimp only at cleared landed
      rw [if_pos aborted, landed, ← cleared.tended.started, Pod.markers, cleared.gone _ (.inl rfl),
        cleared.gone _ (.inr rfl)]
      rfl
    · rw [if_neg aborted, landing_of_not_mem distinct.names whole member fun update inside same => ?_]
      have withdrawn := (cleared_of_mem_updates aborting inside).2.withdrawn
      exact absurd (same ▸ withdrawn) aborted
  · have quiet := Bool.eq_false_iff.mpr aborting
    rw [if_neg aborting]
    by_cases due : context.aim primary key pod = pod.markers
    · rw [due, landing_of_not_mem distinct.names whole member fun update inside same => ?_]
      obtain ⟨other, again, aims, _⟩ := aim_of_mem_updates admitted quiet inside
      rw [same] at again aims
      cases key_unique distinct.names found again rfl
      exact absurd due aims
    · obtain ⟨sent, inside, reached⟩ := mem_updates_of_aim admitted quiet found due
      have landed := landing_of_mem distinct.names whole inside (updated _ inside)
      dsimp only at landed
      rw [landed, reached]

/-- A pass whose round changes nothing sends nothing. -/
theorem updates_of_rests
    (rests : Drain.Rests primary.text (context.shard.spec.marks context.cluster.pods)) :
    context.updates = [] := by
  have listed {key : String} {pod : Pod} (found : context.view.get? key = some pod) :
      (context.shard.spec.marks context.cluster.pods).get? key = some pod.markers := by
    rw [ShardSpec.marks, Keyed.get?_map]
    exact congrArg (Option.map Pod.markers) found
  have quiet : isAborting context.view = false := by
    rw [← anyAborted_marks]
    exact Drain.anyAborted_eq_false_iff.mpr fun _ _ => rests.unaborted
  apply List.eq_nil_iff_forall_not_mem.mpr
  intro update inside
  obtain ⟨key, found, aims, _⟩ := aim_of_mem_updates admitted quiet inside
  rw [aim_eq_answered, rests.answered (listed found)] at aims
  exact aims rfl

end Admitted

end Pass.Context

end TabletDrain
