import TabletDrain.Proofs.Pass.Snapshots

/-! What the writes of a pass do to the stored pods: each is over a pod listed in view and changes
its annotations alone, and it is finished afterwards only where it was so before or had its turn. -/
namespace TabletDrain.Pass

namespace Context

variable {context : Context}

def HasTurn (context : Context) (listed : Pod) : Prop :=
  ∃ primary key, MayFinish context.configuration context.shard context.cluster primary key listed

/-- What a pass may make of a stored pod. -/
def Follows (context : Context) (before after : Pod) : Prop :=
  Pod.Reannotated before after ∧
    (after.markers.finished = true → before.markers.finished = true ∨ context.HasTurn before)

theorem Follows.refl (context : Context) (pod : Pod) : context.Follows pod pod :=
  ⟨.refl pod, .inl⟩

private theorem isActing_of_next {primary : Alias} {key : String} {state : DrainState}
    (quiet : isAborting context.view = false)
    (stepped : (context.next primary).get? key = some state) : context.isActing = true := by
  obtain ⟨old, found, _⟩ := Drain.exists_of_get?_advance stepped
  exact isActing_of_requested found quiet

theorem follows_of_mem_updates {update : Update} (member : update ∈ context.updates) :
    context.Follows update.listed update.sent := by
  refine ⟨(amended_of_mem_updates member).tended.reannotated, fun finished => ?_⟩
  obtain ⟨primary, served, ⟨_, _, _, cleared⟩ | ⟨quiet, ⟨key, state⟩, inside, advanced⟩⟩ :=
    of_mem_updates member
  · obtain ⟨_, _, _, moves⟩ := of_clearance? cleared
    rw [Pod.markers_of_setDrainState? moves] at finished
    cases finished
  · obtain ⟨allowed, live, found, moves⟩ := advance?_eq_some_iff.mp advanced
    have stepped := Keyed.mem_entries_iff.mp inside
    rw [Pod.markers_of_setDrainState? moves] at finished
    rcases Drain.state_of_get?_advance stepped with same | same
    · subst same
      exact .inl finished
    · subst same
      rcases Drain.get?_advance_eq_finished_iff.mp stepped with leads | promoted
      · obtain ⟨pod, again, _, isFinished⟩ := Drain.get?_requests.mp leads.1
        cases Option.some.inj (again.symm.trans found)
        exact .inl ((Markers.state_eq_finished_iff _).mp isFinished).2
      · have secondary : key ≠ primary.text := fun same => allowed ⟨rfl, same⟩
        exact .inr ⟨primary, key, mayFinish_of_promoted served (isActing_of_next quiet stepped) live
          found secondary promoted⟩

end Context

/-- Whatever becomes of a run, the stored pods follow those it began with, after each of its writes
and in the end. -/
theorem run_follows {replies : Replies} {cluster : Cluster} (faithful : Faithful replies)
    (distinct : (cluster.pods.map Pod.shownName).Nodup) (configuration : Configuration)
    (stamp : String) (shard : Shard) :
    let report := run configuration replies stamp shard cluster
    let follows := List.Forall₂ (contextOf configuration replies stamp shard cluster).Follows
    (∀ stored ∈ report.history, follows cluster.pods stored) ∧ follows cluster.pods report.pods := by
  intro report follows
  let context := contextOf configuration replies stamp shard cluster
  obtain ⟨writes, part, snapshots, pods⟩ := snapshots_of_run configuration replies stamp shard cluster
  have each (first : List (String × Pod)) (isPrefix : first <+: writes) :
      follows cluster.pods (storeAll cluster.pods first) := by
    obtain ⟨done, partDone, written⟩ := List.prefix_filterMap_iff.mp (isPrefix.trans part)
    have stored : storeAll cluster.pods first = cluster.pods.map (context.landing done) := by
      rw [written]
      exact context.storeAll_eq_landing distinct partDone faithful.keepsNames
    rw [stored]
    refine List.forall₂_map_right_iff.mpr (List.forall₂_same.mpr fun pod member => ?_)
    rcases context.landing_cases distinct faithful partDone member with
      same | ⟨update, inside, same, succeeds⟩
    · rw [same]
      exact Context.Follows.refl context pod
    · subst same
      rw [Context.landing_of_mem distinct partDone inside succeeds]
      exact Context.follows_of_mem_updates (partDone.subset inside)
  constructor
  · intro stored member
    have inside : stored ∈ cluster.pods :: report.history := List.mem_cons_of_mem _ member
    rw [snapshots] at inside
    obtain ⟨first, isPrefix, same⟩ := List.mem_map.mp inside
    exact same ▸ each first ((List.mem_inits _ _).mp isPrefix)
  · rw [pods]
    exact each writes (List.prefix_refl _)

end TabletDrain.Pass
