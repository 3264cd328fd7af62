import Mathlib.Data.List.Infix
import TabletDrain.Proofs.Pass.Updates

/-! The stored pods at the start of a pass and after each of its writes. A write is over the pod that
was listed, and no pod is written to twice, so each of these comes of any earlier one by adding
answers to pods with a request and taking answers back from pods without. -/
namespace TabletDrain

theorem inits_map_storeAll (pods : List Pod) (writes : List (String × Pod)) :
    writes.inits.map (storeAll pods) = pods :: storesAfter pods writes := by
  induction writes generalizing pods with
  | nil => rfl
  | cons write rest ih =>
    rw [List.inits_cons, List.map_cons, List.map_map]
    exact congrArg (pods :: ·) (ih _)

theorem pairwise_inits {α : Type} (items : List α) : items.inits.Pairwise (· <+: ·) := by
  induction items with
  | nil => exact List.pairwise_singleton _ _
  | cons item rest ih =>
    rw [List.inits_cons, List.pairwise_cons, List.pairwise_map]
    exact ⟨fun part _ => List.nil_prefix, ih.imp fun part => (List.prefix_cons_inj item).mpr part⟩

namespace Pass

namespace Context

variable {context : Context} {pod : Pod} {done later : List Update}

section Names

variable (names : (context.cluster.pods.map Pod.shownName).Nodup)

include names

theorem landing_cases (faithful : Faithful context.replies) (part : done <+: context.updates)
    (member : pod ∈ context.cluster.pods) :
    context.landing done pod = pod ∨
      ∃ update ∈ done, update.listed = pod ∧ (context.reply update).Succeeds := by
  by_cases succeeded : ∃ update ∈ done, update.listed = pod ∧ (context.reply update).fault = none
  · obtain ⟨update, inside, same, sound⟩ := succeeded
    exact .inr ⟨update, inside, same, sound, faithful _⟩
  · refine .inl (landing_of_not_mem names part member fun update inside same sound => ?_)
    exact succeeded ⟨update, inside, same, sound⟩

theorem tended_landing (faithful : Faithful context.replies) (part : done <+: later)
    (all : later <+: context.updates) (member : pod ∈ context.cluster.pods) :
    Pod.Tended (context.landing done pod) (context.landing later pod) := by
  -- Where the update is stored already, the later ones are for other pods.
  rcases landing_cases names faithful (part.trans all) member with same | ⟨update, inside, same, succeeds⟩
  · rw [same]
    rcases landing_cases names faithful all member with same' | ⟨update, inside, rfl, succeeds⟩
    · rw [same']
      exact .refl pod
    · rw [landing_of_mem names all inside succeeds]
      exact (amended_of_mem_updates (all.subset inside)).tended
  · subst same
    rw [landing_of_mem names (part.trans all) inside succeeds,
      landing_of_mem names all (part.subset inside) succeeds]
    exact .refl _

theorem tended_storeAll (faithful : Faithful context.replies) {first second : List (String × Pod)}
    (part : first <+: second) (all : second <+: context.updates.filterMap context.stored?) :
    List.Forall₂ Pod.Tended (storeAll context.cluster.pods first)
      (storeAll context.cluster.pods second) := by
  obtain ⟨later, allLater, rfl⟩ := List.prefix_filterMap_iff.mp all
  obtain ⟨done, partDone, rfl⟩ := List.prefix_filterMap_iff.mp part
  rw [context.storeAll_eq_landing names (partDone.trans allLater) faithful.keepsNames,
    context.storeAll_eq_landing names allLater faithful.keepsNames, List.forall₂_map_left_iff,
    List.forall₂_map_right_iff]
  exact List.forall₂_same.mpr fun pod member =>
    tended_landing names faithful partDone allLater member

end Names

end Context

section Runs

variable {replies : Replies} {cluster : Cluster}

theorem run_sends_listed (configuration : Configuration) (replies : Replies) (stamp : String)
    (shard : Shard) (cluster : Cluster) :
    ∀ sent ∈ (run configuration replies stamp shard cluster).sent,
      ∃ listed ∈ Cluster.podsWith cluster.pods shard.spec.podLabels, Pod.Amended stamp listed sent := by
  obtain ⟨part, _⟩ := run_does_updates configuration replies stamp shard cluster
  intro sent member
  obtain ⟨update, inside, same⟩ := List.mem_map.mp (part.subset member)
  have listed := Context.mem_pods_of_mem_updates inside
  have carries := Context.carries_of_mem_updates inside
  have amended := Context.amended_of_mem_updates inside
  exact ⟨update.listed, List.mem_filter.mpr ⟨listed, carries⟩, same ▸ amended⟩

/-- What a pass sends: no pod twice, and each as it was listed but for the controller's answers. -/
theorem run_sends (names : (cluster.pods.map Pod.shownName).Nodup) (configuration : Configuration)
    (replies : Replies) (stamp : String) (shard : Shard) :
    let report := run configuration replies stamp shard cluster
    (report.sent.map Pod.shownName).Nodup ∧
      ∀ sent ∈ report.sent, ∃ listed ∈ Cluster.podsWith cluster.pods shard.spec.podLabels,
        Pod.Amended stamp listed sent := by
  intro report
  let context := contextOf configuration replies stamp shard cluster
  obtain ⟨part, _⟩ := run_does_updates configuration replies stamp shard cluster
  refine ⟨?_, run_sends_listed configuration replies stamp shard cluster⟩
  have named : (context.updates.map Update.sent).map Pod.shownName =
      context.updates.map fun update => update.listed.shownName := by
    rw [List.map_map]
    exact List.map_congr_left fun update inside => Context.shownName_sent inside
  have apart : (context.updates.map fun update => update.listed.shownName).Nodup :=
    Context.nodup_updates names
  rw [← named] at apart
  exact apart.sublist (part.sublist.map _)

/-- The stored pods at the start of a pass and after each of its writes are what comes of storing
ever more of its updates. -/
theorem snapshots_of_run (configuration : Configuration) (replies : Replies) (stamp : String)
    (shard : Shard) (cluster : Cluster) :
    let context := contextOf configuration replies stamp shard cluster
    let report := run configuration replies stamp shard cluster
    ∃ writes, writes <+: context.updates.filterMap context.stored? ∧
      cluster.pods :: report.history = writes.inits.map (storeAll cluster.pods) ∧
        report.pods = storeAll cluster.pods writes := by
  intro context report
  obtain ⟨_, done, part, history, pods, _⟩ :=
    run_does_updates configuration replies stamp shard cluster
  refine ⟨done.filterMap context.stored?, part.filterMap _, ?_, pods⟩
  rw [inits_map_storeAll]
  exact congrArg (cluster.pods :: ·) history

/-- All that a pass does to the stored pods, it does by tending them. -/
theorem run_tends (faithful : Faithful replies) (names : (cluster.pods.map Pod.shownName).Nodup)
    (configuration : Configuration) (stamp : String) (shard : Shard) :
    let report := run configuration replies stamp shard cluster
    (cluster.pods :: report.history).Pairwise (List.Forall₂ Pod.Tended) ∧
      (∀ stored ∈ cluster.pods :: report.history, List.Forall₂ Pod.Tended stored report.pods) ∧
        report.pods ∈ cluster.pods :: report.history := by
  intro report
  let context := contextOf configuration replies stamp shard cluster
  obtain ⟨writes, all, snapshots, pods⟩ :=
    snapshots_of_run configuration replies stamp shard cluster
  have tended {first second : List (String × Pod)} (part : first <+: second) (inside : second <+: writes) :
      List.Forall₂ Pod.Tended (storeAll cluster.pods first) (storeAll cluster.pods second) :=
    context.tended_storeAll names faithful part (inside.trans all)
  rw [snapshots, pods, List.pairwise_map]
  refine ⟨?_, ?_, ?_⟩
  · refine (pairwise_inits writes).imp_of_mem fun _ inside part => ?_
    exact tended part ((List.mem_inits _ _).mp inside)
  · intro stored member
    obtain ⟨first, inside, same⟩ := List.mem_map.mp member
    exact same ▸ tended ((List.mem_inits _ _).mp inside) (List.prefix_refl _)
  · exact List.mem_map_of_mem ((List.mem_inits _ _).mpr (List.prefix_refl _))

end Runs

theorem map_shownName_of_tended {before after : List Pod}
    (tended : List.Forall₂ Pod.Tended before after) :
    after.map Pod.shownName = before.map Pod.shownName := by
  have same : List.Forall₂ (· = ·) (before.map Pod.shownName) (after.map Pod.shownName) := by
    rw [List.forall₂_map_left_iff, List.forall₂_map_right_iff]
    exact tended.imp fun _ _ tended => tended.reannotated.shownName.symm
  rw [List.forall₂_eq_eq_eq] at same
  exact same.symm

end Pass

end TabletDrain
