import TabletDrain.Proofs.Pass.Prompt
import TabletDrain.Proofs.Pass.Snapshots
import TabletDrain.Proofs.Shard.Selector

/-! Passes over one shard beside the pods of another. A pass lists the pods of a key range, and asks for
the topology of a name; so it keeps off the pods of other shards as far as names and key ranges of
specs go together, which is not among what is required of a spec. -/
namespace TabletDrain

namespace Sample

/-- A part of the keyspace, under a name. -/
def part (name : String) (range : KeyRange) : Shard :=
  { shard with name := "main-" ++ range.safeName, spec := { spec with name := name, keyRange := range } }

def podOf (shard : Shard) (uid : String) (annotations : List (String × String)) : Pod :=
  { pod uid annotations with
    labels :=
      some (.ofList ((cellLabel, "zone1") :: (uidLabel, uid) :: shard.spec.podLabels.entries)) }

end Sample

namespace Pass

section Apart

variable {mine other : Shard} {configuration : Configuration} {replies : Replies} {stamp : String}
  {cluster : Cluster} (apart : ¬mine.spec.SharesPods other.spec)

include apart

/-- Whatever a pass sends is a pod of its own shard, and of no other. -/
theorem run_sends_own : ∀ sent ∈ (run configuration replies stamp mine cluster).sent,
    sent.carries mine.spec.podLabels = true ∧ sent.carries other.spec.podLabels = false := by
  intro sent member
  obtain ⟨listed, inside, amended⟩ := run_sends_listed _ _ _ _ _ sent member
  have own : sent.carries mine.spec.podLabels = true := by
    rw [amended.tended.reannotated.carries]
    exact (List.mem_filter.mp inside).2
  exact ⟨own, Bool.eq_false_iff.mpr fun foreign => apart ⟨sent, own, foreign⟩⟩

/-- After every write of a pass the pods of the other shard are stored as they were. -/
theorem run_spares_others (names : (cluster.pods.map Pod.shownName).Nodup) :
    let report := run configuration replies stamp mine cluster
    ∀ stored ∈ report.pods :: report.history, List.Forall₂
      (fun before after => before.carries other.spec.podLabels = true → after = before)
      cluster.pods stored := by
  intro report stored member
  obtain ⟨writes, part, snapshots, pods⟩ :=
    snapshots_of_run configuration replies stamp mine cluster
  have stores : ∃ first ∈ writes.inits, storeAll cluster.pods first = stored := by
    rcases List.mem_cons.mp member with same | later
    · exact ⟨writes, (List.mem_inits _ _).mpr (List.prefix_refl _), (same.trans pods).symm⟩
    · exact List.mem_map.mp (snapshots ▸ List.mem_cons_of_mem _ later)
  obtain ⟨first, inside, rfl⟩ := stores
  -- A write to a pod's name is an update of that pod, which is one of this shard's.
  have unwritten : ∀ pod ∈ cluster.pods, pod.carries other.spec.podLabels = true →
      pod.shownName ∉ first.map Prod.fst := by
    intro pod listed foreign written
    obtain ⟨write, among, named⟩ := List.mem_map.mp written
    have done := part.subset (((List.mem_inits _ _).mp inside).subset among)
    obtain ⟨update, due, makes⟩ := List.mem_filterMap.mp done
    have own := Context.carries_of_mem_updates due
    have listed' := Context.mem_pods_of_mem_updates due
    have same := (Context.name_of_stored? makes).symm.trans named
    have equal := List.inj_on_of_nodup_map names listed' listed same
    exact apart ⟨update.listed, own, equal ▸ foreign⟩
  have kept := (List.forall₂_and_left _ _).mpr ⟨unwritten, forall₂_storeAll_of_not_mem _ first⟩
  exact kept.imp fun before after same foreign => same.2 (same.1 foreign)

end Apart

/-- Two shards have pods in common exactly if they agree in cluster, in keyspace and in the name of
their key ranges, and then they have all in common. Where each is named for its key range, shards of
different names have none; and where they have none, no pass over one of them sends a pod of the other,
or changes one that is stored. -/
theorem kept_apart (mine other : Shard) :
    (mine.spec.SharesPods other.spec ↔ mine.spec.cluster = other.spec.cluster ∧
        mine.spec.keyspace = other.spec.keyspace ∧
          mine.spec.keyRange.safeName = other.spec.keyRange.safeName) ∧
      (mine.spec.SharesPods other.spec → mine.spec.podLabels = other.spec.podLabels) ∧
      (mine.spec.IsNamedForRange → other.spec.IsNamedForRange → mine.spec.name ≠ other.spec.name →
        ¬mine.spec.SharesPods other.spec) ∧
      (¬mine.spec.SharesPods other.spec →
        ∀ (configuration : Configuration) (replies : Replies) (stamp : String) (cluster : Cluster),
          let report := run configuration replies stamp mine cluster
          (∀ sent ∈ report.sent, sent.carries mine.spec.podLabels = true ∧
            sent.carries other.spec.podLabels = false) ∧
          ((cluster.pods.map Pod.shownName).Nodup →
            ∀ stored ∈ report.pods :: report.history, List.Forall₂
              (fun before after => before.carries other.spec.podLabels = true → after = before)
              cluster.pods stored)) := by
  refine ⟨ShardSpec.sharesPods_iff, ShardSpec.podLabels_eq_of_sharesPods,
    ShardSpec.not_sharesPods_of_named, ?_⟩
  intro apart configuration replies stamp cluster
  exact ⟨run_sends_own apart, run_spares_others apart⟩

/-- The two halves of a keyspace. A pass over the upper one acknowledges a request there, and leaves the
finished one of the lower half alone. -/
theorem kept_apart_sample :
    let lower := Sample.part "-80" ⟨"", "80"⟩
    let upper := Sample.part "80-" ⟨"80", ""⟩
    let cluster : Cluster :=
      { pods := [Sample.podOf lower "1" [(startedMarker, ""), (acknowledgedMarker, "")],
          Sample.podOf upper "2" [(startedMarker, "")], Sample.podOf upper "3" []]
        record := ⟨"main", "80-", some ⟨"zone1", 3⟩⟩
        tablets := Tablet.index [Sample.tablet 2 .replica, Sample.tablet 3 .primary] }
    let report := run Sample.configuration .atOnce "now" upper cluster
    upper.spec.problems = [] ∧ lower.spec.problems = [] ∧
      ¬upper.spec.SharesPods lower.spec ∧ report.sent.map Pod.shownName = ["tablet-2"] ∧
        (∀ sent ∈ report.sent, sent.carries upper.spec.podLabels = true ∧
          sent.carries lower.spec.podLabels = false) ∧
        ∀ stored ∈ report.pods :: report.history, List.Forall₂
          (fun before after => before.carries lower.spec.podLabels = true → after = before)
          cluster.pods stored := by
  intro lower upper cluster report
  have named : upper.spec.IsNamedForRange := ⟨rfl, by decide, by decide⟩
  have named' : lower.spec.IsNamedForRange := ⟨rfl, by decide, by decide⟩
  obtain ⟨_, _, differ, passes⟩ := kept_apart upper lower
  have apart := differ named named' (by decide)
  obtain ⟨sent, stored⟩ := passes apart Sample.configuration .atOnce "now" cluster
  exact ⟨by decide, by decide, apart, by decide +kernel, sent, stored (by decide)⟩

/-- Specs that say of themselves nothing wrong, of one cluster and keyspace and with different names.
Where a name does not go with the key range, or a bound is spelled like an open one, the pods are those
of another shard: a pass finishes its primary, which is not the primary of the name that it asked for. -/
theorem misnamed_shard_finishes_primary :
    let lower := Sample.part "-80" ⟨"", "80"⟩
    let misnamed := Sample.part "80-" ⟨"", "80"⟩
    let mimic := Sample.part "x-80" ⟨"x", "80"⟩
    let primary := Sample.podOf lower "1" [(startedMarker, ""), (acknowledgedMarker, "")]
    let cluster : Cluster :=
      { pods := [primary, Sample.podOf lower "2" []]
        record := ⟨"main", "80-", some ⟨"zone1", 3⟩⟩
        tablets := Tablet.index [Sample.tablet 3 .primary, Sample.tablet 4 .replica] }
    let report := run Sample.configuration .atOnce "now" misnamed cluster
    lower.spec.problems = [] ∧
      (∀ other ∈ [misnamed, mimic], other.spec.problems = [] ∧
        other.namespaceName = lower.namespaceName ∧ other.spec.cluster = lower.spec.cluster ∧
          other.spec.keyspace = lower.spec.keyspace ∧ other.spec.name ≠ lower.spec.name ∧
            primary.carries lower.spec.podLabels = true ∧
              primary.carries other.spec.podLabels = true) ∧
      primary.markers.finished = false ∧
        report.pods.map (fun pod => (pod.key?, pod.markers.finished)) =
          [(some "zone1-0000000001", true), (some "zone1-0000000002", false)] := by
  decide +kernel

end Pass

end TabletDrain
