import Mathlib.Data.List.Infix
import TabletDrain.Proofs.Keyed
import TabletDrain.Shard.Spec

/-! Whose pods the labels of a shard select. The labels tell clusters, keyspaces and the names of key
ranges apart and nothing else, so two shards have either all of their pods in common or none. The name
of a key range tells its text, unless a bound is spelled like the mark of an open one. -/
namespace TabletDrain

namespace KeyRange

/-- What the name of a range has beside a bound. -/
def openMark (bound : String) : String := if bound.isEmpty then "x" else ""

/-- No bound is spelled like the mark of an open one, alone or at the outer side of a dash. -/
structure IsPlain (range : KeyRange) : Prop where
  start : ¬"x-".toList <+: (range.start ++ "-").toList
  stop : ¬"-x".toList <:+ ("-" ++ range.stop).toList

variable {range other : KeyRange}

theorem safeName_eq (range : KeyRange) :
    range.safeName = openMark range.start ++ range.text ++ openMark range.stop := by
  have before : boundName range.start = openMark range.start ++ range.start := by
    unfold boundName openMark
    split
    · rename_i unset
      rw [String.isEmpty_iff.mp unset, String.append_empty]
    · rw [String.empty_append]
  have after : boundName range.stop = range.stop ++ openMark range.stop := by
    unfold boundName openMark
    split
    · rename_i unset
      rw [String.isEmpty_iff.mp unset, String.empty_append]
    · rw [String.append_empty]
  rw [safeName, before, after, text]
  simp only [String.append_assoc]

theorem IsPlain.start_eq_iff (plain : range.IsPlain) :
    range.start = "" ↔ "x-".toList <+: range.safeName.toList := by
  constructor
  · intro unset
    refine ⟨(boundName range.stop).toList, ?_⟩
    simp [safeName, boundName, unset]
  · intro marked
    by_contra bounded
    have opening : (range.start ++ "-").toList <+: range.safeName.toList := by
      refine ⟨(boundName range.stop).toList, ?_⟩
      simp [safeName, boundName, bounded]
    have long : "x-".toList.length ≤ (range.start ++ "-").toList.length := by
      have := List.length_pos_iff.mpr fun empty => bounded (String.toList_eq_nil_iff.mp empty)
      simp only [String.toList_append, List.length_append]
      exact Nat.succ_le_succ this
    exact plain.start (List.prefix_of_prefix_length_le marked opening long)

theorem IsPlain.stop_eq_iff (plain : range.IsPlain) :
    range.stop = "" ↔ "-x".toList <:+ range.safeName.toList := by
  constructor
  · intro unset
    refine ⟨(boundName range.start).toList, ?_⟩
    simp [safeName, boundName, unset]
  · intro marked
    by_contra bounded
    have ending : ("-" ++ range.stop).toList <:+ range.safeName.toList := by
      refine ⟨(boundName range.start).toList, ?_⟩
      simp [safeName, boundName, bounded]
    have long : "-x".toList.length ≤ ("-" ++ range.stop).toList.length := by
      have := List.length_pos_iff.mpr fun empty => bounded (String.toList_eq_nil_iff.mp empty)
      simp only [String.toList_append, List.length_append]
      exact Nat.add_le_add_left this 1
    exact plain.stop (List.suffix_of_suffix_length_le marked ending long)

theorem text_eq_of_safeName_eq (plain : range.IsPlain) (plain' : other.IsPlain)
    (same : range.safeName = other.safeName) : range.text = other.text := by
  -- The same bounds are open in both, so the name has the same marks around the two texts.
  have starts : openMark range.start = openMark other.start := by
    simp only [openMark, String.isEmpty_iff, plain.start_eq_iff, plain'.start_eq_iff, same]
  have stops : openMark range.stop = openMark other.stop := by
    simp only [openMark, String.isEmpty_iff, plain.stop_eq_iff, plain'.stop_eq_iff, same]
  rw [safeName_eq, safeName_eq, starts, stops] at same
  exact String.append_right_inj _ |>.mp (String.append_left_inj _ |>.mp same)

end KeyRange

namespace ShardSpec

variable {mine other : ShardSpec} {pod : Pod}

theorem carries_podLabels_iff :
    pod.carries mine.podLabels = true ↔
      pod.label? componentLabel = some tabletComponent ∧ pod.label? clusterLabel = some mine.cluster ∧
        pod.label? keyspaceLabel = some mine.keyspace ∧
          pod.label? shardLabel = some mine.keyRange.safeName := by
  have entries {entry : String × String} : entry ∈ mine.podLabels.entries ↔
      entry ∈ [(componentLabel, tabletComponent), (clusterLabel, mine.cluster),
        (keyspaceLabel, mine.keyspace), (shardLabel, mine.keyRange.safeName)] :=
    Keyed.mem_ofList (by simp [componentLabel, clusterLabel, keyspaceLabel, shardLabel])
  simp only [Pod.carries, List.all_eq_true, decide_eq_true_eq, entries, List.forall_mem_cons,
    List.not_mem_nil, false_implies, implies_true, and_true]

/-- There are pods that carry the labels of both. -/
def SharesPods (mine other : ShardSpec) : Prop :=
  ∃ pod : Pod, pod.carries mine.podLabels = true ∧ pod.carries other.podLabels = true

theorem exists_carries (spec : ShardSpec) : ∃ pod : Pod, pod.carries spec.podLabels = true := by
  refine ⟨⟨none, none, none, some spec.podLabels, none, none, none, ""⟩, ?_⟩
  exact List.all_eq_true.mpr fun entry member => decide_eq_true (Keyed.get?_of_mem member)

theorem same_of_sharesPods (shares : mine.SharesPods other) :
    mine.cluster = other.cluster ∧ mine.keyspace = other.keyspace ∧
      mine.keyRange.safeName = other.keyRange.safeName := by
  obtain ⟨pod, carries, carries'⟩ := shares
  obtain ⟨_, cluster, keyspace, range⟩ := carries_podLabels_iff.mp carries
  obtain ⟨_, cluster', keyspace', range'⟩ := carries_podLabels_iff.mp carries'
  exact ⟨Option.some.inj (cluster.symm.trans cluster'),
    Option.some.inj (keyspace.symm.trans keyspace'), Option.some.inj (range.symm.trans range')⟩

/-- Of two specs that share a pod, each selects all pods of the other. -/
theorem podLabels_eq_of_sharesPods (shares : mine.SharesPods other) :
    mine.podLabels = other.podLabels := by
  obtain ⟨cluster, keyspace, range⟩ := same_of_sharesPods shares
  rw [podLabels, podLabels, cluster, keyspace, range]

theorem sharesPods_iff :
    mine.SharesPods other ↔ mine.cluster = other.cluster ∧ mine.keyspace = other.keyspace ∧
      mine.keyRange.safeName = other.keyRange.safeName := by
  constructor
  · exact same_of_sharesPods
  · intro same
    obtain ⟨pod, carries⟩ := mine.exists_carries
    refine ⟨pod, carries, ?_⟩
    rw [carries_podLabels_iff] at carries ⊢
    rwa [← same.1, ← same.2.1, ← same.2.2]

/-- The name is the text of the key range, of which no bound is spelled like an open one. -/
structure IsNamedForRange (spec : ShardSpec) : Prop where
  name : spec.name = spec.keyRange.text
  plain : spec.keyRange.IsPlain

theorem not_sharesPods_of_named (named : mine.IsNamedForRange) (named' : other.IsNamedForRange)
    (differ : mine.name ≠ other.name) : ¬mine.SharesPods other := by
  intro shares
  have same := (sharesPods_iff.mp shares).2.2
  refine differ ?_
  rw [named.name, named'.name, KeyRange.text_eq_of_safeName_eq named.plain named'.plain same]

end ShardSpec

end TabletDrain
