import TabletDrain.Pass.Cluster
import TabletDrain.Proofs.Alias
import TabletDrain.Proofs.Keyed
import TabletDrain.Proofs.Pod.Markers

/-! The stored pods that a pass over a shard has in view, and the requests among them. Of pods that
name one tablet the view holds the last; where no two do, it holds every pod in view. -/
namespace TabletDrain

def Pod.key? (pod : Pod) : Option String := pod.tablet?.map Alias.text

namespace ShardSpec

def inView (spec : ShardSpec) (pod : Pod) : Bool :=
  pod.carries spec.podLabels && pod.tablet?.isSome

def view (spec : ShardSpec) (pods : List Pod) : Keyed Pod :=
  Pod.index (Cluster.podsWith pods spec.podLabels)

/-- Stored pods have distinct names, and those in view distinct tablets. -/
structure Distinct (spec : ShardSpec) (pods : List Pod) : Prop where
  names : (pods.map Pod.shownName).Nodup
  tablets : ((pods.filter spec.inView).map Pod.tablet?).Nodup

variable {spec : ShardSpec} {pods : List Pod} {pod : Pod} {key : String}

private theorem mem_keyedPods :
    (key, pod) ∈ (Cluster.podsWith pods spec.podLabels).filterMap
        (fun pod => pod.tablet?.map fun name => (name.text, pod)) ↔
      pod ∈ pods ∧ spec.inView pod = true ∧ pod.key? = some key := by
  simp only [List.mem_filterMap, Cluster.podsWith, List.mem_filter, Option.map_eq_some_iff,
    Prod.mk.injEq, inView, Bool.and_eq_true, Pod.key?]
  constructor
  · intro found
    obtain ⟨_, ⟨member, carries⟩, name, named, text, rfl⟩ := found
    exact ⟨member, ⟨carries, by simp [named]⟩, name, named, text⟩
  · intro found
    obtain ⟨member, ⟨carries, _⟩, name, named, text⟩ := found
    exact ⟨pod, ⟨member, carries⟩, name, named, text, rfl⟩

theorem of_mem_view (member : (key, pod) ∈ (spec.view pods).entries) :
    pod ∈ pods ∧ spec.inView pod = true ∧ pod.key? = some key :=
  mem_keyedPods.mp (Keyed.mem_of_mem_ofList member)

private theorem nodup_keyedPods (distinct : spec.Distinct pods) :
    (((Cluster.podsWith pods spec.podLabels).filterMap
      (fun pod => pod.tablet?.map fun name => (name.text, pod))).map Prod.fst).Nodup := by
  have tablets := distinct.tablets
  rw [List.Nodup, List.pairwise_map, List.pairwise_filter] at tablets
  rw [List.Nodup, List.pairwise_map, List.pairwise_filterMap, Cluster.podsWith, List.pairwise_filter]
  apply tablets.imp
  intro first second differ carries carries' entry found entry' found'
  obtain ⟨name, named, rfl⟩ := Option.map_eq_some_iff.mp found
  obtain ⟨name', named', rfl⟩ := Option.map_eq_some_iff.mp found'
  have distinct := differ (by simp [inView, carries, named]) (by simp [inView, carries', named'])
  rw [named, named'] at distinct
  simpa using distinct

/-- Where the tablets are distinct, the view holds every stored pod in view. -/
theorem mem_view (distinct : spec.Distinct pods) :
    (key, pod) ∈ (spec.view pods).entries ↔
      pod ∈ pods ∧ spec.inView pod = true ∧ pod.key? = some key :=
  (Keyed.mem_ofList (nodup_keyedPods distinct)).trans mem_keyedPods

theorem exists_key_of_inView (inView : spec.inView pod = true) : ∃ key, pod.key? = some key := by
  simp only [ShardSpec.inView, Bool.and_eq_true] at inView
  obtain ⟨name, named⟩ := Option.isSome_iff_exists.mp inView.2
  exact ⟨name.text, by simp [Pod.key?, named]⟩

end ShardSpec

namespace Pod.Reannotated

variable {before after : Pod}

theorem key? (same : Reannotated before after) : after.key? = before.key? := by
  rw [Pod.key?, Pod.key?, same.tablet?]

theorem inView (same : Reannotated before after) (spec : ShardSpec) :
    spec.inView after = spec.inView before := by
  rw [ShardSpec.inView, ShardSpec.inView, same.carries, same.tablet?]

end Pod.Reannotated

namespace ShardSpec

variable {spec : ShardSpec} {pods : List Pod} {pod : Pod} {key : String} {change : Pod → Pod}

theorem Distinct.map (distinct : spec.Distinct pods)
    (same : ∀ pod ∈ pods, Pod.Reannotated pod (change pod)) : spec.Distinct (pods.map change) where
  names := by
    have named : ∀ pod ∈ pods, (Pod.shownName ∘ change) pod = pod.shownName := fun pod member =>
      (same pod member).shownName
    rw [List.map_map, List.map_congr_left named]
    exact distinct.names
  tablets := by
    have inView : ∀ pod ∈ pods, (spec.inView ∘ change) pod = spec.inView pod := fun pod member =>
      (same pod member).inView spec
    have named : ∀ pod ∈ pods.filter spec.inView, (Pod.tablet? ∘ change) pod = pod.tablet? :=
      fun pod member => (same pod (List.mem_of_mem_filter member)).tablet?
    rw [List.filter_map, List.map_map, List.filter_congr inView, List.map_congr_left named]
    exact distinct.tablets

theorem Distinct.filter (distinct : spec.Distinct pods) (keep : Pod → Bool) :
    spec.Distinct (pods.filter keep) where
  names := distinct.names.sublist (List.filter_sublist.map _)
  tablets := by
    rw [List.filter_comm]
    exact distinct.tablets.sublist (List.filter_sublist.map _)

theorem get?_view (distinct : spec.Distinct pods) :
    (spec.view pods).get? key = some pod ↔
      pod ∈ pods ∧ spec.inView pod = true ∧ pod.key? = some key := by
  rw [← Keyed.mem_entries_iff, mem_view distinct]

theorem get?_view_map (distinct : spec.Distinct pods)
    (same : ∀ pod ∈ pods, Pod.Reannotated pod (change pod)) (key : String) :
    (spec.view (pods.map change)).get? key = ((spec.view pods).get? key).map change := by
  apply Option.ext
  intro after
  rw [get?_view (distinct.map same), Option.map_eq_some_iff, List.mem_map]
  constructor
  · intro found
    obtain ⟨⟨pod, member, rfl⟩, inView, keyed⟩ := found
    rw [(same pod member).inView] at inView
    rw [(same pod member).key?] at keyed
    exact ⟨pod, (get?_view distinct).mpr ⟨member, inView, keyed⟩, rfl⟩
  · intro found
    obtain ⟨pod, held, rfl⟩ := found
    obtain ⟨member, inView, keyed⟩ := (get?_view distinct).mp held
    rw [(same pod member).inView, (same pod member).key?]
    exact ⟨⟨pod, member, rfl⟩, inView, keyed⟩

theorem get?_view_filter (distinct : spec.Distinct pods) (keep : Pod → Bool) (key : String) :
    (spec.view (pods.filter keep)).get? key = ((spec.view pods).get? key).filter keep := by
  apply Option.ext
  intro pod
  rw [get?_view (distinct.filter keep), Option.filter_eq_some_iff, get?_view distinct,
    List.mem_filter]
  constructor
  · intro found
    exact ⟨⟨found.1.1, found.2⟩, found.1.2⟩
  · intro found
    exact ⟨⟨found.1.1, found.2⟩, found.1.2⟩

end ShardSpec

namespace Drain

def requests (view : Keyed Pod) : Keyed DrainState :=
  (view.filter fun _ pod => pod.markers.started).map fun pod => pod.markers.state

variable {view : Keyed Pod} {key : String} {state : DrainState}

theorem get?_requests :
    (requests view).get? key = some state ↔
      ∃ pod, view.get? key = some pod ∧ pod.markers.started = true ∧ pod.markers.state = state := by
  simp only [requests, Keyed.get?_map, Keyed.get?_filter, Option.map_eq_some_iff,
    Option.filter_eq_some_iff, and_assoc]

theorem requests_ne_notDraining (found : (requests view).get? key = some state) :
    state ≠ .notDraining := by
  obtain ⟨pod, _, started, rfl⟩ := get?_requests.mp found
  rw [Ne, Markers.state_eq_notDraining_iff, started]
  decide

end Drain

end TabletDrain
