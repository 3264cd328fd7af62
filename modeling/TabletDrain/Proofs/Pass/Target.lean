import TabletDrain.Proofs.Pass.Prompt
import TabletDrain.Proofs.Pass.Snapshots

/-! What a pass hands the primary role over to: a listed tablet of a role that can be promoted, in a
ready pod without drain markers. The pod is chosen from those that the pass holds after its updates;
but a pod that was to be moved has a request, and keeps it, so one without is as it was listed. -/
namespace TabletDrain

theorem Pod.find?_of_isReady {pod : Pod} (ready : pod.isReady = true) :
    (pod.conditions.getD []).find? (·.type = "Ready") = some ⟨"Ready", "True"⟩ := by
  unfold isReady at ready
  cases found : (pod.conditions.getD []).find? (·.type = "Ready") with
  | none =>
    rw [found] at ready
    cases ready
  | some condition =>
    have named : condition.type = "Ready" := by simpa using List.find?_some found
    rw [found] at ready
    obtain ⟨type, status⟩ := condition
    cases named
    cases of_decide_eq_true ready
    rfl

theorem Succession.not_started_of_isEligible {record : ShardRecord} {external : Bool}
    {tablet : Tablet} {pod : Pod} (eligible : isEligible record external tablet pod = true) :
    pod.markers.started = false := by
  obtain ⟨_, _, _, unmarked⟩ := isEligible_iff.mp eligible
  simp only [Markers.any, Bool.or_eq_false_iff] at unmarked
  exact unmarked.1.1

namespace Pass

namespace Context

variable {context : Context} {primary target : Alias} {tablet : Tablet} {listed : Pod} {key : String}

theorem started_moved (faithful : Faithful context.replies) (pod : Pod) (state : DrainState) :
    (context.moved pod state).markers.started = pod.markers.started := by
  rcases moved_cases faithful pod state with same | moves
  · rw [same]
  · rw [Pod.markers_of_setDrainState? moves]
    cases state <;> rfl

/-- A pod that is held without a request is as it was listed. -/
theorem carried_of_not_started (faithful : Faithful context.replies)
    (found : context.view.get? key = some listed)
    (idle : (context.carried primary.text (context.next primary) key listed).markers.started = false) :
    context.carried primary.text (context.next primary) key listed = listed := by
  unfold carried at idle ⊢
  cases stepped : (context.next primary).get? key with
  | none => rfl
  | some state =>
    obtain ⟨pod, again, started⟩ := listed_of_next stepped
    cases Option.some.inj (again.symm.trans found)
    rw [stepped] at idle
    dsimp only at idle
    split at idle
    · rw [started] at idle
      cases idle
    · rw [started_moved faithful, started] at idle
      cases idle

theorem HandsOver.exists_eligible {calls : List Call} {call : Call}
    (handsOver : context.HandsOver primary calls) (member : call ∈ calls)
    (targets : call.newPrimary? = some target) :
    ∃ tablet ∈ context.eligible (context.held primary) context.tablets, tablet.name = target := by
  cases handsOver with
  | planned tablet own eligible =>
    cases List.mem_singleton.mp member
    exact ⟨tablet, eligible, Option.some.inj targets⟩
  | told tablet external eligible =>
    cases List.mem_singleton.mp member
    exact ⟨tablet, eligible, Option.some.inj targets⟩
  | demoted tablet external eligible =>
    rcases List.mem_cons.mp member with same | last
    · cases same
      exact ⟨tablet, eligible, Option.some.inj targets⟩
    · cases List.mem_singleton.mp last
      cases targets

theorem started_of_mem_updates (acting : context.isActing = true) {update : Update}
    (member : update ∈ context.updates) : update.listed.markers.started = true := by
  obtain ⟨primary, _, ⟨aborting, _⟩ | ⟨_, entry, inside, advanced⟩⟩ := of_mem_updates member
  · simp [isActing, aborting] at acting
  · obtain ⟨_, _, found, _⟩ := advance?_eq_some_iff.mp advanced
    obtain ⟨pod, again, started⟩ := listed_of_next (Keyed.mem_entries_iff.mp inside)
    cases Option.some.inj (again.symm.trans found)
    exact started

end Context

/-- The tablet can be made primary safely, and the pod is where it runs. -/
structure SafeTarget (shard : Shard) (cluster : Cluster) (target : Alias) (tablet : Tablet)
    (pod : Pod) : Prop where
  recorded : (cluster.tabletsIn shard.spec.cells).get? target.text = some tablet
  named : tablet.name = target
  secondary : ∃ primary, cluster.record.primary = some primary ∧ target ≠ primary
  listed : pod ∈ Cluster.podsWith cluster.pods shard.spec.podLabels
  runs : pod.tablet? = some target
  ready : (pod.conditions.getD []).find? (·.type = "Ready") = some ⟨"Ready", "True"⟩
  unmarked : pod.markers.any = false
  replica : shard.spec.usesExternalDatastore = false → tablet.role = .replica
  pooled : shard.spec.usesExternalDatastore = true →
    (tablet.role = .spare ∨ tablet.role = .primary) ∧ pod.label? poolLabel = some externalPool

theorem SafeTarget.of_isEligible {shard : Shard} {cluster : Cluster} {tablet : Tablet} {pod : Pod}
    {primary : Alias} (led : cluster.record.primary = some primary)
    (recorded : (cluster.tabletsIn shard.spec.cells).get? tablet.name.text = some tablet)
    (found : (shard.spec.view cluster.pods).get? tablet.name.text = some pod)
    (eligible : Succession.isEligible cluster.record shard.spec.usesExternalDatastore tablet pod = true) :
    SafeTarget shard cluster tablet.name tablet pod := by
  obtain ⟨stored, inView, keyed⟩ := ShardSpec.of_mem_view (Keyed.mem_entries_iff.mpr found)
  simp only [ShardSpec.inView, Bool.and_eq_true] at inView
  obtain ⟨secondary, promotable, ready, unmarked⟩ := Succession.isEligible_iff.mp eligible
  rw [Succession.canBePromoted_iff] at promotable
  have runs : pod.tablet? = some tablet.name := by
    obtain ⟨name, named, same⟩ := Option.map_eq_some_iff.mp keyed
    rw [named, Alias.text_inj.mp same]
  refine ⟨recorded, rfl, ⟨primary, led, ?_⟩, List.mem_filter.mpr ⟨stored, inView.1⟩, runs,
    Pod.find?_of_isReady ready, unmarked, fun own => ?_, fun external => ?_⟩
  · rintro rfl
    exact secondary led
  · rw [if_neg (Bool.eq_false_iff.mp own)] at promotable
    exact promotable
  · rw [if_pos external] at promotable
    exact promotable.symm

section Runs

variable {configuration : Configuration} {replies : Replies} {stamp : String} {shard : Shard}
  {cluster : Cluster} (faithful : Faithful replies) (names : (cluster.pods.map Pod.shownName).Nodup)

include faithful names

/-- A listed pod without a request is stored as it was listed, all through a pass that acts. -/
theorem stays_of_not_started
    (acting : (contextOf configuration replies stamp shard cluster).isActing = true)
    {pod : Pod} (member : pod ∈ cluster.pods) (idle : pod.markers.started = false) :
    ∀ stored ∈ cluster.pods :: (run configuration replies stamp shard cluster).history,
      pod ∈ stored ∧ ∀ other ∈ stored, other.shownName = pod.shownName → other = pod := by
  let context := contextOf configuration replies stamp shard cluster
  obtain ⟨writes, part, snapshots, _⟩ := snapshots_of_run configuration replies stamp shard cluster
  obtain ⟨_, tends, _⟩ := run_tends faithful names configuration stamp shard
  intro stored inside
  have distinct : (stored.map Pod.shownName).Nodup := by
    rw [← map_shownName_of_tended (tends stored inside),
      map_shownName_of_tended (tends cluster.pods List.mem_cons_self)]
    exact names
  have here : pod ∈ stored := by
    rw [snapshots] at inside
    obtain ⟨first, isPrefix, same⟩ := List.mem_map.mp inside
    obtain ⟨done, partDone, written⟩ := List.prefix_filterMap_iff.mp
      (((List.mem_inits _ _).mp isPrefix).trans part)
    have untouched : context.landing done pod = pod := by
      refine Context.landing_of_not_mem names partDone member fun update sends listed => ?_
      have started := Context.started_of_mem_updates acting (partDone.subset sends)
      rw [listed, idle] at started
      cases started
    rw [← same, written]
    have landed := context.storeAll_eq_landing names partDone faithful.keepsNames
    exact landed ▸ List.mem_map.mpr ⟨pod, member, untouched⟩
  exact ⟨here, fun other within named => List.inj_on_of_nodup_map distinct within here named⟩

/-- The target of every hand-over is safe, and its pod is stored as it was listed at all times of the
pass. -/
theorem targets_safe
    (keyed : ∀ key tablet, cluster.tablets.get? key = some tablet → tablet.name.text = key)
    (configuration : Configuration) (stamp : String) (shard : Shard) :
    let report := run configuration replies stamp shard cluster
    ∀ call ∈ report.calls, ∀ target, call.newPrimary? = some target →
      ∃ tablet pod, SafeTarget shard cluster target tablet pod ∧
        ∀ stored ∈ cluster.pods :: report.history,
          pod ∈ stored ∧ ∀ other ∈ stored, other.shownName = pod.shownName → other = pod := by
  intro report call member target targets
  let context := contextOf configuration replies stamp shard cluster
  have handover : call ∈ report.handovers := by
    refine List.mem_filter.mpr ⟨member, ?_⟩
    cases call <;> first | rfl | cases targets
  obtain ⟨primary, due, handsOver⟩ := handsOver_of_handovers (List.ne_nil_of_mem handover)
  obtain ⟨tablet, eligible, same⟩ := handsOver.exists_eligible handover targets
  subst same
  obtain ⟨key, pod, recorded, held, isEligible⟩ := Succession.mem_eligible.mp eligible
  have acting := Context.isActing_of_due due
  have named : tablet.name.text = key :=
    keyed key tablet (Option.filter_eq_some_iff.mp ((Keyed.get?_filter ..).symm.trans recorded)).1
  subst named
  rw [Context.held, Context.loaded_pods_of_isActing acting, Keyed.get?_mapKeyed] at held
  obtain ⟨listed, found, carried⟩ := Option.map_eq_some_iff.mp held
  have idle := Succession.not_started_of_isEligible isEligible
  have unmoved : context.carried primary.text (context.next primary) tablet.name.text listed = listed :=
    Context.carried_of_not_started faithful found (carried ▸ idle)
  obtain rfl : listed = pod := unmoved.symm.trans carried
  obtain ⟨stored, _⟩ := ShardSpec.of_mem_view (Keyed.mem_entries_iff.mpr found)
  exact ⟨tablet, listed, .of_isEligible due.led recorded found isEligible,
    stays_of_not_started faithful names acting stored idle⟩

end Runs

/-- The finished primary is moved away from. No tablet tells a position, so the first eligible one is
taken; the second pod is not eligible, although the update that answers its request fails. -/
theorem targets_safe_in_sample :
    let pods := [Sample.pod "1" [(startedMarker, ""), (acknowledgedMarker, ""), (finishedMarker, "")],
      Sample.pod "2" [(startedMarker, "")], Sample.pod "3" []]
    let cluster := { Sample.cluster with pods := pods }
    let replies := Sample.refusing "tablet-2"
    let report := run Sample.configuration replies "now" Sample.shard cluster
    let target : Alias := ⟨"zone1", 3⟩
    let call : Call := .plannedReparent ⟨"main", "0", target, none, 1000, 1000⟩
    Faithful replies ∧ (pods.map Pod.shownName).Nodup ∧
      (∀ key tablet, cluster.tablets.get? key = some tablet → tablet.name.text = key) ∧
      call ∈ report.calls ∧ call.newPrimary? = some target ∧
      ∃ tablet pod, SafeTarget Sample.shard cluster target tablet pod ∧
        ∀ stored ∈ cluster.pods :: report.history,
          pod ∈ stored ∧ ∀ other ∈ stored, other.shownName = pod.shownName → other = pod := by
  intro pods cluster replies report target call
  have faithful : Faithful replies := by
    intro name
    by_cases same : name = "tablet-2" <;> simp [replies, Sample.refusing, same, UpdateReply.prompt]
  have names : (pods.map Pod.shownName).Nodup := by decide
  have keyed (key : String) (tablet : Tablet) (found : cluster.tablets.get? key = some tablet) :
      tablet.name.text = key := Tablet.text_of_get?_index found
  have called : call ∈ report.calls := by decide +kernel
  exact ⟨faithful, names, keyed, called, rfl, targets_safe faithful names keyed Sample.configuration
    "now" Sample.shard call called target rfl⟩

end Pass

end TabletDrain
