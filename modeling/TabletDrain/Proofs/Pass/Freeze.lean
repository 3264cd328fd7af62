import TabletDrain.Proofs.Pass.Prompt
import TabletDrain.Proofs.Pass.Quiet

/-! A pass that finds answers left over from a withdrawn request. It takes those back, on all pods
that have any, and does nothing else: requests stay as they are, and no tablet is asked or told
anything. -/
namespace TabletDrain

namespace Pass

namespace Context

variable {context : Context} {primary : Alias} {key : String} {pod : Pod}

section Quiet

private theorem actDeeds_of_aborting (aborting : isAborting context.view = true) (primary : Alias) :
    context.actDeeds primary = [] ∨
      context.actDeeds primary = [context.warning "AbortingDrain" "detected that we are aborting drain"] := by
  unfold actDeeds
  by_cases none : (Drain.requests context.view).isEmpty = true
  · exact .inl (if_pos none)
  · exact .inr ((if_neg none).trans (if_pos aborting))

private theorem quiet_actDeeds (aborting : isAborting context.view = true) (primary : Alias) :
    ∀ deed ∈ context.actDeeds primary, deed.IsQuiet := by
  rcases actDeeds_of_aborting aborting primary with same | same <;>
    simp [same, Deed.IsQuiet, warning]

theorem quiet_deeds (aborting : isAborting context.view = true) :
    ∀ deed ∈ context.deeds, deed.IsQuiet ∨ ∃ delay, deed = .requeueAfter delay := by
  unfold deeds
  refine List.forall_mem_append.mpr ⟨fun deed inside => .inl (quiet_readingDeeds _ deed inside), ?_⟩
  split
  · split
    · exact fun deed inside => .inl (List.mem_singleton.mp inside ▸ trivial)
    · refine List.forall_mem_append.mpr ⟨?_, ?_⟩
      · exact fun deed inside => .inl (quiet_loadDeeds _ deed inside)
      · exact fun deed inside => .inl (quiet_actDeeds aborting _ deed inside)
  · exact fun deed inside => .inr ⟨_, List.mem_singleton.mp inside⟩

theorem quiet_calls (aborting : isAborting context.view = true) :
    ∀ call ∈ context.deeds.filterMap Deed.call?, call.isQuiet = true := by
  intro call member
  obtain ⟨deed, inside, called⟩ := List.mem_filterMap.mp member
  rcases quiet_deeds aborting deed inside with quiet | ⟨delay, same⟩
  · exact quiet.call called
  · rw [same] at called
    cases called

end Quiet

section Aborting

variable (aborting : isAborting context.view = true)

include aborting

theorem cleared_of_mem_updates {update : Update} (member : update ∈ context.updates) :
    (∃ key, context.view.get? key = some update.listed) ∧ Pod.Cleared update.listed update.sent := by
  obtain ⟨primary, _, ⟨_, key, found, cleared⟩ | ⟨quiet, _⟩⟩ := of_mem_updates member
  · obtain ⟨_, _, idle, moves⟩ := of_clearance? cleared
    exact ⟨⟨key, found⟩, Pod.cleared_of_clear idle moves⟩
  · rw [aborting] at quiet
    cases quiet

/-- Nothing is written to a pod with a request. -/
theorem started_stays (names : (context.cluster.pods.map Pod.shownName).Nodup) {done : List Update}
    (part : done <+: context.updates) :
    List.Forall₂ (fun before after => before.markers.started = true → after = before)
      context.cluster.pods (storeAll context.cluster.pods (done.filterMap context.stored?)) := by
  have unwritten :=
    forall₂_storeAll_of_not_mem context.cluster.pods (done.filterMap context.stored?)
  refine ((List.forall₂_and_left _ _).mpr ⟨fun pod member => member, unwritten⟩).imp ?_
  intro before after kept started
  refine kept.2 fun written => ?_
  obtain ⟨write, inside, named⟩ := List.mem_map.mp written
  obtain ⟨update, sends, stores⟩ := List.mem_filterMap.mp inside
  have member := part.subset sends
  have same : update.listed = before := by
    refine List.inj_on_of_nodup_map names (mem_pods_of_mem_updates member) kept.1 ?_
    rw [← named, name_of_stored? stores]
  have withdrawn := (cleared_of_mem_updates aborting member).2.withdrawn
  rw [same, Markers.isAborted, started] at withdrawn
  cases withdrawn

variable (admitted : context.Admitted primary)

include admitted

theorem updates_of_aborting :
    context.updates = context.view.values.filterMap context.clearance? := by
  rw [updates, admitted.served]
  dsimp only
  rw [if_pos aborting]

omit aborting in
private theorem clearance?_cases (pod : Pod) :
    pod.markers.isAborted = false ∧ context.clearance? pod = none ∨
      pod.markers.isAborted = true ∧ ∃ sent, context.clearance? pod = some ⟨pod, sent⟩ := by
  unfold clearance?
  by_cases started : pod.markers.started = true
  · rw [if_pos started]
    exact .inl ⟨by simp [Markers.isAborted, started], rfl⟩
  · rw [if_neg started, update?, admitted.live]
    simp only [Bool.false_eq_true, if_false, Pod.setDrainState?]
    cases left : pod.markers.finished || pod.markers.acknowledged with
    | false => exact .inl ⟨by simp_all [Markers.isAborted], rfl⟩
    | true =>
      refine .inr ⟨?_, _, rfl⟩
      simpa [Markers.isAborted, started, Bool.or_comm] using left

/-- There is one update for each pod with something left over, in the order of the keys. -/
theorem keys_updates_of_aborting :
    context.updates.map (fun update => update.listed.key?) =
      (context.view.filter fun _ pod => pod.markers.isAborted).keys.map some := by
  rw [updates_of_aborting aborting admitted, List.map_filterMap, Keyed.values, List.filterMap_map,
    Keyed.keys, Keyed.filter, List.map_map, ← List.filterMap_eq_map, List.filterMap_filter]
  refine List.filterMap_congr fun entry inside => ?_
  have keyed := (ShardSpec.of_mem_view inside).2.2
  rcases clearance?_cases admitted entry.2 with ⟨settled, none⟩ | ⟨aborted, sent, one⟩
  · simp [none, settled]
  · simp [one, aborted, keyed]

theorem mem_updates_of_aborted (found : context.view.get? key = some pod)
    (aborted : pod.markers.isAborted = true) : ∃ sent, ⟨pod, sent⟩ ∈ context.updates := by
  rcases clearance?_cases admitted pod with ⟨settled, _⟩ | ⟨_, sent, one⟩
  · rw [aborted] at settled
    cases settled
  · refine ⟨sent, ?_⟩
    rw [updates_of_aborting aborting admitted]
    exact List.mem_filterMap.mpr
      ⟨pod, List.mem_map_of_mem (Keyed.mem_entries_iff.mpr found), one⟩

/-- The pass ends with the first failure of its updates, and asks for no other pass. -/
theorem result_deeds :
    (context.deeds.foldl Deed.note .empty).result =
      match (context.updates.map Update.sent).findSome? fun sent =>
        (context.replies.updatePod sent.shownName).fault with
      | some fault => .error fault
      | none => .ok none := by
  have idle : context.isActing = false := by simp [isActing, aborting]
  have unprepared : context.unprepared? = none := by
    rw [unprepared?, admitted.served, idle]
    rfl
  have silent : context.delay? = none := by
    rw [delay?, if_pos (served_iff.mp admitted.served).1, blocked?, admitted.served, idle]
    rfl
  have ends (refusal? : Option Fault) : context.ending refusal? =
      match refusal? with
      | some fault => .error fault
      | none => .ok none := by
    cases refusal? <;> simp [ending, unprepared, silent]
  exact (result_eq_ending context).trans (ends _)

end Aborting

end Context

/-- What a pass does that finds an answer left over without a request. -/
theorem abort_freezes {shard : Shard} {cluster : Cluster} {key : String} {withdrawn : Pod}
    (names : (cluster.pods.map Pod.shownName).Nodup)
    (listed : (shard.spec.view cluster.pods).get? key = some withdrawn)
    (aborted : withdrawn.markers.isAborted = true) (configuration : Configuration)
    (replies : Replies) (stamp : String) :
    let context := contextOf configuration replies stamp shard cluster
    let report := run configuration replies stamp shard cluster
    (∀ call ∈ report.calls, call.isQuiet = true) ∧
    (∀ sent ∈ report.sent, ∃ key listed, context.view.get? key = some listed ∧
      Pod.Cleared listed sent) ∧
    List.Forall₂ (fun before after => before.markers.started = true → after = before)
      cluster.pods report.pods ∧
    ∀ primary, context.Admitted primary → context.Completes →
      report.sent.map Pod.key? =
          (context.view.filter fun _ pod => pod.markers.isAborted).keys.map some ∧
        (KeepsNames replies →
          List.Forall₂ (fun before after => ∀ key, context.view.get? key = some before →
            before.markers.isAborted = true → (replies.updatePod before.shownName).Succeeds →
              after.markers.acknowledged = false ∧ after.markers.finished = false)
            cluster.pods report.pods) ∧
        report.result =
          match report.sent.findSome? fun sent => (replies.updatePod sent.shownName).fault with
          | some fault => .error fault
          | none => .ok none := by
  intro context report
  have aborting : Context.isAborting context.view = true := by
    refine List.any_eq_true.mpr ⟨withdrawn, ?_, aborted⟩
    exact List.mem_map_of_mem (Keyed.mem_entries_iff.mpr listed)
  obtain ⟨made, isPrefix, calls, _⟩ := run_does_prefix configuration replies stamp shard cluster
  obtain ⟨sends, done, part, _, stored, _⟩ :=
    run_does_updates configuration replies stamp shard cluster
  refine ⟨?_, ?_, ?_, ?_⟩
  · intro call member
    have calls : report.calls = made.filterMap Deed.call? := calls
    rw [calls] at member
    exact Context.quiet_calls aborting call ((isPrefix.filterMap _).subset member)
  · intro pod member
    obtain ⟨update, inside, same⟩ := List.mem_map.mp (sends.subset member)
    obtain ⟨⟨key, found⟩, cleared⟩ := Context.cleared_of_mem_updates aborting inside
    exact ⟨key, update.listed, found, same ▸ cleared⟩
  · have stored : report.pods = storeAll cluster.pods (done.filterMap context.stored?) := stored
    rw [stored]
    exact Context.started_stays aborting names part
  · intro primary admitted completes
    have sent : report.sent = context.updates.map Update.sent := sent_of_completes completes
    refine ⟨?_, ?_, ?_⟩
    · rw [sent, Context.key?_updates]
      exact Context.keys_updates_of_aborting aborting admitted
    · intro keepsNames
      have pods : report.pods = cluster.pods.map (context.landing context.updates) :=
        pods_of_completes completes keepsNames names
      rw [pods, List.forall₂_map_right_iff]
      refine List.forall₂_same.mpr fun pod _ key found withdrawn succeeds => ?_
      obtain ⟨sent, inside⟩ := Context.mem_updates_of_aborted aborting admitted found withdrawn
      have gone := (Context.cleared_of_mem_updates aborting inside).2.gone
      have landed := Context.landing_of_mem names (List.prefix_refl _) inside succeeds
      dsimp only at gone landed
      rw [landed, Pod.markers, gone _ (.inl rfl), gone _ (.inr rfl)]
      exact ⟨rfl, rfl⟩
    · rw [sent, result_of_completes completes]
      exact Context.result_deeds aborting admitted

/-- The update of the third pod fails, and the request of the first waits. -/
theorem abort_freezes_in_sample :
    let pods := [Sample.pod "1" [(startedMarker, "")], Sample.pod "2" [(acknowledgedMarker, "")],
      Sample.pod "3" [(finishedMarker, "")]]
    let cluster := { Sample.cluster with pods := pods }
    let replies := Sample.refusing "tablet-3"
    let context := contextOf Sample.configuration replies "now" Sample.shard cluster
    let report := run Sample.configuration replies "now" Sample.shard cluster
    (pods.map Pod.shownName).Nodup ∧
      context.view.get? "zone1-0000000002" = some (Sample.pod "2" [(acknowledgedMarker, "")]) ∧
      context.Admitted ⟨"zone1", 1⟩ ∧ context.Completes ∧
      report.sent.map Pod.key? = [some "zone1-0000000002", some "zone1-0000000003"] ∧
      report.result = .error Sample.refusal ∧
      report.pods.map Pod.markers =
        [⟨true, false, false⟩, ⟨false, false, false⟩, ⟨false, false, true⟩] := by
  intro pods cluster replies context report
  have names : (pods.map Pod.shownName).Nodup := by decide
  have listed : context.view.get? "zone1-0000000002" =
      some (Sample.pod "2" [(acknowledgedMarker, "")]) := by decide
  have admitted : context.Admitted ⟨"zone1", 1⟩ := ⟨rfl, rfl, rfl, rfl, by decide, rfl⟩
  have completes : context.Completes := by
    unfold Context.Completes
    decide
  obtain ⟨_, _, _, whole⟩ := abort_freezes names listed (by decide) Sample.configuration replies "now"
  obtain ⟨keys, _, result⟩ := whole _ admitted completes
  exact ⟨names, listed, admitted, completes, keys.trans (by decide),
    result.trans (by decide), by decide⟩

end Pass

end TabletDrain
