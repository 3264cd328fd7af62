import TabletDrain.Proofs.Pass.Prompt
import TabletDrain.Proofs.Pass.Reasons
import TabletDrain.Proofs.Pass.Shadow
import TabletDrain.Proofs.Pass.Updates

/-! A dry run beside the live pass that it stands for. It makes none of the calls that act, whatever it
meets. Where the live pass meets no failure, the dry run goes through the same decisions: the pods that
it only takes to have been sent have the markers that the live pass has stored. -/
namespace TabletDrain

/-- Where the call acts or tells, it is answered at once and succeeds, and an update stores the pod that
is sent. -/
def Replies.Heed (replies : Replies) : Call → Prop
  | .updatePod sent =>
    let reply := replies.updatePod sent.shownName
    reply.delay = 0 ∧ reply.fault = none ∧ reply.returned.getD sent = sent
  | .execute tablet _ => replies.execute tablet = .prompt
  | .plannedReparent _ => replies.plannedReparent = .prompt
  | .externallyReparented _ => replies.externallyReparented = .prompt
  | .changeTabletType .. => replies.changeTabletType = .prompt
  | .event .. => ∀ calls, replies.publishAfter calls = 0
  | _ => True

/-- The call is heeded, and does not tell of a failed preparation. -/
def Replies.Favour (replies : Replies) (call : Call) : Prop :=
  replies.Heed call ∧ call.reason? ≠ some "MysqldSafeUpgradeFailed"

/-- The pods differ only in annotations, and have the same markers. -/
def Pod.Alike (pod other : Pod) : Prop := Reannotated pod other ∧ other.markers = pod.markers

theorem Pod.Alike.isEligible {pod other : Pod} (alike : pod.Alike other) (record : ShardRecord)
    (external : Bool) (tablet : Tablet) :
    Succession.isEligible record external tablet other =
      Succession.isEligible record external tablet pod := by
  unfold Succession.isEligible Succession.canBePromoted
  rw [alike.1.label?, alike.1.isReady, alike.2]

namespace Upgrade

theorem shadows_deedsFrom (setting : Setting) (tablets : Keyed Tablet) (desired : String)
    (pods : List (String × Pod)) :
    Shadows setting.replies.Favour (deedsFrom setting tablets desired pods) [] := by
  have here (pod : Pod) (tablet : Tablet) :
      Shadows setting.replies.Favour (tabletDeeds setting pod tablet desired) [] := by
    unfold tabletDeeds
    split
    · exact .nil
    · exact .nil
    · refine .skip rfl (fun _ => rfl) fun favoured => .idle (congrArg Reply.delay favoured.1) ?_
      split
      · exact .nil
      · exact .skip rfl (fun _ => rfl) fun _ => .nil
  induction pods with
  | nil => exact .nil
  | cons entry rest ih =>
    unfold deedsFrom
    split
    · exact ih
    · refine (here _ _).before fun _ => ?_
      split
      · exact .nil
      · exact ih

end Upgrade

namespace Pass.Context

/-- The same pass in a dry run, at another time. -/
def rehearsal (context : Context) (stamp : String) : Context :=
  { context with configuration := { context.configuration with dryRun := true }, stamp := stamp }

section Plain

variable {context : Context}

private theorem plain_warning {reason message : String} (upgrade : reason ≠ "MySQL_Upgrade")
    (reparent : reason ≠ "PlannedReparent") :
    ∀ deed ∈ [context.warning reason message], deed.IsPlain :=
  List.forall_mem_singleton.mpr ⟨upgrade, reparent⟩

theorem plain_readingDeeds (left : Nat) :
    ∀ deed ∈ context.readingDeeds left context.readings, deed.IsPlain := by
  have plain : ∀ reading ∈ context.readings, reading.call.isAct = false ∧
      reading.reason ≠ "MySQL_Upgrade" ∧ reading.reason ≠ "PlannedReparent" := by
    simp [readings, podReading, recordReading, tabletReading, Call.isAct]
  exact forall_mem_readingDeeds (fun reading member => (plain reading member).1)
    (fun _ _ _ => trivial) (fun reading member _ => (plain reading member).2) left

private theorem plain_requestDeeds (pod : Pod) : ∀ deed ∈ context.requestDeeds pod, deed.IsPlain := by
  unfold requestDeeds
  split
  · simp
  · exact plain_warning (by decide) (by decide)

private theorem plain_abortDeeds (pod : Pod) (message : String) :
    ∀ deed ∈ (if pod.markers.isAborted then [context.warning "AbortingDrain" message] else []),
      deed.IsPlain := by
  split
  · exact plain_warning (by decide) (by decide)
  · simp

private theorem plain_chooseDeeds (pods : Keyed Pod) (tablets : Keyed Tablet) :
    ∀ deed ∈ context.chooseDeeds pods tablets, deed.IsPlain := by
  unfold chooseDeeds
  refine List.forall_mem_append.mpr ⟨by simp [Succession.askDeeds, Deed.IsPlain, Call.isAct], ?_⟩
  split <;> simp [Deed.IsPlain]

private theorem plain_blocked (primary : Alias) :
    ∀ deed ∈ [context.warning "DrainBlocked" ("unable to drain primary tablet " ++ primary.text
        ++ ": no other tablet is a suitable primary candidate"),
      .requeueAfter context.timeouts.requeueDelay], deed.IsPlain := by
  simp [Deed.IsPlain, warning]

private theorem plain_notice (message : String) :
    ∀ deed ∈ [context.notice "NotReparentingPrimary" message], deed.IsPlain := by
  simp [Deed.IsPlain, notice]

variable (dryRun : context.configuration.dryRun = true)

include dryRun

theorem moveDeeds_of_dryRun (pod : Pod) (state : DrainState) : context.moveDeeds pod state = [] := by
  rw [moveDeeds_eq, update?, if_pos dryRun]
  rfl

theorem carryAll_of_dryRun (primary : String) (pods : Keyed Pod) (next : Keyed DrainState) :
    context.carryAll primary pods next = [] := by
  refine List.flatMap_eq_nil_iff.mpr fun entry _ => ?_
  unfold carryDeeds
  split
  · rfl
  · split
    · exact moveDeeds_of_dryRun dryRun _ _
    · rfl

theorem prepareDeeds_of_dryRun (pods : Keyed Pod) (tablets : Keyed Tablet) :
    context.prepareDeeds pods tablets = [] := if_pos dryRun

private theorem plain_loadDeeds (view : Keyed Pod) : ∀ deed ∈ context.loadDeeds view, deed.IsPlain := by
  refine List.forall_mem_flatMap.mpr fun pod _ => ?_
  unfold clearDeeds
  split
  · exact plain_requestDeeds pod
  · rw [moveDeeds_of_dryRun dryRun, List.append_nil]
    exact plain_abortDeeds pod _

private theorem plain_awayDeeds (primary : Alias) (pods : Keyed Pod) (tablets : Keyed Tablet) :
    ∀ deed ∈ context.awayDeeds primary pods tablets, deed.IsPlain := by
  unfold awayDeeds
  refine List.forall_mem_append.mpr ⟨plain_chooseDeeds pods tablets, ?_⟩
  split
  · exact plain_blocked primary
  · rw [if_pos dryRun]
    simp

/-- Whatever it meets, a dry run does nothing that acts or writes. -/
theorem plain_deeds : ∀ deed ∈ context.deeds, deed.IsPlain := by
  unfold deeds
  refine List.forall_mem_append.mpr ⟨plain_readingDeeds _, ?_⟩
  split
  · split
    · exact plain_warning (by decide) (by decide)
    · refine List.forall_mem_append.mpr ⟨plain_loadDeeds dryRun _, ?_⟩
      unfold actDeeds
      split
      · simp
      · split
        · exact plain_warning (by decide) (by decide)
        · rw [markDeeds, carryAll_of_dryRun dryRun, prepareDeeds_of_dryRun dryRun, List.nil_append,
            List.nil_append]
          split
          · unfold lastDeeds
            dsimp only
            split
            · exact plain_notice _
            · split
              · exact plain_notice _
              · exact plain_awayDeeds dryRun _ _ _
          · simp
  · simp [Deed.IsPlain]

end Plain

section Beside

variable {live : Context} {stamp : String} {pod updated : Pod} {state : DrainState} {primary : Alias}

private theorem shadows_sendDeeds (pod updated : Pod) :
    Shadows live.replies.Favour (live.sendDeeds pod updated) [] := by
  unfold sendDeeds
  refine .skip rfl (fun _ => rfl) fun favoured => .idle favoured.1.1 ?_
  rw [favoured.1.2.1]
  exact .idle trivial .nil

private theorem shadows_moveDeeds (pod : Pod) (state : DrainState) :
    Shadows live.replies.Favour (live.moveDeeds pod state) [] := by
  unfold moveDeeds
  split
  · split
    · exact .nil
    · exact shadows_sendDeeds _ _
  · exact .nil

private theorem shadows_loadDeeds (live : Context) (stamp : String) (view : Keyed Pod) :
    Shadows live.replies.Favour (live.loadDeeds view) ((live.rehearsal stamp).loadDeeds view) := by
  refine .flatMap fun pod _ => ?_
  unfold clearDeeds
  split
  · exact .refl (plain_requestDeeds pod)
  · have none : (live.rehearsal stamp).moveDeeds pod .notDraining = [] :=
      moveDeeds_of_dryRun rfl pod _
    rw [none]
    exact Shadows.append (.refl (plain_abortDeeds pod _)) fun _ => shadows_moveDeeds _ _

private theorem shadows_markDeeds (primary : Alias) :
    Shadows live.replies.Favour (live.markDeeds primary) [] := by
  have none : (live.next primary).entries.flatMap (fun _ => ([] : List Deed)) = [] :=
    List.flatMap_eq_nil_iff.mpr fun _ _ => rfl
  rw [← none]
  refine .flatMap fun entry _ => ?_
  unfold carryDeeds
  split
  · exact .nil
  · split
    · exact shadows_moveDeeds _ _
    · exact .nil

private theorem shadows_prepareDeeds (pods : Keyed Pod) (tablets : Keyed Tablet) :
    Shadows live.replies.Favour (live.prepareDeeds pods tablets) [] := by
  unfold prepareDeeds
  split
  · exact .nil
  · refine (Upgrade.shadows_deedsFrom live.setting _ _ _).before fun _ => ?_
    split
    · exact .nil
    · exact .skip rfl (fun favoured => absurd rfl favoured.2) fun favoured => absurd rfl favoured.2

private theorem isPrepared_of_favoured {pods : Keyed Pod} {tablets : Keyed Tablet}
    (favoured : ∀ call ∈ (live.prepareDeeds pods tablets).filterMap Deed.call?,
      live.replies.Favour call) : live.isPrepared pods tablets = true := by
  unfold prepareDeeds at favoured
  unfold isPrepared
  by_cases dryRun : live.configuration.dryRun = true
  · rw [dryRun, Bool.true_or]
  · rw [if_neg dryRun, List.filterMap_append, List.forall_mem_append] at favoured
    cases outcome : Upgrade.outcomeFrom live.setting tablets live.desiredImage pods.entries with
    | ok _ => exact Bool.or_true _
    | error fault =>
      have told := favoured.2
      rw [outcome] at told
      exact absurd rfl (told _ List.mem_cons_self).2

private theorem alike_moved (notLive : live.configuration.dryRun = false) (controlled : state ≠ .draining)
    (favoured : ∀ call ∈ (live.moveDeeds pod state).filterMap Deed.call?, live.replies.Favour call) :
    (live.moved pod state).Alike ((live.rehearsal stamp).moved pod state) := by
  obtain ⟨sent, moves⟩ := pod.exists_setDrainState? live.stamp controlled
  obtain ⟨taken, moves'⟩ := pod.exists_setDrainState? stamp controlled
  have markers := (Pod.markers_of_setDrainState? moves').trans (Pod.markers_of_setDrainState? moves).symm
  have same := Pod.reannotated_of_setDrainState? moves
  have same' := Pod.reannotated_of_setDrainState? moves'
  have alike : sent.Alike taken := ⟨by rw [Pod.Reannotated, same', same], markers⟩
  unfold moved
  rw [show (live.rehearsal stamp).stamp = stamp from rfl, moves, moves']
  unfold moveDeeds at favoured
  rw [moves] at favoured
  by_cases due : pod.markers.towards state = pod.markers
  · simp only [due, ne_eq, not_true_eq_false, decide_false]
    exact ⟨.refl pod, rfl⟩
  · simp only [due, ne_eq, not_false_eq_true, decide_true, notLive, Bool.false_eq_true, if_false]
      at favoured ⊢
    obtain ⟨_, accepted, stored⟩ := (favoured (.updatePod sent) List.mem_cons_self).1
    have dryRun : (live.rehearsal stamp).configuration.dryRun = true := rfl
    rw [if_pos dryRun, Context.sent, accepted]
    exact stored.symm ▸ alike

private theorem alike_carried (notLive : live.configuration.dryRun = false) {key : String}
    (quiet : isAborting live.view = false) (found : live.view.get? key = some pod)
    (favoured : ∀ call ∈ (live.markDeeds primary).filterMap Deed.call?, live.replies.Favour call) :
    (live.carried primary.text (live.next primary) key pod).Alike
      ((live.rehearsal stamp).carried primary.text (live.next primary) key pod) := by
  unfold carried
  cases stepped : (live.next primary).get? key with
  | none => exact ⟨.refl pod, rfl⟩
  | some state =>
    have controlled : state ≠ .draining := by
      rcases Drain.state_of_get?_advance stepped with same | same <;> rw [same] <;> decide
    by_cases withheld : state = .finished ∧ key = primary.text
    · simp only [withheld, and_self, if_true]
      exact ⟨.refl pod, rfl⟩
    · simp only [withheld, if_false]
      refine alike_moved notLive controlled fun call member => favoured call ?_
      obtain ⟨deed, inside, calls⟩ := List.mem_filterMap.mp member
      refine List.mem_filterMap.mpr ⟨deed, ?_, calls⟩
      refine List.mem_flatMap.mpr ⟨(key, state), Keyed.mem_entries_iff.mpr stepped, ?_⟩
      rw [carryDeeds, if_neg withheld, loaded_pods_eq quiet, found]
      exact inside

private theorem get?_held_of_quiet {context : Context} (quiet : isAborting context.view = false)
    (primary : Alias) (key : String) : (context.held primary).get? key =
      (context.view.get? key).map (context.carried primary.text (context.next primary) key) := by
  rw [held, Keyed.get?_mapKeyed, loaded_pods_eq quiet]

/-- The pods that the two passes hold in the end are alike, so that the same tablets are eligible. -/
private theorem eligible_held (notLive : live.configuration.dryRun = false)
    (quiet : isAborting live.view = false) (tablets : Keyed Tablet)
    (favoured : ∀ call ∈ (live.markDeeds primary).filterMap Deed.call?, live.replies.Favour call) :
    (live.rehearsal stamp).eligible ((live.rehearsal stamp).held primary) tablets =
      live.eligible (live.held primary) tablets := by
  have quiet' : isAborting (live.rehearsal stamp).view = false := quiet
  unfold eligible Succession.eligible
  refine List.filterMap_congr fun entry _ => ?_
  obtain ⟨key, tablet⟩ := entry
  dsimp only
  rw [get?_held_of_quiet quiet, get?_held_of_quiet quiet']
  cases found : live.view.get? key with
  | none =>
    rw [show (live.rehearsal stamp).view.get? key = none from found]
    rfl
  | some pod =>
    rw [show (live.rehearsal stamp).view.get? key = some pod from found]
    have alike : (live.carried primary.text (live.next primary) key pod).Alike
        ((live.rehearsal stamp).carried primary.text (live.next primary) key pod) :=
      alike_carried notLive quiet found favoured
    exact if_congr (iff_of_eq (congrArg (· = true) (alike.isEligible _ _ tablet))) rfl rfl

private theorem handoverOutcome_of_favoured {oldPrimary newPrimary : Alias}
    (favoured : ∀ call ∈ (live.handoverDeeds oldPrimary newPrimary).filterMap Deed.call?,
      live.replies.Favour call) : live.handoverOutcome = .ok () := by
  unfold handoverDeeds at favoured
  unfold handoverOutcome
  split at favoured
  · rename_i external
    have told : live.replies.externallyReparented = .prompt := (favoured _ List.mem_cons_self).1
    rw [externalDeeds, told] at favoured
    have demoted : live.replies.changeTabletType = .prompt :=
      (favoured (.changeTabletType oldPrimary .spare) (by simp [Reply.outcome, Reply.prompt, Deed.call?])).1
    rw [if_pos external, externalOutcome, told, demoted]
    rfl
  · rename_i own
    have done : live.replies.plannedReparent = .prompt := (favoured _ List.mem_cons_self).1
    rw [if_neg own, plannedOutcome, done]
    exact if_pos (Nat.zero_le _)

private theorem shadows_handoverDeeds (oldPrimary newPrimary : Alias) :
    Shadows live.replies.Favour (live.handoverDeeds oldPrimary newPrimary) [] := by
  unfold handoverDeeds
  split
  · refine .skip rfl (fun _ => rfl) fun favoured => .idle (congrArg Reply.delay favoured.1) ?_
    split
    · exact .nil
    · exact .skip rfl (fun _ => rfl) fun favoured => .idle (congrArg Reply.delay favoured.1) .nil
  · exact .skip rfl (fun _ => rfl) fun favoured => .idle (congrArg Reply.delay favoured.1) .nil

private theorem shadows_awayDeeds (notLive : live.configuration.dryRun = false) {pods pods' : Keyed Pod}
    {tablets : Keyed Tablet}
    (same : (live.rehearsal stamp).eligible pods' tablets = live.eligible pods tablets) :
    Shadows live.replies.Favour (live.awayDeeds primary pods tablets)
      ((live.rehearsal stamp).awayDeeds primary pods' tablets) := by
  have answers : (live.rehearsal stamp).answers pods' tablets = live.answers pods tablets := by
    rw [Context.answers, same]
    rfl
  have choose : (live.rehearsal stamp).chooseDeeds pods' tablets = live.chooseDeeds pods tablets := by
    rw [chooseDeeds, same, answers]
    rfl
  have candidate : (live.rehearsal stamp).candidate pods' tablets = live.candidate pods tablets := by
    rw [Context.candidate, same, answers]
    rfl
  unfold awayDeeds
  rw [choose, candidate]
  refine Shadows.append (.refl (plain_chooseDeeds pods tablets)) fun _ => ?_
  cases live.candidate pods tablets with
  | none => exact .refl (plain_blocked primary)
  | some tablet =>
    have dryRun : (live.rehearsal stamp).configuration.dryRun = true := rfl
    dsimp only
    rw [notLive, if_neg Bool.false_ne_true, if_pos dryRun]
    refine (shadows_handoverDeeds _ _).before fun favoured => ?_
    rw [tellDeeds, handoverOutcome_of_favoured favoured]
    exact .skip rfl (fun _ => rfl) fun _ => .skip rfl (fun _ => rfl) fun _ => .nil

private theorem shadows_actDeeds (notLive : live.configuration.dryRun = false) (primary : Alias) :
    Shadows live.replies.Favour (live.actDeeds primary) ((live.rehearsal stamp).actDeeds primary) := by
  have requests : Drain.requests (live.rehearsal stamp).view = Drain.requests live.view := rfl
  have aborts : isAborting (live.rehearsal stamp).view = isAborting live.view := rfl
  unfold actDeeds
  rw [requests, aborts]
  split
  · exact .nil
  · split
    · exact .refl (plain_warning (by decide) (by decide))
    · rename_i acting
      have quiet := Bool.eq_false_iff.mpr acting
      rw [show (live.rehearsal stamp).markDeeds primary = [] from carryAll_of_dryRun rfl _ _ _,
        show (live.rehearsal stamp).prepareDeeds ((live.rehearsal stamp).held primary)
          (live.rehearsal stamp).tablets = [] from prepareDeeds_of_dryRun rfl _ _,
        List.append_assoc]
      refine (shadows_markDeeds primary).before fun marked => ?_
      refine (shadows_prepareDeeds _ _).before fun prepared => ?_
      have ready : (live.rehearsal stamp).isPrepared ((live.rehearsal stamp).held primary)
          (live.rehearsal stamp).tablets = true := rfl
      rw [if_pos (isPrepared_of_favoured prepared), if_pos ready]
      have same : (live.rehearsal stamp).eligible ((live.rehearsal stamp).held primary) live.tablets =
          live.eligible (live.held primary) live.tablets := eligible_held notLive quiet _ marked
      rw [List.append_nil, List.nil_append]
      unfold lastDeeds
      rw [show (live.rehearsal stamp).next primary = live.next primary from rfl]
      dsimp only
      split
      · exact .refl (plain_notice _)
      · split
        · exact .refl (plain_notice _)
        · exact shadows_awayDeeds notLive same

/-- What a dry run would do beside what the live pass would do. -/
theorem shadows_deeds (notLive : live.configuration.dryRun = false) (stamp : String) :
    Shadows live.replies.Favour live.deeds (live.rehearsal stamp).deeds := by
  unfold deeds
  rw [@readingDeeds_congr live _ rfl rfl, @isRead_congr live _ rfl]
  refine Shadows.append (.refl (plain_readingDeeds _)) fun _ => ?_
  change Shadows _ (if live.isRead live.timeouts.read live.readings then _ else _)
    (if live.isRead live.timeouts.read live.readings then _ else _)
  split
  · have same : Shard.healthyPrimary (live.rehearsal stamp).shard.status
        (live.rehearsal stamp).cluster.record =
      Shard.healthyPrimary live.shard.status live.cluster.record := rfl
    rw [same]
    cases Shard.healthyPrimary live.shard.status live.cluster.record with
    | error reason => exact .refl (plain_warning (by decide) (by decide))
    | ok primary =>
      exact (shadows_loadDeeds live stamp live.view).append fun _ => shadows_actDeeds notLive primary
  · exact .refl (by simp [Deed.IsPlain])

end Beside

end Pass.Context

namespace Pass

/-- A dry run makes no call that acts, and stores nothing. Where the live pass from the same state has
its calls heeded and prepares the upgrades that it has to, the dry run logs what the live pass does, but
for the acts, at the same times, and ends with the same result. -/
theorem dry_run_rehearses (configuration : Configuration) (replies : Replies) (stamp stamp' : String)
    (shard : Shard) (cluster : Cluster) :
    let dry := run { configuration with dryRun := true } replies stamp shard cluster
    let live := run { configuration with dryRun := false } replies stamp' shard cluster
    (∀ call ∈ dry.calls, call.isAct = false) ∧ dry.pods = cluster.pods ∧ dry.history = [] ∧
      ((∀ call ∈ live.calls, replies.Heed call) →
        (∀ call ∈ live.calls, call.reason? ≠ some "MysqldSafeUpgradeFailed") →
          dry.log = live.log.filter (fun entry => !entry.call.isAct) ∧ dry.result = live.result ∧
            dry.elapsed = live.elapsed) := by
  intro dry live
  let context := contextOf { configuration with dryRun := false } replies stamp' shard cluster
  let rehearsal := contextOf { configuration with dryRun := true } replies stamp shard cluster
  have plain : ∀ deed ∈ rehearsal.deeds, deed.IsPlain := Context.plain_deeds rfl
  obtain ⟨made, part, calls, history, pods⟩ :=
    run_does_prefix { configuration with dryRun := true } replies stamp shard cluster
  have unwritten : made.filterMap Deed.write? = [] := by
    refine List.filterMap_eq_nil_iff.mpr fun deed member => ?_
    have here := plain deed (part.subset member)
    cases deed <;> first | rfl | exact absurd here id
  refine ⟨fun call member => ?_, ?_, ?_, fun heeded prepared => ?_⟩
  · rw [calls] at member
    obtain ⟨deed, inside, called⟩ := List.mem_filterMap.mp member
    exact (plain deed (part.subset inside)).call called
  · rw [pods, unwritten]
    rfl
  · rw [history, unwritten]
    rfl
  · have lived : live = reportOf configuration.timeouts.pass
        (perform context.setting context.deeds (.start cluster.pods)) := run_eq _ _ _ _ _
    have rehearsed : dry = reportOf configuration.timeouts.pass
        (perform context.setting rehearsal.deeds (.start cluster.pods)) := run_eq _ _ _ _ _
    rw [lived] at heeded prepared
    have shadows : Shadows replies.Favour context.deeds rehearsal.deeds :=
      @Context.shadows_deeds context rfl stamp
    have atOnce : EventsAtOnce context.setting replies.Favour := fun _ _ _ _ favoured => favoured.1
    have start : (Progress.start cluster.pods).Shadows (.start cluster.pods) := ⟨rfl, rfl, rfl⟩
    obtain ⟨ends, alike⟩ := perform_shadows atOnce shadows start
      fun call member => ⟨heeded call member, prepared call member⟩
    rw [lived, rehearsed]
    refine ⟨alike.log, ?_, alike.now⟩
    simp only [reportOf, ends, alike.results]

/-- The primary is finished, and the other request is new: the live pass sends a pod and hands over, and
the dry run only asks the candidate how far it has got. -/
theorem dry_run_rehearses_sample :
    let cluster := { Sample.cluster with
      pods := [Sample.pod "1" [(startedMarker, ""), (acknowledgedMarker, ""), (finishedMarker, "")],
        Sample.pod "2" [(startedMarker, "")], Sample.pod "3" []] }
    let replies := { Replies.atOnce with replicationStatus := fun _ => ⟨500, none, none⟩ }
    let dry := run { Sample.configuration with dryRun := true } replies "now" Sample.shard cluster
    let live := run { Sample.configuration with dryRun := false } replies "later" Sample.shard cluster
    (∀ call ∈ live.calls, replies.Heed call) ∧
      (∀ call ∈ live.calls, call.reason? ≠ some "MysqldSafeUpgradeFailed") ∧
      (live.calls.filter Call.isAct).length = 4 ∧
      dry.log = live.log.filter (fun entry => !entry.call.isAct) ∧ dry.result = live.result ∧
      dry.elapsed = 500 := by
  intro cluster replies dry live
  have heeded (call : Call) : replies.Heed call := by
    cases call with
    | updatePod sent => exact ⟨rfl, rfl, rfl⟩
    | event severity object reason message => exact fun _ => rfl
    | _ => trivial
  have prepared : ∀ call ∈ live.calls, call.reason? ≠ some "MysqldSafeUpgradeFailed" := by
    decide +kernel
  obtain ⟨_, _, _, beside⟩ :=
    dry_run_rehearses Sample.configuration replies "now" "later" Sample.shard cluster
  obtain ⟨log, result, _⟩ := beside (fun call _ => heeded call) prepared
  exact ⟨fun call _ => heeded call, prepared, by decide +kernel, log, result, by decide +kernel⟩

end Pass

end TabletDrain
