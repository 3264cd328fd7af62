import TabletDrain.Proofs.Pass.Prompt
import TabletDrain.Proofs.Pass.Quiet
import TabletDrain.Proofs.Pass.Reasons

/-! Preparing database upgrades before a hand-over. A pass asks no tablet to take over before every
tablet whose database is about to be moved can be moved safely. The first one that cannot ends the
pass, which then notes why, unless an update has failed before. -/
namespace TabletDrain

namespace Upgrade

variable {setting : Setting} {tablets : Keyed Tablet} {desired : String} {key : String} {pod : Pod}
  {tablet : Tablet}

/-- Why the database under a key cannot be moved. A pod without a tablet is passed over. -/
def failure? (replies : Replies) (tablets : Keyed Tablet) (desired : String)
    (entry : String × Pod) : Option Fault :=
  (tablets.get? entry.1).bind fun tablet =>
    match imagesNeedSlowShutdown ((entry.2.image? databaseContainer).getD "") desired with
    | .error fault => some fault
    | .ok false => none
    | .ok true => (replies.execute tablet.name).fault.map (statementFailed entry.1)

theorem failure?_of_no_tablet {replies : Replies} (absent : tablets.get? key = none) :
    failure? replies tablets desired (key, pod) = none := by
  rw [failure?, absent]
  rfl

theorem failure?_of_tablet (found : tablets.get? key = some tablet) :
    failure? setting.replies tablets desired (key, pod) =
      match tabletOutcome setting key pod tablet desired with
      | .error fault => some fault
      | .ok () => none := by
  rw [failure?, found]
  dsimp only [Option.bind_some]
  unfold tabletOutcome
  cases imagesNeedSlowShutdown ((pod.image? databaseContainer).getD "") desired with
  | error fault => rfl
  | ok needed =>
    cases needed with
    | false => rfl
    | true => cases (setting.replies.execute tablet.name).fault <;> rfl

/-- Preparing ends with the first failure, in the order of the keys. -/
theorem outcomeFrom_eq (pods : List (String × Pod)) :
    outcomeFrom setting tablets desired pods =
      match pods.findSome? (failure? setting.replies tablets desired) with
      | some fault => .error fault
      | none => .ok () := by
  induction pods with
  | nil => rfl
  | cons entry rest ih =>
    obtain ⟨key, pod⟩ := entry
    unfold outcomeFrom
    rw [List.findSome?_cons]
    cases found : tablets.get? key with
    | none =>
      rw [failure?_of_no_tablet found]
      exact ih
    | some tablet =>
      rw [failure?_of_tablet found]
      dsimp only
      cases tabletOutcome setting key pod tablet desired with
      | error fault => rfl
      | ok _ => exact ih

/-- Unless it fails, preparing sends the statement to every tablet that needs it. -/
theorem execute_mem_deedsFrom {pods : List (String × Pod)}
    (ready : outcomeFrom setting tablets desired pods = .ok ()) (inside : (key, pod) ∈ pods)
    (found : tablets.get? key = some tablet)
    (needed : imagesNeedSlowShutdown ((pod.image? databaseContainer).getD "") desired = .ok true) :
    .call (.execute tablet.name slowShutdown) ∈ deedsFrom setting tablets desired pods := by
  induction pods with
  | nil => exact absurd inside List.not_mem_nil
  | cons entry rest ih =>
    obtain ⟨first, held⟩ := entry
    unfold outcomeFrom at ready
    unfold deedsFrom
    rcases List.mem_cons.mp inside with same | later
    · cases same
      rw [found]
      refine List.mem_append_left _ ?_
      rw [tabletDeeds, needed]
      exact List.mem_append_left _ List.mem_cons_self
    · cases recorded : tablets.get? first with
      | none =>
        rw [recorded] at ready
        exact ih ready later
      | some other =>
        rw [recorded] at ready
        dsimp only at ready ⊢
        cases outcome : tabletOutcome setting first held other desired with
        | error fault =>
          rw [outcome] at ready
          cases ready
        | ok _ =>
          rw [outcome] at ready
          exact List.mem_append_right _ (ih ready later)

section Reannotated

variable {change : String → Pod → Pod} (same : ∀ key pod, Pod.Reannotated pod (change key pod))

include same

/-- Preparing depends on nothing that moving the markers changes. -/
theorem prepare_reannotated (pods : List (String × Pod)) :
    outcomeFrom setting tablets desired (pods.map fun entry => (entry.1, change entry.1 entry.2)) =
        outcomeFrom setting tablets desired pods ∧
      deedsFrom setting tablets desired (pods.map fun entry => (entry.1, change entry.1 entry.2)) =
        deedsFrom setting tablets desired pods := by
  have ref (key : String) (pod : Pod) : (change key pod).ref = pod.ref := by
    rw [same key pod]
    rfl
  have outcome (key : String) (pod : Pod) (tablet : Tablet) :
      tabletOutcome setting key (change key pod) tablet desired =
        tabletOutcome setting key pod tablet desired := by
    unfold tabletOutcome
    rw [(same key pod).image?]
  have deeds (key : String) (pod : Pod) (tablet : Tablet) :
      tabletDeeds setting (change key pod) tablet desired = tabletDeeds setting pod tablet desired := by
    unfold tabletDeeds
    rw [(same key pod).image?, ref]
  induction pods with
  | nil => exact ⟨rfl, rfl⟩
  | cons entry rest ih =>
    simp only [List.map_cons, outcomeFrom, deedsFrom, outcome, deeds, ih.1, ih.2, and_self]

end Reannotated

end Upgrade

namespace Pass

namespace Context

variable {context : Context} {primary : Alias}

/-- Whether the database of a pod has to shut down slowly before it is moved to the desired image. -/
def needsSlowShutdown (context : Context) (pod : Pod) : Except Fault Bool :=
  Upgrade.imagesNeedSlowShutdown ((pod.image? databaseContainer).getD "") context.desiredImage

theorem prepare_held (faithful : Faithful context.replies) (acting : context.isActing = true) :
    Upgrade.outcomeFrom context.setting context.tablets context.desiredImage
          (context.held primary).entries =
        Upgrade.outcomeFrom context.setting context.tablets context.desiredImage
          context.view.entries ∧
      Upgrade.deedsFrom context.setting context.tablets context.desiredImage
          (context.held primary).entries =
        Upgrade.deedsFrom context.setting context.tablets context.desiredImage
          context.view.entries := by
  rw [held, loaded_pods_of_isActing acting]
  exact Upgrade.prepare_reannotated (fun key pod => reannotated_carried faithful key pod) _

section Late

private theorem prefix_of_not_mem {first second earlier later : List Call} {call : Call}
    (part : earlier ++ call :: later <+: first ++ second) (absent : call ∉ first) :
    first <+: earlier := by
  obtain ⟨tail, same⟩ := part
  rw [List.append_assoc] at same
  rcases List.append_eq_append_iff.mp same with ⟨rest, reached, here⟩ | ⟨rest, reached, _⟩
  · cases rest with
    | nil => exact ⟨[], by rw [reached, List.append_nil, List.append_nil]⟩
    | cons other rest =>
      obtain ⟨rfl, _⟩ := List.cons.inj here
      exact absurd (reached ▸ List.mem_append_right _ List.mem_cons_self) absent
  · exact ⟨rest, reached.symm⟩

private theorem not_mem_calls {deeds : List Deed} {call : Call}
    (nothing : partFor call.purpose deeds = []) : call ∉ deeds.filterMap Deed.call? := by
  intro inside
  have kept : call ∈ (deeds.filterMap Deed.call?).filter fun made => made.purpose = call.purpose :=
    List.mem_filter.mpr ⟨inside, by simp⟩
  rw [filter_calls, nothing] at kept
  exact List.not_mem_nil kept

/-- Before a pass asks a tablet or hands over, all that leads up to it is done, and preparing has not
failed. -/
theorem of_late_call {call : Call} {earlier later : List Call}
    (late : call.purpose = .ask ∨ call.purpose = .handOver)
    (made : earlier ++ call :: later <+: context.deeds.filterMap Deed.call?) :
    ∃ primary, context.served? = some primary ∧ context.isActing = true ∧
      context.isPrepared (context.held primary) context.tablets = true ∧
        (context.leadDeeds primary).filterMap Deed.call? <+: earlier := by
  have member : call ∈ context.deeds.filterMap Deed.call? :=
    made.subset (List.mem_append_right _ List.mem_cons_self)
  have apart : call.purpose ≠ .read ∧ call.purpose ≠ .update ∧ call.purpose ≠ .prepare ∧
      call.purpose ≠ .tell := by
    rcases late with same | same <;> rw [same] <;> decide
  obtain ⟨unread, unmarked, unprepared, untold⟩ := apart
  have parts := @partFor_deeds context call.purpose unread untold
  cases served : context.served? with
  | none =>
    rw [served] at parts
    exact absurd member (not_mem_calls parts)
  | some primary =>
    by_cases acting : context.isActing = true
    -- No such call is in what leads up, so the run has passed all of that when it makes one.
    · have absent : call ∉ (context.leadDeeds primary).filterMap Deed.call? :=
        not_mem_calls (partFor_leadDeeds late)
      rw [deeds_of_acting served acting] at made
      rw [List.filterMap_append] at made
      refine ⟨primary, rfl, acting, ?_, prefix_of_not_mem made absent⟩
      by_contra unready
      rw [if_neg unready, List.filterMap_nil, List.append_nil] at made
      exact absent (made.subset (List.mem_append_right _ List.mem_cons_self))
    · rw [served] at parts
      dsimp only at parts
      rw [partFor_actDeeds _ unprepared untold, if_neg acting,
        partFor_eq_nil (serve_loadDeeds _) unmarked untold] at parts
      exact absurd member (not_mem_calls parts)

/-- What is prepared was told to shut down slowly, where it needs that, in what leads up to the rest. -/
theorem prepared_in_lead (live : context.configuration.dryRun = false)
    (faithful : Faithful context.replies) (acting : context.isActing = true)
    (prepared : context.isPrepared (context.held primary) context.tablets = true) {key : String}
    {pod : Pod} {tablet : Tablet} (listed : context.view.get? key = some pod)
    (recorded : context.tablets.get? key = some tablet) :
    context.needsSlowShutdown pod = .ok false ∨
      context.needsSlowShutdown pod = .ok true ∧
        .execute tablet.name Upgrade.slowShutdown ∈
          (context.leadDeeds primary).filterMap Deed.call? ∧
        (context.replies.execute tablet.name).fault = none := by
  obtain ⟨outcome, deeds⟩ := @prepare_held context primary faithful acting
  have inside := Keyed.mem_entries_iff.mpr listed
  have ready : Upgrade.outcomeFrom context.setting context.tablets context.desiredImage
      context.view.entries = .ok () := by
    rw [isPrepared, live, Bool.false_or, outcome] at prepared
    cases reached : Upgrade.outcomeFrom context.setting context.tablets context.desiredImage
      context.view.entries with
    | ok _ => rfl
    | error fault =>
      rw [reached] at prepared
      cases prepared
  have each := Upgrade.outcomeFrom_eq_ok_iff.mp ready key pod tablet inside recorded
  rcases Upgrade.tabletOutcome_eq_ok_iff.mp each with safe | ⟨needed, succeeded⟩
  · exact .inl safe
  · refine .inr ⟨needed, ?_, succeeded⟩
    have told := Upgrade.execute_mem_deedsFrom ready inside recorded needed
    rw [← deeds] at told
    have inLead : .call (.execute tablet.name Upgrade.slowShutdown) ∈ context.leadDeeds primary := by
      rw [leadDeeds, prepareDeeds, live]
      simp only [Bool.false_eq_true, if_false, List.mem_append]
      exact .inr (.inr (.inr (.inl told)))
    exact List.mem_filterMap.mpr ⟨_, inLead, rfl⟩

end Late

section Failed

variable (admitted : context.Admitted primary) (faithful : Faithful context.replies)
  (acting : context.isActing = true) {fault : Fault}
  (failed : context.view.entries.findSome?
    (Upgrade.failure? context.replies context.tablets context.desiredImage) = some fault)

include admitted faithful acting failed

omit admitted in
theorem outcome_of_failed :
    Upgrade.outcomeFrom context.setting context.tablets context.desiredImage
      (context.held primary).entries = .error fault := by
  rw [(prepare_held faithful acting).1, Upgrade.outcomeFrom_eq]
  change (match context.view.entries.findSome?
    (Upgrade.failure? context.replies context.tablets context.desiredImage) with
    | some fault => Except.error fault
    | none => .ok ()) = _
  rw [failed]

/-- The pass ends with the failure. -/
theorem deeds_of_failed : context.deeds = context.leadDeeds primary := by
  have unready : ¬context.isPrepared (context.held primary) context.tablets = true := by
    rw [isPrepared, admitted.live, outcome_of_failed faithful acting failed]
    exact Bool.false_ne_true
  rw [deeds_of_acting admitted.served acting, if_neg unready, List.append_nil]

theorem prepareDeeds_of_failed :
    context.prepareDeeds (context.held primary) context.tablets =
      Upgrade.deedsFrom context.setting context.tablets context.desiredImage
          (context.held primary).entries ++
        [context.warning "MysqldSafeUpgradeFailed"
          ("failed to disable fast shutdown: " ++ fault.message), .fail fault] := by
  rw [prepareDeeds, admitted.live, outcome_of_failed faithful acting failed]
  rfl

theorem calls_of_failed : ∀ call ∈ context.deeds.filterMap Deed.call?,
    call.isQuiet = true ∨ call.purpose = .prepare := by
  have prepares : ∀ deed ∈ Upgrade.deedsFrom context.setting context.tablets context.desiredImage
      (context.held primary).entries, deed.IsQuiet ∨ deed.purpose = .prepare :=
    Upgrade.forall_mem_deedsFrom (fun _ => .inr rfl) (fun _ => .inl trivial)
      (fun _ _ => .inl trivial) _ _
  have all : ∀ deed ∈ context.deeds, deed.IsQuiet ∨ deed.purpose = .prepare := by
    rw [deeds_of_failed admitted faithful acting failed, leadDeeds,
      prepareDeeds_of_failed admitted faithful acting failed]
    refine List.forall_mem_append.mpr ⟨fun deed inside => .inl (quiet_readingDeeds _ deed inside), ?_⟩
    refine List.forall_mem_append.mpr ⟨fun deed inside => .inl (quiet_loadDeeds _ deed inside), ?_⟩
    refine List.forall_mem_append.mpr ⟨fun deed inside => .inl (quiet_markDeeds _ deed inside), ?_⟩
    exact List.forall_mem_append.mpr ⟨prepares, by simp [Deed.IsQuiet, warning]⟩
  intro call member
  obtain ⟨deed, inside, called⟩ := List.mem_filterMap.mp member
  rcases all deed inside with quiet | prepares
  · exact .inl (quiet.call called)
  · cases deed <;> cases called
    · exact .inr prepares
    · exact .inl rfl

/-- The failure is told once. -/
theorem countP_reason_of_failed :
    ((context.deeds.filterMap Deed.call?).countP fun call =>
      call.reason? = some "MysqldSafeUpgradeFailed") = 1 := by
  have untold {reasons : List String} {deeds : List Deed} (tells : Tells reasons deeds)
      (foreign : "MysqldSafeUpgradeFailed" ∉ reasons) :
      ((deeds.filterMap Deed.call?).countP fun call =>
        call.reason? = some "MysqldSafeUpgradeFailed") = 0 := by
    refine List.countP_eq_zero.mpr fun call member => ?_
    simpa using tells.reason?_ne foreign call member
  rw [deeds_of_failed admitted faithful acting failed, leadDeeds,
    prepareDeeds_of_failed admitted faithful acting failed]
  simp only [List.filterMap_append, List.countP_append]
  rw [untold (tells_readingDeeds _) (by decide), untold (tells_loadDeeds _) (by decide),
    untold (tells_markDeeds _) (by decide), untold (Upgrade.tells_deedsFrom _ _ _ _) (by decide)]
  rfl

/-- The first failure of an update counts, and else what keeps a database from being moved. -/
theorem result_of_failed :
    (context.deeds.foldl Deed.note .empty).result =
      .error (((context.updates.map Update.sent).findSome? fun sent =>
        (context.replies.updatePod sent.shownName).fault).getD fault) := by
  have unprepared : context.unprepared? = some fault := by
    rw [unprepared?, admitted.served, Option.bind_some, acting, admitted.live,
      outcome_of_failed faithful acting failed]
    rfl
  rw [result_eq_ending, ending, unprepared]
  cases (context.updates.map Update.sent).findSome? fun sent =>
    (context.replies.updatePod sent.shownName).fault <;> rfl

end Failed

end Context

/-- No hand-over before the upgrade is safe. Ahead of every call that asks a tablet or hands over, each
database that has to shut down slowly was told so, and none is moved down. Where that cannot be had, no
tablet is asked or told anything further, the pass tells so once, and it fails. -/
theorem handover_prepared {configuration : Configuration} {replies : Replies}
    (live : configuration.dryRun = false) (faithful : Faithful replies) (stamp : String)
    (shard : Shard) (cluster : Cluster) :
    let context := contextOf configuration replies stamp shard cluster
    let report := run configuration replies stamp shard cluster
    (∀ earlier call later, report.calls = earlier ++ call :: later →
      call.purpose = .ask ∨ call.purpose = .handOver →
      ∀ key pod tablet, context.view.get? key = some pod → context.tablets.get? key = some tablet →
        context.needsSlowShutdown pod = .ok false ∨
          context.needsSlowShutdown pod = .ok true ∧
            .execute tablet.name Upgrade.slowShutdown ∈ earlier ∧
            (replies.execute tablet.name).fault = none) ∧
    ∀ primary, context.Admitted primary →
      (∃ key pod, context.view.get? key = some pod ∧ pod.markers.started = true) →
      (∀ key pod, context.view.get? key = some pod → pod.markers.isAborted = false) →
      (∃ key pod tablet, context.view.get? key = some pod ∧
        context.tablets.get? key = some tablet ∧
          ((∃ fault, context.needsSlowShutdown pod = .error fault) ∨
            context.needsSlowShutdown pod = .ok true ∧
              (replies.execute tablet.name).fault ≠ none)) →
      (∀ call ∈ report.calls, call.isQuiet = true ∨ call.purpose = .prepare) ∧
      (context.Completes →
        (report.calls.countP fun call => call.reason? = some "MysqldSafeUpgradeFailed") = 1 ∧
        ∃ fault, context.view.entries.findSome?
            (Upgrade.failure? replies context.tablets context.desiredImage) = some fault ∧
          report.result = .error ((report.sent.findSome? fun sent =>
            (replies.updatePod sent.shownName).fault).getD fault)) := by
  intro context report
  have live : context.configuration.dryRun = false := live
  have faithful : Faithful context.replies := faithful
  obtain ⟨made, isPrefix, calls, _⟩ := run_does_prefix configuration replies stamp shard cluster
  have part : report.calls <+: context.deeds.filterMap Deed.call? :=
    calls ▸ isPrefix.filterMap Deed.call?
  refine ⟨?_, ?_⟩
  · intro earlier call later split late key pod tablet listed recorded
    rw [split] at part
    obtain ⟨primary, _, acting, prepared, lead⟩ := Context.of_late_call late part
    rcases Context.prepared_in_lead live faithful acting prepared listed recorded with
      safe | ⟨needed, told, succeeded⟩
    · exact .inl safe
    · exact .inr ⟨needed, lead.subset told, succeeded⟩
  · intro primary admitted requested settled blocked
    have acting : context.isActing = true := by
      obtain ⟨key, pod, listed, started⟩ := requested
      refine Context.isActing_of_requested (Drain.get?_requests.mpr ⟨pod, listed, started, rfl⟩) ?_
      exact Context.isAborting_eq_false_iff.mpr fun entry inside =>
        settled entry.1 entry.2 (Keyed.get?_of_mem inside)
    obtain ⟨fault, failed⟩ : ∃ fault, context.view.entries.findSome?
        (Upgrade.failure? replies context.tablets context.desiredImage) = some fault := by
      obtain ⟨key, pod, tablet, listed, recorded, reason⟩ := blocked
      refine Option.ne_none_iff_exists'.mp fun none => ?_
      have passes := List.findSome?_eq_none_iff.mp none _ (Keyed.mem_entries_iff.mpr listed)
      rw [Upgrade.failure?, recorded, Option.bind_some] at passes
      rcases reason with ⟨refusal, down⟩ | ⟨needed, refused⟩
      · rw [Context.needsSlowShutdown] at down
        rw [down] at passes
        cases passes
      · rw [Context.needsSlowShutdown] at needed
        rw [needed] at passes
        exact refused (Option.map_eq_none_iff.mp passes)
    refine ⟨fun call member => ?_, fun completes => ⟨?_, fault, failed, ?_⟩⟩
    · exact Context.calls_of_failed admitted faithful acting failed call (part.subset member)
    · rw [show report.calls = _ from calls_of_completes completes]
      exact Context.countP_reason_of_failed admitted faithful acting failed
    · rw [show report.result = _ from result_of_completes completes,
        show report.sent = _ from sent_of_completes completes]
      exact Context.result_of_failed admitted faithful acting failed

/-- Every database is moved up, and the finished primary is moved away from; or that of the third
tablet would be moved down, and the request of the second pod cannot be answered. -/
theorem handover_prepared_in_sample :
    let pod (uid image : String) (annotations : List (String × String)) : Pod :=
      { Sample.pod uid annotations with containers := some [⟨databaseContainer, some image⟩] }
    let leaving := pod "1" "mysql:8.0.30"
      [(startedMarker, ""), (acknowledgedMarker, ""), (finishedMarker, "")]
    let shard := { Sample.shard with
      spec := { Sample.spec with databaseImage := some "mysql:8.0.31" } }
    let upward := { Sample.cluster with
      pods := [leaving, pod "2" "mysql:8.0.30" [], pod "3" "mysql:8.0.31" [(startedMarker, "")]] }
    let downward := { Sample.cluster with
      pods := [leaving, pod "2" "mysql:8.0.30" [(startedMarker, "")], pod "3" "mysql:8.0.33" []] }
    let planned : Call := .plannedReparent ⟨"main", "0", ⟨"zone1", 2⟩, none, 1000, 1000⟩
    let replies := Sample.refusing "tablet-2"
    let context := contextOf Sample.configuration replies "now" shard downward
    let failed := run Sample.configuration replies "now" shard downward
    Sample.configuration.dryRun = false ∧ Faithful .atOnce ∧ Faithful replies ∧
      (∃ earlier later, (run Sample.configuration .atOnce "now" shard upward).calls =
          earlier ++ planned :: later ∧
        .execute ⟨"zone1", 1⟩ Upgrade.slowShutdown ∈ earlier) ∧
      context.Admitted ⟨"zone1", 1⟩ ∧ context.Completes ∧
      (failed.calls.countP fun call => call.reason? = some "MysqldSafeUpgradeFailed") = 1 ∧
      failed.result = .error Sample.refusal := by
  intro pod leaving shard upward downward planned replies context failed
  have live : Sample.configuration.dryRun = false := rfl
  have faithful : Faithful .atOnce := fun _ => rfl
  have faithful' : Faithful replies := by
    intro name
    by_cases same : name = "tablet-2" <;> simp [replies, Sample.refusing, same, UpdateReply.prompt]
  have listed : (contextOf Sample.configuration .atOnce "now" shard upward).view.get?
      "zone1-0000000001" = some leaving := by decide
  have above : context.view.get? "zone1-0000000001" = some leaving := by decide
  have below : context.view.get? "zone1-0000000003" = some (pod "3" "mysql:8.0.33" []) := by decide
  have refused : context.needsSlowShutdown (pod "3" "mysql:8.0.33" []) =
      .error (Upgrade.refused "patch" "8.0.33" "8.0.31") := by decide
  have admitted : context.Admitted ⟨"zone1", 1⟩ := ⟨rfl, rfl, rfl, rfl, by decide, rfl⟩
  have completes : context.Completes := by
    unfold Context.Completes
    decide +kernel
  have made : planned ∈ (run Sample.configuration .atOnce "now" shard upward).calls := by
    decide +kernel
  obtain ⟨earlier, later, split⟩ := List.append_of_mem made
  obtain ⟨prepared, _⟩ := handover_prepared live faithful "now" shard upward
  obtain ⟨_, stops⟩ := handover_prepared live faithful' "now" shard downward
  refine ⟨live, faithful, faithful', ⟨earlier, later, split, ?_⟩, admitted, completes, ?_⟩
  · rcases prepared earlier planned later split (.inr rfl) _ leaving (Sample.tablet 1 .primary) listed
      (by decide) with safe | ⟨_, told, _⟩
    · exact absurd safe (by decide)
    · exact told
  · have settled : Context.isAborting context.view = false := by decide
    obtain ⟨_, whole⟩ := stops _ admitted ⟨_, leaving, above, by decide⟩
      (fun key found held =>
        Context.isAborting_eq_false_iff.mp settled _ (Keyed.mem_entries_iff.mpr held))
      ⟨_, _, Sample.tablet 3 .replica, below, by decide, .inl ⟨_, refused⟩⟩
    have unsent : (failed.sent.findSome? fun sent =>
        (replies.updatePod sent.shownName).fault) = some Sample.refusal := by decide +kernel
    obtain ⟨once, fault, _, result⟩ := whole completes
    rw [show failed.sent.findSome? _ = _ from unsent] at result
    exact ⟨once, result⟩

end Pass

end TabletDrain
