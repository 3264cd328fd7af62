import TabletDrain.Proofs.Pass.Updates

/-! How a pass accounts for a hand-over. A planned hand-over has a time limit of its own, so that one that
hangs is a failed one: it is told in an event and counted, and the pass ends as it does after any other.
The two calls of an external hand-over have no time limit but that of the pass. They are accounted for if
they are over by then; and if not, the pass is abandoned in them, and nothing is told of them. -/
namespace TabletDrain

/-- The same replies, but that the calls of a hand-over succeed at once. -/
def Replies.granting (replies : Replies) : Replies :=
  { replies with
    plannedReparent := .prompt
    externallyReparented := .prompt
    changeTabletType := .prompt }

theorem Upgrade.deedsFrom_congr {setting other : Setting}
    (same : other.replies.execute = setting.replies.execute) (tablets : Keyed Tablet)
    (desired : String) (pods : List (String × Pod)) :
    deedsFrom other tablets desired pods = deedsFrom setting tablets desired pods ∧
      outcomeFrom other tablets desired pods = outcomeFrom setting tablets desired pods := by
  induction pods with
  | nil => exact ⟨rfl, rfl⟩
  | cons entry rest ih =>
    obtain ⟨key, pod⟩ := entry
    simp only [deedsFrom, outcomeFrom, tabletDeeds, tabletOutcome, same, ih.1, ih.2, and_self]

namespace Pass

namespace Context

variable (context : Context)

/-- How long the calls of a hand-over take. -/
def handoverTime : Nat :=
  if context.shard.spec.usesExternalDatastore then
    context.replies.externallyReparented.delay +
      if context.replies.externallyReparented.fault = none then context.replies.changeTabletType.delay
      else 0
  else min context.replies.plannedReparent.delay context.timeouts.reparent

/-- Every call of a hand-over succeeds, a planned one within its time. -/
def HandoverSucceeds : Prop :=
  if context.shard.spec.usesExternalDatastore then
    context.replies.externallyReparented.fault = none ∧ context.replies.changeTabletType.fault = none
  else
    context.replies.plannedReparent.delay ≤ context.timeouts.reparent ∧
      context.replies.plannedReparent.fault = none

/-- What is told of a hand-over when it has ended. -/
inductive Told (stop : Nat) : List LogEntry → Prop where
  | success (message : String) (succeeds : context.HandoverSucceeds) :
      Told stop [⟨stop, .event .normal context.shard.ref "PlannedReparent" message⟩,
        ⟨stop, .metric context.shard.spec.metricLabels .success⟩]
  | failure (message : String) (fails : ¬context.HandoverSucceeds) :
      Told stop [⟨stop, .event .warning context.shard.ref "PlannedReparentFailed" message⟩,
        ⟨stop, .metric context.shard.spec.metricLabels .failure⟩]

/-- The same pass where the calls of a hand-over succeed at once. -/
def granting : Context :=
  { context with setting := { context.setting with replies := context.replies.granting } }

variable {context} {primary : Alias}

theorem handoverOutcome_eq_ok_iff : context.handoverOutcome = .ok () ↔ context.HandoverSucceeds := by
  unfold handoverOutcome HandoverSucceeds
  split
  · unfold externalOutcome Reply.outcome
    cases context.replies.externallyReparented.fault <;>
      cases context.replies.changeTabletType.fault <;> simp
  · exact Setting.answered_eq_ok_iff

theorem span_handoverDeeds (publish : Nat → Nat) (calls : Nat) (oldPrimary newPrimary : Alias) :
    span publish calls (context.handoverDeeds oldPrimary newPrimary) = context.handoverTime := by
  unfold handoverDeeds handoverTime
  split
  · unfold externalDeeds Reply.outcome
    rw [span_append]
    cases context.replies.externallyReparented.fault <;> simp [span, Deed.span]
  · simp [plannedDeeds, span, Deed.span]

section Told

variable {publish : Nat → Nat} (atOnce : ∀ calls, publish calls = 0)

include atOnce

theorem span_tellDeeds (calls : Nat) (oldPrimary newPrimary : Alias) :
    span publish calls (context.tellDeeds oldPrimary newPrimary) = 0 := by
  unfold tellDeeds
  cases context.handoverOutcome <;> exact atOnce calls

theorem told_tellDeeds (stop calls : Nat) (oldPrimary newPrimary : Alias) :
    context.Told stop (timetable publish stop calls (context.tellDeeds oldPrimary newPrimary)) := by
  have together (severity : Severity) (object : ObjectRef) (reason message : String) (metric : Call) :
      timetable publish stop calls [.event severity object reason message, .call metric] =
        [⟨stop, .event severity object reason message⟩, ⟨stop, metric⟩] := by
    rw [timetable, show Deed.span publish calls (.event severity object reason message) = 0 from
      atOnce calls]
    rfl
  have decided := @handoverOutcome_eq_ok_iff context
  unfold tellDeeds reparentOutcome
  cases outcome : context.handoverOutcome with
  | ok _ => exact together .. ▸ .success _ (decided.mp outcome)
  | error fault =>
    refine together .. ▸ .failure _ fun succeeds => ?_
    rw [decided.mpr succeeds] at outcome
    cases outcome

end Told

/-- The calls of a hand-over, of which the first names the new primary. -/
theorem of_mem_timetable_handover {publish : Nat → Nat} {now calls : Nat}
    {oldPrimary newPrimary : Alias} {entry : LogEntry}
    (member : entry ∈ timetable publish now calls (context.handoverDeeds oldPrimary newPrimary)) :
    entry.call.purpose = .handOver ∧ (entry.call.newPrimary? ≠ none → entry.time = now) := by
  unfold handoverDeeds at member
  split at member
  · unfold externalDeeds at member
    rw [timetable_append] at member
    rcases List.mem_append.mp member with first | second
    · cases List.mem_singleton.mp first
      exact ⟨rfl, fun _ => rfl⟩
    · split at second
      · exact absurd second List.not_mem_nil
      · cases List.mem_singleton.mp second
        exact ⟨rfl, fun names => absurd rfl names⟩
  · cases List.mem_singleton.mp member
    exact ⟨rfl, fun _ => rfl⟩

theorem foldl_note_handover (oldPrimary newPrimary : Alias) (results : Results) :
    (context.handoverDeeds oldPrimary newPrimary ++ context.tellDeeds oldPrimary newPrimary).foldl
      Deed.note results = results := by
  unfold handoverDeeds tellDeeds externalDeeds plannedDeeds
  cases context.handoverOutcome <;> cases context.replies.externallyReparented.outcome <;>
    cases context.shard.spec.usesExternalDatastore <;> rfl

theorem leadDeeds_granting : context.granting.leadDeeds primary = context.leadDeeds primary := by
  have prepares : context.granting.prepareDeeds (context.held primary) context.tablets =
      context.prepareDeeds (context.held primary) context.tablets := by
    obtain ⟨deeds, outcome⟩ := @Upgrade.deedsFrom_congr context.setting context.granting.setting rfl
      context.tablets context.desiredImage (context.held primary).entries
    unfold prepareDeeds
    rw [show context.granting.desiredImage = context.desiredImage from rfl, deeds, outcome]
    rfl
  unfold leadDeeds
  rw [@readingDeeds_congr context _ rfl rfl]
  change _ ++ (_ ++ (_ ++ context.granting.prepareDeeds (context.held primary) context.tablets)) = _
  rw [prepares]
  rfl

theorem due_granting (due : context.HandoverDue primary) : context.granting.HandoverDue primary where
  live := due.live
  listed := due.listed
  recorded := due.recorded
  inventoried := due.inventoried
  inTime := due.inTime
  available := due.available
  led := due.led
  noneWithdrawn := due.noneWithdrawn
  prepared := due.prepared
  eligible := due.eligible
  turn := due.turn

/-- The first part of a pass that hands over, and the hand-over, which succeeds or not. -/
theorem exists_deeds_of_due (due : context.HandoverDue primary) :
    ∃ front oldPrimary newPrimary,
      context.deeds = front ++ (context.handoverDeeds oldPrimary newPrimary ++
        context.tellDeeds oldPrimary newPrimary) ∧
      context.granting.deeds = front ++ (context.granting.handoverDeeds oldPrimary newPrimary ++
        context.granting.tellDeeds oldPrimary newPrimary) ∧
      partFor .handOver front = [] := by
  obtain ⟨tablet, chosen, deeds⟩ := deeds_of_due due
  obtain ⟨other, chosen', granted⟩ := deeds_of_due (due_granting due)
  have same : context.granting.candidate (context.granting.held primary) context.granting.tablets =
      context.candidate (context.held primary) context.tablets := rfl
  cases Option.some.inj (chosen'.symm.trans (same.trans chosen))
  refine ⟨context.leadDeeds primary ++
    context.chooseDeeds (context.held primary) context.tablets, primary, tablet.name, ?_, ?_, ?_⟩
  · rw [deeds, List.append_assoc]
  · rw [granted, leadDeeds_granting, List.append_assoc]
    rfl
  · exact partFor_choice

end Context

/-- The calls of a hand-over, among them one that is given, stand in the log before what is told of them
and behind all else. -/
def EndsWith (log : List LogEntry) (call : LogEntry) (told : List LogEntry) : Prop :=
  ∃ front calls, log = front ++ (calls ++ told) ∧ call ∈ calls ∧
    (∀ entry ∈ front, entry.call.purpose ≠ .handOver) ∧
    ∀ entry ∈ calls, entry.call.purpose = .handOver

theorem purpose_of_newPrimary {call : Call} (names : call.newPrimary? ≠ none) :
    call.purpose = .handOver := by
  cases call <;> first | rfl | exact absurd rfl names

namespace Context

section Split

variable {context : Context} {front : List Deed} {oldPrimary newPrimary : Alias} {limit : Nat}
  {start : LogEntry}
  (deeds : context.deeds = front ++ (context.handoverDeeds oldPrimary newPrimary ++
    context.tellDeeds oldPrimary newPrimary))
  (quiet : partFor .handOver front = [])
  (atOnce : ∀ calls, context.replies.publishAfter calls = 0)

include deeds

private theorem timetable_deeds :
    ∃ calls, timetable context.replies.publishAfter 0 0 context.deeds =
      timetable context.replies.publishAfter 0 0 front ++
        (timetable context.replies.publishAfter (context.time front) (callCount front)
            (context.handoverDeeds oldPrimary newPrimary) ++
          timetable context.replies.publishAfter (context.time front + context.handoverTime) calls
            (context.tellDeeds oldPrimary newPrimary)) := by
  refine ⟨callCount front + callCount (context.handoverDeeds oldPrimary newPrimary), ?_⟩
  rw [deeds, timetable_append, timetable_append, span_handoverDeeds, Nat.zero_add, Nat.zero_add]
  rfl

private theorem foldl_note_deeds :
    context.deeds.foldl Deed.note .empty = front.foldl Deed.note .empty := by
  rw [deeds, List.foldl_append, foldl_note_handover]

include quiet in
private theorem of_newPrimary_mem_timetable
    (begun : start ∈ timetable context.replies.publishAfter 0 0 context.deeds)
    (starts : start.call.newPrimary? ≠ none) :
    start ∈ timetable context.replies.publishAfter (context.time front) (callCount front)
        (context.handoverDeeds oldPrimary newPrimary) ∧
      start.time = context.time front := by
  have handsOver := purpose_of_newPrimary starts
  have silent : partFor .handOver (context.tellDeeds oldPrimary newPrimary) = [] :=
    partFor_eq_nil (context.serve_tellDeeds .tell _ _) (by decide) (by decide)
  obtain ⟨calls, whole⟩ := timetable_deeds deeds
  rw [whole] at begun
  rcases List.mem_append.mp begun with first | later
  · exact absurd handsOver (purpose_ne_of_mem_timetable quiet start first)
  · rcases List.mem_append.mp later with here | tells
    · exact ⟨here, (of_mem_timetable_handover here).2 starts⟩
    · exact absurd handsOver (purpose_ne_of_mem_timetable silent start tells)

include atOnce

private theorem time_deeds :
    context.time context.deeds = context.time front + context.handoverTime := by
  rw [Context.time, deeds, span_append, span_append, span_handoverDeeds, span_tellDeeds atOnce,
    Nat.add_zero]
  rfl

include quiet

/-- What a run logs of a pass that hands over: all of it, when the calls are over by the time limit, and
nothing behind them when they are not. -/
private theorem endsWith_of_start
    (begun : start ∈
      (timetable context.replies.publishAfter 0 0 context.deeds).filter (·.time ≤ limit))
    (starts : start.call.newPrimary? ≠ none) :
    let log := (timetable context.replies.publishAfter 0 0 context.deeds).filter (·.time ≤ limit)
    (start.time + context.handoverTime ≤ limit →
      ∃ told, context.Told (start.time + context.handoverTime) told ∧ EndsWith log start told) ∧
    (limit < start.time + context.handoverTime → EndsWith log start []) := by
  intro log
  obtain ⟨member, early⟩ := List.mem_filter.mp begun
  obtain ⟨called, time⟩ := of_newPrimary_mem_timetable deeds quiet member starts
  obtain ⟨calls, whole⟩ := timetable_deeds deeds
  have inTime : context.time front ≤ limit := time ▸ of_decide_eq_true early
  have before := @purpose_ne_of_mem_timetable context.replies.publishAfter 0 0 front .handOver quiet
  have first : (timetable context.replies.publishAfter 0 0 front).filter (·.time ≤ limit) =
      timetable context.replies.publishAfter 0 0 front :=
    filter_timetable ((Nat.zero_add _).trans_le inTime)
  have split : log = _ := congrArg (List.filter (·.time ≤ limit)) whole
  rw [time, split, List.filter_append, List.filter_append, first]
  constructor
  · intro inTime'
    rw [filter_timetable (by rwa [span_handoverDeeds]),
      filter_timetable (by rwa [span_tellDeeds atOnce, Nat.add_zero])]
    exact ⟨_, told_tellDeeds atOnce _ _ _ _, _, _, rfl, called, before,
      fun entry member => (of_mem_timetable_handover member).1⟩
  · intro late
    rw [filter_timetable_late late]
    refine ⟨_, _, rfl, List.mem_filter.mpr ⟨called, early⟩, before, fun entry member => ?_⟩
    exact (of_mem_timetable_handover (List.mem_of_mem_filter member)).1

end Split

theorem handoverTime_granting (context : Context) : context.granting.handoverTime = 0 := by
  unfold handoverTime
  split
  · rfl
  · exact Nat.zero_min _

end Context

section Runs

variable {configuration : Configuration} {replies : Replies} {stamp : String} {shard : Shard}
  {cluster : Cluster} {start : LogEntry}

/-- A hand-over is over when its calls are, or is abandoned with the pass. -/
theorem ends_of_start (atOnce : ∀ calls, replies.publishAfter calls = 0)
    (begun : start ∈ (run configuration replies stamp shard cluster).log)
    (starts : start.call.newPrimary? ≠ none) :
    let context := contextOf configuration replies stamp shard cluster
    let report := run configuration replies stamp shard cluster
    let limit := configuration.timeouts.pass
    let stop := start.time + context.handoverTime
    (stop ≤ limit → context.Completes ∧
      report.result = (run configuration replies.granting stamp shard cluster).result ∧
      ∃ told, context.Told stop told ∧ EndsWith report.log start told) ∧
    (limit < stop → report.result = .error (.timeout "drain pass" (.ofMilliseconds limit)) ∧
      EndsWith report.log start []) := by
  intro context report limit stop
  obtain ⟨completes, log, _, late⟩ := run_timed configuration replies stamp shard cluster
  have inside : start.call ∈ report.handovers :=
    List.mem_filter.mpr ⟨List.mem_map_of_mem begun, by simpa using purpose_of_newPrimary starts⟩
  obtain ⟨primary, due, _⟩ := handsOver_of_handovers (List.ne_nil_of_mem inside)
  obtain ⟨front, oldPrimary, newPrimary, deeds, granted, quiet⟩ := Context.exists_deeds_of_due due
  rw [log] at begun
  obtain ⟨told, silent⟩ := Context.endsWith_of_start deeds quiet atOnce begun starts
  obtain ⟨member, early⟩ := List.mem_filter.mp begun
  have early := of_decide_eq_true early
  have time : start.time = context.time front :=
    (Context.of_newPrimary_mem_timetable deeds quiet member starts).2
  have total : context.time context.deeds = context.time front + context.handoverTime :=
    Context.time_deeds deeds atOnce
  change report.log = (timetable context.replies.publishAfter 0 0 context.deeds).filter _ at log
  rw [← log] at told silent
  refine ⟨fun inTime => ?_, fun tooLate => ⟨late ?_, silent tooLate⟩⟩
  · have whole : context.time context.deeds ≤ limit := by omega
    have complete : context.Completes := completes.mpr whole
    have complete' : context.granting.Completes := by
      refine (run_timed configuration replies.granting stamp shard cluster).1.mpr ?_
      have total' : context.granting.time context.granting.deeds =
          context.granting.time front + context.granting.handoverTime :=
        Context.time_deeds granted atOnce
      rw [Context.handoverTime_granting] at total'
      exact total'.trans_le (time ▸ early)
    refine ⟨complete, ?_, told inTime⟩
    have result : report.result = (context.deeds.foldl Deed.note .empty).result :=
      result_of_completes complete
    have result' : (run configuration replies.granting stamp shard cluster).result =
        (context.granting.deeds.foldl Deed.note .empty).result := result_of_completes complete'
    rw [result, result', Context.foldl_note_deeds deeds, Context.foldl_note_deeds granted]
  · change limit < context.time context.deeds
    omega

end Runs

/-- A planned hand-over that starts early enough is accounted for, however its call behaves, and so is an
external one whose calls end by the time limit of the pass: the pass is not abandoned, it tells of the
hand-over as it went in one event and one count, and its result is that of a pass whose hand-over succeeds
at once. An external hand-over that takes longer ends the pass at its time limit, and nothing is told. -/
theorem handover_accounted (configuration : Configuration) (replies : Replies) (stamp : String)
    (shard : Shard) (cluster : Cluster) {start : LogEntry}
    (atOnce : ∀ calls, replies.publishAfter calls = 0)
    (begun : start ∈ (run configuration replies stamp shard cluster).log)
    (starts : start.call.newPrimary? ≠ none) :
    let context := contextOf configuration replies stamp shard cluster
    let report := run configuration replies stamp shard cluster
    let limit := configuration.timeouts.pass
    let stop := start.time + context.handoverTime
    (shard.spec.usesExternalDatastore = false ∧
          start.time + configuration.timeouts.reparent < limit ∨
        shard.spec.usesExternalDatastore = true ∧ stop ≤ limit →
      context.Completes ∧
        report.result = (run configuration replies.granting stamp shard cluster).result ∧
        ∃ told, context.Told stop told ∧ EndsWith report.log start told) ∧
    (shard.spec.usesExternalDatastore = true → limit < stop →
      report.result = .error (.timeout "drain pass" (.ofMilliseconds limit)) ∧
        EndsWith report.log start []) := by
  intro context report limit stop
  obtain ⟨accounted, abandoned⟩ := ends_of_start atOnce begun starts
  refine ⟨fun inTime => accounted ?_, fun _ tooLate => abandoned tooLate⟩
  rcases inTime with ⟨own, early⟩ | ⟨_, ended⟩
  · have bounded : context.handoverTime ≤ configuration.timeouts.reparent := by
      unfold Context.handoverTime
      rw [show context.shard.spec.usesExternalDatastore = false from own, if_neg Bool.false_ne_true]
      exact Nat.min_le_right _ _
    exact (Nat.add_le_add_left bounded _).trans early.le
  · exact ended

/-- A planned hand-over hangs, an external one is slow and then fails, and an external one hangs. -/
theorem handover_accounted_sample :
    let cluster := { Sample.cluster with
      pods := [Sample.pod "1" [(startedMarker, ""), (acknowledgedMarker, "")], Sample.pod "2" []] }
    let hanging := { Replies.atOnce with
      plannedReparent := ⟨120000, none⟩, externallyReparented := ⟨120000, none⟩ }
    let slow := { Replies.atOnce with
      externallyReparented := ⟨40000, none⟩, changeTabletType := ⟨1000, some Sample.refusal⟩ }
    let own := run Sample.configuration hanging "now" Sample.shard cluster
    let late := run Sample.configuration slow "now" Sample.externalShard Sample.externalCluster
    let hung := run Sample.configuration hanging "now" Sample.externalShard Sample.externalCluster
    let planned : LogEntry := ⟨0, .plannedReparent ⟨"main", "0", ⟨"zone1", 2⟩, none, 1000, 1000⟩⟩
    let reparented : LogEntry := ⟨0, .externallyReparented ⟨"zone1", 2⟩⟩
    ((∃ told, (contextOf Sample.configuration hanging "now" Sample.shard cluster).Told 1000 told ∧
        EndsWith own.log planned told) ∧ own.result = .ok none) ∧
      (∃ told, (contextOf Sample.configuration slow "now" Sample.externalShard
          Sample.externalCluster).Told 41000 told ∧ EndsWith late.log reparented told) ∧
      hung.result = .error (.timeout "drain pass" (.ofMilliseconds 60000)) ∧
      EndsWith hung.log reparented [] := by
  intro cluster hanging slow own late hung planned reparented
  have atOnce : ∀ calls, hanging.publishAfter calls = 0 := fun _ => rfl
  have atOnce' : ∀ calls, slow.publishAfter calls = 0 := fun _ => rfl
  have begun : planned ∈ own.log := by decide +kernel
  have begun' : reparented ∈ late.log := by decide +kernel
  have begun'' : reparented ∈ hung.log := by decide +kernel
  obtain ⟨accounted, _⟩ := handover_accounted Sample.configuration hanging "now" Sample.shard cluster
    atOnce begun (by decide)
  obtain ⟨_, result, told⟩ := accounted (.inl ⟨by decide, by decide⟩)
  obtain ⟨accounted', _⟩ := handover_accounted Sample.configuration slow "now" Sample.externalShard
    Sample.externalCluster atOnce' begun' (by decide)
  obtain ⟨_, _, told'⟩ := accounted' (.inr ⟨by decide, by decide⟩)
  obtain ⟨_, abandoned⟩ := handover_accounted Sample.configuration hanging "now" Sample.externalShard
    Sample.externalCluster atOnce begun'' (by decide)
  have stop : reparented.time + (contextOf Sample.configuration slow "now" Sample.externalShard
      Sample.externalCluster).handoverTime = 41000 := by decide
  rw [stop] at told'
  exact ⟨⟨told, result.trans (by decide +kernel)⟩, told', abandoned (by decide) (by decide)⟩

/-- An external hand-over that starts at once and hangs is not a failed one: nothing tells of it, and the
pass ends at its time limit. -/
theorem hung_external_handover_untold :
    let hanging := { Replies.atOnce with externallyReparented := ⟨120000, none⟩ }
    let report := run Sample.configuration hanging "now" Sample.externalShard Sample.externalCluster
    (∀ calls, hanging.publishAfter calls = 0) ∧
      Sample.configuration.dryRun = false ∧
      (∃ start ∈ report.log, start.call.newPrimary? = some ⟨"zone1", 2⟩ ∧
        start.time + Sample.configuration.timeouts.reparent < Sample.configuration.timeouts.pass) ∧
      report.result = .error (.timeout "drain pass" (.ofMilliseconds 60000)) ∧
      ∀ entry ∈ report.log, entry.call.purpose ≠ .tell := by
  intro hanging report
  exact ⟨fun _ => rfl, by decide +kernel⟩

end Pass

end TabletDrain
