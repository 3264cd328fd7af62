import TabletDrain.Proofs.Pass.Finishing
import TabletDrain.Proofs.Pass.Prompt

/-! When a pass hands the primary role over, exactly, and which calls it makes for it. -/
namespace TabletDrain

def Call.newPrimary? : Call → Option Alias
  | .plannedReparent request => some request.newPrimary
  | .externallyReparented newPrimary => some newPrimary
  | _ => none

/-- Nothing needs a slow shutdown while no image is wanted. -/
theorem Upgrade.imagesNeedSlowShutdown_unset (current : String) :
    imagesNeedSlowShutdown current "" = .ok false := by
  rw [imagesNeedSlowShutdown, if_pos (by simp)]

namespace Pass

namespace Context

variable {context : Context} {primary : Alias}

/-- The pass comes to hand the role over from a primary. -/
structure HandoverDue (context : Context) (primary : Alias) : Prop where
  live : context.configuration.dryRun = false
  listed : context.replies.listPods.fault = none
  recorded : context.replies.getShard.fault = none
  inventoried : context.replies.getTablets.fault = none
  inTime : context.replies.listPods.delay + context.replies.getShard.delay
    + context.replies.getTablets.delay ≤ context.timeouts.read
  available : ∀ status, context.shard.status = some status →
    ∀ entry ∈ status.tablets.entries, entry.2.available = .true
  led : context.cluster.record.primary = some primary
  noneWithdrawn : ∀ entry ∈ context.view.entries, entry.2.markers.isAborted = false
  prepared : ∀ key pod tablet, (context.held primary).get? key = some pod →
    context.tablets.get? key = some tablet →
      Upgrade.imagesNeedSlowShutdown ((pod.image? databaseContainer).getD "") context.desiredImage
          = .ok false ∨
        Upgrade.imagesNeedSlowShutdown ((pod.image? databaseContainer).getD "") context.desiredImage
            = .ok true ∧
          (context.replies.execute tablet.name).fault = none
  eligible : context.eligible (context.held primary) context.tablets ≠ []
  turn : (Drain.requests context.view).get? primary.text = some .finished ∨
    (Drain.requests context.view).entries = [(primary.text, .acknowledged)]

theorem isRead_readings_iff :
    context.isRead context.timeouts.read context.readings = true ↔
      context.replies.listPods.fault = none ∧ context.replies.getShard.fault = none ∧
        context.replies.getTablets.fault = none ∧
          context.replies.listPods.delay + context.replies.getShard.delay
            + context.replies.getTablets.delay ≤ context.timeouts.read := by
  rw [isRead_iff]
  simp [readings, readingTime, podReading, recordReading, tabletReading, and_assoc, Nat.add_assoc]

theorem served_iff :
    context.served? = some primary ↔
      context.isRead context.timeouts.read context.readings = true ∧
        Shard.healthyPrimary context.shard.status context.cluster.record = .ok primary := by
  constructor
  · intro served
    refine ⟨?_, healthy_of_served served⟩
    unfold served? at served
    split at served
    · assumption
    · cases served
  · intro both
    rw [served?, if_pos both.1, both.2]
    rfl

theorem isPrepared_iff (live : context.configuration.dryRun = false) {pods : Keyed Pod}
    {tablets : Keyed Tablet} :
    context.isPrepared pods tablets = true ↔ ∀ key pod tablet, pods.get? key = some pod →
      tablets.get? key = some tablet →
        Upgrade.imagesNeedSlowShutdown ((pod.image? databaseContainer).getD "") context.desiredImage
            = .ok false ∨
          Upgrade.imagesNeedSlowShutdown ((pod.image? databaseContainer).getD "")
              context.desiredImage = .ok true ∧
            (context.replies.execute tablet.name).fault = none := by
  have succeeded (outcome : Except Fault Unit) : outcome.isOk = true ↔ outcome = .ok () := by
    cases outcome <;> simp [Except.isOk, Except.toBool]
  rw [isPrepared, live, Bool.false_or, succeeded, Upgrade.outcomeFrom_eq_ok_iff]
  simp only [Upgrade.tabletOutcome_eq_ok_iff, Keyed.mem_entries_iff]
  rfl

/-- Only the primary with a request, acknowledged before, is to be finished next; so it is due. -/
private theorem alone_of_promoted
    (promoted : Drain.Promoted (Drain.requests context.view) (some primary.text) primary.text) :
    (Drain.requests context.view).entries = [(primary.text, .acknowledged)] := by
  have requested := acknowledged_of_promoted promoted
  obtain ⟨_, found, turn⟩ := promoted
  have only : ∀ other, (Drain.requests context.view).get? other = some .acknowledged →
      other = primary.text := by
    rcases turn with ⟨secondary, _⟩ | ⟨_, only⟩
    · exact absurd rfl secondary
    · exact only
  apply Keyed.entries_eq_singleton_iff.mpr
  intro key state
  constructor
  · intro here
    obtain ⟨pod, inView, started, same⟩ := Drain.get?_requests.mp here
    have acknowledged := requested (key, pod) (Keyed.mem_entries_iff.mpr inView) started
    rw [same] at acknowledged
    subst acknowledged
    exact ⟨only _ here, rfl⟩
  · intro same
    rw [same.1, same.2]
    exact found

theorem promoted_of_alone
    (alone : (Drain.requests context.view).entries = [(primary.text, .acknowledged)]) :
    Drain.Promoted (Drain.requests context.view) (some primary.text) primary.text := by
  have found := Keyed.entries_eq_singleton_iff.mp alone
  refine ⟨?_, (found _ _).mpr ⟨rfl, rfl⟩, .inr ⟨rfl, fun other same => ((found _ _).mp same).1⟩⟩
  intro busy
  obtain ⟨key, isFinished | isNew⟩ := busy
  · exact absurd ((found _ _).mp isFinished).2 (by decide)
  · exact absurd ((found _ _).mp isNew).2 (by decide)

/-- The checks before a hand-over come down to the primary being finished, or acknowledged and the
only one with a request. -/
theorem movesAway_iff :
    context.movesAway primary ↔
      (Drain.requests context.view).get? primary.text = some .finished ∨
        (Drain.requests context.view).entries = [(primary.text, .acknowledged)] := by
  constructor
  · intro moves
    rcases moves with isFinished | ⟨_, turn⟩
    · exact .inl isFinished
    · rcases Drain.get?_advance_eq_finished_iff.mp turn with leads | promoted
      · exact .inl leads.1
      · exact .inr (alone_of_promoted promoted)
  · intro due
    rcases due with isFinished | alone
    · exact .inl isFinished
    · have promoted := promoted_of_alone alone
      refine .inr ⟨?_, Drain.get?_advance_eq_finished_iff.mpr (.inr promoted)⟩
      simp only [acknowledgedNow, List.any_eq_false, Bool.and_eq_true, decide_eq_true_eq, not_and]
      intro entry _ _ isNew
      exact promoted.1 ⟨entry.1, .inr isNew⟩

theorem isActing_of_requested {key : String} {state : DrainState}
    (requested : (Drain.requests context.view).get? key = some state)
    (quiet : isAborting context.view = false) : context.isActing = true := by
  have nonempty : (Drain.requests context.view).isEmpty = false := by
    rw [Bool.eq_false_iff]
    intro isEmpty
    rw [Keyed.isEmpty_iff.mp isEmpty key] at requested
    cases requested
  rw [isActing, nonempty, quiet]
  rfl

theorem isActing_of_due (due : context.HandoverDue primary) : context.isActing = true := by
  have quiet := isAborting_eq_false_iff.mpr due.noneWithdrawn
  rcases due.turn with isFinished | alone
  · exact isActing_of_requested isFinished quiet
  · exact isActing_of_requested
      (Keyed.mem_entries_iff.mp (alone ▸ List.mem_singleton_self _)) quiet

theorem served_of_due (due : context.HandoverDue primary) : context.served? = some primary :=
  served_iff.mpr ⟨isRead_readings_iff.mpr ⟨due.listed, due.recorded, due.inventoried, due.inTime⟩,
    Shard.healthyPrimary_eq_ok_iff.mpr ⟨due.available, due.led⟩⟩

/-- The checks of a pass, as it makes them, say that a hand-over is due. -/
theorem due_of_served (served : context.served? = some primary)
    (live : context.configuration.dryRun = false) (acting : context.isActing = true)
    (prepared : context.isPrepared (context.held primary) context.tablets = true)
    (eligible : context.eligible (context.held primary) context.tablets ≠ [])
    (moves : context.movesAway primary) : context.HandoverDue primary := by
  obtain ⟨read, healthy⟩ := served_iff.mp served
  obtain ⟨listed, recorded, inventoried, inTime⟩ := isRead_readings_iff.mp read
  obtain ⟨available, led⟩ := Shard.healthyPrimary_eq_ok_iff.mp healthy
  exact {
    live := live
    listed := listed
    recorded := recorded
    inventoried := inventoried
    inTime := inTime
    available := available
    led := led
    noneWithdrawn := isAborted_of_isActing acting
    prepared := (isPrepared_iff live).mp prepared
    eligible := eligible
    turn := movesAway_iff.mp moves }

/-- The calls of a hand-over from a primary, which may be cut short after the first. -/
inductive HandsOver (context : Context) (primary : Alias) : List Call → Prop where
  | planned (tablet : Tablet) (own : context.shard.spec.usesExternalDatastore = false)
      (eligible : tablet ∈ context.eligible (context.held primary) context.tablets) :
      HandsOver context primary [.plannedReparent (context.reparent tablet.name)]
  | told (tablet : Tablet) (external : context.shard.spec.usesExternalDatastore = true)
      (eligible : tablet ∈ context.eligible (context.held primary) context.tablets) :
      HandsOver context primary [.externallyReparented tablet.name]
  | demoted (tablet : Tablet) (external : context.shard.spec.usesExternalDatastore = true)
      (eligible : tablet ∈ context.eligible (context.held primary) context.tablets)
      (succeeded : context.replies.externallyReparented.fault = none) :
      HandsOver context primary
        [.externallyReparented tablet.name, .changeTabletType primary .spare]

theorem calls_handoverDeeds (oldPrimary newPrimary : Alias) :
    (partFor .handOver (context.handoverDeeds oldPrimary newPrimary)).filterMap Deed.call? =
      if context.shard.spec.usesExternalDatastore then
        .externallyReparented newPrimary ::
          if context.replies.externallyReparented.fault = none then
            [.changeTabletType oldPrimary .spare]
          else []
      else [.plannedReparent (context.reparent newPrimary)] := by
  unfold handoverDeeds
  split
  · unfold externalDeeds Reply.outcome
    cases context.replies.externallyReparented.fault <;> rfl
  · rfl

private theorem handsOver_of_prefix {made : List Call} {tablet : Tablet}
    (eligible : tablet ∈ context.eligible (context.held primary) context.tablets)
    (isPrefix : made <+:
      (partFor .handOver (context.handoverDeeds primary tablet.name)).filterMap Deed.call?)
    (nonempty : made ≠ []) : context.HandsOver primary made := by
  rw [calls_handoverDeeds] at isPrefix
  cases external : context.shard.spec.usesExternalDatastore with
  | false =>
    rw [external, if_neg (by decide), List.prefix_cons_iff] at isPrefix
    rcases isPrefix with isEmpty | ⟨rest, same, later⟩
    · exact absurd isEmpty nonempty
    · rw [same, List.prefix_nil.mp later]
      exact .planned tablet external eligible
  | true =>
    rw [external, if_pos rfl, List.prefix_cons_iff] at isPrefix
    rcases isPrefix with isEmpty | ⟨rest, same, later⟩
    · exact absurd isEmpty nonempty
    · split at later
      · rename_i succeeded
        rcases List.prefix_cons_iff.mp later with isEmpty | ⟨last, equal, nothing⟩
        · rw [same, isEmpty]
          exact .told tablet external eligible
        · rw [same, equal, List.prefix_nil.mp nothing]
          exact .demoted tablet external eligible succeeded
      · rw [same, List.prefix_nil.mp later]
        exact .told tablet external eligible

theorem due_of_handOver [∀ primary, Decidable (context.movesAway primary)]
    (moved : partFor .handOver context.deeds ≠ []) :
    ∃ primary tablet, context.HandoverDue primary ∧
      tablet ∈ context.eligible (context.held primary) context.tablets ∧
        partFor .handOver context.deeds =
          partFor .handOver (context.handoverDeeds primary tablet.name) := by
  rw [handovers_deeds] at moved ⊢
  cases served : context.served? with
  | none =>
    rw [served] at moved
    exact absurd rfl moved
  | some primary =>
    rw [served] at moved
    dsimp only at moved ⊢
    split at moved
    · rename_i conditions
      rw [if_pos conditions]
      obtain ⟨acting, prepared, moves⟩ := conditions
      cases chosen : context.candidate (context.held primary) context.tablets with
      | none =>
        rw [chosen] at moved
        exact absurd rfl moved
      | some tablet =>
        rw [chosen] at moved
        dsimp only at moved ⊢
        split at moved
        · exact absurd rfl moved
        · rename_i isLive
          have eligible := context.candidate_mem chosen
          have due := due_of_served served (Bool.eq_false_iff.mpr isLive) acting prepared
            (List.ne_nil_of_mem eligible) moves
          refine ⟨primary, tablet, due, eligible, ?_⟩
          rw [if_neg isLive]
    · exact absurd rfl moved

/-- What a pass does before it asks the eligible tablets. -/
def leadDeeds (context : Context) (primary : Alias) : List Deed :=
  context.readingDeeds context.timeouts.read context.readings ++
    (context.loadDeeds context.view ++ (context.markDeeds primary ++
      context.prepareDeeds (context.held primary) context.tablets))

theorem partFor_leadDeeds {wanted : Purpose} (later : wanted = .ask ∨ wanted = .handOver) :
    partFor wanted (context.leadDeeds primary) = [] := by
  have apart : wanted ≠ .read ∧ wanted ≠ .update ∧ wanted ≠ .prepare ∧ wanted ≠ .tell := by
    rcases later with same | same <;> rw [same] <;> decide
  obtain ⟨unread, unmarked, unprepared, untold⟩ := apart
  unfold leadDeeds
  rw [partFor_append, partFor_append, partFor_append,
    partFor_eq_nil (serve_readingDeeds _) unread untold,
    partFor_eq_nil (serve_loadDeeds _) unmarked untold,
    partFor_eq_nil (serve_markDeeds _) unmarked untold,
    partFor_eq_nil (serve_prepareDeeds _ _) unprepared untold]
  rfl

/-- All that a pass does that moves requests along: nothing follows once preparing fails. -/
theorem deeds_of_acting (served : context.served? = some primary)
    (acting : context.isActing = true) :
    context.deeds = context.leadDeeds primary ++
      if context.isPrepared (context.held primary) context.tablets then
        context.lastDeeds primary (Drain.requests context.view) (context.next primary)
          (context.held primary) context.tablets
      else [] := by
  obtain ⟨read, healthy⟩ := served_iff.mp served
  simp only [isActing, Bool.and_eq_true, Bool.not_eq_true'] at acting
  rw [deeds, if_pos read, healthy]
  dsimp only
  rw [actDeeds, if_neg (by simp [acting.1]), if_neg (by simp [acting.2]), leadDeeds]
  simp only [List.append_assoc]

/-- All that a pass does when a hand-over is due: up to asking the eligible tablets, asking them and
waiting for the last answer, and the hand-over. -/
theorem deeds_of_due (due : context.HandoverDue primary) :
    ∃ tablet, context.candidate (context.held primary) context.tablets = some tablet ∧
      context.deeds = context.leadDeeds primary ++
        (context.chooseDeeds (context.held primary) context.tablets ++
          (context.handoverDeeds primary tablet.name ++ context.tellDeeds primary tablet.name)) := by
  have prepared := (isPrepared_iff due.live).mpr due.prepared
  obtain ⟨tablet, chosen⟩ := context.isSome_candidate due.eligible
  refine ⟨tablet, chosen, ?_⟩
  rw [deeds_of_acting (served_of_due due) (isActing_of_due due), if_pos prepared,
    lastDeeds_of_movesAway (movesAway_iff.mpr due.turn), awayDeeds, chosen, due.live]
  rfl

private theorem handoverDeeds_eq_cons (oldPrimary newPrimary : Alias) :
    ∃ call rest, context.handoverDeeds oldPrimary newPrimary = .call call :: rest ∧
      call.purpose = .handOver := by
  unfold handoverDeeds
  split
  · exact ⟨_, _, rfl, rfl⟩
  · exact ⟨_, _, rfl, rfl⟩

/-- When the choice of a new primary ends: what comes before it is done, and the last answer of the
eligible tablets is in. -/
def choiceTime (context : Context) (primary : Alias) : Nat :=
  context.time (context.leadDeeds primary ++
    context.chooseDeeds (context.held primary) context.tablets)

theorem partFor_choice :
    partFor .handOver (context.leadDeeds primary ++
      context.chooseDeeds (context.held primary) context.tablets) = [] := by
  rw [partFor_append, partFor_leadDeeds (.inr rfl),
    partFor_eq_nil (serve_chooseDeeds _ _) (by decide) (by decide), List.append_nil]

/-- The first call of a hand-over that is due comes when the choice has ended. -/
theorem timetable_of_due (due : context.HandoverDue primary) :
    ∃ call rest, call.purpose = .handOver ∧
      timetable context.replies.publishAfter 0 0 context.deeds =
        timetable context.replies.publishAfter 0 0 (context.leadDeeds primary ++
            context.chooseDeeds (context.held primary) context.tablets) ++
          timetable context.replies.publishAfter (context.choiceTime primary)
            (callCount (context.leadDeeds primary ++
              context.chooseDeeds (context.held primary) context.tablets)) (.call call :: rest) := by
  obtain ⟨tablet, _, deeds⟩ := deeds_of_due due
  obtain ⟨call, rest, first, handsOver⟩ := context.handoverDeeds_eq_cons primary tablet.name
  refine ⟨call, rest ++ context.tellDeeds primary tablet.name, handsOver, ?_⟩
  rw [deeds, ← List.append_assoc, timetable_append, first, Nat.zero_add, Nat.zero_add]
  rfl

end Context

section Runs

variable {configuration : Configuration} {replies : Replies} {stamp : String} {shard : Shard}
  {cluster : Cluster} {primary : Alias}

theorem handsOver_of_handovers
    (nonempty : (run configuration replies stamp shard cluster).handovers ≠ []) :
    ∃ primary, (contextOf configuration replies stamp shard cluster).HandoverDue primary ∧
      (contextOf configuration replies stamp shard cluster).HandsOver primary
        (run configuration replies stamp shard cluster).handovers := by
  classical
  let context := contextOf configuration replies stamp shard cluster
  obtain ⟨done, isPrefix, calls, _⟩ := run_does_prefix configuration replies stamp shard cluster
  have part : (run configuration replies stamp shard cluster).handovers <+:
      (partFor .handOver context.deeds).filterMap Deed.call? := by
    rw [Report.handovers, calls, filter_calls]
    exact (isPrefix.filter _).filterMap _
  have moved : partFor .handOver context.deeds ≠ [] := by
    intro unmoved
    rw [unmoved] at part
    exact nonempty (List.prefix_nil.mp part)
  obtain ⟨primary, tablet, due, eligible, equal⟩ := Context.due_of_handOver moved
  rw [equal] at part
  exact ⟨primary, due, Context.handsOver_of_prefix eligible part nonempty⟩

theorem handovers_iff_of_due
    (due : (contextOf configuration replies stamp shard cluster).HandoverDue primary) :
    (run configuration replies stamp shard cluster).handovers ≠ [] ↔
      (contextOf configuration replies stamp shard cluster).choiceTime primary ≤
        configuration.timeouts.pass := by
  obtain ⟨_, log, _, _⟩ := run_timed configuration replies stamp shard cluster
  obtain ⟨call, rest, handsOver, times⟩ := Context.timetable_of_due due
  change _ = ((timetable (contextOf configuration replies stamp shard cluster).replies.publishAfter
    0 0 _).filter _) at log
  rw [times, List.filter_append] at log
  constructor
  · intro moved
    by_contra late
    rw [filter_timetable_late (Nat.lt_of_not_le late), List.append_nil] at log
    refine moved (List.filter_eq_nil_iff.mpr fun made member => ?_)
    rw [Report.calls, log] at member
    obtain ⟨entry, inside, rfl⟩ := List.mem_map.mp member
    simpa using purpose_ne_of_mem_timetable Context.partFor_choice entry (List.mem_of_mem_filter inside)
  · intro inTime
    refine List.ne_nil_of_mem (a := call) (List.mem_filter.mpr ⟨?_, by simpa using handsOver⟩)
    rw [Report.calls, log]
    refine List.mem_map.mpr ⟨⟨_, call⟩, List.mem_append_right _ (List.mem_filter.mpr
      ⟨List.mem_cons_self, decide_eq_true inTime⟩), rfl⟩

/-- Where the choice ends too late, the whole pass does. -/
theorem result_of_late_choice
    (due : (contextOf configuration replies stamp shard cluster).HandoverDue primary)
    (late : configuration.timeouts.pass <
      (contextOf configuration replies stamp shard cluster).choiceTime primary) :
    (run configuration replies stamp shard cluster).result =
      .error (.timeout "drain pass" (.ofMilliseconds configuration.timeouts.pass)) := by
  obtain ⟨_, _, _, abandoned⟩ := run_timed configuration replies stamp shard cluster
  obtain ⟨tablet, _, deeds⟩ := Context.deeds_of_due due
  refine abandoned (late.trans_le ?_)
  rw [deeds, ← List.append_assoc, Context.time, span_append]
  exact Nat.le_add_right _ _

/-- Nothing is handed over while the primary does not wait alone. -/
theorem handovers_of_busy (led : cluster.record.primary = some primary)
    (unfinished : (Drain.requests (shard.spec.view cluster.pods)).get? primary.text
      ≠ some .finished)
    (busy : (∃ key, key ≠ primary.text ∧
        (Drain.requests (shard.spec.view cluster.pods)).get? key ≠ none) ∨
      (Drain.requests (shard.spec.view cluster.pods)).get? primary.text ≠ some .acknowledged) :
    (run configuration replies stamp shard cluster).handovers = [] := by
  by_contra nonempty
  obtain ⟨other, due, _⟩ := handsOver_of_handovers nonempty
  cases Option.some.inj (led.symm.trans due.led)
  rcases due.turn with isFinished | alone
  · exact unfinished isFinished
  · have found := Keyed.entries_eq_singleton_iff.mp alone
    rcases busy with ⟨key, secondary, requested⟩ | unanswered
    · obtain ⟨state, here⟩ := Option.ne_none_iff_exists'.mp requested
      exact secondary ((found key state).mp here).1
    · exact unanswered ((found _ _).mpr ⟨rfl, rfl⟩)

end Runs

/-- A pass hands over at most once, with the calls of its kind, and only when that is due; and where
it is due, it does so just if the choice of a new primary ends by the time limit, as it does in a pass
that is not abandoned. So nothing is handed over while the primary is not finished and another pod has
a request, or the primary has none or a new one. -/
theorem handover_exact (configuration : Configuration) (replies : Replies) (stamp : String)
    (shard : Shard) (cluster : Cluster) :
    let context := contextOf configuration replies stamp shard cluster
    let report := run configuration replies stamp shard cluster
    let limit := configuration.timeouts.pass
    (report.handovers ≠ [] →
      ∃ primary, context.HandoverDue primary ∧ context.HandsOver primary report.handovers) ∧
    (∀ primary, context.HandoverDue primary →
      (report.handovers ≠ [] ↔ context.choiceTime primary ≤ limit) ∧
      (report.result ≠ .error (.timeout "drain pass" (.ofMilliseconds limit)) →
        report.handovers ≠ [])) ∧
    ∀ primary, cluster.record.primary = some primary →
      (Drain.requests context.view).get? primary.text ≠ some .finished →
      (∃ key, key ≠ primary.text ∧ (Drain.requests context.view).get? key ≠ none) ∨
        (Drain.requests context.view).get? primary.text ≠ some .acknowledged →
      report.handovers = [] := by
  refine ⟨handsOver_of_handovers, ?_, ?_⟩
  · intro primary due
    have inTime := handovers_iff_of_due due
    refine ⟨inTime, fun whole => inTime.mpr (Nat.le_of_not_lt fun late => ?_)⟩
    exact whole (result_of_late_choice due late)
  · intro primary led unfinished busy
    exact handovers_of_busy led unfinished busy

/-- The last answer is in 1400 ms after the start, so that a pass with this time limit hands over, and one
with a limit 1 ms shorter does not. -/
theorem handover_exact_sample :
    let configuration (limit : Nat) : Configuration :=
      { Sample.configuration with timeouts := { Sample.configuration.timeouts with pass := limit } }
    let cluster := { Sample.cluster with
      pods := [Sample.pod "1" [(startedMarker, ""), (acknowledgedMarker, "")], Sample.pod "2" []] }
    let context (limit : Nat) := contextOf (configuration limit) Sample.slow "now" Sample.shard cluster
    let report (limit : Nat) := run (configuration limit) Sample.slow "now" Sample.shard cluster
    (context 1400).HandoverDue ⟨"zone1", 1⟩ ∧ (context 1400).choiceTime ⟨"zone1", 1⟩ = 1400 ∧
      (report 1400).handovers ≠ [] ∧
      (∃ primary, (context 1400).HandsOver primary (report 1400).handovers) ∧
      (context 1399).HandoverDue ⟨"zone1", 1⟩ ∧ (report 1399).handovers = [] := by
  intro configuration cluster context report
  have requests : (Drain.requests (Sample.spec.view cluster.pods)).entries =
      [(Alias.text ⟨"zone1", 1⟩, .acknowledged)] := by decide
  have noneWithdrawn : ∀ entry ∈ (Sample.spec.view cluster.pods).entries,
      entry.2.markers.isAborted = false := by decide
  have due (limit : Nat) (eligible : (context limit).eligible ((context limit).held ⟨"zone1", 1⟩)
      (context limit).tablets ≠ []) : (context limit).HandoverDue ⟨"zone1", 1⟩ := {
    live := rfl
    listed := rfl
    recorded := rfl
    inventoried := rfl
    inTime := show 200 + 300 + 400 ≤ 1000 by decide
    available := nofun
    led := rfl
    noneWithdrawn := noneWithdrawn
    prepared := fun _ _ _ _ _ => .inl (Upgrade.imagesNeedSlowShutdown_unset _)
    eligible := eligible
    turn := .inr requests }
  have early := due 1400 (by decide +kernel)
  have short := due 1399 (by decide +kernel)
  have time : (context 1400).choiceTime ⟨"zone1", 1⟩ = 1400 := by decide +kernel
  have time' : (context 1399).choiceTime ⟨"zone1", 1⟩ = 1400 := by decide +kernel
  obtain ⟨calls, inTime, _⟩ :=
    handover_exact (configuration 1400) Sample.slow "now" Sample.shard cluster
  obtain ⟨_, late, _⟩ := handover_exact (configuration 1399) Sample.slow "now" Sample.shard cluster
  have handed : (report 1400).handovers ≠ [] := (inTime _ early).1.mpr time.le
  have kept : (report 1399).handovers = [] := not_not.mp fun moved =>
    absurd (time'.symm.trans_le ((late _ short).1.mp moved)) (by decide)
  obtain ⟨primary, _, handsOver⟩ := calls handed
  exact ⟨early, time, handed, ⟨primary, handsOver⟩, short, kept⟩

end Pass

end TabletDrain
