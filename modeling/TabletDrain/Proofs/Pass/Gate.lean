import TabletDrain.Proofs.Pass.Reasons
import TabletDrain.Proofs.Pass.Updates

/-! What a pass does before it acts on drains. It reads the pods and the topology, all within one time
limit, and looks at the health of the shard. Only if everything is read in time and the shard is healthy
under a primary does it go on. Else it tells why in one event, and leaves all as it is. -/
namespace TabletDrain.Pass

/-- The reasons to stop before acting. -/
def stopReasons : List String := ["ListFailed", "TopoGetFailed", "NotReconcilingDrain"]

/-- What a read fails with that begins so long after the first: the reads take too long together, or
what the read itself fails with. -/
def Reading.fault? (limit elapsed : Nat) (reading : Reading) : Option Fault :=
  if limit < elapsed + reading.reply.delay then
    some (.timeout reading.operation (.ofMilliseconds limit))
  else reading.reply.fault

theorem Reading.fault?_eq_some {limit elapsed : Nat} {reading : Reading} {fault : Fault}
    (early : elapsed ≤ limit)
    (failed : Setting.answered reading.operation limit (limit - elapsed) reading.reply = .error fault) :
    reading.fault? limit elapsed = some fault := by
  unfold Setting.answered Reply.outcome at failed
  unfold fault?
  by_cases inTime : reading.reply.delay ≤ limit - elapsed
  · rw [if_pos inTime] at failed
    rw [if_neg (by omega)]
    cases fails : reading.reply.fault with
    | none =>
      rw [fails] at failed
      cases failed
    | some own =>
      rw [fails] at failed
      cases failed
      rfl
  · rw [if_neg inTime] at failed
    cases failed
    rw [if_pos (by omega)]

/-- Reads in turn, and the waits for their answers. -/
def readDeeds (left : Nat) : List Reading → List Deed
  | [] => []
  | reading :: rest =>
    .call reading.call :: .waitUpTo left reading.reply.delay ::
      readDeeds (left - reading.reply.delay) rest

section Reads

variable (left : Nat) (readings : List Reading)

theorem readDeeds_plain {P : Deed → Prop} (calls : ∀ call, P (.call call))
    (waits : ∀ time delay, P (.waitUpTo time delay)) : ∀ deed ∈ readDeeds left readings, P deed := by
  induction readings generalizing left with
  | nil => exact fun deed member => absurd member List.not_mem_nil
  | cons reading rest ih =>
    exact List.forall_mem_cons.mpr ⟨calls _, List.forall_mem_cons.mpr ⟨waits _ _, ih _⟩⟩

theorem calls_readDeeds :
    (readDeeds left readings).filterMap Deed.call? = readings.map Reading.call := by
  induction readings generalizing left with
  | nil => rfl
  | cons reading rest ih => exact congrArg _ (ih _)

theorem writes_readDeeds : (readDeeds left readings).filterMap Deed.write? = [] :=
  List.filterMap_eq_nil_iff.mpr (readDeeds_plain _ _ (fun _ => rfl) fun _ _ => rfl)

theorem notes_readDeeds (results : Results) :
    (readDeeds left readings).foldl Deed.note results = results := by
  induction readings generalizing left with
  | nil => rfl
  | cons reading rest ih => exact ih _

end Reads

namespace Context

/-- Everything is read, in the time for all reads together. -/
structure AllRead (context : Context) : Prop where
  listed : context.replies.listPods.fault = none
  recorded : context.replies.getShard.fault = none
  inventoried : context.replies.getTablets.fault = none
  inTime : context.replies.listPods.delay + context.replies.getShard.delay
    + context.replies.getTablets.delay ≤ context.timeouts.read

/-- All tablets of the shard's status are available, and the topology names the primary. -/
structure HealthyUnder (context : Context) (primary : Alias) : Prop where
  available : ∀ status, context.shard.status = some status →
    ∀ entry ∈ status.tablets.entries, entry.2.available = .true
  led : context.cluster.record.primary = some primary

/-- When the reads are over, or the first has failed; to tell of that comes on top. -/
def readsEnd (context : Context) : Nat :=
  span (fun _ => 0) 0 (context.readingDeeds context.timeouts.read context.readings)

/-- After its reads, the pass takes up the requests of the pods that it read, and acts on them. -/
structure ActsUnder (context : Context) (primary : Alias) (read : Progress) : Prop where
  led : context.cluster.record.primary = some primary
  reads : context.readState (.start context.cluster.pods) =
    (some (some ⟨context.view, context.tablets⟩), read)
  follows : context.pass (.start context.cluster.pods) =
    (context.load context.view >>= fun loaded => context.act primary loaded context.tablets) read

/-- Behind its reads, the pass does what there is to do about the requests, up to where it is abandoned. -/
def GoesOn (context : Context) (primary : Alias) (report : Report) : Prop :=
  ∃ made, made <+: context.loadDeeds context.view ++ context.actDeeds primary ∧
    report.calls = context.readings.map Reading.call ++ made.filterMap Deed.call? ∧
    report.pods = storeAll context.cluster.pods (made.filterMap Deed.write?) ∧
    (context.Completes → made = context.loadDeeds context.view ++ context.actDeeds primary)

/-- What a pass that does not act leaves in its log, and the delay that it asks for. -/
inductive TurnsBack (context : Context) : List Call → Option Nat → Prop where
  /-- The reads are made up to the first that fails. -/
  | unread (before : List Reading) (reading : Reading) (after : List Reading) (fault : Fault)
      (readings : context.readings = before ++ reading :: after)
      (answered : ∀ earlier ∈ before, earlier.reply.fault = none)
      (inTime : readingTime before ≤ context.timeouts.read)
      (fails : reading.fault? context.timeouts.read (readingTime before) = some fault) :
      TurnsBack context
        (before.map Reading.call ++ [reading.call,
          .event .warning context.shard.ref reading.reason (reading.failed ++ fault.message)])
        (some context.timeouts.requeueDelay)
  | unhealthy (reason : Unhealthy) (read : context.AllRead)
      (unhealthy : ∀ primary, ¬context.HealthyUnder primary) :
      TurnsBack context
        (context.readings.map Reading.call ++
          [.event .warning context.shard.ref "NotReconcilingDrain" reason.message])
        none

variable {context : Context} {primary : Alias}

theorem TurnsBack.exists_told {calls : List Call} {requeue : Option Nat}
    (turnsBack : context.TurnsBack calls requeue) :
    ∃ reason ∈ stopReasons, ∃ call ∈ calls, call.reason? = some reason := by
  cases turnsBack with
  | unread before reading after fault readings answered inTime fails =>
    have inside : reading ∈ context.readings := readings ▸ List.mem_append_right _ List.mem_cons_self
    have known := (known_of_mem_readings reading inside).2
    exact ⟨reading.reason, List.mem_append_left ["NotReconcilingDrain"] known, _,
      List.mem_append_right _ (List.mem_cons_of_mem _ (List.mem_singleton_self _)), rfl⟩
  | unhealthy reason read unhealthy =>
    exact ⟨"NotReconcilingDrain", by decide, _, List.mem_append_right _ (List.mem_singleton_self _), rfl⟩

theorem allRead_iff :
    context.isRead context.timeouts.read context.readings = true ↔ context.AllRead := by
  rw [isRead_iff]
  simp only [readings, readingTime, podReading, recordReading, tabletReading, List.forall_mem_cons,
    List.not_mem_nil, IsEmpty.forall_iff, implies_true, and_true]
  constructor
  · rintro ⟨⟨listed, recorded, inventoried⟩, inTime⟩
    exact ⟨listed, recorded, inventoried, by omega⟩
  · rintro ⟨listed, recorded, inventoried, inTime⟩
    exact ⟨⟨listed, recorded, inventoried⟩, by omega⟩

theorem healthyPrimary_iff :
    Shard.healthyPrimary context.shard.status context.cluster.record = .ok primary ↔
      context.HealthyUnder primary :=
  Shard.healthyPrimary_eq_ok_iff.trans ⟨fun ⟨available, led⟩ => ⟨available, led⟩,
    fun healthy => ⟨healthy.available, healthy.led⟩⟩

theorem readingDeeds_of_isRead {left : Nat} {readings : List Reading}
    (read : context.isRead left readings = true) :
    context.readingDeeds left readings = readDeeds left readings := by
  induction readings generalizing left with
  | nil => rfl
  | cons reading rest ih =>
    unfold isRead at read
    unfold readingDeeds readDeeds
    cases outcome : Setting.answered reading.operation context.timeouts.read left reading.reply with
    | error fault =>
      rw [outcome] at read
      cases read
    | ok _ =>
      rw [outcome] at read
      exact congrArg (.call reading.call :: .waitUpTo left reading.reply.delay :: ·) (ih read)

/-- Reading that fails ends with the first read that does. -/
theorem readingDeeds_of_unread {left : Nat} {readings : List Reading}
    (unread : context.isRead left readings = false) :
    ∃ before reading after fault, readings = before ++ reading :: after ∧
      (∀ earlier ∈ before, earlier.reply.fault = none) ∧ readingTime before ≤ left ∧
      Setting.answered reading.operation context.timeouts.read (left - readingTime before)
        reading.reply = .error fault ∧
      context.readingDeeds left readings = readDeeds left (before ++ [reading]) ++
        [context.warning reading.reason (reading.failed ++ fault.message)] := by
  induction readings generalizing left with
  | nil => cases unread
  | cons reading rest ih =>
    unfold isRead at unread
    unfold readingDeeds
    cases outcome : Setting.answered reading.operation context.timeouts.read left reading.reply with
    | error fault =>
      exact ⟨[], reading, rest, fault, rfl, by simp, Nat.zero_le _, outcome, rfl⟩
    | ok _ =>
      rw [outcome] at unread
      obtain ⟨early, sound⟩ := Setting.answered_eq_ok_iff.mp outcome
      obtain ⟨before, failed, after, fault, split, answered, inTime, fails, deeds⟩ := ih unread
      refine ⟨reading :: before, failed, after, fault, congrArg _ split,
        List.forall_mem_cons.mpr ⟨sound, answered⟩, ?_, ?_, ?_⟩
      · rw [readingTime]
        omega
      · rw [readingTime, ← Nat.sub_sub]
        exact fails
      · exact congrArg (.call reading.call :: .waitUpTo left reading.reply.delay :: ·) deeds

/-- Reads that are over by the time limit of the pass leave nothing but their calls. -/
theorem perform_readDeeds {setting : Setting} {limit left : Nat} {readings : List Reading}
    (cut : setting.cutoff = some limit) (inTime : span (fun _ => 0) 0 (readDeeds left readings) ≤ limit)
    (pods : List Pod) :
    ∃ read, perform setting (readDeeds left readings) (.start pods) = (some (), read) ∧
      Performed (readDeeds left readings) (.start pods) read := by
  have untold : ∀ deed ∈ readDeeds left readings, ∀ severity object reason message,
      deed ≠ .event severity object reason message :=
    readDeeds_plain _ _ (fun _ _ _ _ _ => nofun) fun _ _ _ _ _ _ => nofun
  have begun : (Progress.start pods).now ≤ limit := Nat.zero_le limit
  obtain ⟨read, done, _⟩ := perform_timed cut begun (readDeeds left readings)
  rw [span_of_untold untold _ (fun _ => 0) _ 0, show (Progress.start pods).now = 0 from rfl,
    Nat.zero_add, if_pos inTime] at done
  obtain ⟨made, _, performed, whole⟩ := perform_prefix setting (readDeeds left readings) (.start pods)
  rw [done] at performed whole
  exact ⟨read, done, whole rfl ▸ performed⟩

theorem readState_eq_some_iff {state : ShardState} {read : Progress} :
    context.readState (.start context.cluster.pods) = (some (some state), read) ↔
      context.AllRead ∧ state = ⟨context.view, context.tablets⟩ ∧
        perform context.setting (readDeeds context.timeouts.read context.readings)
          (.start context.cluster.pods) = (some (), read) := by
  rw [readState_at, script]
  cases read? : context.isRead context.timeouts.read context.readings with
  | false =>
    have unread : ¬context.AllRead := fun read => by simp [allRead_iff.mpr read] at read?
    simp only [unread, false_and, iff_false]
    cases outcome : perform context.setting (context.readingDeeds context.timeouts.read
        context.readings) (.start context.cluster.pods) with
    | mk value reached =>
      cases value with
      | none =>
        rw [Run.bind_of_none _ outcome]
        simp
      | some _ =>
        rw [Run.bind_of_some _ outcome]
        simp
  | true =>
    rw [readingDeeds_of_isRead read?]
    simp only [allRead_iff.mp read?, true_and]
    cases outcome : perform context.setting (readDeeds context.timeouts.read context.readings)
        (.start context.cluster.pods) with
    | mk value reached =>
      cases value with
      | none =>
        rw [Run.bind_of_none _ outcome]
        simp
      | some _ =>
        rw [Run.bind_of_some _ outcome]
        simp [eq_comm]

/-- No pass that acts tells that the shard is unhealthy. -/
private theorem healthyUnder_of_actsUnder {read : Progress}
    (acts : context.ActsUnder primary read) : context.HealthyUnder primary := by
  cases healthy : Shard.healthyPrimary context.shard.status context.cluster.record with
  | ok other =>
    have under := healthyPrimary_iff.mp healthy
    cases Option.some.inj (under.led.symm.trans acts.led)
    exact under
  | error reason =>
    have stops : context.pass (.start context.cluster.pods) =
        context.warn "NotReconcilingDrain" reason.message read := by
      unfold pass
      rw [Run.bind_of_some _ acts.reads]
      dsimp only
      rw [healthy]
    have goesOn : context.pass (.start context.cluster.pods) = perform context.setting
        (context.loadDeeds context.view ++ context.actDeeds primary) read := by
      rw [acts.follows, load_eq, script_bind, act_eq, perform_append]
    obtain ⟨_, _, told⟩ := perform_cons_prefix context.setting
      (context.warning "NotReconcilingDrain" reason.message) [] read
    obtain ⟨made, isPrefix, acted, _⟩ := perform_prefix context.setting
      (context.loadDeeds context.view ++ context.actDeeds primary) read
    rw [← goesOn, stops, warn_eq] at acted
    have called : Call.event .warning context.shard.ref "NotReconcilingDrain" reason.message ∈
        made.filterMap Deed.call? := by
      have same := acted.calls.symm.trans told.calls
      rw [List.append_cancel_left same]
      exact List.mem_cons_self
    have untold : ∀ call ∈ (context.loadDeeds context.view ++ context.actDeeds primary).filterMap
        Deed.call?, call.reason? ≠ some "NotReconcilingDrain" := by
      rw [List.filterMap_append]
      exact List.forall_mem_append.mpr ⟨(tells_loadDeeds _).reason?_ne (by simp),
        (tells_actDeeds _).reason?_ne (by simp)⟩
    exact absurd rfl (untold _ ((isPrefix.filterMap _).subset called))

theorem exists_actsUnder_iff {limit : Nat} (cut : context.setting.cutoff = some limit)
    (inTime : context.readsEnd ≤ limit) :
    (∃ read, context.ActsUnder primary read) ↔ context.AllRead ∧ context.HealthyUnder primary := by
  constructor
  · rintro ⟨read, acts⟩
    exact ⟨(readState_eq_some_iff.mp acts.reads).1, healthyUnder_of_actsUnder acts⟩
  · rintro ⟨all, healthy⟩
    unfold readsEnd at inTime
    rw [readingDeeds_of_isRead (allRead_iff.mpr all)] at inTime
    obtain ⟨read, done, _⟩ := perform_readDeeds cut inTime context.cluster.pods
    have reads := readState_eq_some_iff.mpr ⟨all, rfl, done⟩
    refine ⟨read, healthy.led, reads, ?_⟩
    unfold pass
    rw [Run.bind_of_some _ reads]
    dsimp only
    rw [healthyPrimary_iff.mpr healthy]

end Context

section Runs

variable {configuration : Configuration} {replies : Replies} {stamp : String} {shard : Shard}
  {cluster : Cluster}

/-- A pass that gets through its first reads goes on behind them. -/
private theorem run_of_reads {left : Nat} {made : List Reading} {rest : List Deed}
    (deeds : (contextOf configuration replies stamp shard cluster).deeds = readDeeds left made ++ rest)
    (inTime : span (fun _ => 0) 0 (readDeeds left made) ≤ configuration.timeouts.pass) :
    let context := contextOf configuration replies stamp shard cluster
    ∃ read, Performed (readDeeds left made) (.start cluster.pods) read ∧
      run configuration replies stamp shard cluster =
        reportOf configuration.timeouts.pass (perform context.setting rest read) ∧
      (context.Completes → (perform context.setting rest read).1 = some ()) := by
  intro context
  obtain ⟨read, done, reads⟩ := @Context.perform_readDeeds context.setting _ _ _ rfl inTime cluster.pods
  have ends : perform context.setting context.deeds (.start cluster.pods) =
      perform context.setting rest read := by
    rw [show context.deeds = _ from deeds, perform_append]
    exact Run.bind_of_some _ done
  refine ⟨read, reads, ?_, fun completes => ?_⟩
  · rw [run_eq, show perform _ _ (.start cluster.pods) = _ from ends]
  · rw [← ends]
    exact (congrArg Prod.fst context.pass_at).symm.trans completes

/-- What a pass leaves that gets through its first reads and then does so much. -/
private theorem report_of_reads {left : Nat} {made : List Reading} {done : List Deed}
    {read : Progress} {end? : Option Unit × Progress}
    (reads : Performed (readDeeds left made) (.start cluster.pods) read)
    (follows : Performed done read end?.2) (limit : Nat) :
    (reportOf limit end?).calls = made.map Reading.call ++ done.filterMap Deed.call? ∧
      (reportOf limit end?).pods = storeAll cluster.pods (done.filterMap Deed.write?) ∧
      (reportOf limit end?).history = storesAfter cluster.pods (done.filterMap Deed.write?) := by
  have whole := reads.append follows
  have written : (readDeeds left made ++ done).filterMap Deed.write? = done.filterMap Deed.write? := by
    rw [List.filterMap_append, writes_readDeeds, List.nil_append]
  refine ⟨?_, ?_, ?_⟩
  · refine whole.calls.trans ?_
    rw [List.filterMap_append, calls_readDeeds]
    rfl
  · refine whole.pods.trans ?_
    rw [written]
    rfl
  · refine whole.history.trans ?_
    rw [written]
    rfl

/-- A pass that does no more after its reads than to tell why. -/
private theorem run_of_warning {left : Nat} {made : List Reading} {reason message : String}
    {rest : List Deed}
    (deeds : (contextOf configuration replies stamp shard cluster).deeds = readDeeds left made ++
      (contextOf configuration replies stamp shard cluster).warning reason message :: rest)
    (uncalled : rest.filterMap Deed.call? = []) (unwritten : rest.filterMap Deed.write? = [])
    (inTime : span (fun _ => 0) 0 (readDeeds left made) ≤ configuration.timeouts.pass) :
    let report := run configuration replies stamp shard cluster
    report.calls = made.map Reading.call ++ [.event .warning shard.ref reason message] ∧
      report.pods = cluster.pods ∧ report.history = [] := by
  intro report
  let context := contextOf configuration replies stamp shard cluster
  obtain ⟨read, reads, reported, _⟩ := run_of_reads deeds inTime
  obtain ⟨told, isPrefix, tells⟩ :=
    perform_cons_prefix context.setting (context.warning reason message) rest read
  have calls : told.filterMap Deed.call? = [] :=
    List.prefix_nil.mp (uncalled ▸ isPrefix.filterMap _)
  have writes : told.filterMap Deed.write? = [] :=
    List.prefix_nil.mp (unwritten ▸ isPrefix.filterMap _)
  obtain ⟨logged, stored, kept⟩ := report_of_reads reads tells configuration.timeouts.pass
  have written : (context.warning reason message :: told).filterMap Deed.write? = [] := writes
  rw [← reported, written] at stored kept
  rw [← reported] at logged
  refine ⟨?_, stored, kept⟩
  rw [show report.calls = _ from logged]
  exact congrArg (made.map Reading.call ++ _ :: ·) calls

/-- A pass over a healthy shard, once all is read. -/
private theorem goesOn_of_healthy {primary : Alias}
    (inTime : (contextOf configuration replies stamp shard cluster).readsEnd ≤ configuration.timeouts.pass)
    (all : (contextOf configuration replies stamp shard cluster).AllRead)
    (healthy : (contextOf configuration replies stamp shard cluster).HealthyUnder primary) :
    (contextOf configuration replies stamp shard cluster).GoesOn primary
      (run configuration replies stamp shard cluster) := by
  let context := contextOf configuration replies stamp shard cluster
  have read := Context.allRead_iff.mpr all
  have reads := Context.readingDeeds_of_isRead read
  have deeds : context.deeds = readDeeds context.timeouts.read context.readings ++
      (context.loadDeeds context.view ++ context.actDeeds primary) := by
    rw [Context.deeds, reads, read, Context.healthyPrimary_iff.mpr healthy]
    rfl
  rw [Context.readsEnd, reads] at inTime
  obtain ⟨read, begun, reported, completes⟩ := run_of_reads deeds inTime
  obtain ⟨made, isPrefix, follows, whole⟩ := perform_prefix context.setting
    (context.loadDeeds context.view ++ context.actDeeds primary) read
  obtain ⟨calls, pods, _⟩ := report_of_reads begun follows configuration.timeouts.pass
  rw [← reported] at calls pods
  exact ⟨made, isPrefix, calls, pods, fun complete => whole (completes complete)⟩

/-- A pass that does not act tells why, and asks for another pass only if a read failed. -/
private theorem turnsBack_of_idle
    (inTime : (contextOf configuration replies stamp shard cluster).readsEnd ≤ configuration.timeouts.pass)
    (idle : ¬((contextOf configuration replies stamp shard cluster).AllRead ∧
      ∃ primary, (contextOf configuration replies stamp shard cluster).HealthyUnder primary)) :
    let context := contextOf configuration replies stamp shard cluster
    let report := run configuration replies stamp shard cluster
    ∃ requeue, context.TurnsBack report.calls requeue ∧ report.pods = cluster.pods ∧
      report.history = [] ∧ (context.Completes → report.result = .ok requeue) := by
  intro context report
  unfold Context.readsEnd at inTime
  have result (completes : context.Completes) : report.result = _ := result_of_completes completes
  cases read : context.isRead context.timeouts.read context.readings with
  | false =>
    obtain ⟨before, reading, after, fault, readings, answered, early, fails, reads⟩ :=
      Context.readingDeeds_of_unread read
    rw [reads, span_append] at inTime
    have deeds : context.deeds = readDeeds context.timeouts.read (before ++ [reading]) ++
        context.warning reading.reason (reading.failed ++ fault.message) ::
          [.requeueAfter context.timeouts.requeueDelay] := by
      rw [Context.deeds, reads, read, List.append_assoc]
      rfl
    obtain ⟨calls, pods, history⟩ := run_of_warning deeds rfl rfl (by omega)
    refine ⟨some context.timeouts.requeueDelay, ?_, pods, history, fun completes => ?_⟩
    · rw [calls, List.map_append, List.append_assoc]
      exact .unread before reading after fault readings answered early
        (Reading.fault?_eq_some early fails)
    · rw [result completes, deeds, List.foldl_append, notes_readDeeds]
      rfl
  | true =>
    have all := Context.allRead_iff.mp read
    have reads := Context.readingDeeds_of_isRead read
    rw [reads] at inTime
    cases healthy : Shard.healthyPrimary context.shard.status context.cluster.record with
    | ok primary => exact absurd ⟨all, primary, Context.healthyPrimary_iff.mp healthy⟩ idle
    | error reason =>
      have deeds : context.deeds = readDeeds context.timeouts.read context.readings ++
          [context.warning "NotReconcilingDrain" reason.message] := by
        rw [Context.deeds, reads, read, healthy]
        rfl
      obtain ⟨calls, pods, history⟩ := run_of_warning deeds rfl rfl inTime
      refine ⟨none, ?_, pods, history, fun completes => ?_⟩
      · rw [calls]
        exact .unhealthy reason all fun primary under => idle ⟨all, primary, under⟩
      · rw [result completes, deeds, List.foldl_append, notes_readDeeds]
        rfl

/-- A pass that acts makes no call that tells why it would stop, and every other pass does. -/
private theorem exists_actsUnder_iff_untold
    (inTime : (contextOf configuration replies stamp shard cluster).readsEnd ≤
      configuration.timeouts.pass) :
    (∃ primary read, (contextOf configuration replies stamp shard cluster).ActsUnder primary read) ↔
      ∀ call ∈ (run configuration replies stamp shard cluster).calls, ∀ reason ∈ stopReasons,
        call.reason? ≠ some reason := by
  let context := contextOf configuration replies stamp shard cluster
  constructor
  · rintro ⟨primary, read, acts⟩
    obtain ⟨all, healthy⟩ := (Context.exists_actsUnder_iff rfl inTime).mp ⟨read, acts⟩
    obtain ⟨made, isPrefix, calls, _⟩ := goesOn_of_healthy inTime all healthy
    have foreign : ∀ reason ∈ stopReasons, reason ∉ ["InvalidDrainState", "AbortingDrain", "UpdateFailed"] ∧
        reason ∉ ["AbortingDrain", "UpdateFailed", "MySQL_Upgrade", "MysqldSafeUpgradeFailed",
          "NotReparentingPrimary", "DrainBlocked", "PlannedReparent", "PlannedReparentFailed"] := by
      simp [stopReasons]
    rw [calls]
    refine List.forall_mem_append.mpr ⟨fun call member reason _ told => ?_,
      fun call member reason among => ?_⟩
    · obtain ⟨reading, inside, rfl⟩ := List.mem_map.mp member
      rw [(Context.known_of_mem_readings reading inside).1] at told
      cases told
    · obtain ⟨unloaded, unacted⟩ := foreign reason among
      have inside := (isPrefix.filterMap Deed.call?).subset member
      rw [List.filterMap_append] at inside
      rcases List.mem_append.mp inside with loads | acts
      · exact (Context.tells_loadDeeds _).reason?_ne unloaded call loads
      · exact (Context.tells_actDeeds _).reason?_ne unacted call acts
  · intro untold
    by_contra idle
    have unfit : ¬(context.AllRead ∧ ∃ primary, context.HealthyUnder primary) := by
      rintro ⟨all, primary, healthy⟩
      exact idle ⟨primary, (Context.exists_actsUnder_iff rfl inTime).mpr ⟨all, healthy⟩⟩
    obtain ⟨_, turnsBack, _⟩ := turnsBack_of_idle inTime unfit
    obtain ⟨reason, among, call, member, told⟩ := turnsBack.exists_told
    exact untold call member reason among told

end Runs

/-- A pass whose time is not over before its reads are gets through them just when none fails and all are
in time, and acts just when moreover the shard is healthy: it goes on to do what there is to do about the
requests, and tells of no reason to stop. Else it makes its reads up to the one that fails, tells why it
stops in one event, changes no pod, and ends without a failure. -/
theorem acts_iff_read_and_healthy (configuration : Configuration) (replies : Replies) (stamp : String)
    (shard : Shard) (cluster : Cluster)
    (inTime : (contextOf configuration replies stamp shard cluster).readsEnd ≤
      configuration.timeouts.pass) :
    let context := contextOf configuration replies stamp shard cluster
    let report := run configuration replies stamp shard cluster
    ((∃ state read, context.readState (.start cluster.pods) = (some (some state), read)) ↔
      context.AllRead) ∧
    (∀ primary, (∃ read, context.ActsUnder primary read) ↔
      context.AllRead ∧ context.HealthyUnder primary) ∧
    (∀ primary read, context.ActsUnder primary read → context.GoesOn primary report) ∧
    ((∃ primary read, context.ActsUnder primary read) ↔
      ∀ call ∈ report.calls, ∀ reason ∈ stopReasons, call.reason? ≠ some reason) ∧
    (¬(context.AllRead ∧ ∃ primary, context.HealthyUnder primary) →
      ∃ requeue, context.TurnsBack report.calls requeue ∧ report.pods = cluster.pods ∧
        report.history = [] ∧ (context.Completes → report.result = .ok requeue)) := by
  intro context report
  refine ⟨⟨?_, fun all => ?_⟩, fun primary => Context.exists_actsUnder_iff rfl inTime,
    fun primary read acts => ?_, exists_actsUnder_iff_untold inTime, turnsBack_of_idle inTime⟩
  · rintro ⟨state, read, reads⟩
    exact (Context.readState_eq_some_iff.mp reads).1
  · have early := inTime
    unfold Context.readsEnd at early
    rw [Context.readingDeeds_of_isRead (Context.allRead_iff.mpr all)] at early
    obtain ⟨read, done, _⟩ := @Context.perform_readDeeds context.setting _ _ _ rfl early cluster.pods
    exact ⟨_, read, Context.readState_eq_some_iff.mpr ⟨all, rfl, done⟩⟩
  · obtain ⟨all, healthy⟩ := (Context.exists_actsUnder_iff rfl inTime).mp ⟨read, acts⟩
    exact goesOn_of_healthy inTime all healthy

/-- The first reads take all the time, and the last takes none, or takes a moment; and a shard of which
one tablet is not known to be available. -/
theorem acts_iff_read_and_healthy_sample :
    let slow (inventory : Nat) : Replies := { Replies.atOnce with
      listPods := ⟨400, none⟩, getShard := ⟨600, none⟩, getTablets := ⟨inventory, none⟩ }
    let sick : Shard := { Sample.shard with
      status := some ⟨.ofList [("zone1-0000000002", ⟨none, .unknown⟩)], []⟩ }
    let acting := contextOf Sample.configuration (slow 0) "now" Sample.shard Sample.cluster
    let late := contextOf Sample.configuration (slow 1) "now" Sample.shard Sample.cluster
    let stopped := contextOf Sample.configuration (slow 0) "now" sick Sample.cluster
    (acting.readsEnd = 1000 ∧ ∃ read, acting.ActsUnder ⟨"zone1", 1⟩ read ∧ acting.GoesOn ⟨"zone1", 1⟩
        (run Sample.configuration (slow 0) "now" Sample.shard Sample.cluster)) ∧
      (late.readsEnd = 1000 ∧ ∃ requeue,
        late.TurnsBack (run Sample.configuration (slow 1) "now" Sample.shard Sample.cluster).calls
          requeue) ∧
      stopped.readsEnd = 1000 ∧ ∃ requeue,
        stopped.TurnsBack (run Sample.configuration (slow 0) "now" sick Sample.cluster).calls
          requeue ∧
        (run Sample.configuration (slow 0) "now" sick Sample.cluster).result = .ok requeue := by
  intro slow sick acting late stopped
  have ends : acting.readsEnd = 1000 ∧ late.readsEnd = 1000 ∧ stopped.readsEnd = 1000 := by decide
  have healthy : acting.HealthyUnder ⟨"zone1", 1⟩ := ⟨nofun, rfl⟩
  have unread : ¬late.AllRead := fun all => absurd all.inTime (by decide)
  have unhealthy (primary : Alias) : ¬stopped.HealthyUnder primary := fun under =>
    absurd (under.available _ rfl _ (List.mem_singleton_self _)) (by decide)
  have completes : stopped.Completes := by
    unfold Context.Completes
    decide
  obtain ⟨_, acts, goesOn, _⟩ := acts_iff_read_and_healthy Sample.configuration (slow 0) "now" Sample.shard
    Sample.cluster (by decide)
  obtain ⟨_, _, _, _, turnsBack⟩ := acts_iff_read_and_healthy Sample.configuration (slow 1) "now"
    Sample.shard Sample.cluster (by decide)
  obtain ⟨requeue, told, _⟩ := turnsBack fun both => unread both.1
  obtain ⟨_, _, _, _, stops⟩ := acts_iff_read_and_healthy Sample.configuration (slow 0) "now" sick
    Sample.cluster (by decide)
  obtain ⟨delay, tells, _, _, result⟩ := stops fun both => both.2.elim unhealthy
  obtain ⟨read, under⟩ := (acts _).mpr ⟨⟨rfl, rfl, rfl, by decide⟩, healthy⟩
  exact ⟨⟨ends.1, read, under, goesOn _ _ under⟩, ⟨ends.2.1, requeue, told⟩, ends.2.2, delay, tells,
    result completes⟩

end TabletDrain.Pass
