import TabletDrain.Pass.Report
import TabletDrain.Proofs.Pass.Transfer

/-! A whole pass as a script. What it would do follows from the stored pods, the topology and the
replies; running it under its time limit does a first part of that. -/
namespace TabletDrain

namespace Setting

theorem answered_eq_ok_iff {operation : String} {after time : Nat} {reply : Reply} :
    answered operation after time reply = .ok () ↔ reply.delay ≤ time ∧ reply.fault = none := by
  unfold answered Reply.outcome
  by_cases early : reply.delay ≤ time
  · cases fault : reply.fault <;> simp [early]
  · simp [early]

end Setting

namespace Pass

structure Reading where
  operation : String
  call : Call
  reply : Reply
  reason : String
  failed : String

namespace Context

variable (context : Context)

def podReading : Reading :=
  ⟨"listing pods", .listPods context.podNamespace context.shard.spec.podLabels,
    context.replies.listPods, "ListFailed", "failed to list Pods: "⟩

def recordReading : Reading :=
  ⟨"reading shard record", .getShard context.shard.spec.keyspace context.shard.spec.name,
    context.replies.getShard, "TopoGetFailed", "failed to get shard record: "⟩

def tabletReading : Reading :=
  ⟨"reading tablet records",
    .getTablets context.shard.spec.keyspace context.shard.spec.name context.shard.spec.cells,
    context.replies.getTablets, "TopoGetFailed", "failed to get tablet records: "⟩

def readings : List Reading := [context.podReading, context.recordReading, context.tabletReading]

/-- Reads in turn, up to the first failure, in the time that is left. -/
def readingDeeds (left : Nat) : List Reading → List Deed
  | [] => []
  | reading :: rest =>
    [.call reading.call, .waitUpTo left reading.reply.delay] ++
      match Setting.answered reading.operation context.timeouts.read left reading.reply with
      | .error fault => [context.warning reading.reason (reading.failed ++ fault.message)]
      | .ok () => readingDeeds (left - reading.reply.delay) rest

def isRead (left : Nat) : List Reading → Bool
  | [] => true
  | reading :: rest =>
    match Setting.answered reading.operation context.timeouts.read left reading.reply with
    | .error _ => false
    | .ok () => isRead (left - reading.reply.delay) rest

variable {context} in
/-- What holds of all calls of some readings, their waits and what is told of their failures. -/
theorem forall_mem_readingDeeds {P : Deed → Prop} {readings : List Reading}
    (calls : ∀ reading ∈ readings, P (.call reading.call))
    (waits : ∀ reading ∈ readings, ∀ left, P (.waitUpTo left reading.reply.delay))
    (tells : ∀ reading ∈ readings, ∀ message, P (context.warning reading.reason message))
    (left : Nat) : ∀ deed ∈ context.readingDeeds left readings, P deed := by
  induction readings generalizing left with
  | nil => exact fun deed member => absurd member List.not_mem_nil
  | cons reading rest ih =>
    rw [List.forall_mem_cons] at calls waits tells
    unfold readingDeeds
    refine List.forall_mem_append.mpr ⟨?_, ?_⟩
    · exact List.forall_mem_cons.mpr ⟨calls.1, List.forall_mem_singleton.mpr (waits.1 left)⟩
    · split
      · exact List.forall_mem_singleton.mpr (tells.1 _)
      · exact ih calls.2 waits.2 tells.2 _

variable {context} in
/-- Reading a list of things depends on nothing but the shard and the time limits. -/
theorem readingDeeds_congr {other : Context} (shard : other.shard = context.shard)
    (timeouts : other.timeouts = context.timeouts) (left : Nat) (readings : List Reading) :
    other.readingDeeds left readings = context.readingDeeds left readings := by
  induction readings generalizing left with
  | nil => rfl
  | cons reading rest ih =>
    simp only [readingDeeds, ih, warning, shard, timeouts]

variable {context} in
theorem isRead_congr {other : Context} (timeouts : other.timeouts = context.timeouts) (left : Nat)
    (readings : List Reading) : other.isRead left readings = context.isRead left readings := by
  induction readings generalizing left with
  | nil => rfl
  | cons reading rest ih => simp only [isRead, ih, timeouts]

def readingTime : List Reading → Nat
  | [] => 0
  | reading :: rest => reading.reply.delay + readingTime rest

theorem isRead_iff (left : Nat) (readings : List Reading) :
    context.isRead left readings = true ↔
      (∀ reading ∈ readings, reading.reply.fault = none) ∧ readingTime readings ≤ left := by
  induction readings generalizing left with
  | nil => simp [isRead, readingTime]
  | cons reading rest ih =>
    unfold isRead
    rw [readingTime, List.forall_mem_cons]
    cases outcome : Setting.answered reading.operation context.timeouts.read left reading.reply with
    | error fault =>
      have failed : ¬(reading.reply.delay ≤ left ∧ reading.reply.fault = none) := by
        rw [← Setting.answered_eq_ok_iff, outcome]
        simp
      simp only [Bool.false_eq_true, false_iff]
      intro read
      exact failed ⟨by omega, read.1.1⟩
    | ok _ =>
      obtain ⟨early, sound⟩ := Setting.answered_eq_ok_iff.mp outcome
      change context.isRead _ rest = true ↔ _
      rw [ih]
      simp only [sound, true_and]
      apply and_congr_right
      intro _
      omega

private theorem reading_at (reading : Reading) {rest : List Reading} {left deadline : Nat}
    {before : Progress} {state : ShardState} {next : Run (Option ShardState)}
    (start : before.now + left = deadline)
    (then_ : ∀ reached : Progress, reached.now + (left - reading.reply.delay) = deadline →
      reached.pods = before.pods →
      next reached = script context.setting (context.readingDeeds (left - reading.reply.delay) rest)
        (if context.isRead (left - reading.reply.delay) rest then some state else none) reached) :
    (do
      match ← context.read deadline reading.operation reading.call reading.reply with
      | .error fault =>
        context.warn reading.reason (reading.failed ++ fault.message)
        return none
      | .ok () => next) before =
    script context.setting (context.readingDeeds left (reading :: rest))
      (if context.isRead left (reading :: rest) then some state else none) before := by
  unfold readingDeeds isRead
  rw [script_append]
  refine (bind_at (Setting.callWithin_at start _ _ _ _) _).trans ?_
  apply perform_bind_congr
  intro reached done
  cases outcome : Setting.answered reading.operation context.timeouts.read left reading.reply with
  | error fault =>
    simp only [warn_eq]
    rfl
  | ok _ =>
    have early := (Setting.answered_eq_ok_iff.mp outcome).1
    have now := Setting.now_of_timedCall done
    obtain ⟨made, _, performed, whole⟩ := perform_prefix context.setting
      [.call reading.call, .waitUpTo left reading.reply.delay] before
    rw [done] at performed whole
    rw [whole rfl] at performed
    exact then_ reached (by omega) performed.pods

def view : Keyed Pod := context.shard.spec.view context.cluster.pods

def tablets : Keyed Tablet := context.cluster.tabletsIn context.shard.spec.cells

theorem readState_at :
    context.readState (.start context.cluster.pods) =
      script context.setting (context.readingDeeds context.timeouts.read context.readings)
        (if context.isRead context.timeouts.read context.readings then
          some ⟨context.view, context.tablets⟩ else none)
        (.start context.cluster.pods) := by
  refine context.reading_at context.podReading rfl fun listed left pods => ?_
  change context.readRecord _ (Cluster.podsWith listed.pods _) listed = _
  rw [pods]
  refine context.reading_at context.recordReading left fun recorded left _ => ?_
  refine context.reading_at context.tabletReading left fun reached _ _ => ?_
  rfl

def awayDeeds (primary : Alias) (pods : Keyed Pod) (tablets : Keyed Tablet) : List Deed :=
  context.chooseDeeds pods tablets ++
    match context.candidate pods tablets with
    | none =>
      [context.warning "DrainBlocked"
        ("unable to drain primary tablet " ++ primary.text
          ++ ": no other tablet is a suitable primary candidate"),
        .requeueAfter context.timeouts.requeueDelay]
    | some tablet =>
      if context.configuration.dryRun then []
      else context.handoverDeeds primary tablet.name ++ context.tellDeeds primary tablet.name

theorem moveAway_eq (primary : Alias) (pods : Keyed Pod) (tablets : Keyed Tablet) :
    context.moveAway primary pods tablets =
      perform context.setting (context.awayDeeds primary pods tablets) := by
  unfold moveAway awayDeeds
  rw [perform_append, newPrimary_eq, script_bind]
  cases context.candidate pods tablets with
  | none =>
    simp only [warn_eq, perform, bind_assoc]
    rfl
  | some tablet =>
    by_cases dryRun : context.configuration.dryRun
    · simp only [dryRun, if_true]
      rfl
    · simp only [dryRun, Bool.false_eq_true, if_false, handOver_eq]

def lastDeeds (primary : Alias) (drains next : Keyed DrainState) (pods : Keyed Pod)
    (tablets : Keyed Tablet) : List Deed :=
  let isFinished := drains.get? primary.text = some .finished
  if acknowledgedNow drains next && !isFinished then
    [context.notice "NotReparentingPrimary" "We have acknowledged a drain this loop"]
  else if !isFinished && next.get? primary.text ≠ some .finished then
    [context.notice "NotReparentingPrimary" "We are not marking primary as finished"]
  else context.awayDeeds primary pods tablets

theorem drainPrimary_eq (primary : Alias) (drains next : Keyed DrainState) (pods : Keyed Pod)
    (tablets : Keyed Tablet) :
    context.drainPrimary primary drains next pods tablets =
      perform context.setting (context.lastDeeds primary drains next pods tablets) := by
  unfold drainPrimary lastDeeds
  simp only [inform_eq, moveAway_eq]
  split
  · rfl
  · split <;> rfl

def next (primary : Alias) : Keyed DrainState :=
  Drain.advance (Drain.requests context.view) (some primary.text)

def held (primary : Alias) : Keyed Pod :=
  (context.loaded context.view).pods.mapKeyed (context.carried primary.text (context.next primary))

def markDeeds (primary : Alias) : List Deed :=
  context.carryAll primary.text (context.loaded context.view).pods (context.next primary)

def actDeeds (primary : Alias) : List Deed :=
  if (Drain.requests context.view).isEmpty then []
  else if isAborting context.view then
    [context.warning "AbortingDrain" "detected that we are aborting drain"]
  else
    context.markDeeds primary ++ context.prepareDeeds (context.held primary) context.tablets ++
      if context.isPrepared (context.held primary) context.tablets then
        context.lastDeeds primary (Drain.requests context.view) (context.next primary)
          (context.held primary) context.tablets
      else []

theorem act_eq (primary : Alias) :
    context.act primary (context.loaded context.view) context.tablets =
      perform context.setting (context.actDeeds primary) := by
  unfold act actDeeds
  change (if (Drain.requests context.view).isEmpty then _
    else if isAborting context.view then _ else _) = _
  simp only [warn_eq]
  split
  · rfl
  · split
    · rfl
    · rw [move_eq, script_bind, prepareUpgrade_eq, perform_append, perform_append, bind_assoc]
      change (do perform context.setting (context.markDeeds primary); _) = _
      congr 1
      funext _
      rw [script_bind]
      congr 1
      funext _
      change (if context.isPrepared (context.held primary) context.tablets then
        context.drainPrimary _ _ _ _ _ else _) = _
      rw [drainPrimary_eq]
      split <;> rfl

/-- All that a pass would do. -/
def deeds : List Deed :=
  context.readingDeeds context.timeouts.read context.readings ++
    if context.isRead context.timeouts.read context.readings then
      match Shard.healthyPrimary context.shard.status context.cluster.record with
      | .error reason => [context.warning "NotReconcilingDrain" reason.message]
      | .ok primary => context.loadDeeds context.view ++ context.actDeeds primary
    else [.requeueAfter context.timeouts.requeueDelay]

theorem pass_at :
    context.pass (.start context.cluster.pods) =
      perform context.setting context.deeds (.start context.cluster.pods) := by
  unfold deeds pass
  rw [perform_append]
  refine (bind_at context.readState_at _).trans ?_
  apply perform_bind_congr
  intro reached _
  split
  · cases Shard.healthyPrimary context.shard.status context.cluster.record with
    | error reason => simp only [warn_eq]
    | ok primary => simp only [load_eq, script_bind, perform_append, ← act_eq]
  · simp only [perform, Deed.perform, bind_pure_unit]

section Parts

variable {context : Context}

theorem serve_readingDeeds (left : Nat) :
    Serve .read (context.readingDeeds left context.readings) := by
  have reads : ∀ reading ∈ context.readings, reading.call.purpose = .read := by
    simp [readings, podReading, recordReading, tabletReading, Call.purpose]
  exact forall_mem_readingDeeds (fun reading member => .inl (reads reading member))
    (fun _ _ _ => .inr rfl) (fun _ _ _ => .inr rfl) left

/-- The primary for which the pass acts: everything is read, and the shard is healthy. -/
def served? (context : Context) : Option Alias :=
  if context.isRead context.timeouts.read context.readings then
    (Shard.healthyPrimary context.shard.status context.cluster.record).toOption
  else none

/-- There are requests, and no answer is left over from a withdrawn one. -/
def isActing (context : Context) : Bool :=
  !(Drain.requests context.view).isEmpty && !isAborting context.view

theorem partFor_deeds {purpose : Purpose} (unread : purpose ≠ .read) (untold : purpose ≠ .tell) :
    partFor purpose context.deeds =
      match context.served? with
      | none => []
      | some primary =>
        partFor purpose (context.loadDeeds context.view) ++ partFor purpose (context.actDeeds primary) := by
  unfold deeds served?
  rw [partFor_append, partFor_eq_nil (serve_readingDeeds _) unread untold, List.nil_append]
  split
  · cases Shard.healthyPrimary context.shard.status context.cluster.record with
    | error reason => exact partFor_eq_nil (.cons (.inr rfl) .nil) unread untold
    | ok primary => exact partFor_append _ _
  · exact partFor_eq_nil (.cons (.inr rfl) .nil) unread untold

theorem partFor_actDeeds (primary : Alias) {purpose : Purpose} (unprepared : purpose ≠ .prepare)
    (untold : purpose ≠ .tell) :
    partFor purpose (context.actDeeds primary) =
      if context.isActing then
        partFor purpose (context.markDeeds primary) ++
          if context.isPrepared (context.held primary) context.tablets then
            partFor purpose (context.lastDeeds primary (Drain.requests context.view)
              (context.next primary) (context.held primary) context.tablets)
          else []
      else [] := by
  unfold actDeeds isActing
  by_cases none : (Drain.requests context.view).isEmpty
  · simp [none, partFor]
  · by_cases aborting : isAborting context.view
    · simp only [none, aborting, Bool.false_eq_true, if_false, if_true, Bool.not_true, Bool.and_false]
      exact partFor_eq_nil (.cons (.inr rfl) .nil) unprepared untold
    · simp only [none, aborting, Bool.false_eq_true, if_false, Bool.not_false, Bool.and_self, if_true]
      rw [partFor_append, partFor_append, partFor_eq_nil (serve_prepareDeeds _ _) unprepared untold,
        List.append_nil]
      split <;> rfl

private theorem partFor_awayDeeds (primary : Alias) (pods : Keyed Pod) (tablets : Keyed Tablet)
    {purpose : Purpose} (unasked : purpose ≠ .ask) (untold : purpose ≠ .tell) :
    partFor purpose (context.awayDeeds primary pods tablets) =
      match context.candidate pods tablets with
      | none => []
      | some tablet =>
        if context.configuration.dryRun then []
        else partFor purpose (context.handoverDeeds primary tablet.name) := by
  unfold awayDeeds
  rw [partFor_append, partFor_eq_nil (serve_chooseDeeds _ _) unasked untold, List.nil_append]
  cases context.candidate pods tablets with
  | none => exact partFor_eq_nil (.cons (.inr rfl) (.cons (.inr rfl) .nil)) unasked untold
  | some tablet =>
    by_cases dryRun : context.configuration.dryRun
    · simp only [dryRun, if_true]
      rfl
    · simp only [dryRun, Bool.false_eq_true, if_false]
      rw [partFor_append, partFor_eq_nil (serve_tellDeeds .ask _ _) unasked untold, List.append_nil]

/-- The pass gets as far as moving the primary role away. -/
def movesAway (context : Context) (primary : Alias) : Prop :=
  let drains := Drain.requests context.view
  let isFinished := drains.get? primary.text = some .finished
  isFinished ∨ acknowledgedNow drains (context.next primary) = false ∧
    (context.next primary).get? primary.text = some .finished

theorem lastDeeds_of_movesAway {primary : Alias} (moves : context.movesAway primary)
    (pods : Keyed Pod) (tablets : Keyed Tablet) :
    context.lastDeeds primary (Drain.requests context.view) (context.next primary) pods tablets =
      context.awayDeeds primary pods tablets := by
  unfold lastDeeds
  rcases moves with isFinished | ⟨idle, turn⟩
  · simp [isFinished]
  · simp [idle, turn]

/-- A primary that stays is only told of. -/
theorem lastDeeds_of_stays {primary : Alias} (stays : ¬context.movesAway primary) (pods : Keyed Pod)
    (tablets : Keyed Tablet) :
    ∃ message, context.lastDeeds primary (Drain.requests context.view) (context.next primary) pods
      tablets = [context.notice "NotReparentingPrimary" message] := by
  simp only [movesAway, not_or, not_and] at stays
  unfold lastDeeds
  dsimp only
  split
  · exact ⟨_, rfl⟩
  · split
    · exact ⟨_, rfl⟩
    · rename_i idle turn
      simp only [stays.1, decide_false, Bool.not_false, Bool.and_true, Bool.true_and,
        decide_eq_true_eq, Bool.not_eq_true, ne_eq, not_not] at idle turn
      exact absurd turn (stays.2 idle)

theorem serve_lastDeeds {primary : Alias} (stays : ¬context.movesAway primary) (pods : Keyed Pod)
    (tablets : Keyed Tablet) :
    Serve .tell (context.lastDeeds primary (Drain.requests context.view) (context.next primary) pods
      tablets) := by
  obtain ⟨message, only⟩ := lastDeeds_of_stays stays pods tablets
  rw [only]
  exact .cons (.inl rfl) .nil

private theorem partFor_lastDeeds (primary : Alias) {purpose : Purpose} (untold : purpose ≠ .tell)
    [Decidable (context.movesAway primary)] :
    partFor purpose (context.lastDeeds primary (Drain.requests context.view) (context.next primary)
        (context.held primary) context.tablets) =
      if context.movesAway primary then
        partFor purpose (context.awayDeeds primary (context.held primary) context.tablets)
      else [] := by
  split
  · rename_i moves
    rw [lastDeeds_of_movesAway moves]
  · rename_i stays
    exact partFor_eq_nil (serve_lastDeeds stays _ _) untold untold

theorem serve_markDeeds (primary : Alias) : Serve .update (context.markDeeds primary) :=
  serve_carryAll _ _ _

/-- The writes of a pass: clearing what is left of withdrawn requests, then moving the markers. -/
theorem updates_deeds :
    partFor .update context.deeds =
      match context.served? with
      | none => []
      | some primary =>
        partFor .update (context.loadDeeds context.view) ++
          if context.isActing then partFor .update (context.markDeeds primary) else [] := by
  classical
  rw [partFor_deeds (by decide) (by decide)]
  cases context.served? with
  | none => rfl
  | some primary =>
    have moving : partFor .update
        (context.awayDeeds primary (context.held primary) context.tablets) = [] := by
      rw [partFor_awayDeeds _ _ _ (by decide) (by decide)]
      cases context.candidate (context.held primary) context.tablets with
      | none => rfl
      | some tablet =>
        simp only [partFor_eq_nil (serve_handoverDeeds _ _) (by decide : Purpose.update ≠ .handOver)
          (by decide), ite_self]
    simp only [partFor_actDeeds _ (by decide : Purpose.update ≠ .prepare) (by decide),
      partFor_lastDeeds _ (by decide : Purpose.update ≠ .tell), moving, ite_self,
      List.append_nil]

theorem mem_deeds_of_update {deed : Deed} (update : deed.purpose = .update)
    (member : deed ∈ context.deeds) :
    deed ∈ context.loadDeeds context.view ∨
      ∃ primary, context.served? = some primary ∧ context.isActing = true ∧
        deed ∈ context.markDeeds primary := by
  have inside : deed ∈ partFor .update context.deeds :=
    List.mem_filter.mpr ⟨member, by simpa using update⟩
  rw [updates_deeds] at inside
  cases served : context.served? with
  | none =>
    rw [served] at inside
    exact absurd inside (List.not_mem_nil)
  | some primary =>
    rw [served] at inside
    rcases List.mem_append.mp inside with loads | marks
    · exact .inl (List.mem_of_mem_filter loads)
    · by_cases acting : context.isActing = true
      · rw [if_pos acting] at marks
        exact .inr ⟨primary, rfl, acting, List.mem_of_mem_filter marks⟩
      · rw [if_neg acting] at marks
        exact absurd marks (List.not_mem_nil)

theorem handovers_deeds [∀ primary, Decidable (context.movesAway primary)] :
    partFor .handOver context.deeds =
      match context.served? with
      | none => []
      | some primary =>
        if context.isActing ∧ context.isPrepared (context.held primary) context.tablets ∧
            context.movesAway primary then
          match context.candidate (context.held primary) context.tablets with
          | none => []
          | some tablet =>
            if context.configuration.dryRun then []
            else partFor .handOver (context.handoverDeeds primary tablet.name)
        else [] := by
  rw [partFor_deeds (by decide) (by decide)]
  cases context.served? with
  | none => rfl
  | some primary =>
    have loading : partFor .handOver (context.loadDeeds context.view) = [] :=
      partFor_eq_nil (serve_loadDeeds _) (by decide) (by decide)
    have marking : partFor .handOver (context.markDeeds primary) = [] :=
      partFor_eq_nil (serve_markDeeds _) (by decide) (by decide)
    simp only [loading, marking, List.nil_append,
      partFor_actDeeds _ (by decide : Purpose.handOver ≠ .prepare) (by decide),
      partFor_lastDeeds _ (by decide : Purpose.handOver ≠ .tell),
      partFor_awayDeeds _ _ _ (by decide : Purpose.handOver ≠ .ask) (by decide)]
    by_cases acting : context.isActing <;>
      by_cases prepared : context.isPrepared (context.held primary) context.tablets <;>
        by_cases moves : context.movesAway primary <;> simp [acting, prepared, moves]

end Parts

end Context

def contextOf (configuration : Configuration) (replies : Replies) (stamp : String) (shard : Shard)
    (cluster : Cluster) : Context :=
  ⟨⟨replies, some configuration.timeouts.pass⟩, configuration, shard, cluster, stamp⟩

def reportOf (limit : Nat) (outcome : Option Unit × Progress) : Report where
  result := match outcome.1 with
    | some () => outcome.2.results.result
    | none => .error (.timeout "drain pass" (.ofMilliseconds limit))
  log := outcome.2.log
  elapsed := outcome.2.now
  pods := outcome.2.pods
  history := outcome.2.history

namespace Report

def calls (report : Report) : List Call := report.log.map LogEntry.call

def handovers (report : Report) : List Call :=
  report.calls.filter fun call => call.purpose = .handOver

end Report

section Runs

variable (configuration : Configuration) (replies : Replies) (stamp : String) (shard : Shard)
  (cluster : Cluster)

theorem run_eq :
    run configuration replies stamp shard cluster =
      reportOf configuration.timeouts.pass
        (perform (contextOf configuration replies stamp shard cluster).setting
          (contextOf configuration replies stamp shard cluster).deeds (.start cluster.pods)) := by
  rw [show perform _ _ (.start cluster.pods) = _ from
    (contextOf configuration replies stamp shard cluster).pass_at.symm]
  rfl

/-- A run does a first part of what its pass would do. -/
theorem run_does_prefix :
    ∃ made, made <+: (contextOf configuration replies stamp shard cluster).deeds ∧
      (run configuration replies stamp shard cluster).calls = made.filterMap Deed.call? ∧
      (run configuration replies stamp shard cluster).history =
        storesAfter cluster.pods (made.filterMap Deed.write?) ∧
      (run configuration replies stamp shard cluster).pods =
        storeAll cluster.pods (made.filterMap Deed.write?) := by
  let context := contextOf configuration replies stamp shard cluster
  obtain ⟨made, isPrefix, performed, _⟩ :=
    perform_prefix context.setting context.deeds (.start cluster.pods)
  rw [run_eq]
  exact ⟨made, isPrefix, performed.calls, performed.history, performed.pods⟩

/-- Every pass asks for the pods first, also one that is cut off at once. -/
theorem run_lists_first :
    ∃ rest, (run configuration replies stamp shard cluster).calls =
      (contextOf configuration replies stamp shard cluster).podReading.call :: rest := by
  let context := contextOf configuration replies stamp shard cluster
  obtain ⟨made, _, performed⟩ := perform_cons_prefix context.setting (.call context.podReading.call)
    context.deeds.tail (.start cluster.pods)
  rw [run_eq]
  exact ⟨_, performed.calls⟩

end Runs

end Pass

end TabletDrain
