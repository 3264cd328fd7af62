import TabletDrain.Proofs.Pass.Accounting
import TabletDrain.Proofs.Pass.Gate
import TabletDrain.Proofs.Pass.Preparation

/-! How a pass ends. It goes on after failed updates, and ends early where databases cannot be prepared to
be moved; of all failures the first one counts. Without a failure it asks for another pass where a read
failed, or where nobody can take over from the primary. -/
namespace TabletDrain

def Deed.wanted? (wanted : Call → Bool) (deed : Deed) : Option Call := deed.call?.filter wanted

theorem filter_calls_eq (wanted : Call → Bool) (deeds : List Deed) :
    (deeds.filterMap Deed.call?).filter wanted = deeds.filterMap (Deed.wanted? wanted) :=
  List.filter_filterMap

theorem sifts_wanted? {wanted : Call → Bool} (only : ∀ call, wanted call = true →
      call.purpose = .update ∨ call.reason? = some "UpdateFailed" ∨ call.reason? = some "DrainBlocked") :
    Sifts (Deed.wanted? wanted) where
  calls call other untold := Option.filter_eq_none_iff.mpr fun made called wants => by
    cases called
    rcases only call wants with update | told | told
    · exact other update
    · cases untold.symm.trans told
    · cases untold.symm.trans told
  waits _ := rfl
  waitsUpTo _ _ := rfl
  tells severity object reason message other other' :=
    Option.filter_eq_none_iff.mpr fun made called wants => by
      cases called
      rcases only _ wants with update | told | told
      · cases update
      · exact other (Option.some.inj told)
      · exact other' (Option.some.inj told)

namespace Pass

namespace Context

/-- The pass comes to move markers along, under a primary. -/
structure ActsOn (context : Context) (primary : Alias) : Prop where
  read : context.AllRead
  healthy : context.HealthyUnder primary
  requested : ∃ key pod, context.view.get? key = some pod ∧ pod.markers.started = true
  settled : ∀ key pod, context.view.get? key = some pod → pod.markers.isAborted = false

/-- What keeps a database from being moved, for the pods as the pass holds them after its updates. -/
def hindrance? (context : Context) (primary : Alias) : Option Fault :=
  (context.held primary).entries.findSome?
    (Upgrade.failure? context.replies context.tablets context.desiredImage)

/-- The pass comes to prepare databases to be moved, and fails to. -/
def Unprepared (context : Context) (fault : Fault) : Prop :=
  ∃ primary, context.ActsOn primary ∧ context.configuration.dryRun = false ∧
    context.hindrance? primary = some fault

/-- The pass comes to choose a new primary, and nobody can take over. -/
structure Blocked (context : Context) (primary : Alias) : Prop where
  acts : context.ActsOn primary
  prepared : context.configuration.dryRun = true ∨ context.hindrance? primary = none
  turn : (Drain.requests context.view).get? primary.text = some .finished ∨
    (Drain.requests context.view).entries = [(primary.text, .acknowledged)]
  nobody : context.eligible (context.held primary) context.tablets = []

/-- How a pass ends, by what the first of its updates that fails is refused with. -/
inductive Ends (context : Context) (refusal? : Option Fault) : Except Fault (Option Nat) → Prop
  | refused {fault : Fault} : refusal? = some fault → Ends context refusal? (.error fault)
  | unprepared {fault : Fault} : refusal? = none → context.Unprepared fault →
      Ends context refusal? (.error fault)
  | again : refusal? = none → (∀ fault, ¬context.Unprepared fault) →
      (¬context.AllRead ∨ ∃ primary, context.Blocked primary) →
        Ends context refusal? (.ok (some context.timeouts.requeueDelay))
  | done : refusal? = none → (∀ fault, ¬context.Unprepared fault) → context.AllRead →
      (∀ primary, ¬context.Blocked primary) → Ends context refusal? (.ok none)

variable {context : Context} {primary : Alias} {fault : Fault}

theorem actsOn_iff :
    context.ActsOn primary ↔ context.served? = some primary ∧ context.isActing = true := by
  rw [served_iff, allRead_iff, healthyPrimary_iff]
  constructor
  · rintro ⟨read, healthy, ⟨key, pod, listed, started⟩, settled⟩
    refine ⟨⟨read, healthy⟩, isActing_of_requested (Drain.get?_requests.mpr ⟨pod, listed, started, rfl⟩)
      (isAborting_eq_false_iff.mpr fun entry inside => settled _ _ (Keyed.get?_of_mem inside))⟩
  · rintro ⟨⟨read, healthy⟩, acting⟩
    refine ⟨read, healthy, ?_, fun key pod listed => ?_⟩
    · by_contra idle
      have nothing : (Drain.requests context.view).isEmpty = true := Keyed.isEmpty_iff.mpr fun key =>
        Option.eq_none_iff_forall_ne_some.mpr fun state requested => by
          obtain ⟨pod, listed, started, _⟩ := Drain.get?_requests.mp requested
          exact idle ⟨key, pod, listed, started⟩
      simp [isActing, nothing] at acting
    · exact isAborted_of_isActing acting _ (Keyed.mem_entries_iff.mpr listed)

variable (context primary) in
theorem outcome_held :
    Upgrade.outcomeFrom context.setting context.tablets context.desiredImage
        (context.held primary).entries =
      match context.hindrance? primary with
      | some fault => .error fault
      | none => .ok () := Upgrade.outcomeFrom_eq _

theorem isPrepared_held_iff :
    context.isPrepared (context.held primary) context.tablets = true ↔
      context.configuration.dryRun = true ∨ context.hindrance? primary = none := by
  rw [isPrepared, outcome_held, Bool.or_eq_true]
  cases context.hindrance? primary <;> simp [Except.isOk, Except.toBool]

theorem unprepared?_eq_some_iff : context.unprepared? = some fault ↔ context.Unprepared fault := by
  simp only [unprepared?, Unprepared, Option.bind_eq_some_iff, actsOn_iff, and_assoc, outcome_held]
  refine exists_congr fun primary => and_congr_right fun served => ?_
  cases context.isActing <;> cases context.configuration.dryRun <;>
    cases context.hindrance? primary <;> simp

theorem blocked?_eq_some_iff : context.blocked? = some primary ↔ context.Blocked primary := by
  rw [blocked?, Option.filter_eq_some_iff]
  simp only [Bool.and_eq_true, decide_eq_true_eq, isPrepared_held_iff, List.isEmpty_iff, movesAway_iff,
    and_assoc]
  constructor
  · rintro ⟨served, acting, prepared, turn, nobody⟩
    exact ⟨actsOn_iff.mpr ⟨served, acting⟩, prepared, turn, nobody⟩
  · rintro ⟨acts, prepared, turn, nobody⟩
    obtain ⟨served, acting⟩ := actsOn_iff.mp acts
    exact ⟨served, acting, prepared, turn, nobody⟩

theorem delay?_cases (context : Context) :
    (¬context.AllRead ∨ ∃ primary, context.Blocked primary) ∧
        context.delay? = some context.timeouts.requeueDelay ∨
      context.AllRead ∧ (∀ primary, ¬context.Blocked primary) ∧ context.delay? = none := by
  unfold delay?
  by_cases read : context.isRead context.timeouts.read context.readings = true
  · rw [if_pos read]
    cases blocked : context.blocked? with
    | some primary => exact .inl ⟨.inr ⟨primary, blocked?_eq_some_iff.mp blocked⟩, rfl⟩
    | none =>
      refine .inr ⟨allRead_iff.mp read, fun primary blocks => ?_, rfl⟩
      cases blocked.symm.trans (blocked?_eq_some_iff.mpr blocks)
  · exact .inl ⟨.inl (mt allRead_iff.mpr read), if_neg read⟩

theorem ends_iff {refusal? : Option Fault} {result : Except Fault (Option Nat)} :
    context.Ends refusal? result ↔ result = context.ending refusal? := by
  have quiet : context.unprepared? = none ↔ ∀ fault, ¬context.Unprepared fault := by
    simp only [← unprepared?_eq_some_iff, Option.eq_none_iff_forall_ne_some, ne_eq]
  constructor
  · intro ends
    cases ends with
    | refused refused => rw [ending, refused, Option.some_or]
    | unprepared accepted failed =>
      rw [ending, accepted, Option.none_or, unprepared?_eq_some_iff.mpr failed]
    | again accepted prepared reason =>
      rw [ending, accepted, Option.none_or, quiet.mpr prepared]
      rcases context.delay?_cases with ⟨_, asks⟩ | ⟨read, unblocked, _⟩
      · rw [asks]
      · rcases reason with unread | ⟨primary, blocked⟩
        · exact absurd read unread
        · exact absurd blocked (unblocked primary)
    | done accepted prepared read unblocked =>
      rw [ending, accepted, Option.none_or, quiet.mpr prepared]
      rcases context.delay?_cases with ⟨unread | ⟨primary, blocked⟩, _⟩ | ⟨_, _, silent⟩
      · exact absurd read unread
      · exact absurd blocked (unblocked primary)
      · rw [silent]
  · rintro rfl
    cases refusal? with
    | some fault => exact .refused rfl
    | none =>
      rw [ending, Option.none_or]
      cases failed : context.unprepared? with
      | some fault => exact .unprepared rfl (unprepared?_eq_some_iff.mp failed)
      | none =>
        rcases context.delay?_cases with ⟨reason, asks⟩ | ⟨read, unblocked, silent⟩
        · rw [asks]
          exact .again rfl (quiet.mp failed) reason
        · rw [silent]
          exact .done rfl (quiet.mp failed) read unblocked

/-- How a pass ends depends neither on what tablets answer nor on how a hand-over goes. -/
theorem ending_of_late (context : Context) (replicationStatus : Alias → Succession.ProbeReply)
    (plannedReparent externallyReparented changeTabletType : Reply) :
    let replies := { context.setting.replies with
      replicationStatus, plannedReparent, externallyReparented, changeTabletType }
    let other := { context with setting := { context.setting with replies } }
    other.ending = context.ending := by
  intro replies other
  have outcome (primary : Alias) :
      Upgrade.outcomeFrom other.setting other.tablets other.desiredImage (other.held primary).entries =
        Upgrade.outcomeFrom context.setting context.tablets context.desiredImage
          (context.held primary).entries :=
    (@Upgrade.deedsFrom_congr context.setting other.setting rfl context.tablets context.desiredImage
      (context.held primary).entries).2
  have unprepared : other.unprepared? = context.unprepared? := by
    simp only [unprepared?, outcome]
    rfl
  have blocked : other.blocked? = context.blocked? := by
    simp only [blocked?, isPrepared, outcome]
    rfl
  funext refusal?
  rw [ending, ending, unprepared, delay?, delay?, blocked]
  rfl

def blockedEvent (context : Context) (primary : Alias) : Call :=
  .event .warning context.shard.ref "DrainBlocked"
    ("unable to drain primary tablet " ++ primary.text
      ++ ": no other tablet is a suitable primary candidate")

/-- An update, and the event that follows it if it fails. -/
def updateCalls (context : Context) (sent : Pod) : List Call :=
  .updatePod sent ::
    match (context.replies.updatePod sent.shownName).fault with
    | none => []
    | some fault =>
      [.event .warning context.shard.ref "UpdateFailed"
        ("failed to update drain annotation on Pod " ++ sent.shownName ++ ": " ++ fault.message)]

theorem blocked_calls (context : Context) :
    ((context.deeds.filterMap Deed.call?).filter fun call => call.reason? = some "DrainBlocked") =
      context.blocked?.toList.map context.blockedEvent := by
  have sifts : Sifts (Deed.wanted? fun call => call.reason? = some "DrainBlocked") :=
    sifts_wanted? fun call wanted => .inr (.inr (of_decide_eq_true wanted))
  have sends : (context.updates.flatMap fun update => (context.sendDeeds update.listed
      update.sent).filterMap (Deed.wanted? fun call => call.reason? = some "DrainBlocked")) = [] := by
    refine List.flatMap_eq_nil_iff.mpr fun update _ => ?_
    rw [sendDeeds]
    cases (context.replies.updatePod update.sent.shownName).fault <;> rfl
  have closes : context.closingDeeds.filterMap
      (Deed.wanted? fun call => call.reason? = some "DrainBlocked") =
        context.blocked?.toList.map context.blockedEvent := by
    unfold closingDeeds
    cases blocked : context.blocked? with
    | none => split <;> rfl
    | some primary =>
      rw [if_pos (allRead_iff.mpr (blocked?_eq_some_iff.mp blocked).acts.read)]
      rfl
  rw [filter_calls_eq, sift_deeds sifts, sends, closes]
  cases context.unprepared? <;> rfl

theorem update_calls (context : Context) :
    ((context.deeds.filterMap Deed.call?).filter fun call =>
        call.purpose = .update ∨ call.reason? = some "UpdateFailed") =
      (context.updates.map Update.sent).flatMap context.updateCalls := by
  have sifts : Sifts (Deed.wanted? fun call =>
      call.purpose = .update ∨ call.reason? = some "UpdateFailed") :=
    sifts_wanted? fun call wanted => (of_decide_eq_true wanted).imp_right .inl
  have sends : (context.updates.flatMap fun update => (context.sendDeeds update.listed
      update.sent).filterMap (Deed.wanted? fun call =>
        call.purpose = .update ∨ call.reason? = some "UpdateFailed")) =
      (context.updates.map Update.sent).flatMap context.updateCalls := by
    rw [List.flatMap_map]
    refine List.flatMap_congr fun update member => ?_
    rw [sendDeeds, updateCalls, shownName_sent member]
    cases (context.replies.updatePod update.listed.shownName).fault <;> rfl
  have closes : context.closingDeeds.filterMap (Deed.wanted? fun call =>
      call.purpose = .update ∨ call.reason? = some "UpdateFailed") = [] :=
    sift_closingDeeds_eq_nil (fun _ => rfl) fun _ => rfl
  rw [filter_calls_eq, sift_deeds sifts, sends, closes, List.append_nil]
  cases context.unprepared? <;> simp [Deed.wanted?, Deed.call?]

end Context

/-- A pass that is not abandoned fails with its first failing update, or else with what keeps a database
from being moved, and with nothing else. Otherwise it asks for another pass just if a read failed, or
nobody could take over from the primary. Every failing update is told of once, and the same updates are
sent whichever of them fail. -/
theorem ends_exactly {configuration : Configuration} {replies : Replies} {stamp : String}
    {shard : Shard} {cluster : Cluster}
    (completes : (contextOf configuration replies stamp shard cluster).Completes) :
    let context := contextOf configuration replies stamp shard cluster
    let report := run configuration replies stamp shard cluster
    let told := report.calls.filter fun call => call.reason? = some "DrainBlocked"
    (∀ result, report.result = result ↔ context.Ends
      (report.sent.findSome? fun sent => (replies.updatePod sent.shownName).fault) result) ∧
    ((∃ primary, context.Blocked primary ∧ told = [context.blockedEvent primary]) ∨
      (∀ primary, ¬context.Blocked primary) ∧ told = []) ∧
    (report.calls.filter fun call => call.purpose = .update ∨ call.reason? = some "UpdateFailed") =
      report.sent.flatMap context.updateCalls ∧
    (∀ updatePod, let other := { replies with updatePod }
      (contextOf configuration other stamp shard cluster).Completes →
        (run configuration other stamp shard cluster).sent = report.sent) ∧
    ∀ replicationStatus plannedReparent externallyReparented changeTabletType,
      let other := { replies with
        replicationStatus, plannedReparent, externallyReparented, changeTabletType }
      (contextOf configuration other stamp shard cluster).Completes →
        (run configuration other stamp shard cluster).result = report.result := by
  intro context report told
  have sent : report.sent = _ := sent_of_completes completes
  have result : report.result = _ := (result_of_completes completes).trans context.result_eq_ending
  have calls : report.calls = _ := calls_of_completes completes
  refine ⟨fun outcome => ?_, ?_, ?_, ?_, ?_⟩
  · rw [sent, Context.ends_iff, result, eq_comm]
    rfl
  · have same : told = _ := (congrArg _ calls).trans context.blocked_calls
    rw [same]
    cases blocked : context.blocked? with
    | some primary => exact .inl ⟨primary, Context.blocked?_eq_some_iff.mp blocked, rfl⟩
    | none =>
      refine .inr ⟨fun primary blocks => ?_, rfl⟩
      cases blocked.symm.trans (Context.blocked?_eq_some_iff.mpr blocks)
  · rw [calls, sent]
    exact context.update_calls
  · intro updatePod other completes'
    rw [sent]
    exact sent_of_completes completes'
  · intro replicationStatus plannedReparent externallyReparented changeTabletType other completes'
    rw [result]
    refine (result_of_completes completes').trans
      ((contextOf configuration other stamp shard cluster).result_eq_ending.trans ?_)
    rw [show (contextOf configuration other stamp shard cluster).ending = context.ending from
      context.ending_of_late _ _ _ _]
    rfl

/-- A finished primary. It is handed over from, or that fails, or the request of the third tablet cannot
be answered besides; or nobody can take over. -/
theorem ends_exactly_sample :
    let leaving := Sample.pod "1" [(startedMarker, ""), (acknowledgedMarker, ""), (finishedMarker, "")]
    let new (uid : String) := Sample.pod uid [(startedMarker, "")]
    let cluster := { Sample.cluster with pods := [leaving, Sample.pod "2" [], new "3"] }
    let alone := { Sample.cluster with pods := [leaving, new "2", new "3"] }
    let failing := { Replies.atOnce with plannedReparent := ⟨0, some Sample.refusal⟩ }
    let handed := run Sample.configuration .atOnce "now" Sample.shard cluster
    let kept := run Sample.configuration failing "now" Sample.shard cluster
    let refused := run Sample.configuration (Sample.refusing "tablet-3") "now" Sample.shard cluster
    let blocked := run Sample.configuration .atOnce "now" Sample.shard alone
    (contextOf Sample.configuration .atOnce "now" Sample.shard cluster).Completes ∧
      handed.result = .ok none ∧ kept.result = .ok none ∧
      refused.result = .error Sample.refusal ∧ refused.sent = handed.sent ∧
      blocked.result = .ok (some 1000) := by
  intro leaving new cluster alone failing handed kept refused blocked
  have completes : (contextOf Sample.configuration .atOnce "now" Sample.shard cluster).Completes ∧
      (contextOf Sample.configuration failing "now" Sample.shard cluster).Completes ∧
      (contextOf Sample.configuration (Sample.refusing "tablet-3") "now" Sample.shard cluster).Completes ∧
      (contextOf Sample.configuration .atOnce "now" Sample.shard alone).Completes := by
    unfold Context.Completes
    decide +kernel
  obtain ⟨whole, failed, refusedWhole, alone'⟩ := completes
  obtain ⟨ends, _, _, sends, late⟩ := ends_exactly whole
  have done : handed.result = .ok none := by
    refine (ends _).mpr (Context.ends_iff.mpr ?_)
    decide +kernel
  refine ⟨whole, done, (late _ _ _ _ failed).trans done, ?_, sends _ refusedWhole, ?_⟩
  · exact ((ends_exactly refusedWhole).1 _).mpr (.refused (by decide +kernel))
  · refine ((ends_exactly alone').1 _).mpr (Context.ends_iff.mpr ?_)
    decide +kernel

end Pass

end TabletDrain
