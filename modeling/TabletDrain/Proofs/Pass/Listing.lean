import TabletDrain.Proofs.Pass.DryRun
import TabletDrain.Proofs.Pod.Stamps

/-! The order in which pods are stored, and the time of a pass. A pass looks at the pods in the order of
their tablets, so what it would do depends on neither, but for the times in the answers that it sends;
and a run carries out the same first part of that. -/
namespace TabletDrain

def Call.unstamped : Call → Call
  | .updatePod sent => .updatePod sent.unstamped
  | call => call

def LogEntry.unstamped (entry : LogEntry) : LogEntry := { entry with call := entry.call.unstamped }

def Deed.unstamped : Deed → Deed
  | .call made => .call made.unstamped
  | .store name pod => .store name pod.unstamped
  | deed => deed

theorem filterMap_write?_unstamped (deeds : List Deed) :
    (deeds.map Deed.unstamped).filterMap Deed.write? =
      (deeds.filterMap Deed.write?).map (Prod.map id Pod.unstamped) := by
  rw [List.filterMap_map, List.map_filterMap]
  refine List.filterMap_congr fun deed _ => ?_
  cases deed <;> rfl

/-- How far a run has got, but for the pods: only how often one was stored. -/
def Progress.outline (progress : Progress) : Progress :=
  { progress with
    log := progress.log.map LogEntry.unstamped
    pods := []
    history := progress.history.map fun _ => [] }

section Outlines

variable (setting : Setting) (before : Progress)

private theorem wait_outline (cutoff : Option Nat) (delay : Nat) :
    Run.wait cutoff delay before.outline =
      ((Run.wait cutoff delay before).1, (Run.wait cutoff delay before).2.outline) := by
  unfold Run.wait
  dsimp only [Progress.outline]
  split
  · rfl
  · split <;> rfl

private theorem waitWithin_outline (cutoff : Option Nat) (deadline delay : Nat) :
    Run.waitWithin cutoff deadline delay before.outline =
      ((Run.waitWithin cutoff deadline delay before).1,
        (Run.waitWithin cutoff deadline delay before).2.outline) := by
  unfold Run.waitWithin
  dsimp only [Progress.outline]
  split
  · rfl
  · split
    · rfl
    · split <;> rfl

private theorem logged_outline (call : Call) :
    Progress.outline { before with log := before.log ++ [⟨before.now, call⟩] } =
      { before.outline with
        log := before.outline.log ++ [⟨before.outline.now, call.unstamped⟩] } := by
  simp [Progress.outline, LogEntry.unstamped]

private theorem perform_outline_deed (deed : Deed) :
    deed.unstamped.perform setting before.outline =
      ((deed.perform setting before).1, (deed.perform setting before).2.outline) := by
  cases deed with
  | call made => exact congrArg (Prod.mk (some ())) (logged_outline before made).symm
  | event severity object reason message =>
    let told : Call := .event severity object reason message
    let logged : Progress := { before with log := before.log ++ [⟨before.now, told⟩] }
    have calls : before.outline.log.length = before.log.length := List.length_map _
    have waits := wait_outline logged setting.cutoff (setting.replies.publishAfter before.log.length)
    rw [logged_outline] at waits
    change Run.wait setting.cutoff (setting.replies.publishAfter before.outline.log.length) _ = _
    rw [calls]
    exact waits
  | wait delay => exact wait_outline before setting.cutoff delay
  | waitUpTo time delay =>
    have waits := waitWithin_outline before setting.cutoff (before.now + time) delay
    change Run.bind (Run.waitWithin _ (before.now + time) _) _ before.outline =
      ((Run.bind (Run.waitWithin _ (before.now + time) _) _ before).1,
        (Run.bind (Run.waitWithin _ (before.now + time) _) _ before).2.outline)
    unfold Run.bind
    rw [waits]
    cases Run.waitWithin setting.cutoff (before.now + time) delay before with
    | mk value reached => cases value <;> rfl
  | store name pod =>
    simp [Deed.unstamped, Deed.perform, Run.store, Run.modify, Progress.outline,
      Cluster.replaceFirst]
  | fail fault => rfl
  | requeueAfter delay => rfl

/-- Deeds without times come as far in a run without pods. -/
theorem perform_outline (deeds : List Deed) :
    perform setting (deeds.map Deed.unstamped) before.outline =
      ((perform setting deeds before).1, (perform setting deeds before).2.outline) := by
  induction deeds generalizing before with
  | nil => rfl
  | cons deed rest ih =>
    have here := perform_outline_deed setting before deed
    cases outcome : deed.perform setting before with
    | mk value reached =>
      rw [outcome] at here
      cases value with
      | none =>
        have done : perform setting (deed :: rest) before = (none, reached) :=
          Run.bind_of_none _ outcome
        rw [done]
        exact Run.bind_of_none _ here
      | some _ =>
        have done : perform setting (deed :: rest) before = perform setting rest reached :=
          Run.bind_of_some _ outcome
        rw [done, ← ih]
        exact Run.bind_of_some _ here

end Outlines

theorem Pod.alike_unstamped (pod : Pod) : pod.Alike pod.unstamped :=
  ⟨pod.reannotated_unstamped, pod.markers_unstamped⟩

namespace Upgrade

variable (setting : Setting) (tablets : Keyed Tablet) (desired : String) (pods : List (String × Pod))

theorem deedsFrom_unstamped :
    deedsFrom setting tablets desired (pods.map fun entry => (entry.1, entry.2.unstamped)) =
      deedsFrom setting tablets desired pods := by
  induction pods with
  | nil => rfl
  | cons entry rest ih =>
    obtain ⟨key, pod⟩ := entry
    rw [List.map_cons, deedsFrom, deedsFrom, ih]
    rfl

theorem outcomeFrom_unstamped :
    outcomeFrom setting tablets desired (pods.map fun entry => (entry.1, entry.2.unstamped)) =
      outcomeFrom setting tablets desired pods := by
  induction pods with
  | nil => rfl
  | cons entry rest ih =>
    obtain ⟨key, pod⟩ := entry
    rw [List.map_cons, outcomeFrom, outcomeFrom, ih]
    rfl

end Upgrade

theorem Succession.eligible_unstamped (record : ShardRecord) (tablets : Keyed Tablet)
    (pods : Keyed Pod) (external : Bool) :
    eligible record tablets (pods.map Pod.unstamped) external =
      eligible record tablets pods external := by
  unfold eligible
  refine List.filterMap_congr fun entry _ => ?_
  dsimp only
  rw [Keyed.get?_map]
  cases pods.get? entry.1 with
  | none => rfl
  | some pod =>
    dsimp only [Option.map_some]
    rw [pod.alike_unstamped.isEligible]

namespace Pass.Context

section Looks

variable (context : Context) (primary : Alias) (drains next : Keyed DrainState) (pods : Keyed Pod)
  (tablets : Keyed Tablet)

private theorem entries_unstamped :
    (pods.map Pod.unstamped).entries = pods.entries.map fun entry => (entry.1, entry.2.unstamped) :=
  rfl

theorem isPrepared_unstamped :
    context.isPrepared (pods.map Pod.unstamped) tablets = context.isPrepared pods tablets := by
  unfold isPrepared
  rw [entries_unstamped, Upgrade.outcomeFrom_unstamped]

theorem prepareDeeds_unstamped :
    context.prepareDeeds (pods.map Pod.unstamped) tablets = context.prepareDeeds pods tablets := by
  unfold prepareDeeds
  rw [entries_unstamped, Upgrade.outcomeFrom_unstamped, Upgrade.deedsFrom_unstamped]

theorem lastDeeds_unstamped :
    context.lastDeeds primary drains next (pods.map Pod.unstamped) tablets =
      context.lastDeeds primary drains next pods tablets := by
  have eligible : context.eligible (pods.map Pod.unstamped) tablets = context.eligible pods tablets :=
    Succession.eligible_unstamped _ _ _ _
  unfold lastDeeds awayDeeds chooseDeeds candidate answers
  rw [eligible]

end Looks

/-- The same pass over the pods in another order, at another time. -/
def relisted (context : Context) (stamp : String) (pods : List Pod) : Context :=
  { context with stamp := stamp, cluster := { context.cluster with pods := pods } }

section Relisted

variable (context : Context) (stamp : String) (pods : List Pod)

private theorem replies_relisted : (context.relisted stamp pods).replies = context.replies := rfl

private theorem sent_relisted (pod : Pod) {updated updated' : Pod}
    (alike : updated'.unstamped = updated.unstamped) :
    ((context.relisted stamp pods).sent pod updated').unstamped =
      (context.sent pod updated).unstamped := by
  unfold sent
  rw [replies_relisted, Pod.shownName_of_unstamped_eq alike]
  obtain ⟨delay, fault, returned⟩ := context.replies.updatePod updated.shownName
  cases fault with
  | some _ => rfl
  | none =>
    cases returned with
    | some _ => rfl
    | none => exact alike

private theorem sendDeeds_relisted (pod : Pod) {updated updated' : Pod}
    (alike : updated'.unstamped = updated.unstamped) :
    ((context.relisted stamp pods).sendDeeds pod updated').map Deed.unstamped =
      (context.sendDeeds pod updated).map Deed.unstamped := by
  unfold sendDeeds
  rw [replies_relisted, Pod.shownName_of_unstamped_eq alike]
  obtain ⟨delay, fault, returned⟩ := context.replies.updatePod updated.shownName
  cases fault with
  | some _ =>
    simp only [List.map_append, List.map_cons, Deed.unstamped, Call.unstamped, alike]
    rfl
  | none =>
    cases returned with
    | some _ => simp [Deed.unstamped, Call.unstamped, alike]
    | none => simp [Deed.unstamped, Call.unstamped, alike]

private theorem moved_relisted (pod : Pod) (state : DrainState) :
    ((context.relisted stamp pods).moved pod state).unstamped =
      (context.moved pod state).unstamped := by
  unfold moved
  rcases pod.setDrainState?_cases state context.stamp stamp with
    ⟨first, second⟩ | ⟨updated, updated', changed, first, second, alike⟩
  · rw [show (context.relisted stamp pods).stamp = stamp from rfl, first, second]
  · rw [show (context.relisted stamp pods).stamp = stamp from rfl, first, second]
    cases changed with
    | false => rfl
    | true =>
      dsimp only
      rw [show (context.relisted stamp pods).configuration = context.configuration from rfl]
      split
      · exact alike
      · exact sent_relisted context stamp pods pod alike

private theorem moveDeeds_relisted (pod : Pod) (state : DrainState) :
    ((context.relisted stamp pods).moveDeeds pod state).map Deed.unstamped =
      (context.moveDeeds pod state).map Deed.unstamped := by
  unfold moveDeeds
  rcases pod.setDrainState?_cases state context.stamp stamp with
    ⟨first, second⟩ | ⟨updated, updated', changed, first, second, alike⟩
  · rw [show (context.relisted stamp pods).stamp = stamp from rfl, first, second]
  · rw [show (context.relisted stamp pods).stamp = stamp from rfl, first, second]
    cases changed with
    | false => rfl
    | true =>
      dsimp only
      rw [show (context.relisted stamp pods).configuration = context.configuration from rfl]
      split
      · rfl
      · exact sendDeeds_relisted context stamp pods pod alike

private theorem carried_relisted (primary : String) (next : Keyed DrainState) (key : String)
    (pod : Pod) :
    ((context.relisted stamp pods).carried primary next key pod).unstamped =
      (context.carried primary next key pod).unstamped := by
  unfold carried
  cases next.get? key with
  | none => rfl
  | some state =>
    dsimp only
    split
    · rfl
    · exact moved_relisted context stamp pods pod state

private theorem carryAll_relisted (primary : String) (held : Keyed Pod) (next : Keyed DrainState) :
    ((context.relisted stamp pods).carryAll primary held next).map Deed.unstamped =
      (context.carryAll primary held next).map Deed.unstamped := by
  unfold carryAll
  rw [List.map_flatMap, List.map_flatMap]
  refine List.flatMap_congr fun entry _ => ?_
  unfold carryDeeds
  split
  · rfl
  · cases held.get? entry.1 with
    | none => rfl
    | some pod => exact moveDeeds_relisted context stamp pods pod entry.2

variable (same : (context.relisted stamp pods).view = context.view)

include same

private theorem next_relisted (primary : Alias) :
    (context.relisted stamp pods).next primary = context.next primary := by
  rw [next, same, next]

/-- Looking for requests only takes answers back, which does not depend on the time. -/
private theorem loaded_relisted :
    (context.relisted stamp pods).loaded (context.relisted stamp pods).view =
      context.loaded context.view := by
  rw [same]
  rfl

private theorem held_relisted (primary : Alias) :
    ((context.relisted stamp pods).held primary).map Pod.unstamped =
      (context.held primary).map Pod.unstamped := by
  refine Keyed.ext_get? fun key => ?_
  unfold held
  rw [loaded_relisted context stamp pods same, next_relisted context stamp pods same, Keyed.get?_map,
    Keyed.get?_map, Keyed.get?_mapKeyed, Keyed.get?_mapKeyed, Option.map_map, Option.map_map]
  refine Option.map_congr fun pod _ => ?_
  exact carried_relisted context stamp pods _ _ key pod

private theorem actDeeds_relisted (primary : Alias) :
    ((context.relisted stamp pods).actDeeds primary).map Deed.unstamped =
      (context.actDeeds primary).map Deed.unstamped := by
  let other := context.relisted stamp pods
  have held : (other.held primary).map Pod.unstamped = (context.held primary).map Pod.unstamped :=
    held_relisted context stamp pods same primary
  have marks : (other.markDeeds primary).map Deed.unstamped =
      (context.markDeeds primary).map Deed.unstamped := by
    unfold markDeeds
    rw [loaded_relisted context stamp pods same, next_relisted context stamp pods same]
    exact carryAll_relisted context stamp pods _ _ _
  have prepares : other.prepareDeeds (other.held primary) other.tablets =
      context.prepareDeeds (context.held primary) context.tablets := by
    rw [← prepareDeeds_unstamped, held]
    exact context.prepareDeeds_unstamped _ _
  have prepared : other.isPrepared (other.held primary) other.tablets =
      context.isPrepared (context.held primary) context.tablets := by
    rw [← isPrepared_unstamped, held]
    exact context.isPrepared_unstamped _ _
  have last : other.lastDeeds primary (Drain.requests other.view) (other.next primary)
      (other.held primary) other.tablets =
      context.lastDeeds primary (Drain.requests context.view) (context.next primary)
        (context.held primary) context.tablets := by
    rw [← lastDeeds_unstamped, held, same, next_relisted context stamp pods same]
    exact context.lastDeeds_unstamped _ _ _ _ _
  change (other.actDeeds primary).map _ = _
  unfold actDeeds
  rw [prepares, prepared, last, same]
  split
  · rfl
  · split
    · rfl
    · simp only [List.map_append, marks]

/-- What a pass would do but for the times in its answers. -/
theorem deeds_relisted :
    (context.relisted stamp pods).deeds.map Deed.unstamped = context.deeds.map Deed.unstamped := by
  let other := context.relisted stamp pods
  have loads : other.loadDeeds other.view = context.loadDeeds context.view := by
    rw [same]
    rfl
  change other.deeds.map _ = _
  unfold deeds
  rw [@readingDeeds_congr context other rfl rfl, @isRead_congr context other rfl, loads]
  rw [show other.readings = context.readings from rfl,
    show other.timeouts = context.timeouts from rfl, show other.shard = context.shard from rfl,
    show other.cluster.record = context.cluster.record from rfl, List.map_append, List.map_append]
  split
  · cases Shard.healthyPrimary context.shard.status context.cluster.record with
    | error reason => rfl
    | ok primary =>
      dsimp only
      rw [List.map_append, List.map_append, actDeeds_relisted context stamp pods same]
  · rfl

theorem writes_relisted :
    ((context.relisted stamp pods).updates.filterMap (context.relisted stamp pods).stored?).map
        (Prod.map id Pod.unstamped) =
      (context.updates.filterMap context.stored?).map (Prod.map id Pod.unstamped) := by
  rw [← writes_deeds, ← writes_deeds, ← filterMap_write?_unstamped, ← filterMap_write?_unstamped,
    deeds_relisted context stamp pods same]

end Relisted

theorem landing_unstamped (context : Context) (done : List Update) (pod : Pod) :
    (context.landing done pod).unstamped =
      (Keyed.find pod.shownName ((done.filterMap context.stored?).map
        (Prod.map id Pod.unstamped))).getD pod.unstamped := by
  rw [landing, Keyed.find_map]
  cases Keyed.find pod.shownName (done.filterMap context.stored?) <;> rfl

end Pass.Context

namespace ShardSpec

variable {spec : ShardSpec} {pods pods' : List Pod}

theorem Distinct.perm (distinct : spec.Distinct pods) (permuted : pods'.Perm pods) :
    spec.Distinct pods' where
  names := (permuted.map _).nodup_iff.mpr distinct.names
  tablets := ((permuted.filter _).map _).nodup_iff.mpr distinct.tablets

theorem view_perm (distinct : spec.Distinct pods) (permuted : pods'.Perm pods) :
    spec.view pods' = spec.view pods := by
  refine Keyed.ext_get? fun key => Option.ext fun pod => ?_
  rw [get?_view (distinct.perm permuted), get?_view distinct, permuted.mem_iff]

end ShardSpec

namespace Pass

theorem length_storesAfter (pods : List Pod) (writes : List (String × Pod)) :
    (storesAfter pods writes).length = writes.length := by
  induction writes generalizing pods with
  | nil => rfl
  | cons write rest ih => exact congrArg (· + 1) (ih _)

theorem reportOf_of_outline_eq (limit : Nat) {outcome other : Option Unit × Progress}
    (same : other.1 = outcome.1 ∧ other.2.outline = outcome.2.outline) :
    (reportOf limit other).log.map LogEntry.unstamped =
        (reportOf limit outcome).log.map LogEntry.unstamped ∧
      (reportOf limit other).elapsed = (reportOf limit outcome).elapsed ∧
      (reportOf limit other).result = (reportOf limit outcome).result ∧
      (reportOf limit other).history.length = (reportOf limit outcome).history.length := by
  obtain ⟨ends, outlines⟩ := same
  simp only [Progress.outline, Progress.mk.injEq] at outlines
  obtain ⟨now, log, _, history, results⟩ := outlines
  have lengths := congrArg List.length history
  rw [List.length_map, List.length_map] at lengths
  refine ⟨log, now, ?_, lengths⟩
  simp only [reportOf, ends, results]

/-- A successful update gives back a pod of the name that was sent. -/
def NamesHeld (replies : Replies) : Prop :=
  ∀ name pod, (replies.updatePod name).fault = none →
    (replies.updatePod name).returned = some pod → pod.shownName = name

section Listings

variable (configuration : Configuration) (replies : Replies) (stamp : String) {shard : Shard}
  {cluster : Cluster}

variable (shard cluster) in
/-- The stored pods follow from how many of the writes were done. -/
private theorem run_writes (names : (cluster.pods.map Pod.shownName).Nodup) :
    let context := contextOf configuration replies stamp shard cluster
    let report := run configuration replies stamp shard cluster
    ∃ written, written <+: (context.updates.filterMap context.stored?).map (Prod.map id Pod.unstamped) ∧
      written.length = report.history.length ∧
      (NamesHeld replies → report.pods.map Pod.unstamped = cluster.pods.map fun pod =>
        (Keyed.find pod.shownName written).getD pod.unstamped) := by
  intro context report
  obtain ⟨_, done, part, history, stored, _⟩ :=
    run_does_updates configuration replies stamp shard cluster
  refine ⟨_, (part.filterMap context.stored?).map (Prod.map id Pod.unstamped), ?_, fun named => ?_⟩
  · rw [show report.history = _ from history, length_storesAfter, List.length_map]
  · have stores := context.storeAll_eq_landing_of_named names part fun _ _ => named _
    rw [show report.pods = _ from stored.trans stores, List.map_map]
    exact List.map_congr_left fun pod _ => context.landing_unstamped done pod

/-- In what order the pods are stored makes no difference to a pass, and neither does its time. -/
theorem listing_order_immaterial {pods : List Pod} (permuted : pods.Perm cluster.pods)
    (distinct : shard.spec.Distinct cluster.pods) (stamp' : String) :
    let report := run configuration replies stamp shard cluster
    let report' := run configuration replies stamp' shard { cluster with pods := pods }
    report'.log.map LogEntry.unstamped = report.log.map LogEntry.unstamped ∧
      report'.elapsed = report.elapsed ∧ report'.result = report.result ∧
      (NamesHeld replies → ∃ change, report.pods.map Pod.unstamped = cluster.pods.map change ∧
        report'.pods.map Pod.unstamped = pods.map change) := by
  intro report report'
  let context := contextOf configuration replies stamp shard cluster
  let other := context.relisted stamp' pods
  have same : other.view = context.view := ShardSpec.view_perm distinct permuted
  have reached : (perform context.setting other.deeds (.start pods)).1 =
        (perform context.setting context.deeds (.start cluster.pods)).1 ∧
      (perform context.setting other.deeds (.start pods)).2.outline =
        (perform context.setting context.deeds (.start cluster.pods)).2.outline := by
    refine Prod.mk.inj ?_
    rw [← perform_outline, ← perform_outline, context.deeds_relisted stamp' pods same]
    rfl
  have reported : report = reportOf configuration.timeouts.pass
      (perform context.setting context.deeds (.start cluster.pods)) := run_eq _ _ _ _ _
  have reported' : report' = reportOf configuration.timeouts.pass
      (perform context.setting other.deeds (.start pods)) := run_eq _ _ _ _ _
  have alike := reportOf_of_outline_eq configuration.timeouts.pass reached
  rw [← reported, ← reported'] at alike
  obtain ⟨log, elapsed, result, counts⟩ := alike
  refine ⟨log, elapsed, result, fun named => ?_⟩
  obtain ⟨written, part, count, stored⟩ :=
    run_writes configuration replies stamp shard cluster distinct.names
  obtain ⟨written', part', count', stored'⟩ := run_writes configuration replies stamp' shard
    { cluster with pods := pods } (distinct.perm permuted).names
  have writes : written' = written := by
    have lengths : written'.length = written.length := count'.trans (counts.trans count.symm)
    have again := context.writes_relisted stamp' pods same ▸ part'
    exact (List.prefix_of_prefix_length_le again part lengths.le).eq_of_length lengths
  exact ⟨_, stored named, writes ▸ stored' named⟩

end Listings

theorem listing_order_immaterial_sample :
    let replies := Sample.refusing "tablet-2"
    let reversed := { Sample.cluster with pods := Sample.cluster.pods.reverse }
    let report := run Sample.configuration replies "now" Sample.shard Sample.cluster
    let report' := run Sample.configuration replies "later" Sample.shard reversed
    reversed.pods.Perm Sample.cluster.pods ∧ Sample.shard.spec.Distinct Sample.cluster.pods ∧
      NamesHeld replies ∧ report'.log.map LogEntry.unstamped = report.log.map LogEntry.unstamped ∧
      report'.elapsed = report.elapsed ∧ report'.result = report.result ∧
      ∃ change, report.pods.map Pod.unstamped = Sample.cluster.pods.map change ∧
        report'.pods.map Pod.unstamped = reversed.pods.map change := by
  intro replies reversed report report'
  have permuted : reversed.pods.Perm Sample.cluster.pods := List.reverse_perm _
  have distinct : Sample.shard.spec.Distinct Sample.cluster.pods := ⟨by decide, by decide +kernel⟩
  have named : NamesHeld replies := by
    intro name pod _ returned
    by_cases same : name = "tablet-2" <;>
      simp [replies, Sample.refusing, same, UpdateReply.prompt] at returned
  obtain ⟨log, elapsed, result, pods⟩ :=
    listing_order_immaterial Sample.configuration replies "now" permuted distinct "later"
  exact ⟨permuted, distinct, named, log, elapsed, result, pods named⟩

/-- What is stored for one pod takes the name of another one, whose own update then goes to whichever of
the two comes first. -/
theorem renamed_pod_order_matters :
    let pods := [Sample.pod "2" [(startedMarker, "")], Sample.pod "3" [(startedMarker, "")]]
    let replies := { Replies.atOnce with
      updatePod := fun name =>
        if name = "tablet-2" then ⟨0, none, some (Sample.pod "3" [])⟩ else .prompt }
    let report := run Sample.configuration replies "now" Sample.shard
      { Sample.cluster with pods := pods }
    let report' := run Sample.configuration replies "now" Sample.shard
      { Sample.cluster with pods := pods.reverse }
    pods.reverse.Perm pods ∧ Sample.shard.spec.Distinct pods ∧
      ¬∃ change, report.pods.map Pod.unstamped = pods.map change ∧
        report'.pods.map Pod.unstamped = pods.reverse.map change := by
  intro pods replies report report'
  refine ⟨List.reverse_perm _, ⟨by decide, by decide +kernel⟩, ?_⟩
  intro ⟨change, stored, stored'⟩
  have first : (report.pods.map Pod.unstamped).head? =
      some (change (Sample.pod "2" [(startedMarker, "")])) := by
    rw [stored]
    rfl
  have last : (report'.pods.map Pod.unstamped).getLast? =
      some (change (Sample.pod "2" [(startedMarker, "")])) := by
    rw [stored']
    rfl
  have apart : (report.pods.map Pod.unstamped).head? ≠ (report'.pods.map Pod.unstamped).getLast? := by
    decide +kernel
  exact apart (first.trans last.symm)

end Pass

end TabletDrain
