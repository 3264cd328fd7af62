import TabletDrain.Proofs.Pass.Marked

/-! Single passes of a rolling drain: live, with all answers in time, over a shard whose requests are all
new or all acknowledged. Each pass acknowledges, finishes one pod, or hands over, and the environment then
deletes the finished pods and follows the hand-over. -/
namespace TabletDrain

namespace Pass.Report

def marks (report : Report) : List String := report.calls.filterMap Call.marked?

end Pass.Report

def Call.isSuccess : Call → Bool
  | .metric _ .success => true
  | _ => false

def Pass.Report.promoted? (report : Report) : Option Alias :=
  if report.calls.any Call.isSuccess then report.handovers.head?.bind Call.newPrimary? else none

namespace Cluster

def promote (cluster : Cluster) (name : Alias) : Cluster :=
  { cluster with
    record := { cluster.record with primary := some name }
    tablets := cluster.tablets.map fun tablet =>
      if tablet.name = name then { tablet with role := .primary }
      else if cluster.record.primary = some tablet.name then { tablet with role := .replica }
      else tablet }

/-- What the environment does after a pass: it deletes the finished pods, and the topology follows a
hand-over. -/
def afterPass (cluster : Cluster) (report : Pass.Report) : Cluster :=
  let kept := { cluster with pods := report.pods.filter fun pod => !pod.markers.finished }
  match report.promoted? with
  | some name => kept.promote name
  | none => kept

end Cluster

structure Occasion where
  configuration : Configuration
  replies : Replies
  stamp : String

namespace Occasion

def run (occasion : Occasion) (shard : Shard) (cluster : Cluster) : Pass.Report :=
  Pass.run occasion.configuration occasion.replies occasion.stamp shard cluster

def context (occasion : Occasion) (shard : Shard) (cluster : Cluster) : Pass.Context :=
  Pass.contextOf occasion.configuration occasion.replies occasion.stamp shard cluster

/-- A live pass that gets all its answers in time; a hand-over that it makes succeeds in its own time. -/
structure InTime (occasion : Occasion) (shard : Shard) (cluster : Cluster) : Prop where
  live : occasion.configuration.dryRun = false
  answered : (occasion.context shard cluster).InTime
  promotes : occasion.replies.plannedReparent.fault = none
  promotesBy : occasion.replies.plannedReparent.delay ≤ occasion.configuration.timeouts.reparent

theorem InTime.completes {occasion : Occasion} {shard : Shard} {cluster : Cluster}
    (inTime : occasion.InTime shard cluster) : (occasion.context shard cluster).Completes :=
  (Pass.run_timed occasion.configuration occasion.replies occasion.stamp shard cluster).1.mpr
    inTime.answered.whole

structure Prompt (occasion : Occasion) : Prop where
  live : occasion.configuration.dryRun = false
  replies : occasion.replies.Prompt

/-- Answers that are given at once are in time wherever a pass is made. -/
theorem Prompt.inTime {occasion : Occasion} (prompt : occasion.Prompt) (shard : Shard)
    (cluster : Cluster) : occasion.InTime shard cluster where
  live := prompt.live
  answered := Pass.Context.inTime_of_prompt prompt.replies
  promotes := congrArg Reply.fault prompt.replies.plannedReparent
  promotesBy := (congrArg Reply.delay prompt.replies.plannedReparent).trans_le (Nat.zero_le _)

end Occasion

/-- A shard on the way: the keys that have a request, all in one state. -/
structure Underway (shard : Shard) (cluster : Cluster) (primary : Alias) (state : DrainState)
    (todo : List String) : Prop where
  healthy : Shard.healthyPrimary shard.status cluster.record = .ok primary
  distinct : shard.spec.Distinct cluster.pods
  quiet : Pass.Context.isAborting (shard.spec.view cluster.pods) = false
  unfinished : state ≠ .finished
  requests : ∀ key old, (Drain.requests (shard.spec.view cluster.pods)).get? key = some old ↔
    key ∈ todo ∧ old = state

namespace Underway

open Pass.Context

variable {shard : Shard} {cluster : Cluster} {primary : Alias} {state : DrainState}
  {todo : List String} {occasion : Occasion}

theorem smooth (underway : Underway shard cluster primary state todo)
    (inTime : occasion.InTime shard cluster) :
    (occasion.context shard cluster).Smooth primary where
  live := inTime.live
  inTime := inTime.answered
  healthy := underway.healthy
  distinct := underway.distinct
  quiet := underway.quiet

theorem allIn (underway : Underway shard cluster primary state todo) (occasion : Occasion) :
    (occasion.context shard cluster).AllIn state :=
  ⟨underway.unfinished, fun key old found => ((underway.requests key old).mp found).2⟩

theorem calls_run (inTime : occasion.InTime shard cluster) :
    (occasion.run shard cluster).calls =
      (occasion.context shard cluster).deeds.filterMap Deed.call? :=
  Pass.calls_of_completes inTime.completes

theorem marks_run (underway : Underway shard cluster primary state todo)
    (inTime : occasion.InTime shard cluster) :
    (occasion.run shard cluster).marks = (occasion.context shard cluster).turn primary := by
  have updates : ∀ call : Call, call.purpose ≠ .update → call.marked? = none := by
    intro call other
    cases call <;> first | rfl | exact absurd rfl other
  have only (calls : List Call) : calls.filterMap Call.marked? =
      (calls.filter fun call => call.purpose = .update).filterMap Call.marked? := by
    rw [List.filterMap_filter]
    refine List.filterMap_congr fun call _ => ?_
    by_cases update : call.purpose = .update
    · simp [update]
    · simp [update, updates call update]
  rw [Pass.Report.marks, calls_run inTime, only, updateCalls_of_smooth (underway.smooth inTime),
    List.filterMap_map]
  exact marked_writes (underway.smooth inTime) (underway.allIn occasion)

theorem pods_run (underway : Underway shard cluster primary state todo)
    (inTime : occasion.InTime shard cluster) :
    (occasion.run shard cluster).pods =
      cluster.pods.map ((occasion.context shard cluster).left primary) :=
  (Pass.stores_of_completes inTime.completes).trans (storeAll_of_smooth (underway.smooth inTime))

theorem finished_run (underway : Underway shard cluster primary state todo)
    (inTime : occasion.InTime shard cluster) :
    ((shard.spec.view (occasion.run shard cluster).pods).filter
      fun _ pod => pod.markers.finished).keys = (occasion.context shard cluster).turn primary := by
  have smooth := underway.smooth inTime
  have same : shard.spec.view (occasion.run shard cluster).pods =
      (occasion.context shard cluster).held primary := by
    apply Keyed.ext_get?
    intro key
    rw [underway.pods_run inTime]
    exact get?_view_left smooth key
  rw [same]
  exact finished_held smooth (underway.allIn occasion)

theorem handovers_run (inTime : occasion.InTime shard cluster) :
    (occasion.run shard cluster).handovers =
      (partFor .handOver (occasion.context shard cluster).deeds).filterMap Deed.call? := by
  rw [Pass.Report.handovers, calls_run inTime, filter_calls]

theorem handovers_eq_nil (underway : Underway shard cluster primary state todo)
    (busy : (∃ key ∈ todo, key ≠ primary.text) ∨ state ≠ .acknowledged ∨ primary.text ∉ todo) :
    (occasion.run shard cluster).handovers = [] := by
  have requests := underway.requests
  refine Pass.handovers_of_busy (Shard.healthyPrimary_eq_ok_iff.mp underway.healthy).2 ?_ ?_
  · intro isFinished
    exact underway.unfinished ((requests _ _).mp isFinished).2.symm
  · rcases busy with ⟨key, member, secondary⟩ | isNew | absent
    · refine .inl ⟨key, secondary, ?_⟩
      rw [(requests key state).mpr ⟨member, rfl⟩]
      exact Option.some_ne_none _
    · exact .inr fun waits => isNew ((requests _ _).mp waits).2.symm
    · exact .inr fun waits => absent ((requests _ _).mp waits).1

theorem pods_afterPass (report : Pass.Report) :
    (cluster.afterPass report).pods = report.pods.filter fun pod => !pod.markers.finished := by
  unfold Cluster.afterPass
  split <;> rfl

theorem afterPass_of_no_handover {report : Pass.Report} (unmoved : report.handovers = []) :
    cluster.afterPass report =
      { cluster with pods := report.pods.filter fun pod => !pod.markers.finished } := by
  have unpromoted : report.promoted? = none := by
    rw [Pass.Report.promoted?, unmoved]
    split <;> rfl
  rw [Cluster.afterPass, unpromoted]

theorem view_afterPass (underway : Underway shard cluster primary state todo)
    (inTime : occasion.InTime shard cluster) :
    shard.spec.view (cluster.afterPass (occasion.run shard cluster)).pods =
      (occasion.context shard cluster).remaining primary := by
  have smooth := underway.smooth inTime
  apply Keyed.ext_get?
  intro key
  rw [pods_afterPass, underway.pods_run inTime, ShardSpec.get?_view_filter
    (underway.distinct.map fun pod _ => reannotated_left smooth pod), remaining, Keyed.get?_filter]
  congr 1
  exact get?_view_left smooth key

/-- What is left to do after a pass. -/
theorem afterPass (underway : Underway shard cluster primary state todo)
    (inTime : occasion.InTime shard cluster) {primary' : Alias} {state' : DrainState} {todo' : List String}
    (healthy : Shard.healthyPrimary shard.status
      (cluster.afterPass (occasion.run shard cluster)).record = .ok primary')
    (unfinished : state' ≠ .finished)
    (left : ∀ key after,
      (((occasion.context shard cluster).next primary).get? key = some .acknowledged ∧
          after = .acknowledged ∨
        ((occasion.context shard cluster).next primary).get? key = some .finished ∧
          key = primary.text ∧ after = state) ↔ key ∈ todo' ∧ after = state') :
    Underway shard (cluster.afterPass (occasion.run shard cluster)) primary' state' todo' where
  healthy := healthy
  distinct := by
    rw [pods_afterPass, underway.pods_run inTime]
    exact (underway.distinct.map fun pod _ => reannotated_left (underway.smooth inTime) pod).filter _
  quiet := by
    rw [underway.view_afterPass inTime]
    exact isAborting_remaining (underway.smooth inTime)
  unfinished := unfinished
  requests := by
    intro key after
    rw [underway.view_afterPass inTime,
      get?_requests_remaining (underway.smooth inTime) (underway.allIn occasion)]
    exact left key after

end Underway

end TabletDrain
