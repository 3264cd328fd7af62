import TabletDrain.Controller
import TabletDrain.Proofs.Pass.Prompt
import TabletDrain.Proofs.Shard.Validity

/-! Visits to shards one after another, whatever the replica, the shards and the world are like each time.
Each visit says by itself when the next is due; a pass is run only by a leader and for a valid spec, and
its failure is counted once. -/
namespace TabletDrain

namespace Counters

variable {κ ν : Type} [DecidableEq κ]

/-- The value under a key. -/
def valueOf (key : κ) (entries : List (κ × ν)) : Option ν :=
  (entries.find? fun entry => entry.1 = key).map Prod.snd

theorem valueOf_cons (key k : κ) (value : ν) (rest : List (κ × ν)) :
    valueOf key ((k, value) :: rest) = if k = key then some value else valueOf key rest := by
  by_cases same : k = key <;> simp [valueOf, same]

theorem valueOf_change (key other : κ) (initial : ν) (f : ν → ν) (entries : List (κ × ν)) :
    valueOf other (change key initial f entries) =
      if key = other then some (f ((valueOf key entries).getD initial)) else valueOf other entries := by
  induction entries with
  | nil => exact valueOf_cons other key (f initial) []
  | cons entry rest ih =>
    obtain ⟨k, value⟩ := entry
    by_cases here : k = key
    · subst here
      simp only [change, valueOf_cons, if_true, Option.getD_some]
      split <;> rfl
    · simp only [change, if_neg here, valueOf_cons, ih]
      by_cases same : key = other
      · simp only [if_pos same, if_neg (same ▸ here)]
      · simp only [if_neg same]

/-- The failures of a controller that were counted under a label. -/
def failed (counters : Counters) (controller label : String) : Nat :=
  (valueOf (controller, label) counters.failures).getD 0

theorem failed_observe (counters : Counters) (controller controller' label : String) (milliseconds : Nat) :
    (counters.observe controller' milliseconds).failed controller label = counters.failed controller label :=
  rfl

theorem failed_countFailure (counters : Counters) (controller controller' label label' : String) :
    (counters.countFailure controller' label').failed controller label =
      counters.failed controller label + if controller = controller' ∧ label' = label then 1 else 0 := by
  rw [failed, countFailure, valueOf_change]
  by_cases same : controller = controller' ∧ label' = label
  · obtain ⟨rfl, rfl⟩ := same
    rw [if_pos rfl, if_pos ⟨rfl, rfl⟩]
    rfl
  · rw [if_neg (fun both => same ⟨(Prod.mk.inj both).1.symm, (Prod.mk.inj both).2⟩), if_neg same]
    rfl

end Counters

namespace Controller

/-- A visit that is due: who makes it to which shard, and what the cluster is like then. -/
structure Trigger where
  setup : Setup
  cluster : Cluster

namespace Trigger

def spec (trigger : Trigger) : ShardSpec := trigger.setup.shard.spec

/-- The pass that the visit may run. -/
def pass (trigger : Trigger) : Pass.Report :=
  Pass.run trigger.setup.configuration trigger.setup.replies trigger.setup.stamp trigger.setup.shard
    trigger.cluster

end Trigger

/-- How a visit goes: when it starts, what is called, how long that takes, what the pass fails with, and
the delay before the next visit. -/
structure Handling where
  start : Nat
  log : List LogEntry
  elapsed : Nat
  failure : Option Fault
  delay : Nat

def Handling.done (handling : Handling) : Nat := handling.start + handling.elapsed

/-- The labels of the failures that may clear on their own. -/
def transient : List String := ["kube", "topology", "rpc", "timeout", "http"]

inductive Handled (trigger : Trigger) (start : Nat) : Handling → Prop
  | follows (led : trigger.setup.leads = false) :
      Handled trigger start ⟨start, [], 0, none, trigger.setup.resync⟩
  | invalid (leads : trigger.setup.leads = true) (invalid : ¬trigger.spec.IsValid) :
      Handled trigger start ⟨start, [], 0, none, 60000⟩
  | passes {requested : Option Nat} (leads : trigger.setup.leads = true) (valid : trigger.spec.IsValid)
      (result : trigger.pass.result = .ok requested) :
      Handled trigger start ⟨start, trigger.pass.log, trigger.pass.elapsed, none,
        min (requested.getD trigger.setup.resync) trigger.setup.resync⟩
  | fails {fault : Fault} (leads : trigger.setup.leads = true) (valid : trigger.spec.IsValid)
      (result : trigger.pass.result = .error fault) :
      Handled trigger start ⟨start, trigger.pass.log, trigger.pass.elapsed, some fault,
        if fault.label ∈ transient then 15000 else 60000⟩

/-- Visits in turn, each when the end of the one before and the delay that it asked for say. -/
inductive InTurn : Nat → List Trigger → List Handling → Nat → Prop
  | nothing (now : Nat) : InTurn now [] [] now
  | next {now later : Nat} {trigger : Trigger} {triggers : List Trigger} {handling : Handling}
      {handlings : List Handling} (handled : Handled trigger now handling)
      (rest : InTurn (handling.done + handling.delay) triggers handlings later) :
      InTurn now (trigger :: triggers) (handling :: handlings) later

/-- Makes the visits of some triggers. -/
def Progress.after (stop : Nat) (progress : Progress) (triggers : List Trigger) : Progress :=
  triggers.foldl (fun progress trigger =>
    Progress.next trigger.setup stop { progress with cluster := trigger.cluster }) progress

theorem retryDelay_eq (fault : Fault) :
    retryDelay fault = if fault.label ∈ transient then 15000 else 60000 := by
  cases fault <;> rfl

theorem nextPass_eq (requested : Option Nat) (resync : Nat) :
    nextPass requested resync = min (requested.getD resync) resync := by
  cases requested with
  | none => exact (Nat.min_self resync).symm
  | some delay => rfl

theorem invalidSpec_eq (shard : Shard) : invalidSpec shard =
    .config ("ReplicatedShard " ++ shard.name ++ " has " ++ Text.decimal shard.spec.violations ++
      " invalid field(s)") := by
  rw [invalidSpec, ShardSpec.length_problems]

section Visit

variable {shard : Shard} {resync : Nat} {pass : Pass.Report}

theorem visit_of_follower : visit false resync shard pass = ⟨none, resync⟩ := rfl

theorem visit_of_invalid (invalid : ¬shard.spec.IsValid) : visit true resync shard pass = ⟨none, 60000⟩ := by
  have problems : (!shard.spec.problems.isEmpty) = true := by
    rw [Bool.not_eq_true', Bool.eq_false_iff, ne_eq, ShardSpec.isEmpty_problems_iff]
    exact invalid
  rw [visit, if_neg (by decide), if_pos problems]
  rfl

theorem visit_of_valid (valid : shard.spec.IsValid) : visit true resync shard pass = ⟨some pass,
    match pass.result with
    | .ok requested => min (requested.getD resync) resync
    | .error fault => if fault.label ∈ transient then 15000 else 60000⟩ := by
  have sound : (!shard.spec.problems.isEmpty) = false := by
    rw [ShardSpec.isEmpty_problems_iff.mpr valid, Bool.not_true]
  rw [visit, if_neg (by decide), if_neg (by rw [sound]; decide)]
  cases pass.result with
  | ok requested => exact congrArg _ (nextPass_eq requested resync)
  | error fault => exact congrArg _ (retryDelay_eq fault)

end Visit

theorem Trigger.log_ne_nil (trigger : Trigger) : trigger.pass.log ≠ [] := by
  obtain ⟨rest, calls⟩ := Pass.run_lists_first trigger.setup.configuration trigger.setup.replies
    trigger.setup.stamp trigger.setup.shard trigger.cluster
  intro silent
  rw [Pass.Report.calls, show (Pass.run _ _ _ _ _).log = _ from silent] at calls
  cases calls

namespace Handled

variable {trigger : Trigger} {start : Nat} {handling : Handling}

theorem calls_iff (handled : Handled trigger start handling) :
    handling.log ≠ [] ↔ trigger.setup.leads = true ∧ trigger.spec.IsValid := by
  cases handled with
  | follows led => simp [led]
  | invalid leads invalid => simp [invalid]
  | passes leads valid _ => exact iff_of_true trigger.log_ne_nil ⟨leads, valid⟩
  | fails leads valid _ => exact iff_of_true trigger.log_ne_nil ⟨leads, valid⟩

theorem delay_le (handled : Handled trigger start handling) :
    handling.delay ≤ max trigger.setup.resync 60000 := by
  cases handled with
  | follows led => exact Nat.le_max_left _ _
  | invalid leads invalid => exact Nat.le_max_right _ _
  | passes leads valid result => exact (Nat.min_le_right _ _).trans (Nat.le_max_left _ _)
  | fails leads valid result =>
    dsimp only
    split <;> omega

end Handled

/-- What some visits leave behind of which no more is seen from `stop` on. -/
structure Leaves (stop : Nat) (handlings : List Handling) (before after : Progress) : Prop where
  log : after.log = before.log ++ handlings.flatMap fun handling => shifted handling.start stop handling.log
  failed : ∀ controller label, after.counters.failed controller label =
    before.counters.failed controller label +
      if controller = name then
        handlings.countP fun handling => handling.done < stop ∧ handling.failure.map Fault.label = some label
      else 0

theorem Leaves.append {stop : Nat} {first rest : List Handling} {before middle after : Progress}
    (begun : Leaves stop first before middle) (done : Leaves stop rest middle after) :
    Leaves stop (first ++ rest) before after where
  log := by rw [done.log, begun.log, List.flatMap_append, List.append_assoc]
  failed controller label := by
    rw [done.failed, begun.failed, List.countP_append]
    split
    · exact Nat.add_assoc _ _ _
    · rfl

/-- What a pass fails with. -/
def failureOf (pass : Pass.Report) : Option Fault :=
  match pass.result with
  | .ok _ => none
  | .error fault => some fault

theorem failed_count (pass : Pass.Report) (delay : Nat) (counters : Counters) (controller label : String) :
    (Visit.count ⟨some pass, delay⟩ counters).failed controller label =
      counters.failed controller label +
        if controller = name ∧ (failureOf pass).map Fault.label = some label then 1 else 0 := by
  rw [Visit.count, failureOf]
  dsimp only
  cases pass.result with
  | ok requested => simp [Counters.failed_observe]
  | error fault => simp [Counters.failed_countFailure, Counters.failed_observe]

section Step

variable (stop : Nat) (before : Progress) {trigger : Trigger} {delay : Nat}

theorem leaves_of_idle (visited : visit trigger.setup.leads trigger.setup.resync trigger.setup.shard
      trigger.pass = ⟨none, delay⟩) :
    (before.after stop [trigger]).now = before.now + delay ∧
      Leaves stop [⟨before.now, [], 0, none, delay⟩] before (before.after stop [trigger]) := by
  have left : before.after stop [trigger] =
      { before with now := before.now + delay, cluster := trigger.cluster } := by
    change Progress.next trigger.setup stop { before with cluster := trigger.cluster } = _
    rw [Progress.next, show visit _ _ _ (Pass.run _ _ _ _ _) = _ from visited]
  rw [left]
  exact ⟨rfl, ⟨by simp [shifted], by simp⟩⟩

theorem leaves_of_pass (visited : visit trigger.setup.leads trigger.setup.resync trigger.setup.shard
      trigger.pass = ⟨some trigger.pass, delay⟩) :
    (before.after stop [trigger]).now = before.now + trigger.pass.elapsed + delay ∧
      Leaves stop [⟨before.now, trigger.pass.log, trigger.pass.elapsed, failureOf trigger.pass, delay⟩]
        before (before.after stop [trigger]) := by
  have left : before.after stop [trigger] =
      { now := before.now + trigger.pass.elapsed + delay
        cluster := { trigger.cluster with pods := trigger.pass.pods }
        log := before.log ++ shifted before.now stop trigger.pass.log
        counters := if before.now + trigger.pass.elapsed < stop then
          Visit.count ⟨some trigger.pass, delay⟩ before.counters else before.counters } := by
    change Progress.next trigger.setup stop { before with cluster := trigger.cluster } = _
    rw [Progress.next, show visit _ _ _ (Pass.run _ _ _ _ _) = _ from visited]
  rw [left]
  refine ⟨rfl, ⟨by simp, fun controller label => ?_⟩⟩
  by_cases seen : before.now + trigger.pass.elapsed < stop
  · simp [seen, failed_count, Handling.done, ite_and]
  · simp [seen, Handling.done]

end Step

theorem next_handled (trigger : Trigger) (stop : Nat) (before : Progress) :
    ∃ handling, Handled trigger before.now handling ∧
      (before.after stop [trigger]).now = handling.done + handling.delay ∧
      Leaves stop [handling] before (before.after stop [trigger]) := by
  cases leads : trigger.setup.leads with
  | false => exact ⟨_, .follows leads, leaves_of_idle stop before (by rw [leads, visit_of_follower])⟩
  | true =>
    by_cases valid : trigger.spec.IsValid
    · cases result : trigger.pass.result with
      | ok requested =>
        have left := leaves_of_pass stop before
          (by rw [leads, visit_of_valid valid, result])
        rw [failureOf, result] at left
        exact ⟨_, .passes leads valid result, left⟩
      | error fault =>
        have left := leaves_of_pass stop before
          (by rw [leads, visit_of_valid valid, result])
        rw [failureOf, result] at left
        exact ⟨_, .fails leads valid result, left⟩
    · exact ⟨_, .invalid leads valid, leaves_of_idle stop before (by rw [leads, visit_of_invalid valid])⟩

theorem after_inTurn (stop : Nat) (triggers : List Trigger) (before : Progress) :
    ∃ handlings, InTurn before.now triggers handlings (before.after stop triggers).now ∧
      Leaves stop handlings before (before.after stop triggers) := by
  induction triggers generalizing before with
  | nil => exact ⟨[], .nothing _, ⟨(List.append_nil _).symm, by simp [Progress.after]⟩⟩
  | cons trigger rest ih =>
    obtain ⟨handling, handled, now, first⟩ := next_handled trigger stop before
    obtain ⟨handlings, inTurn, others⟩ := ih (before.after stop [trigger])
    rw [now] at inTurn
    exact ⟨handling :: handlings, .next handled inTurn, first.append others⟩

/-- The controller's own visits are of this kind, to one shard, until it is stopped. -/
theorem visits_eq_after (setup : Setup) (stop fuel : Nat) (progress : Progress) :
    ∃ triggers : List Trigger, (∀ trigger ∈ triggers, trigger.setup = setup) ∧
      visits setup stop fuel progress = progress.after stop triggers ∧
      (stop ≤ (visits setup stop fuel progress).now ∨ triggers.length = fuel) := by
  induction fuel generalizing progress with
  | zero => exact ⟨[], List.forall_mem_nil _, rfl, .inr rfl⟩
  | succ fuel ih =>
    rw [visits]
    by_cases early : progress.now < stop
    · rw [if_pos early]
      obtain ⟨triggers, same, made, ends⟩ := ih (progress.next setup stop)
      exact ⟨⟨setup, progress.cluster⟩ :: triggers, List.forall_mem_cons.mpr ⟨rfl, same⟩, made,
        ends.imp_right (congrArg (· + 1))⟩
    · rw [if_neg early]
      exact ⟨[], List.forall_mem_nil _, rfl, .inl (Nat.le_of_not_lt early)⟩

/-- Whatever triggers come, a call is made only by a leader and for a valid spec, and then always. Each
visit says how long after its end the next is due, which is never longer than the usual delay or a minute,
and each pass that fails adds one to the failures under its label. -/
theorem acts_only_as_leader_and_comes_back :
    (∀ shard, invalidSpec shard = .config ("ReplicatedShard " ++ shard.name ++ " has " ++
      Text.decimal shard.spec.violations ++ " invalid field(s)")) ∧
    (∀ trigger start handling, Handled trigger start handling →
      (handling.log ≠ [] ↔ trigger.setup.leads = true ∧ trigger.spec.IsValid) ∧
        handling.delay ≤ max trigger.setup.resync 60000) ∧
    (∀ stop before triggers, ∃ handlings,
      InTurn before.now triggers handlings (before.after stop triggers).now ∧
        Leaves stop handlings before (before.after stop triggers)) ∧
    ∀ setup cluster stop, ∃ triggers : List Trigger, (∀ trigger ∈ triggers, trigger.setup = setup) ∧
      run setup cluster stop = (Progress.start cluster).after stop triggers ∧
      (stop ≤ (run setup cluster stop).now ∨ triggers.length = stop) :=
  ⟨invalidSpec_eq, fun _ _ _ handled => ⟨handled.calls_iff, handled.delay_le⟩,
    fun stop before triggers => after_inTurn stop triggers before,
    fun setup cluster stop => visits_eq_after setup stop stop (.start cluster)⟩

/-- One does not lead, one meets a spec with three violations, the third pass fails, and the last asks for
another soon. -/
theorem acts_only_as_leader_and_comes_back_sample :
    let setup (leads : Bool) (replies : Replies) (shard : Shard) : Setup :=
      ⟨leads, 30000, Sample.configuration, replies, "now", shard⟩
    let invalid : Shard := { Sample.shard with
      spec := { Sample.spec with cluster := "", pools := [⟨"", .replica, -1, false⟩] } }
    let failing : Trigger := ⟨setup true (Sample.refusing "tablet-2") Sample.shard, Sample.cluster⟩
    let triggers : List Trigger :=
      [⟨setup false .atOnce Sample.shard, Sample.cluster⟩, ⟨setup true .atOnce invalid, Sample.cluster⟩,
        failing, ⟨setup true { Replies.atOnce with listPods := ⟨0, some Sample.refusal⟩ } Sample.shard,
          Sample.cluster⟩]
    let after := (Progress.start Sample.cluster).after 200000 triggers
    invalidSpec invalid = .config "ReplicatedShard main-0 has 3 invalid field(s)" ∧
      after.now = 30000 + 60000 + 15000 + 1000 ∧
      (∃ handling, Handled failing 90000 handling ∧ handling.log ≠ [] ∧ handling.delay ≤ 60000) ∧
      (∃ handlings, InTurn 0 triggers handlings after.now ∧
        Leaves 200000 handlings (.start Sample.cluster) after) ∧
      after.counters.failed name "kube" = 1 := by
  intro setup invalid failing triggers after
  obtain ⟨counted, acts, returns, _⟩ := acts_only_as_leader_and_comes_back
  have valid : failing.spec.IsValid := by decide +kernel
  have result : failing.pass.result = .error Sample.refusal := by decide +kernel
  have failed : Handled failing 90000 _ := .fails rfl valid result
  refine ⟨(counted invalid).trans (by decide +kernel), by decide +kernel,
    ⟨_, failed, (acts _ _ _ failed).1.mpr ⟨rfl, valid⟩, (acts _ _ _ failed).2⟩,
    returns 200000 (.start Sample.cluster) triggers, by decide +kernel⟩

end Controller

end TabletDrain
