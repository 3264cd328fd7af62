import TabletDrain.Api.Exchange
import TabletDrain.Counters
import TabletDrain.Pass.Report

/-! The controller. It first asks whether there are descriptions of shards at all. Then it visits a
shard again and again: a visit runs a drain pass when the replica leads and the shard's spec is
valid, and says how long after its own end the next visit is due. -/
namespace TabletDrain

namespace Controller

def name : String := "replicatedshard"

structure Visit where
  report : Option Pass.Report
  /-- The delay before the next visit, in milliseconds. -/
  delay : Nat

/-- The delay that a pass asked for, but no longer than the usual one. -/
def nextPass (requested : Option Nat) (resync : Nat) : Nat :=
  match requested with
  | some delay => min delay resync
  | none => resync

def retryDelay (fault : Fault) : Nat := if fault.isRetriable then 15000 else 60000

def invalidSpec (shard : Shard) : Fault :=
  .config ("ReplicatedShard " ++ shard.name ++ " has " ++ Text.decimal shard.spec.problems.length
    ++ " invalid field(s)")

/-- A visit to a shard, where `pass` is the pass that it may run. -/
def visit (leads : Bool) (resync : Nat) (shard : Shard) (pass : Pass.Report) : Visit :=
  if !leads then ⟨none, resync⟩
  else if !shard.spec.problems.isEmpty then ⟨none, retryDelay (invalidSpec shard)⟩
  else
    match pass.result with
    | .ok requested => ⟨some pass, nextPass requested resync⟩
    | .error fault => ⟨some pass, retryDelay fault⟩

def Visit.count (visit : Visit) (counters : Counters) : Counters :=
  match visit.report with
  | none => counters
  | some report =>
    let counters := counters.observe name 0
    match report.result with
    | .ok _ => counters
    | .error fault => counters.countFailure name fault.label

structure Setup where
  leads : Bool
  /-- The usual delay between visits, in milliseconds. -/
  resync : Nat
  configuration : Configuration
  replies : Replies
  stamp : String
  shard : Shard

structure Progress where
  now : Nat
  cluster : Cluster
  log : List LogEntry
  counters : Counters

def Progress.start (cluster : Cluster) : Progress := ⟨0, cluster, [], .empty⟩

/-- The log of a pass that began at a time, up to another. -/
def shifted (start stop : Nat) (log : List LogEntry) : List LogEntry :=
  (log.map fun entry => { entry with time := start + entry.time }).filter (·.time < stop)

/-- Makes the visit that is due. What it does from `stop` on is not seen. -/
def Progress.next (setup : Setup) (stop : Nat) (progress : Progress) : Progress :=
  let report :=
    Pass.run setup.configuration setup.replies setup.stamp setup.shard progress.cluster
  let visit := visit setup.leads setup.resync setup.shard report
  match visit.report with
  | none => { progress with now := progress.now + visit.delay }
  | some report =>
    let done := progress.now + report.elapsed
    { now := done + visit.delay
      cluster := { progress.cluster with pods := report.pods }
      log := progress.log ++ shifted progress.now stop report.log
      counters := if done < stop then visit.count progress.counters else progress.counters }

def visits (setup : Setup) (stop : Nat) : Nat → Progress → Progress
  | 0, progress => progress
  | fuel + 1, progress =>
    if progress.now < stop then visits setup stop fuel (progress.next setup stop) else progress

/-- Visits a shard up to `stop`. As many visits are made as there are milliseconds at most, more
than that only if nothing ever takes time. -/
def run (setup : Setup) (cluster : Cluster) (stop : Nat) : Progress :=
  visits setup stop stop (.start cluster)

/-- The path of the descriptions of shards, in one namespace or in all. -/
def shardsPath (namespaceName : Option String) : String :=
  match namespaceName with
  | some namespaceName =>
    "/apis/shardops.io/v1alpha1/namespaces/" ++ namespaceName ++ "/replicatedshards"
  | none => "/apis/shardops.io/v1alpha1/replicatedshards"

def checkShards (namespaceName : Option String) : Except Fault Api.Request :=
  Api.list (shardsPath namespaceName) [("limit", "1")]

def notInstalled : Fault := .config "ReplicatedShard CRD not installed"

inductive Listed where
  | nothing
  | empty
  | one (setup : Setup)

structure Outcome where
  asked : Option Api.Request
  /-- Why it gave up, unless it was still running at the end. -/
  failure : Option Fault
  progress : Progress

/-- Runs the controller up to `stop`. Stopped at once, it does not get to ask, but a request that
cannot be made fails even then. -/
def start (namespaceName : Option String) (listed : Listed) (cluster : Cluster) (stop : Nat) :
    Outcome :=
  match checkShards namespaceName with
  | .error _ => ⟨none, some notInstalled, .start cluster⟩
  | .ok request =>
    if stop = 0 then ⟨none, none, .start cluster⟩
    else
      match listed with
      | .nothing => ⟨some request, some notInstalled, .start cluster⟩
      | .empty => ⟨some request, none, .start cluster⟩
      | .one setup => ⟨some request, none, run setup cluster stop⟩

def countLines (counters : Counters) : List String :=
  counters.durations.map Counters.durationCountSample
    ++ counters.failures.map Counters.failureSample

end Controller

end TabletDrain
