import TabletDrain.Succession
import TabletDrain.Shard.Spec

/-! What surrounds a drain pass: the stored pods and the topology's records, how each outside call
answers, and the calls themselves, which a pass leaves behind in its log. -/
namespace TabletDrain

structure Reply where
  /-- The time that the answer takes, in milliseconds. -/
  delay : Nat
  fault : Option Fault
  deriving DecidableEq, Repr

namespace Reply

def prompt : Reply := ⟨0, none⟩

def outcome (reply : Reply) : Except Fault Unit :=
  match reply.fault with
  | some fault => .error fault
  | none => .ok ()

end Reply

structure UpdateReply where
  delay : Nat
  fault : Option Fault
  /-- The pod that is stored and given back, when it is not the one sent. -/
  returned : Option Pod
  deriving DecidableEq, Repr

def UpdateReply.prompt : UpdateReply := ⟨0, none, none⟩

structure Replies where
  listPods : Reply
  getShard : Reply
  getTablets : Reply
  updatePod : String → UpdateReply
  replicationStatus : Alias → Succession.ProbeReply
  execute : Alias → Reply
  plannedReparent : Reply
  externallyReparented : Reply
  changeTabletType : Reply
  /-- How long publishing an event takes as a rule; it never fails. -/
  publish : Nat
  /-- How long publishing an event takes after so many calls, where the rule does not hold. -/
  publishAfter : Nat → Nat := fun _ => publish

structure ObjectRef where
  kind : Option String
  namespaceName : Option String
  name : Option String
  deriving DecidableEq, Repr

def Shard.ref (shard : Shard) : ObjectRef := ⟨some Shard.kind, shard.namespaceName, some shard.name⟩

def Pod.ref (pod : Pod) : ObjectRef := ⟨some "Pod", pod.namespaceName, pod.name⟩

inductive Severity where
  | normal
  | warning
  deriving DecidableEq, Repr

def Severity.name : Severity → String
  | normal => "Normal"
  | warning => "Warning"

structure Reparent where
  keyspace : String
  shard : String
  newPrimary : Alias
  avoid : Option Alias
  /-- How long replicas may take to catch up, in milliseconds. -/
  wait : Nat
  /-- The lag that the new primary may have, in milliseconds. -/
  lag : Nat
  deriving DecidableEq, Repr

structure ShardLabels where
  cluster : String
  keyspace : String
  shard : String
  deriving DecidableEq, Repr

def ShardSpec.metricLabels (spec : ShardSpec) : ShardLabels :=
  ⟨spec.cluster, spec.keyspace, spec.keyRange.safeName⟩

inductive ReparentOutcome where
  | success
  | failure
  deriving DecidableEq, Repr

def ReparentOutcome.name : ReparentOutcome → String
  | success => "success"
  | failure => "failure"

inductive Call where
  | listPods (namespaceName : String) (labels : Keyed String)
  | getShard (keyspace shard : String)
  | getTablets (keyspace shard : String) (cells : List String)
  | updatePod (pod : Pod)
  | replicationStatus (tablet : Alias)
  | execute (tablet : Alias) (statement : String)
  | plannedReparent (request : Reparent)
  | externallyReparented (newPrimary : Alias)
  | changeTabletType (tablet : Alias) (role : Role)
  | event (severity : Severity) (object : ObjectRef) (reason message : String)
  | metric (labels : ShardLabels) (outcome : ReparentOutcome)
  deriving DecidableEq, Repr

structure LogEntry where
  time : Nat
  call : Call
  deriving DecidableEq, Repr

structure Cluster where
  pods : List Pod
  record : ShardRecord
  tablets : Keyed Tablet
  deriving DecidableEq

namespace Cluster

/-- Puts a pod over the first of a name; nothing changes where there is none. -/
def replaceFirst (name : String) (pod : Pod) : List Pod → List Pod
  | [] => []
  | stored :: rest =>
    if stored.shownName = name then pod :: rest else stored :: replaceFirst name pod rest

def pod? (cluster : Cluster) (name : String) : Option Pod :=
  cluster.pods.find? fun pod => pod.shownName = name

def podsWith (pods : List Pod) (labels : Keyed String) : List Pod :=
  pods.filter fun pod => pod.carries labels

def tabletsIn (cluster : Cluster) (cells : List String) : Keyed Tablet :=
  cluster.tablets.filter fun _ tablet => cells.contains tablet.name.cell

def editedPod (pod : Pod) (set : Keyed String) (remove : List String) : Pod :=
  let kept := pod.annotations.getD .empty
  let kept := set.entries.foldl (fun map (key, value) => map.insert key value) kept
  { pod with annotations := some (remove.foldl (fun map key => map.erase key) kept) }

def annotate? (cluster : Cluster) (name : String) (set : Keyed String) (remove : List String) :
    Option Cluster :=
  (cluster.pod? name).map fun pod =>
    { cluster with pods := replaceFirst name (editedPod pod set remove) cluster.pods }

/-- Stores a pod over the first of its name, or behind all others. -/
def putPod (cluster : Cluster) (pod : Pod) : Cluster :=
  { cluster with
    pods :=
      if (cluster.pod? pod.shownName).isSome then replaceFirst pod.shownName pod cluster.pods
      else cluster.pods ++ [pod] }

def deletePod (cluster : Cluster) (name : String) : Cluster :=
  { cluster with pods := cluster.pods.filter fun pod => pod.shownName ≠ name }

def putTablet (cluster : Cluster) (tablet : Tablet) : Cluster :=
  { cluster with tablets := cluster.tablets.insert tablet.name.text tablet }

def deleteTablet (cluster : Cluster) (name : String) : Cluster :=
  { cluster with tablets := cluster.tablets.erase name }

def setPrimary (cluster : Cluster) (primary : Option Alias) : Cluster :=
  { cluster with record := { cluster.record with primary := primary } }

end Cluster

end TabletDrain
