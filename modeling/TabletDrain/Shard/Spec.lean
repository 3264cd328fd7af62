import TabletDrain.Pod.Basic

/-! A replicated shard as its owner describes it: the keyspace and the key range that it covers, the
pools of tablets behind it, and the database image that they should run; and its status, which says
of each tablet whether it is available. -/
namespace TabletDrain

/-- The keys from `start` to `stop`. An empty bound is open. -/
structure KeyRange where
  start : String
  stop : String
  deriving DecidableEq, Repr

namespace KeyRange

def full : KeyRange := ⟨"", ""⟩

/-- A bound as it stands in names, an `x` for an open one. -/
def boundName (bound : String) : String := if bound.isEmpty then "x" else bound

def safeName (range : KeyRange) : String :=
  boundName range.start ++ "-" ++ boundName range.stop

def text (range : KeyRange) : String := range.start ++ "-" ++ range.stop

end KeyRange

inductive PoolType where
  | replica
  | rdonly
  | external
  deriving DecidableEq, Repr

namespace PoolType

/-- The name of a type of pool, in descriptions and in the pods' label. -/
def name : PoolType → String
  | replica => "replica"
  | rdonly => "rdonly"
  | external => externalPool

def ofName? : String → Option PoolType
  | "replica" => some replica
  | "rdonly" => some rdonly
  | "externalmaster" => some external
  | _ => none

end PoolType

structure Pool where
  cell : String
  type : PoolType
  replicas : Int
  externalDatastore : Bool
  deriving DecidableEq, Repr

structure ShardSpec where
  cluster : String
  keyspace : String
  name : String
  keyRange : KeyRange
  pools : List Pool
  databaseImage : Option String
  deriving DecidableEq, Repr

structure SpecProblem where
  field : String
  message : String
  deriving DecidableEq, Repr

namespace ShardSpec

def cells (spec : ShardSpec) : List String :=
  (Keyed.ofList (spec.pools.map fun pool => (pool.cell, ()))).keys

def usesExternalDatastore (spec : ShardSpec) : Bool :=
  spec.pools.any fun pool => pool.externalDatastore || pool.type = .external

def problemIf (bad : Bool) (field message : String) : List SpecProblem :=
  if bad then [⟨field, message⟩] else []

def poolProblems (place : Nat) (pool : Pool) : List SpecProblem :=
  let field := "spec.tabletPools[" ++ Text.decimal place ++ "]"
  problemIf pool.cell.isEmpty (field ++ ".cell") "cell must not be empty"
    ++ problemIf (decide (pool.replicas < 0)) (field ++ ".replicas") "replicas must not be negative"

def poolProblemsFrom (place : Nat) : List Pool → List SpecProblem
  | [] => []
  | pool :: rest => poolProblems place pool ++ poolProblemsFrom (place + 1) rest

def problems (spec : ShardSpec) : List SpecProblem :=
  problemIf spec.cluster.isEmpty "spec.cluster" "cluster must not be empty"
    ++ problemIf spec.keyspace.isEmpty "spec.keyspace" "keyspace must not be empty"
    ++ problemIf spec.name.isEmpty "spec.name" "shard name must not be empty"
    ++ poolProblemsFrom 0 spec.pools

def podLabels (spec : ShardSpec) : Keyed String :=
  .ofList
    [(componentLabel, tabletComponent), (clusterLabel, spec.cluster),
      (keyspaceLabel, spec.keyspace), (shardLabel, spec.keyRange.safeName)]

end ShardSpec

inductive ConditionStatus where
  | true
  | false
  | unknown
  deriving DecidableEq, Repr

namespace ConditionStatus

def name : ConditionStatus → String
  | true => "True"
  | false => "False"
  | unknown => "Unknown"

def ofName? : String → Option ConditionStatus
  | "True" => some true
  | "False" => some false
  | "Unknown" => some unknown
  | _ => none

end ConditionStatus

structure TabletStatus where
  poolType : Option String
  available : ConditionStatus
  deriving DecidableEq, Repr

structure Condition where
  type : String
  status : ConditionStatus
  lastTransitionTime : String
  reason : String
  message : String
  deriving DecidableEq, Repr

/-- What was seen of a shard, tablet by tablet under the texts of their aliases. -/
structure ShardStatus where
  tablets : Keyed TabletStatus
  conditions : List Condition
  deriving DecidableEq

structure Shard where
  name : String
  namespaceName : Option String
  spec : ShardSpec
  status : Option ShardStatus
  deriving DecidableEq

def Shard.kind : String := "ReplicatedShard"

end TabletDrain
