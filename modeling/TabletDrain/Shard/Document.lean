import TabletDrain.Shard.Spec
import TabletDrain.Json.Reader

/-! The JSON documents of a shard's spec and status: reading one, with defaults for what it leaves
out, and writing it with all of it filled in. -/
namespace TabletDrain

open Json

def defaultReplicas : Int := 2

namespace KeyRange

def ofJson (document : Json) : Option KeyRange := do
  let [start, stop] ← slots [["start"], ["end"]] document | none
  return ⟨← start.orElse "" readText, ← stop.orElse "" readText⟩

def toJson (range : KeyRange) : Json := .obj [("start", .str range.start), ("end", .str range.stop)]

end KeyRange

namespace Pool

def ofJson (document : Json) : Option Pool := do
  let [cell, type, replicas, external] ←
    slots [["cell"], ["type"], ["replicas"], ["externalDatastore"]] document | none
  return {
    cell := ← cell.required readText
    type := ← type.required (readName PoolType.ofName?)
    replicas := ← replicas.orElse defaultReplicas readInt32
    externalDatastore := ← external.orElse false readBool }

def toJson (pool : Pool) : Json :=
  .obj [("cell", .str pool.cell), ("type", .str pool.type.name), ("replicas", .num pool.replicas),
    ("externalDatastore", .bool pool.externalDatastore)]

end Pool

namespace ShardSpec

def imagesOfJson (document : Json) : Option (Option String) := do
  let [database] ← slots [["mysqld"]] document | none
  database.optional readText

def imagesToJson (database : Option String) : Json := .ofFields [("mysqld", database.map .str)]

def ofJson (document : Json) : Option ShardSpec := do
  let [cluster, keyspace, name, keyRange, pools, images] ←
    slots [["cluster"], ["keyspace"], ["name"], ["keyRange"], ["tabletPools"], ["images"]]
      document | none
  return {
    cluster := ← cluster.required readText
    keyspace := ← keyspace.required readText
    name := ← name.required readText
    keyRange := ← keyRange.orElse .full KeyRange.ofJson
    pools := ← pools.orElse [] (readList Pool.ofJson)
    databaseImage := ← images.orElse none imagesOfJson }

def toJson (spec : ShardSpec) : Json :=
  .obj [("cluster", .str spec.cluster), ("keyspace", .str spec.keyspace), ("name", .str spec.name),
    ("keyRange", spec.keyRange.toJson), ("tabletPools", .arr (spec.pools.map Pool.toJson)),
    ("images", imagesToJson spec.databaseImage)]

end ShardSpec

namespace TabletStatus

def ofJson (document : Json) : Option TabletStatus := do
  let [poolType, available] ← slots [["poolType"], ["available"]] document | none
  return {
    poolType := ← poolType.optional readText
    available := ← available.orElse .unknown (readName ConditionStatus.ofName?) }

def toJson (status : TabletStatus) : Json :=
  .ofFields [("poolType", status.poolType.map .str),
    ("available", some (.str status.available.name))]

end TabletStatus

namespace Condition

def ofJson (document : Json) : Option Condition := do
  let [type, status, time, reason, message] ←
    slots [["type"], ["status"], ["lastTransitionTime"], ["reason"], ["message"]] document | none
  return {
    type := ← type.required readText
    status := ← status.required (readName ConditionStatus.ofName?)
    lastTransitionTime := ← time.required readText
    reason := ← reason.required readText
    message := ← message.required readText }

def toJson (condition : Condition) : Json :=
  .obj [("type", .str condition.type), ("status", .str condition.status.name),
    ("lastTransitionTime", .str condition.lastTransitionTime), ("reason", .str condition.reason),
    ("message", .str condition.message)]

end Condition

namespace ShardStatus

def ofJson (document : Json) : Option ShardStatus := do
  let [tablets, conditions] ← slots [["tablets"], ["conditions"]] document | none
  return {
    tablets := ← tablets.orElse .empty (readMap TabletStatus.ofJson)
    conditions := ← conditions.orElse [] (readList Condition.ofJson) }

def tabletsToJson (tablets : Keyed TabletStatus) : Json :=
  .obj (tablets.entries.map fun (key, status) => (key, status.toJson))

def toJson (status : ShardStatus) : Json :=
  .ofFields [("tablets", some (tabletsToJson status.tablets)),
    ("conditions",
      if status.conditions.isEmpty then none
      else some (.arr (status.conditions.map Condition.toJson)))]

end ShardStatus

end TabletDrain
