import TabletDrain.Proofs.Json.Records
import TabletDrain.Shard.Document

/-! Specs and statuses of shards and their documents. What is written is read back, and so whatever was
read, in any of the ways of writing it, is the same again once it has been written in the one way. -/
namespace TabletDrain

open Json

namespace KeyRange

theorem ofJson_toJson (range : KeyRange) : ofJson range.toJson = some range := by
  have read := slots_ofFields [("start", some (.str range.start)), ("end", some (.str range.stop))]
    (by simp)
  change slots [["start"], ["end"]] range.toJson =
    some [.given (.str range.start), .given (.str range.stop)] at read
  rw [ofJson, read]
  rfl

end KeyRange

namespace PoolType

theorem ofName?_name (type : PoolType) : ofName? type.name = some type := by
  cases type <;> rfl

end PoolType

namespace ConditionStatus

theorem ofName?_name (status : ConditionStatus) : ofName? status.name = some status := by
  cases status <;> rfl

end ConditionStatus

/-- The number has 32 bits and a sign. -/
def IsInt32 (n : Int) : Prop := -2147483648 ≤ n ∧ n < 2147483648

theorem isInt32_defaultReplicas : IsInt32 defaultReplicas := ⟨by decide, by decide⟩

theorem Json.readInt32_num_iff {n m : Int} : readInt32 (.num n) = some m ↔ n = m ∧ IsInt32 n := by
  unfold readInt32 readInt IsInt32
  split <;> simp_all [and_comm]

theorem Json.isInt32_of_readInt32 {document : Json} {n : Int} (read : readInt32 document = some n) :
    IsInt32 n := by
  cases document with
  | num m =>
    obtain ⟨rfl, fits⟩ := readInt32_num_iff.mp read
    exact fits
  | _ => cases read

namespace Pool

theorem ofJson_toJson {pool : Pool} (fits : IsInt32 pool.replicas) : ofJson pool.toJson = some pool := by
  have read := slots_ofFields [("cell", some (.str pool.cell)), ("type", some (.str pool.type.name)),
    ("replicas", some (.num pool.replicas)), ("externalDatastore", some (.bool pool.externalDatastore))]
    (by simp)
  change slots [["cell"], ["type"], ["replicas"], ["externalDatastore"]] pool.toJson =
    some [.given (.str pool.cell), .given (.str pool.type.name), .given (.num pool.replicas),
      .given (.bool pool.externalDatastore)] at read
  have type : readName PoolType.ofName? (.str pool.type.name) = some pool.type := pool.type.ofName?_name
  have replicas : readInt32 (.num pool.replicas) = some pool.replicas := readInt32_num_iff.mpr ⟨rfl, fits⟩
  rw [ofJson, read]
  simp [Slot.required, Slot.orElse, readText, readBool, type, replicas]

theorem isInt32_of_ofJson {document : Json} {pool : Pool} (read : ofJson document = some pool) :
    IsInt32 pool.replicas := by
  obtain ⟨given, _, read⟩ := Option.bind_eq_some_iff.mp read
  split at read
  · obtain ⟨_, _, read⟩ := Option.bind_eq_some_iff.mp read
    obtain ⟨_, _, read⟩ := Option.bind_eq_some_iff.mp read
    obtain ⟨n, counted, read⟩ := Option.bind_eq_some_iff.mp read
    obtain ⟨_, _, read⟩ := Option.bind_eq_some_iff.mp read
    cases read
    rcases Slot.of_orElse counted with rfl | ⟨_, counted⟩
    · exact isInt32_defaultReplicas
    · exact isInt32_of_readInt32 counted
  · cases read

end Pool

namespace ShardSpec

/-- The numbers of replicas have 32 bits and a sign. -/
def IsSized (spec : ShardSpec) : Prop := ∀ pool ∈ spec.pools, IsInt32 pool.replicas

theorem imagesOfJson_imagesToJson (database : Option String) :
    imagesOfJson (imagesToJson database) = some database := by
  have read := slots_ofFields [("mysqld", database.map .str)] (by simp)
  change slots [["mysqld"]] (imagesToJson database) = some [.ofOption (database.map .str)] at read
  rw [imagesOfJson, read]
  exact optional_ofOption readText .str database (fun _ => rfl) (fun _ => Json.noConfusion)

theorem ofJson_toJson {spec : ShardSpec} (sized : spec.IsSized) : ofJson spec.toJson = some spec := by
  have read := slots_ofFields [("cluster", some (.str spec.cluster)), ("keyspace", some (.str spec.keyspace)),
    ("name", some (.str spec.name)), ("keyRange", some spec.keyRange.toJson),
    ("tabletPools", some (.arr (spec.pools.map Pool.toJson))),
    ("images", some (imagesToJson spec.databaseImage))] (by simp)
  change slots [["cluster"], ["keyspace"], ["name"], ["keyRange"], ["tabletPools"], ["images"]] spec.toJson =
    some [.given (.str spec.cluster), .given (.str spec.keyspace), .given (.str spec.name),
      .given spec.keyRange.toJson, .given (.arr (spec.pools.map Pool.toJson)),
      .given (imagesToJson spec.databaseImage)] at read
  have pools := readList_map Pool.ofJson Pool.toJson fun pool member => Pool.ofJson_toJson (sized pool member)
  rw [ofJson, read]
  simp [Slot.required, Slot.orElse, readText, KeyRange.ofJson_toJson, pools, imagesOfJson_imagesToJson]

theorem isSized_of_ofJson {document : Json} {spec : ShardSpec} (read : ofJson document = some spec) :
    spec.IsSized := by
  obtain ⟨given, _, read⟩ := Option.bind_eq_some_iff.mp read
  split at read
  · obtain ⟨_, _, read⟩ := Option.bind_eq_some_iff.mp read
    obtain ⟨_, _, read⟩ := Option.bind_eq_some_iff.mp read
    obtain ⟨_, _, read⟩ := Option.bind_eq_some_iff.mp read
    obtain ⟨_, _, read⟩ := Option.bind_eq_some_iff.mp read
    obtain ⟨pools, listed, read⟩ := Option.bind_eq_some_iff.mp read
    obtain ⟨_, _, read⟩ := Option.bind_eq_some_iff.mp read
    cases read
    intro pool member
    rcases Slot.of_orElse listed with rfl | ⟨_, listed⟩
    · cases member
    · obtain ⟨_, readPool⟩ := exists_of_mem_readList listed member
      exact Pool.isInt32_of_ofJson readPool
  · cases read

end ShardSpec

namespace TabletStatus

theorem ofJson_toJson (status : TabletStatus) : ofJson status.toJson = some status := by
  have read := slots_ofFields [("poolType", status.poolType.map .str),
    ("available", some (.str status.available.name))] (by simp)
  change slots [["poolType"], ["available"]] status.toJson =
    some [.ofOption (status.poolType.map .str), .given (.str status.available.name)] at read
  have poolType := optional_ofOption readText .str status.poolType (fun _ => rfl)
    (fun _ => Json.noConfusion)
  have available : readName ConditionStatus.ofName? (.str status.available.name) = some status.available :=
    status.available.ofName?_name
  rw [ofJson, read]
  simp [Slot.orElse, poolType, available]

end TabletStatus

namespace Condition

theorem ofJson_toJson (condition : Condition) : ofJson condition.toJson = some condition := by
  have read := slots_ofFields [("type", some (.str condition.type)), ("status", some (.str condition.status.name)),
    ("lastTransitionTime", some (.str condition.lastTransitionTime)),
    ("reason", some (.str condition.reason)), ("message", some (.str condition.message))] (by simp)
  change slots [["type"], ["status"], ["lastTransitionTime"], ["reason"], ["message"]] condition.toJson =
    some [.given (.str condition.type), .given (.str condition.status.name),
      .given (.str condition.lastTransitionTime), .given (.str condition.reason),
      .given (.str condition.message)] at read
  have status : readName ConditionStatus.ofName? (.str condition.status.name) = some condition.status :=
    condition.status.ofName?_name
  rw [ofJson, read]
  simp [Slot.required, readText, status]

end Condition

namespace ShardStatus

theorem ofJson_toJson (status : ShardStatus) : ofJson status.toJson = some status := by
  have read := slots_ofFields [("tablets", some (tabletsToJson status.tablets)),
    ("conditions", if status.conditions.isEmpty then none
      else some (.arr (status.conditions.map Condition.toJson)))] (by simp)
  change slots [["tablets"], ["conditions"]] status.toJson =
    some [.given (tabletsToJson status.tablets), .ofOption (if status.conditions.isEmpty then none
      else some (.arr (status.conditions.map Condition.toJson)))] at read
  have tablets : (Slot.given (tabletsToJson status.tablets)).orElse .empty (readMap TabletStatus.ofJson) =
      some status.tablets :=
    readMap_map TabletStatus.ofJson TabletStatus.toJson status.tablets TabletStatus.ofJson_toJson
  have conditions : (Slot.ofOption (if status.conditions.isEmpty then none
      else some (.arr (status.conditions.map Condition.toJson)))).orElse [] (readList Condition.ofJson) =
        some status.conditions := by
    by_cases none : status.conditions.isEmpty
    · rw [if_pos none, List.isEmpty_iff.mp none]
      rfl
    · rw [if_neg none]
      exact readList_map Condition.ofJson Condition.toJson fun condition _ => condition.ofJson_toJson
  rw [ofJson, read]
  simp only [Option.bind_eq_bind, Option.bind_some, tablets, conditions]
  rfl

end ShardStatus

/-- What is written is read back. What was read of any document at all is a value that can be written,
and from then on neither the value nor its document changes any more. -/
theorem documents_read_back :
    (∀ spec : ShardSpec, spec.IsSized → ShardSpec.ofJson spec.toJson = some spec) ∧
    (∀ status : ShardStatus, ShardStatus.ofJson status.toJson = some status) ∧
    (∀ document spec, ShardSpec.ofJson document = some spec → spec.IsSized ∧
      ShardSpec.ofJson spec.toJson = some spec ∧
        (ShardSpec.ofJson spec.toJson).map ShardSpec.toJson = some spec.toJson) ∧
    ∀ document status, ShardStatus.ofJson document = some status →
      ShardStatus.ofJson status.toJson = some status ∧
        (ShardStatus.ofJson status.toJson).map ShardStatus.toJson = some status.toJson := by
  refine ⟨fun spec => ShardSpec.ofJson_toJson, ShardStatus.ofJson_toJson, fun document spec read => ?_,
    fun document status _ => ?_⟩
  · have sized := ShardSpec.isSized_of_ofJson read
    have again := ShardSpec.ofJson_toJson sized
    exact ⟨sized, again, by rw [again, Option.map_some]⟩
  · have again := ShardStatus.ofJson_toJson status
    exact ⟨again, by rw [again, Option.map_some]⟩

/-- Documents with lists in place of objects, nulls, defaults, unknown fields and repeated keys. -/
theorem documents_read_back_sample :
    let document : Json := .arr [.str "prod", .str "main", .str "-80", .arr [.str "", .str "80"],
      .arr [.obj [("type", .obj [("replica", .null)]), ("cell", .str "zone1"), ("zone", .real 1.5)],
        .arr [.str "zone2", .str "externalmaster", .num (-1), .bool true]],
      .obj [("mysqld", .null)]]
    let spec : ShardSpec := ⟨"prod", "main", "-80", ⟨"", "80"⟩,
      [⟨"zone1", .replica, 2, false⟩, ⟨"zone2", .external, -1, true⟩], none⟩
    let seen : Json := .obj [("tablets", .obj [("zone1-0000000100", .obj []),
      ("zone1-0000000100", .arr [.str "replica", .str "True"])]), ("conditions", .arr [])]
    let status : ShardStatus := ⟨.ofList [("zone1-0000000100", ⟨some "replica", .true⟩)], []⟩
    spec.IsSized ∧ ShardSpec.ofJson document = some spec ∧ ShardSpec.ofJson spec.toJson = some spec ∧
      ShardStatus.ofJson seen = some status ∧ ShardStatus.ofJson status.toJson = some status := by
  intro document spec seen status
  have read : ShardSpec.ofJson document = some spec := by decide +kernel
  have read' : ShardStatus.ofJson seen = some status := by decide +kernel
  obtain ⟨written, _, reread, reread'⟩ := documents_read_back
  have sized := (reread document spec read).1
  exact ⟨sized, read, written spec sized, read', (reread' seen status read').1⟩

end TabletDrain
