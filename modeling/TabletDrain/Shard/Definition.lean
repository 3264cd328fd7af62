import TabletDrain.Shard.Document

/-! The definition with which the API server learns about replicated shards: names, the columns of
lists, and the schema of the documents. -/
namespace TabletDrain.Shard.Definition

/-- A schema with the type of the values it admits, and more about them. -/
def typed (type : String) (more : List (String × Json)) : Json := .obj (("type", .str type) :: more)

def about (description : String) : String × Json := ("description", .str description)

def default (value : Json) : String × Json := ("default", value)

def nullable : String × Json := ("nullable", .bool true)

def properties (fields : List (String × Json)) : String × Json := ("properties", .obj fields)

def required (names : List String) : String × Json := ("required", Json.ofTexts names)

def oneOf (names : List String) (more : List (String × Json)) : Json :=
  typed "string" (("enum", Json.ofTexts names) :: more)

def keyRange : Json :=
  typed "object"
    [about
        ("Key range covered by a shard.\n\nEmpty bounds are open-ended: "
          ++ "\x60\x7bstart: \"\", end: \"80\"\x7d\x60 is the shard \x60-80\x60."),
      default KeyRange.full.toJson,
      properties
        [("start", typed "string" [default (.str "")]),
          ("end", typed "string" [default (.str "")])]]

def pool : Json :=
  typed "object"
    [about "A group of tablets of one type in one cell",
      properties
        [("cell", typed "string" []),
          ("type",
            oneOf [PoolType.replica.name, PoolType.rdonly.name, PoolType.external.name]
              [about "Kind of tablets a pool runs"]),
          ("replicas",
            typed "integer" [("format", .str "int32"), default (.num defaultReplicas)]),
          ("externalDatastore",
            typed "boolean"
              [about "MySQL for this pool is managed outside the shard (e.g. a cloud database)",
                default (.bool false)])],
      required ["cell", "type"]]

def images : Json :=
  typed "object"
    [about "Container images used by tablet pods", default (ShardSpec.imagesToJson none),
      properties
        [("mysqld",
          typed "string" [about "Desired mysqld image, e.g. \x60mysql:8.0.36\x60", nullable])]]

def spec : Json :=
  typed "object"
    [properties
        [("cluster", typed "string" [about "Name of the cluster this shard belongs to"]),
          ("keyspace", typed "string" []),
          ("name",
            typed "string" [about "Shard name as known to the topology store, e.g. \x60-80\x60"]),
          ("keyRange", keyRange),
          ("tabletPools", typed "array" [default (.arr []), ("items", pool)]),
          ("images", images)],
      required ["cluster", "keyspace", "name"]]

def conditionStatus (more : List (String × Json)) : Json :=
  oneOf [ConditionStatus.true.name, ConditionStatus.false.name, ConditionStatus.unknown.name] more

def tabletStatus : Json :=
  typed "object"
    [about "Observed state of one tablet, keyed by alias in the shard status",
      properties
        [("poolType", typed "string" [nullable]),
          ("available",
            conditionStatus
              [about "Whether the tablet is serving and reported healthy",
                default (.str ConditionStatus.unknown.name)])]]

def condition : Json :=
  typed "object"
    [about "Condition for status reporting (Kubernetes convention)",
      properties
        [("type",
            typed "string"
              [about "Type of condition (e.g., \"Ready\", \"Progressing\", \"Degraded\")"]),
          ("status", conditionStatus [about "Status of the condition"]),
          ("lastTransitionTime", typed "string" [about "Last time the condition transitioned"]),
          ("reason", typed "string" [about "Machine-readable reason for the condition"]),
          ("message", typed "string" [about "Human-readable message"])],
      required ["lastTransitionTime", "message", "reason", "status", "type"]]

def status : Json :=
  typed "object"
    [nullable,
      properties
        [("tablets",
            typed "object"
              [about "Per-tablet observed state, keyed by tablet alias", default (.obj []),
                ("additionalProperties", tabletStatus)]),
          ("conditions", typed "array" [("items", condition)])]]

def schema : Json :=
  typed "object"
    [("title", .str kind),
      about "Auto-generated derived type for ReplicatedShardSpec via \x60CustomResource\x60",
      properties [("spec", spec), ("status", status)], required ["spec"]]

def column (name type path : String) : Json :=
  .obj [("name", .str name), ("type", .str type), ("jsonPath", .str path)]

def version : Json :=
  .obj
    [("name", .str "v1alpha1"), ("served", .bool true), ("storage", .bool true),
      ("schema", .obj [("openAPIV3Schema", schema)]),
      ("additionalPrinterColumns",
        .arr
          [column "Keyspace" "string" ".spec.keyspace", column "Shard" "string" ".spec.name",
            column "Age" "date" ".metadata.creationTimestamp"]),
      ("subresources", .obj [("status", .obj [])])]

def names : Json :=
  .obj
    [("categories", .arr []), ("kind", .str kind), ("plural", .str "replicatedshards"),
      ("shortNames", Json.ofTexts ["rs"]), ("singular", .str "replicatedshard")]

def document : Json :=
  .obj
    [("apiVersion", .str "apiextensions.k8s.io/v1"), ("kind", .str "CustomResourceDefinition"),
      ("metadata", .obj [("name", .str "replicatedshards.shardops.io")]),
      ("spec",
        .obj
          [("group", .str "shardops.io"), ("names", names), ("scope", .str "Namespaced"),
            ("versions", .arr [version])])]

end TabletDrain.Shard.Definition
