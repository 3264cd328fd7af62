import TabletDrain.Api.Exchange
import TabletDrain.Api.Metadata
import TabletDrain.Pass.Cluster

/-! Publishing events through the API server. -/
namespace TabletDrain.Api

def referenceToJson (object : ObjectRef) : Json :=
  .ofFields [("kind", object.kind.map .str), ("name", object.name.map .str),
    ("namespace", object.namespaceName.map .str)]

def eventName (object : ObjectRef) : String := object.name.getD "shard-drain" ++ "-"

def eventToJson (component : String) (severity : Severity) (object : ObjectRef)
    (reason message : String) (now : Instant) : Json :=
  .obj [("apiVersion", .str "v1"), ("kind", .str "Event"), ("count", .num 1),
    ("firstTimestamp", .str now.wholeText),
    ("involvedObject", referenceToJson object),
    ("lastTimestamp", .str now.wholeText),
    ("message", .str message),
    ("metadata",
      { Metadata.empty with generateName := some (eventName object) : Metadata }.toJson),
    ("reason", .str reason),
    ("source", .obj [("component", .str component)]),
    ("type", .str severity.name)]

/-- Publishes an event. Nothing depends on the answer, nor on whether the request can be made. -/
def createEvent (component : String) (severity : Severity) (object : ObjectRef)
    (reason message : String) (now : Instant) : Except Fault Request :=
  create (collectionPath "/api/v1" (object.namespaceName.getD defaultNamespace) "events")
    (eventToJson component severity object reason message now)

end TabletDrain.Api
