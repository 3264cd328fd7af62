import TabletDrain.Api.Exchange
import TabletDrain.Api.Metadata
import TabletDrain.Json.Printer
import TabletDrain.Pod.Basic
import TabletDrain.Pod.Shape

/-! Listing and updating pods through the API server. -/
namespace TabletDrain

open Json

namespace Container

def ofJson (document : Json) : Option Container :=
  if document.isObject then do
    return ⟨(← document.field? "name" readText).getD "", ← document.field? "image" readText⟩
  else none

def toJson (container : Container) : Json :=
  .ofFields [("image", container.image.map .str), ("name", some (.str container.name))]

end Container

namespace PodCondition

def ofJson (document : Json) : Option PodCondition :=
  if document.isObject then do
    return {
      type := (← document.field? "type" readText).getD ""
      status := (← document.field? "status" readText).getD "" }
  else none

def toJson (condition : PodCondition) : Json :=
  .obj [("status", .str condition.status), ("type", .str condition.type)]

end PodCondition

namespace Pod

/-- Reads the containers of a pod's spec, which has to fit as a whole. -/
def containersOfJson (spec : Json) : Option (List Container) :=
  if Shape.spec.fits spec then do
    return (← spec.field? "containers" (readList Container.ofJson)).getD []
  else none

/-- Reads the conditions of a pod's status, which has to fit as a whole. -/
def conditionsOfJson (status : Json) : Option (Option (List PodCondition)) :=
  if Shape.status.fits status then status.field? "conditions" (readList PodCondition.ofJson)
  else none

/-- What a document holds beside the parts of a pod. Those of the spec and the status are never
changed, so both are kept whole. -/
def restOfJson (metadata : Metadata) (document : Json) : Json :=
  let others :=
    { metadata with
      annotations := none, generateName := none, labels := none, name := none, namespaceName := none }
  .ofFields [("metadata", some others.toJson),
    ("spec", (document.given? "spec").map Shape.spec.kept),
    ("status", (document.given? "status").map Shape.status.kept)]

def ofJson (document : Json) : Option Pod := do
  if document.hasType "v1" "Pod" then
    let metadata ← document.metadata?
    return {
      name := metadata.name
      generateName := metadata.generateName
      namespaceName := metadata.namespaceName
      labels := metadata.labels
      annotations := metadata.annotations
      containers := ← document.field? "spec" containersOfJson
      conditions := (← document.field? "status" conditionsOfJson).bind id
      rest := (restOfJson metadata document).text }
  else none

def restJson (pod : Pod) : Json := (parse? pod.rest).getD (.obj [])

def metadata (pod : Pod) : Metadata :=
  { pod.restJson.metadata?.getD .empty with
    annotations := pod.annotations
    generateName := pod.generateName
    labels := pod.labels
    name := pod.name
    namespaceName := pod.namespaceName }

def specJson (pod : Pod) : Option Json :=
  (pod.restJson.get? "spec").or (pod.containers.map fun containers =>
    .obj [("containers", .arr (containers.map Container.toJson))])

def statusJson (pod : Pod) : Option Json :=
  (pod.restJson.get? "status").or (pod.conditions.map fun conditions =>
    .obj [("conditions", .arr (conditions.map PodCondition.toJson))])

/-- A pod that was not read from a document has no more than its parts. -/
def toJson (pod : Pod) : Json :=
  .ofFields [("apiVersion", some (.str "v1")), ("kind", some (.str "Pod")),
    ("metadata", some pod.metadata.toJson), ("spec", pod.specJson), ("status", pod.statusJson)]

def listMetadata : Json.Shape :=
  .record [("continue", .text), ("remainingItemCount", .int64), ("resourceVersion", .text),
    ("selfLink", .text)]

def listMetadataFits : Slot → Bool
  | .given metadata => listMetadata.fits metadata
  | _ => true

def listItems : Slot → Option (List Pod)
  | .given items => do return (← readNullable (readList ofJson) items).getD []
  | _ => none

/-- Reads a list of pods. Nothing is kept of its other fields, but they must be readable. -/
def listOfJson : Json → Option (List Pod)
  | obj fields => do
    let metadata ← slot? ["metadata"] fields
    let items ← slot? ["items"] fields
    let others := fields.filter fun field => !(["metadata", "items"].contains field.1)
    if listMetadataFits metadata && haveUsable others then listItems items else none
  | _ => none

end Pod

namespace Api

def podsPath (namespaceName : String) : String := collectionPath "/api/v1" namespaceName "pods"

def listPods (namespaceName : String) (labels : Keyed String) : Except Fault Request :=
  list (podsPath namespaceName) [("labelSelector", selectorText labels)]

/-- Writes a pod back. There is no such request for a pod without a name. -/
def updatePod (pod : Pod) : Except Fault Request :=
  if pod.shownName.isEmpty then
    .error (.kubernetes
      "Error building request: failed to validate request: A non-empty name is required")
  else
    replace (podsPath (pod.namespaceName.getD defaultNamespace) ++ "/" ++ pod.shownName) pod.toJson

def listedPods (response : Response) : Except Fault (List Pod) := response.object Pod.listOfJson

def updatedPod (response : Response) : Except Fault Pod := response.object Pod.ofJson

end Api

end TabletDrain
