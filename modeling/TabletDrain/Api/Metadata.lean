import TabletDrain.Json.Reader
import TabletDrain.Time.Instant

/-! The metadata of an object of the API server. It is read and written back field by field, because
a write must send what was read, the version above all. Unknown fields are dropped, null means
absent. -/
namespace TabletDrain

open Json

structure OwnerReference where
  apiVersion : String
  blockOwnerDeletion : Option Bool
  controller : Option Bool
  kind : String
  name : String
  uid : String

structure ManagedFields where
  apiVersion : Option String
  fieldsType : Option String
  fields : Option Json
  manager : Option String
  operation : Option String
  subresource : Option String
  time : Option Instant

structure Metadata where
  annotations : Option (Keyed String)
  creationTimestamp : Option Instant
  deletionGracePeriodSeconds : Option Int
  deletionTimestamp : Option Instant
  finalizers : Option (List String)
  generateName : Option String
  generation : Option Int
  labels : Option (Keyed String)
  managedFields : Option (List ManagedFields)
  name : Option String
  namespaceName : Option String
  ownerReferences : Option (List OwnerReference)
  resourceVersion : Option String
  selfLink : Option String
  uid : Option String

def Instant.ofJson (document : Json) : Option Instant := document.readText.bind Instant.parse?

namespace OwnerReference

def ofJson (document : Json) : Option OwnerReference := do
  if !document.isObject then none
  else
    return {
      apiVersion := (← document.field? "apiVersion" readText).getD ""
      blockOwnerDeletion := ← document.field? "blockOwnerDeletion" readBool
      controller := ← document.field? "controller" readBool
      kind := (← document.field? "kind" readText).getD ""
      name := (← document.field? "name" readText).getD ""
      uid := (← document.field? "uid" readText).getD "" }

def toJson (owner : OwnerReference) : Json :=
  .ofFields [("apiVersion", some (.str owner.apiVersion)),
    ("blockOwnerDeletion", owner.blockOwnerDeletion.map .bool),
    ("controller", owner.controller.map .bool), ("kind", some (.str owner.kind)),
    ("name", some (.str owner.name)), ("uid", some (.str owner.uid))]

end OwnerReference

namespace ManagedFields

def ofJson (document : Json) : Option ManagedFields := do
  if !document.isObject then none
  else
    return {
      apiVersion := ← document.field? "apiVersion" readText
      fieldsType := ← document.field? "fieldsType" readText
      fields := ← document.field? "fieldsV1" readAny
      manager := ← document.field? "manager" readText
      operation := ← document.field? "operation" readText
      subresource := ← document.field? "subresource" readText
      time := ← document.field? "time" Instant.ofJson }

def toJson (managed : ManagedFields) : Json :=
  .ofFields [("apiVersion", managed.apiVersion.map .str),
    ("fieldsType", managed.fieldsType.map .str),
    ("fieldsV1", managed.fields), ("manager", managed.manager.map .str),
    ("operation", managed.operation.map .str), ("subresource", managed.subresource.map .str),
    ("time", managed.time.map fun time => .str time.wholeText)]

end ManagedFields

namespace Metadata

def empty : Metadata where
  annotations := none
  creationTimestamp := none
  deletionGracePeriodSeconds := none
  deletionTimestamp := none
  finalizers := none
  generateName := none
  generation := none
  labels := none
  managedFields := none
  name := none
  namespaceName := none
  ownerReferences := none
  resourceVersion := none
  selfLink := none
  uid := none

def ofJson (document : Json) : Option Metadata := do
  if !document.isObject then none
  else
    return {
      annotations := ← document.field? "annotations" (readMap readText)
      creationTimestamp := ← document.field? "creationTimestamp" Instant.ofJson
      deletionGracePeriodSeconds := ← document.field? "deletionGracePeriodSeconds" readInt64
      deletionTimestamp := ← document.field? "deletionTimestamp" Instant.ofJson
      finalizers := ← document.field? "finalizers" (readList readText)
      generateName := ← document.field? "generateName" readText
      generation := ← document.field? "generation" readInt64
      labels := ← document.field? "labels" (readMap readText)
      managedFields := ← document.field? "managedFields" (readList ManagedFields.ofJson)
      name := ← document.field? "name" readText
      namespaceName := ← document.field? "namespace" readText
      ownerReferences := ← document.field? "ownerReferences" (readList OwnerReference.ofJson)
      resourceVersion := ← document.field? "resourceVersion" readText
      selfLink := ← document.field? "selfLink" readText
      uid := ← document.field? "uid" readText }

def toJson (metadata : Metadata) : Json :=
  .ofFields [("annotations", metadata.annotations.map ofTextMap),
    ("creationTimestamp", metadata.creationTimestamp.map fun time => .str time.wholeText),
    ("deletionGracePeriodSeconds", metadata.deletionGracePeriodSeconds.map .num),
    ("deletionTimestamp", metadata.deletionTimestamp.map fun time => .str time.wholeText),
    ("finalizers", metadata.finalizers.map ofTexts),
    ("generateName", metadata.generateName.map .str),
    ("generation", metadata.generation.map .num),
    ("labels", metadata.labels.map ofTextMap),
    ("managedFields",
      metadata.managedFields.map fun entries => .arr (entries.map ManagedFields.toJson)),
    ("name", metadata.name.map .str),
    ("namespace", metadata.namespaceName.map .str),
    ("ownerReferences",
      metadata.ownerReferences.map fun owners => .arr (owners.map OwnerReference.toJson)),
    ("resourceVersion", metadata.resourceVersion.map .str),
    ("selfLink", metadata.selfLink.map .str),
    ("uid", metadata.uid.map .str)]

end Metadata

def Json.metadata? (document : Json) : Option Metadata := do
  return (← document.field? "metadata" Metadata.ofJson).getD .empty

end TabletDrain
