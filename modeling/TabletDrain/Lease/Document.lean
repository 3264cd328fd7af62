import TabletDrain.Lease.Basic

/-! The JSON document of a lease. -/
namespace TabletDrain

open Json

def Lease.apiVersion : String := "coordination.k8s.io/v1"

namespace LeaseSpec

def ofJson (document : Json) : Option LeaseSpec := do
  if !document.isObject then none
  else
    return {
      acquireTime := ← document.field? "acquireTime" Instant.ofJson
      holder := ← document.field? "holderIdentity" readText
      durationSeconds := ← document.field? "leaseDurationSeconds" readInt32
      transitions := ← document.field? "leaseTransitions" readInt32
      renewTime := ← document.field? "renewTime" Instant.ofJson }

def toJson (spec : LeaseSpec) : Json :=
  .ofFields [("acquireTime", spec.acquireTime.map fun time => .str time.microText),
    ("holderIdentity", spec.holder.map .str),
    ("leaseDurationSeconds", spec.durationSeconds.map .num),
    ("leaseTransitions", spec.transitions.map .num),
    ("renewTime", spec.renewTime.map fun time => .str time.microText)]

end LeaseSpec

namespace Lease

def ofJson (document : Json) : Option Lease := do
  if document.hasType apiVersion "Lease" then
    return ⟨← document.metadata?, ← document.field? "spec" LeaseSpec.ofJson⟩
  else none

def toJson (lease : Lease) : Json :=
  .ofFields [("apiVersion", some (.str apiVersion)), ("kind", some (.str "Lease")),
    ("metadata", some lease.metadata.toJson), ("spec", lease.spec.map LeaseSpec.toJson)]

end Lease

end TabletDrain
