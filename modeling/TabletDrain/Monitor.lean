import TabletDrain.Counters
import TabletDrain.Json.Printer

/-! The operator's own web server, for probes and for collecting its counters. -/
namespace TabletDrain.Monitor

def version : String := "0.1.0"

inductive Body where
  | empty
  | json (document : Json)
  | lines (lines : List String)

structure Answer where
  status : Nat
  body : Body

/-- What is found at a path, for a replica that leads or not. -/
def page? (leads : Bool) (counters : Counters) : String → Option Body
  | "/health" =>
    some (.json (.obj
      [("status", .str "healthy"), ("version", .str version), ("leader", .bool leads)]))
  | "/metrics" => some (.lines counters.lines)
  | _ => none

def pathOf (target : String) : String := String.ofList (target.toList.takeWhile (· ≠ '?'))

def answer (leads : Bool) (counters : Counters) (method target : String) : Answer :=
  match page? leads counters (pathOf target) with
  | none => ⟨404, .empty⟩
  | some body =>
    if method = "GET" then ⟨200, body⟩
    else if method = "HEAD" then ⟨200, .empty⟩
    else ⟨405, .empty⟩

end TabletDrain.Monitor
