import TabletDrain.Time.Span
import TabletDrain.Text.Quoted

/-! What can go wrong in a drain: each cause with what is known of it, its message, its label in the
error counter, and whether it may clear on its own. -/
namespace TabletDrain

structure Refusal where
  status : String
  message : String
  reason : String
  code : Nat
  deriving DecidableEq, Repr

namespace Refusal

def details (refusal : Refusal) : String :=
  "ErrorResponse \x7b status: " ++ Text.quoted refusal.status
    ++ ", message: " ++ Text.quoted refusal.message
    ++ ", reason: " ++ Text.quoted refusal.reason
    ++ ", code: " ++ Text.decimal refusal.code ++ " \x7d"

def text (refusal : Refusal) : String :=
  "ApiError: " ++ refusal.message ++ ": " ++ refusal.reason ++ " (" ++ refusal.details ++ ")"

def isConflict (refusal : Refusal) : Bool := refusal.code = 409

def isNotFound (refusal : Refusal) : Bool := refusal.reason = "NotFound"

end Refusal

inductive Fault where
  | refused (refusal : Refusal)
  /-- The API server could not be reached, or its answer could not be read. -/
  | kubernetes (detail : String)
  | config (detail : String)
  | topology (detail : String)
  | rpc (detail : String)
  | position (text reason : String)
  /-- A change of the database version is a downgrade that cannot be done safely. -/
  | downgrade (detail : String)
  | timeout (operation : String) (after : Span)
  /-- The topology server could not be reached, or its answer could not be read. -/
  | http (detail : String)
  | serialization (detail : String)
  deriving DecidableEq, Repr

namespace Fault

def label : Fault → String
  | refused _ => "kube"
  | kubernetes _ => "kube"
  | config _ => "config"
  | topology _ => "topology"
  | rpc _ => "rpc"
  | position _ _ => "position"
  | downgrade _ => "downgrade"
  | timeout _ _ => "timeout"
  | http _ => "http"
  | serialization _ => "serialization"

/-- The failure may clear on its own, so that trying again soon makes sense. -/
def isRetriable : Fault → Bool
  | refused _ | kubernetes _ | topology _ | rpc _ | timeout _ _ | http _ => true
  | config _ | position _ _ | downgrade _ | serialization _ => false

def message : Fault → String
  | refused refusal => "Kubernetes API error: " ++ refusal.text
  | kubernetes detail => "Kubernetes API error: " ++ detail
  | config detail => "Configuration error: " ++ detail
  | topology detail => "Topology error: " ++ detail
  | rpc detail => "Tablet RPC error: " ++ detail
  | position text reason =>
    "Failed to decode replication position " ++ Text.quoted text ++ ": " ++ reason
  | downgrade detail => "Unsupported downgrade: " ++ detail
  | timeout operation after => operation ++ " timed out after " ++ after.text
  | http detail => "HTTP request failed: " ++ detail
  | serialization detail => "Serialization error: " ++ detail

end Fault

end TabletDrain
