import TabletDrain.Http.Status
import TabletDrain.Http.Target
import TabletDrain.Fault
import TabletDrain.Json.Parser
import TabletDrain.Json.Reader

/-! Requests to the API server and its answers. Names are put into the address as they are, so a
request about a name that does not fit cannot be made. A refusal comes as a status document; one
that cannot be read is replaced by an account of the code and the body. -/
namespace TabletDrain.Api

inductive Method where
  | get
  | post
  | put
  deriving DecidableEq, Repr

def Method.name : Method → String
  | get => "GET"
  | post => "POST"
  | put => "PUT"

structure Request where
  method : Method
  target : Http.Target
  body : Option Json

def request (method : Method) (address : String) (body : Option Json) : Except Fault Request :=
  match Http.Target.parse? address with
  | some target => .ok ⟨method, target, body⟩
  | none => .error (.kubernetes "Error building request")

def read (path : String) : Except Fault Request := request .get path none

def list (path : String) (parameters : List (String × String)) : Except Fault Request :=
  request .get (Http.withParameters path parameters) none

def create (path : String) (document : Json) : Except Fault Request :=
  request .post (Http.withParameters path []) (some document)

def replace (path : String) (document : Json) : Except Fault Request :=
  request .put (Http.withParameters path []) (some document)

inductive Response where
  | answered (code : Nat) (body : String)
  | unreachable
  deriving DecidableEq, Repr

def codeBound : Nat := 65536

def refusalOfJson (document : Json) : Option Refusal := do
  let [status, message, reason, code] ←
    Json.slots [["status"], ["message"], ["reason"], ["code"]] document | none
  return {
    status := ← status.required Json.readText
    message := ← message.orElse "" Json.readText
    reason := ← reason.orElse "" Json.readText
    code := ← code.required (Json.readNat codeBound) }

def refusal (code : Nat) (body : String) : Refusal :=
  match (Json.parse? body).bind refusalOfJson with
  | some refusal => refusal
  | none => ⟨Http.statusText code, Text.quoted body, "Failed to parse error data", code⟩

def Response.object {α : Type} (read : Json → Option α) : Response → Except Fault α
  | unreachable => .error (.kubernetes "ServiceError: client error (Connect)")
  | answered code body =>
    if Http.isError code then .error (.refused (refusal code body))
    else
      match (Json.parse? body).bind read with
      | some object => .ok object
      | none => .error (.kubernetes "Error deserializing response")

/-- A request that was sent, and when, in milliseconds. -/
structure Sent where
  time : Nat
  request : Request

def collectionPath (group namespaceName kind : String) : String :=
  group ++ "/namespaces/" ++ namespaceName ++ "/" ++ kind

def defaultNamespace : String := "default"

end TabletDrain.Api
