import TabletDrain.Fault
import TabletDrain.Http.Status
import TabletDrain.Http.Url
import TabletDrain.Json.Parser
import TabletDrain.Json.Reader

/-! Talking to the server that keeps the topology. A session sends requests one after another and
remembers those that arrived; the server may answer the requests, by their number, in any way. -/
namespace TabletDrain.Topology

inductive Method where
  | get
  | post
  deriving DecidableEq, Repr

def Method.name : Method → String
  | get => "GET"
  | post => "POST"

structure Request where
  method : Method
  target : String
  body : Option Json

inductive Answer where
  | answered (code : Nat) (body : String)
  | closed
  | unreachable
  deriving DecidableEq, Repr

/-- The server: its address, the path in front of all paths, and its answers by the number of
requests made before. -/
structure Server where
  host : String
  root : String
  answers : Nat → Answer

def rootOf (suffix : String) : String :=
  String.ofList (suffix.toList.reverse.dropWhile (· = '/')).reverse

structure Session where
  made : List (Request × Bool)

def Session.start : Session := ⟨[]⟩

def Session.arrived (session : Session) : List Request :=
  (session.made.filter Prod.snd).map Prod.fst

def Exchange (α : Type) : Type := Session → Except Fault α × Session

namespace Exchange

variable {α β : Type}

def pure (a : α) : Exchange α := fun session => (.ok a, session)

def fail (fault : Fault) : Exchange α := fun session => (.error fault, session)

/-- One part after another, unless the first fails. -/
def bind (first : Exchange α) (next : α → Exchange β) : Exchange β := fun session =>
  match first session with
  | (.ok a, session) => next a session
  | (.error fault, session) => (.error fault, session)

instance : Monad Exchange where
  pure := pure
  bind := bind

@[simp] theorem pure_apply (a : α) (session : Session) :
    (Pure.pure a : Exchange α) session = (.ok a, session) := rfl

theorem bind_of_ok {first : Exchange α} {session reached : Session} {a : α}
    (next : α → Exchange β) (h : first session = (.ok a, reached)) :
    (first >>= next) session = next a reached := by
  change bind first next session = _
  simp only [bind, h]

theorem bind_of_error {first : Exchange α} {session reached : Session} {fault : Fault}
    (next : α → Exchange β) (h : first session = (.error fault, reached)) :
    (first >>= next) session = (.error fault, reached) := by
  change bind first next session = _
  simp only [bind, h]

theorem bind_assoc {γ : Type} (first : Exchange α) (next : α → Exchange β) (last : β → Exchange γ) :
    first >>= next >>= last = first >>= fun a => next a >>= last := by
  funext session
  change bind (bind first next) last session = bind first (fun a => bind (next a) last) session
  rcases done : first session with ⟨_ | a, reached⟩ <;> simp only [bind, done]

end Exchange

def Answer.hasArrived (answer : Answer) : Bool := answer ≠ .unreachable

/-- The message of a request that got no answer, or could not be made. -/
def noAnswer (server : Server) (path : String) : String :=
  match Http.targetForm? (server.root ++ path).toList with
  | some (target, fragment) =>
    "error sending request for url (" ++ server.host ++ String.ofList (target ++ fragment) ++ ")"
  | none => "builder error"

def unreadable : String := "error decoding response body"

/-- Makes a request. There is none where the server has no address for it. -/
def request (server : Server) (method : Method) (path : String) (body : Option Json) :
    Exchange Answer := fun session =>
  match Http.targetForm? (server.root ++ path).toList with
  | none => (.ok .unreachable, session)
  | some (target, _) =>
    let answer := server.answers session.made.length
    let request : Request := ⟨method, String.ofList target, body⟩
    (.ok answer, ⟨session.made ++ [(request, answer.hasArrived)]⟩)

end TabletDrain.Topology
