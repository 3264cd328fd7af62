import TabletDrain.Pod.Markers
import TabletDrain.Position.Text

/-! Which tablet the primary role goes to. A tablet is eligible when it is not the primary, has a
role that can be promoted, and runs in a ready pod without drain markers. All eligible tablets are
asked at once how far they have got; the answers are looked at as they come in, and the one furthest
ahead wins, the earlier one on a tie. When no answer is of use, the first eligible tablet is
taken. -/
namespace TabletDrain.Succession

/-- The role of the tablet, and in external mode the pool of its pod, allow a promotion. -/
def canBePromoted (external : Bool) (tablet : Tablet) (pod : Pod) : Bool :=
  if external then
    pod.label? poolLabel = some externalPool && (tablet.role = .spare || tablet.role = .primary)
  else tablet.role = .replica

def isEligible (record : ShardRecord) (external : Bool) (tablet : Tablet) (pod : Pod) : Bool :=
  record.primary ≠ some tablet.name && canBePromoted external tablet pod && pod.isReady
    && !pod.markers.any

/-- The tablets that could take over as primary, in the order of their keys. -/
def eligible (record : ShardRecord) (tablets : Keyed Tablet) (pods : Keyed Pod) (external : Bool) :
    List Tablet :=
  tablets.entries.filterMap fun (key, tablet) =>
    match pods.get? key with
    | some pod => if isEligible record external tablet pod then some tablet else none
    | none => none

structure ProbeReply where
  /-- The time that the answer takes, in milliseconds. -/
  delay : Nat
  fault : Option Fault
  position : Option String
  deriving DecidableEq, Repr

def ProbeReply.outcome (reply : ProbeReply) (tablet : Alias) : Except Fault String :=
  match reply.fault, reply.position with
  | some fault, _ => .error fault
  | none, some position => .ok position
  | none, none => .error (.rpc ("tablet " ++ tablet.text ++ " is unreachable"))

/-- What came of asking a tablet: when it was known, and the position if there is one. -/
structure Answer where
  tablet : Tablet
  time : Nat
  position : Option Position
  deriving DecidableEq, Repr

def decoded? (text : Except Fault String) : Option Position :=
  match text with
  | .ok text => (Position.decode text).toOption
  | .error _ => none

/-- What comes of asking a tablet that has `timeout` milliseconds to answer. An answer at the very
end of that time counts. -/
def answer (timeout : Nat) (reply : Alias → ProbeReply) (tablet : Tablet) : Answer :=
  let reply := reply tablet.name
  if reply.delay ≤ timeout then ⟨tablet, reply.delay, decoded? (reply.outcome tablet.name)⟩
  else ⟨tablet, timeout, none⟩

/-- Asking all tablets at once, and the answers as they come in; of answers at the same instant
that of the tablet asked first comes first. -/
def answers (timeout : Nat) (reply : Alias → ProbeReply) (tablets : List Tablet) : List Answer :=
  (tablets.map (answer timeout reply)).mergeSort fun a b => a.time ≤ b.time

structure Lead where
  tablet : Option Tablet
  position : Position
  deriving DecidableEq, Repr

def Lead.start : Lead := ⟨none, .zero⟩

/-- The leader after one more answer. A zero position gives way to any other. -/
def Lead.next (lead : Lead) (answer : Answer) : Lead :=
  match answer.position with
  | some position =>
    if lead.position.isZero || !lead.position.atLeast position then ⟨some answer.tablet, position⟩
    else lead
  | none => lead

def furthest (answers : List Answer) : Option Tablet := (answers.foldl Lead.next .start).tablet

/-- The tablet to take, of which the first eligible one is the last resort. -/
def choose (first : Tablet) (answers : List Answer) : Tablet := (furthest answers).getD first

def duration (answers : List Answer) : Nat :=
  answers.foldl (fun time answer => max time answer.time) 0

end TabletDrain.Succession
