import TabletDrain.Api.Exchange
import TabletDrain.Lease.Document

/-! Leader election. An attempt reads the lease and then writes at most once: it creates the lease
when there is none, and renews it or takes it over where its state allows that. Only an accepted
write makes the replica lead; a conflict means that somebody else was faster. Attempts follow one
another for ever, the next one sooner after one that did not succeed. -/
namespace TabletDrain

structure Elector where
  namespaceName : String
  identity : String
  deriving DecidableEq, Repr

namespace Elector

inductive Write where
  | create (lease : Lease)
  | replace (lease : Lease)

inductive Next where
  | write (write : Write)
  | wait
  | fail

inductive Outcome where
  | leads
  | follows
  | failed
  deriving DecidableEq, Repr

def Outcome.flag (outcome : Outcome) : Bool := outcome = .leads

/-- The time from the end of an attempt to the next one, in milliseconds. -/
def Outcome.pause : Outcome → Nat
  | leads => 10000
  | follows => 5000
  | failed => 5000

theorem Outcome.pause_pos (outcome : Outcome) : 0 < outcome.pause := by
  cases outcome <;> decide

variable (elector : Elector)

def firstLease (now : Instant) : Lease where
  metadata :=
    { Metadata.empty with
      name := some Lease.leaderName
      namespaceName := some elector.namespaceName }
  spec := some
    { acquireTime := some now
      holder := some elector.identity
      durationSeconds := some Lease.claimSeconds
      transitions := some 0
      renewTime := some now }

/-- How an attempt that began at `now` goes on with what it read. -/
def afterRead (now : Instant) : Except Fault Lease → Except LeaseOverflow Next
  | .ok lease => do
    let decision ← lease.decide elector.identity now
    match ← lease.claimed elector.identity now decision with
    | some lease => return .write (.replace lease)
    | none => return .wait
  | .error (.refused refusal) =>
    if refusal.isNotFound then .ok (.write (.create (elector.firstLease now))) else .ok .fail
  | .error _ => .ok .fail

def afterWrite : Except Fault Lease → Outcome
  | .ok _ => .leads
  | .error (.refused refusal) => if refusal.isConflict then .follows else .failed
  | .error _ => .failed

def leasesPath : String :=
  Api.collectionPath "/apis/coordination.k8s.io/v1" elector.namespaceName "leases"

def leasePath : String := elector.leasesPath ++ "/" ++ Lease.leaderName

def readRequest : Except Fault Api.Request := Api.read elector.leasePath

def writeRequest : Write → Except Fault Api.Request
  | .create lease => Api.create elector.leasesPath lease.toJson
  | .replace lease => Api.replace elector.leasePath lease.toJson

/-- A request that was sent, and whether the replica led when it was. -/
structure SentWhile where
  sent : Api.Sent
  leads : Bool

structure Progress where
  /-- Milliseconds since the start. -/
  now : Nat
  leads : Bool
  sent : List SentWhile

/-- Sends a request, if it can be made, for a lease; `server` answers the requests by their
number. -/
def exchange (server : Nat → Api.Response) (progress : Progress) :
    Except Fault Api.Request → Except Fault Lease × Progress
  | .error fault => (.error fault, progress)
  | .ok request =>
    ((server progress.sent.length).object Lease.ofJson,
      { progress with sent := progress.sent ++ [⟨⟨progress.now, request⟩, progress.leads⟩] })

def attempt (server : Nat → Api.Response) (now : Instant) (progress : Progress) :
    Except LeaseOverflow (Outcome × Progress) := do
  let (found, progress) := exchange server progress elector.readRequest
  match ← elector.afterRead now found with
  | .wait => return (.follows, progress)
  | .fail => return (.failed, progress)
  | .write write =>
    let (written, progress) := exchange server progress (elector.writeRequest write)
    return (afterWrite written, progress)

def Progress.next (progress : Progress) (outcome : Outcome) : Progress :=
  { progress with now := progress.now + outcome.pause, leads := outcome.flag }

def attempts (server : Nat → Api.Response) (clock : Nat → Instant) (stop : Nat) :
    Nat → Progress → Except LeaseOverflow Progress
  | 0, progress => .ok progress
  | fuel + 1, progress =>
    if progress.now < stop then do
      let (outcome, progress) ← elector.attempt server (clock progress.now) progress
      attempts server clock stop fuel (progress.next outcome)
    else .ok progress

def canAsk : Bool := elector.readRequest.toBool

/-- Takes part in the election up to `stop`. Every pause is longer than a millisecond, so that there
are at most `stop` attempts. One more is made when the replica cannot even ask: it fails before
anything can stop it. -/
def run (server : Nat → Api.Response) (clock : Nat → Instant) (stop : Nat) (leads : Bool) :
    Except LeaseOverflow Progress :=
  let stop := if elector.canAsk then stop else max 1 stop
  elector.attempts server clock stop stop ⟨0, leads, []⟩

end Elector

end TabletDrain
