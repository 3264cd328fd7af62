import TabletDrain.Api.Metadata

/-! The lease by which one replica of the operator leads. Its holder renews it; anyone else waits
until it has expired, which is when more than its duration has passed since it was last renewed, and
then takes it over. A claim keeps the metadata that was read, so that the write fails when somebody
else was faster. -/
namespace TabletDrain

structure LeaseSpec where
  acquireTime : Option Instant
  holder : Option String
  durationSeconds : Option Int
  transitions : Option Int
  renewTime : Option Instant
  deriving DecidableEq

def LeaseSpec.empty : LeaseSpec := ⟨none, none, none, none, none⟩

structure Lease where
  metadata : Metadata
  spec : Option LeaseSpec

inductive LeaseDecision where
  | renew
  | takeOver (previous : Option String)
  | wait (holder : String)
  deriving DecidableEq, Repr

inductive LeaseOverflow where
  | expiry
  | transitions
  deriving DecidableEq, Repr

def LeaseOverflow.message : LeaseOverflow → String
  | expiry => "\x60DateTime + TimeDelta\x60 overflowed"
  | transitions => "attempt to add with overflow"

namespace Lease

def leaderName : String := "shard-drain-operator-leader"

/-- How long a claim lasts, in seconds; also the duration of a lease that does not say. -/
def claimSeconds : Int := 15

def transitionsBound : Int := 2147483648

def holder? (lease : Lease) : Option String := lease.spec.bind (·.holder)

/-- A lease last renewed at a time, with a duration, has expired at another. -/
def hasExpired (spec : LeaseSpec) (now : Instant) : Except LeaseOverflow Bool :=
  match spec.renewTime with
  | none => .ok true
  | some renewed =>
    match renewed.addSeconds? (spec.durationSeconds.getD claimSeconds) with
    | some expiry => .ok (expiry.before now)
    | none => .error .expiry

def decide (lease : Lease) (identity : String) (now : Instant) :
    Except LeaseOverflow LeaseDecision :=
  let spec := lease.spec.getD .empty
  match spec.holder with
  | none => .ok (.takeOver none)
  | some holder =>
    if holder = identity then .ok .renew
    else
      match hasExpired spec now with
      | .error overflow => .error overflow
      | .ok true => .ok (.takeOver (some holder))
      | .ok false => .ok (.wait holder)

def renewed (lease : Lease) (now : Instant) : Lease :=
  { lease with
    spec := some
      { lease.spec.getD .empty with
        renewTime := some now
        durationSeconds := some claimSeconds } }

def takenOver (lease : Lease) (identity : String) (now : Instant) : Except LeaseOverflow Lease :=
  let spec := lease.spec.getD .empty
  let transitions := spec.transitions.getD 0 + 1
  if transitions < transitionsBound then
    .ok { lease with
      spec := some
        { acquireTime := some now
          holder := some identity
          durationSeconds := some claimSeconds
          transitions := some transitions
          renewTime := some now } }
  else .error .transitions

/-- The lease that `identity` writes after a decision, or nothing while it waits. -/
def claimed (lease : Lease) (identity : String) (now : Instant) :
    LeaseDecision → Except LeaseOverflow (Option Lease)
  | .renew => .ok (some (lease.renewed now))
  | .takeOver _ =>
    match lease.takenOver identity now with
    | .ok lease => .ok (some lease)
    | .error overflow => .error overflow
  | .wait _ => .ok none

def step (lease : Lease) (identity : String) (now : Instant) :
    Except LeaseOverflow (LeaseDecision × Lease) := do
  let decision ← lease.decide identity now
  let after ← lease.claimed identity now decision
  return (decision, after.getD lease)

end Lease

end TabletDrain
