import TabletDrain.Lease.Basic
import TabletDrain.Proofs.Stepwise

/-! What a replica makes of a lease that it reads, and what a claim changes of it. -/
namespace TabletDrain

def LeaseDecision.isClaim : LeaseDecision → Bool
  | .wait _ => false
  | _ => true

def LeaseDecision.isTakeOver : LeaseDecision → Bool
  | .takeOver _ => true
  | _ => false

/-- Leap seconds apart, a point is past a number of seconds after another as their distance says. -/
theorem Instant.before_addSeconds?_iff {start due now : Instant} {seconds : Int}
    (reached : start.addSeconds? seconds = some due) (ordinary : start.nanoseconds < perSecond)
    (ordinary' : now.nanoseconds < perSecond) :
    due.before now = true ↔
      (start.seconds + seconds) * perSecond + start.nanoseconds
        < now.seconds * perSecond + now.nanoseconds := by
  have later : due = ⟨start.seconds + seconds, start.nanoseconds⟩ := by
    simp only [addSeconds?, ordinary, decide_true, Bool.true_or, if_true] at reached
    split at reached
    · exact (Option.some.inj reached).symm
    · cases reached
  unfold perSecond at *
  rw [later, before]
  dsimp only
  split <;> simp only [decide_eq_true_eq] <;> omega

namespace Lease

variable {lease after : Lease} {identity holder : String} {now : Instant} {decision : LeaseDecision}

def transitions? (lease : Lease) : Option Int := lease.spec.bind (·.transitions)

/-- The point at which the lease expires is one of the calendar. -/
def IsDated (lease : Lease) : Prop :=
  ∀ renewed, (lease.spec.getD .empty).renewTime = some renewed →
    ∃ due, renewed.addSeconds? ((lease.spec.getD .empty).durationSeconds.getD claimSeconds) = some due

theorem holder_getD (lease : Lease) : (lease.spec.getD .empty).holder = lease.holder? := by
  unfold holder?
  cases lease.spec <;> rfl

theorem transitions_getD (lease : Lease) :
    (lease.spec.getD .empty).transitions = lease.transitions? := by
  unfold transitions?
  cases lease.spec <;> rfl

theorem hasExpired_of_isDated (dated : lease.IsDated) (now : Instant) :
    ∃ expired, hasExpired (lease.spec.getD .empty) now = .ok expired := by
  unfold hasExpired
  cases renewal : (lease.spec.getD .empty).renewTime with
  | none => exact ⟨true, rfl⟩
  | some renewed =>
    obtain ⟨due, reached⟩ := dated renewed renewal
    dsimp only
    rw [reached]
    exact ⟨due.before now, rfl⟩

section Decisions

theorem decide_of_free (free : lease.holder? = none) :
    lease.decide identity now = .ok (.takeOver none) := by
  unfold decide
  dsimp only
  rw [holder_getD, free]

theorem decide_of_own (own : lease.holder? = some identity) :
    lease.decide identity now = .ok .renew := by
  unfold decide
  dsimp only
  rw [holder_getD, own]
  exact if_pos rfl

theorem decide_of_other (held : lease.holder? = some holder) (other : holder ≠ identity) :
    lease.decide identity now =
      match hasExpired (lease.spec.getD .empty) now with
      | .error overflow => .error overflow
      | .ok true => .ok (.takeOver (some holder))
      | .ok false => .ok (.wait holder) := by
  unfold decide
  dsimp only
  rw [holder_getD, held]
  exact if_neg other

/-- All that can come of reading a lease. -/
theorem decide_cases (decided : lease.decide identity now = .ok decision) :
    (decision = .renew ∧ lease.holder? = some identity) ∨
      (decision = .takeOver lease.holder? ∧ lease.holder? ≠ some identity ∧
        (lease.holder? = none ∨ hasExpired (lease.spec.getD .empty) now = .ok true)) ∨
      ∃ holder, decision = .wait holder ∧ lease.holder? = some holder ∧ holder ≠ identity ∧
        hasExpired (lease.spec.getD .empty) now = .ok false := by
  cases held : lease.holder? with
  | none =>
    rw [decide_of_free held] at decided
    cases decided
    exact .inr (.inl ⟨rfl, nofun, .inl rfl⟩)
  | some holder =>
    by_cases own : holder = identity
    · rw [decide_of_own (own ▸ held)] at decided
      cases decided
      exact .inl ⟨rfl, congrArg some own⟩
    · rw [decide_of_other held own] at decided
      cases expired : hasExpired (lease.spec.getD .empty) now with
      | error overflow =>
        rw [expired] at decided
        cases decided
      | ok past =>
        rw [expired] at decided
        cases past with
        | true =>
          cases decided
          exact .inr (.inl ⟨rfl, fun same => own (Option.some.inj same), .inr rfl⟩)
        | false =>
          cases decided
          exact .inr (.inr ⟨holder, rfl, rfl, own, rfl⟩)

theorem exists_decision (dated : lease.IsDated) (identity : String) (now : Instant) :
    ∃ decision, lease.decide identity now = .ok decision := by
  cases held : lease.holder? with
  | none => exact ⟨_, decide_of_free held⟩
  | some holder =>
    by_cases own : holder = identity
    · exact ⟨_, decide_of_own (own ▸ held)⟩
    · obtain ⟨expired, sound⟩ := hasExpired_of_isDated dated now
      rw [decide_of_other held own, sound]
      cases expired with
      | true => exact ⟨_, rfl⟩
      | false => exact ⟨_, rfl⟩

end Decisions

section Steps

variable {written : Option Lease}

/-- All that a decision can lead to. -/
theorem claimed_cases (claims : lease.claimed identity now decision = .ok written) :
    (decision = .renew ∧ written = some (lease.renewed now)) ∨
      (∃ previous, decision = .takeOver previous ∧
        lease.transitions?.getD 0 + 1 < transitionsBound ∧
        written = some { lease with
          spec := some
            { acquireTime := some now
              holder := some identity
              durationSeconds := some claimSeconds
              transitions := some (lease.transitions?.getD 0 + 1)
              renewTime := some now } }) ∨
      ∃ holder, decision = .wait holder ∧ written = none := by
  cases decision with
  | renew =>
    cases claims
    exact .inl ⟨rfl, rfl⟩
  | wait holder =>
    cases claims
    exact .inr (.inr ⟨holder, rfl, rfl⟩)
  | takeOver previous =>
    refine .inr (.inl ⟨previous, rfl, ?_⟩)
    unfold claimed takenOver at claims
    dsimp only at claims
    rw [transitions_getD] at claims
    by_cases counted : lease.transitions?.getD 0 + 1 < transitionsBound
    · rw [if_pos counted] at claims
      cases claims
      exact ⟨counted, rfl⟩
    · rw [if_neg counted] at claims
      cases claims

/-- A claim is made unless it would be one take-over too many. -/
theorem exists_claimed (identity : String) (now : Instant)
    (counted : decision.isTakeOver = true → lease.transitions?.getD 0 + 1 < transitionsBound) :
    ∃ written, lease.claimed identity now decision = .ok written := by
  cases decision with
  | renew => exact ⟨_, rfl⟩
  | wait holder => exact ⟨_, rfl⟩
  | takeOver previous =>
    unfold claimed takenOver
    dsimp only
    rw [transitions_getD, if_pos (counted rfl)]
    exact ⟨_, rfl⟩

theorem step_of_claimed (decided : lease.decide identity now = .ok decision)
    (claims : lease.claimed identity now decision = .ok written) :
    lease.step identity now = .ok (decision, written.getD lease) := by
  unfold step
  rw [decided]
  change (lease.claimed identity now decision >>= _) = _
  rw [claims]
  rfl

theorem of_step (stepped : lease.step identity now = .ok (decision, after)) :
    lease.decide identity now = .ok decision ∧
      ∃ written, lease.claimed identity now decision = .ok written ∧ after = written.getD lease := by
  obtain ⟨made, decided, goesOn⟩ := exists_of_bind_eq_ok stepped
  obtain ⟨written, claims, ends⟩ := exists_of_bind_eq_ok goesOn
  cases ends
  exact ⟨decided, written, claims, rfl⟩

end Steps

end Lease

end TabletDrain
