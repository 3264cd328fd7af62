import Mathlib.Data.List.Induction
import TabletDrain.Proofs.Lease.Claims

/-! Leases over whole runs. Replicas take turns on a lease, in any order and at any times; the clock of
one may be behind that of another. What the lease says is always what the last claim to it wrote, and
nobody else claims it before that claim has expired. -/
namespace TabletDrain.Lease

/-- An attempt at a lease, and what it came to. -/
structure Turn where
  identity : String
  now : Instant
  decision : LeaseDecision

def Turn.attempt (turn : Turn) : String × Instant := (turn.identity, turn.now)

/-- Turns one after another, each on the lease that the one before it left. -/
inductive History (initial : Lease) : List Turn → Lease → Prop where
  | start : History initial [] initial
  | turn {turns : List Turn} {lease after : Lease} {turn : Turn} (history : History initial turns lease)
      (stepped : lease.step turn.identity turn.now = .ok (turn.decision, after)) :
      History initial (turns ++ [turn]) after

def lastClaim? (turns : List Turn) : Option Turn :=
  (turns.filter fun turn => turn.decision.isClaim).getLast?

def takeOvers (turns : List Turn) : Nat := turns.countP fun turn => turn.decision.isTakeOver

/-- What the lease says after a claim, up to the next one. -/
structure Records (lease : Lease) (claim : Turn) : Prop where
  holder : lease.holder? = some claim.identity
  renewTime : (lease.spec.getD .empty).renewTime = some claim.now
  duration : (lease.spec.getD .empty).durationSeconds = some claimSeconds

variable {initial lease after reached : Lease} {turns : List Turn} {turn claim : Turn}
  {identity : String} {now : Instant}

section Steps

variable (stepped : lease.step turn.identity turn.now = .ok (turn.decision, after))

include stepped

theorem eq_of_wait (waits : turn.decision.isClaim = false) : after = lease := by
  obtain ⟨_, written, claims, rfl⟩ := of_step stepped
  rcases claimed_cases claims with ⟨renews, _⟩ | ⟨_, takes, _⟩ | ⟨_, _, rfl⟩
  · rw [renews] at waits
    cases waits
  · rw [takes] at waits
    cases waits
  · rfl

theorem records_of_claim (claims : turn.decision.isClaim = true) : after.Records turn := by
  obtain ⟨decided, written, leads, rfl⟩ := of_step stepped
  rcases claimed_cases leads with ⟨renews, rfl⟩ | ⟨_, _, _, rfl⟩ | ⟨_, waits, _⟩
  · rcases decide_cases decided with ⟨_, own⟩ | ⟨takes, _⟩ | ⟨_, waits, _⟩
    · exact ⟨(holder_getD lease).trans own, rfl, rfl⟩
    · rw [renews] at takes
      cases takes
    · rw [renews] at waits
      cases waits
  · exact ⟨rfl, rfl, rfl⟩
  · rw [waits] at claims
    cases claims

theorem metadata_of_step : after.metadata = lease.metadata := by
  obtain ⟨_, written, claims, rfl⟩ := of_step stepped
  rcases claimed_cases claims with ⟨_, rfl⟩ | ⟨_, _, _, rfl⟩ | ⟨_, _, rfl⟩ <;> rfl

theorem transitions?_of_step :
    after.transitions? =
      if turn.decision.isTakeOver then some (lease.transitions?.getD 0 + 1)
      else lease.transitions? := by
  obtain ⟨_, written, claims, rfl⟩ := of_step stepped
  rcases claimed_cases claims with ⟨renews, rfl⟩ | ⟨_, takes, _, rfl⟩ | ⟨_, waits, rfl⟩
  · rw [renews]
    exact transitions_getD lease
  · rw [takes]
    rfl
  · rw [waits]
    rfl

theorem isDated_of_step (dated : lease.IsDated)
    (early : ∃ due, turn.now.addSeconds? claimSeconds = some due) : after.IsDated := by
  cases claims : turn.decision.isClaim with
  | false =>
    rw [eq_of_wait stepped claims]
    exact dated
  | true =>
    have records := records_of_claim stepped claims
    intro renewed renewal
    obtain rfl : turn.now = renewed := Option.some.inj (records.renewTime.symm.trans renewal)
    rw [records.duration]
    exact early

end Steps

theorem lastClaim?_append_singleton (turns : List Turn) (turn : Turn) :
    lastClaim? (turns ++ [turn]) =
      if turn.decision.isClaim then some turn else lastClaim? turns := by
  unfold lastClaim?
  rw [List.filter_append, List.filter_cons, List.filter_nil]
  cases turn.decision.isClaim <;> simp

/-- Another replica takes the lease over once the claim has expired, and not before. -/
theorem Records.decide_of_other (records : lease.Records claim) (other : identity ≠ claim.identity)
    {due : Instant} (expires : claim.now.addSeconds? claimSeconds = some due) :
    lease.decide identity now =
      .ok (if due.before now then .takeOver (some claim.identity) else .wait claim.identity) := by
  have expired : hasExpired (lease.spec.getD .empty) now = .ok (due.before now) := by
    rw [hasExpired, records.renewTime, records.duration]
    dsimp only [Option.getD_some]
    rw [expires]
  rw [Lease.decide_of_other records.holder other.symm, expired]
  cases due.before now <;> rfl

namespace History

theorem records (history : History initial turns reached) (last : lastClaim? turns = some claim) :
    reached.Records claim := by
  induction history with
  | start => cases last
  | @turn turns lease after turn history stepped ih =>
    rw [lastClaim?_append_singleton] at last
    cases claims : turn.decision.isClaim with
    | true =>
      rw [claims, if_pos rfl] at last
      cases last
      exact records_of_claim stepped claims
    | false =>
      rw [claims, if_neg Bool.false_ne_true] at last
      rw [eq_of_wait stepped claims]
      exact ih last

theorem metadata (history : History initial turns reached) :
    reached.metadata = initial.metadata := by
  induction history with
  | start => rfl
  | turn _ stepped ih => exact (metadata_of_step stepped).trans ih

theorem transitions? (history : History initial turns reached) :
    reached.transitions? =
      if takeOvers turns = 0 then initial.transitions?
      else some (initial.transitions?.getD 0 + takeOvers turns) := by
  induction history with
  | start => rfl
  | @turn turns lease after turn history stepped ih =>
    have counted : takeOvers (turns ++ [turn]) =
        takeOvers turns + if turn.decision.isTakeOver then 1 else 0 := by
      simp [takeOvers, List.countP_append, List.countP_singleton]
    rw [transitions?_of_step stepped, ih, counted]
    cases turn.decision.isTakeOver with
    | false => rfl
    | true =>
      rw [if_pos rfl, if_pos rfl, if_neg (Nat.succ_ne_zero _)]
      by_cases none : takeOvers turns = 0
      · rw [if_pos none, none]
        rfl
      · rw [if_neg none, Option.getD_some, Int.natCast_add, Int.natCast_one, Int.add_assoc]

/-- The number of transitions that the lease tells goes along with the take-overs. -/
theorem count (history : History initial turns reached) :
    reached.transitions?.getD 0 = initial.transitions?.getD 0 + takeOvers turns := by
  rw [history.transitions?]
  split
  · rename_i none
    rw [none, Int.natCast_zero, Int.add_zero]
  · rfl

theorem isDated (history : History initial turns reached) (dated : initial.IsDated)
    (early : ∀ turn ∈ turns, ∃ due, turn.now.addSeconds? claimSeconds = some due) :
    reached.IsDated := by
  induction history with
  | start => exact dated
  | turn _ stepped ih =>
    obtain ⟨before, here⟩ := List.forall_mem_append.mp early
    exact isDated_of_step stepped (ih before) (here _ (List.mem_singleton_self _))

/-- A turn in the middle was taken on the lease that the turns before it had left. -/
theorem before {later : List Turn} (history : History initial (turns ++ turn :: later) reached) :
    ∃ lease after, History initial turns lease ∧
      lease.step turn.identity turn.now = .ok (turn.decision, after) := by
  generalize all : turns ++ turn :: later = taken at history
  induction history generalizing later with
  | start => exact absurd all (by simp)
  | @turn earlier lease after last history stepped ih =>
    rcases List.eq_nil_or_concat later with rfl | ⟨between, final, rfl⟩
    · obtain ⟨rfl, same⟩ := List.append_inj' all rfl
      cases same
      exact ⟨lease, after, history, stepped⟩
    · rw [List.concat_eq_append, ← List.cons_append, ← List.append_assoc] at all
      exact ih (List.append_inj' all rfl).1

end History

/-- Attempts at any times go through, up to one take-over too many. -/
theorem exists_history (dated : initial.IsDated) (attempts : List (String × Instant))
    (early : ∀ attempt ∈ attempts, ∃ due, attempt.2.addSeconds? claimSeconds = some due) :
    ∃ turns reached, History initial turns reached ∧
      (turns.map Turn.attempt = attempts ∨
        ∃ identity now later, attempts = turns.map Turn.attempt ++ (identity, now) :: later ∧
          reached.decide identity now = .ok (.takeOver reached.holder?) ∧
          transitionsBound ≤ initial.transitions?.getD 0 + takeOvers turns + 1) := by
  -- A history grows at its end, so the attempts are taken from there.
  induction attempts using List.reverseRecOn with
  | nil => exact ⟨[], initial, .start, .inl rfl⟩
  | append_singleton attempts attempt ih =>
    obtain ⟨before, here⟩ := List.forall_mem_append.mp early
    obtain ⟨turns, lease, history, whole | ⟨identity, now, later, split, beyond⟩⟩ := ih before
    · obtain ⟨identity, now⟩ := attempt
      have dates : lease.IsDated := by
        refine history.isDated dated fun turn member => ?_
        exact before turn.attempt (whole ▸ List.mem_map_of_mem member)
      obtain ⟨decision, decided⟩ := exists_decision dates identity now
      by_cases counted : decision.isTakeOver = true →
          lease.transitions?.getD 0 + 1 < transitionsBound
      · obtain ⟨written, claims⟩ := exists_claimed identity now counted
        refine ⟨turns ++ [⟨identity, now, decision⟩], _,
          .turn history (step_of_claimed decided claims), .inl ?_⟩
        rw [List.map_append, whole]
        rfl
      · obtain ⟨takes, beyond⟩ := Classical.not_imp.mp counted
        refine ⟨turns, lease, history, .inr ⟨identity, now, [], by rw [whole], ?_, ?_⟩⟩
        · rcases decide_cases decided with ⟨same, _⟩ | ⟨same, _⟩ | ⟨_, same, _⟩
          · rw [same] at takes
            cases takes
          · rw [decided, same]
          · rw [same] at takes
            cases takes
        · rw [← history.count]
          exact Int.not_lt.mp beyond
    · refine ⟨turns, lease, history, .inr ⟨identity, now, later ++ [attempt], ?_, beyond⟩⟩
      rw [split, List.append_assoc, List.cons_append]

/-- A lease in the hands of any replicas at any times. A claim excludes the others for exactly its
duration, the holder is whoever claimed last, and take-overs are counted. -/
theorem terms_kept (initial : Lease) :
    (initial.IsDated → ∀ attempts : List (String × Instant),
      (∀ attempt ∈ attempts, ∃ due, attempt.2.addSeconds? claimSeconds = some due) →
      ∃ turns reached, History initial turns reached ∧
        (turns.map Turn.attempt = attempts ∨
          ∃ identity now later, attempts = turns.map Turn.attempt ++ (identity, now) :: later ∧
            reached.decide identity now = .ok (.takeOver reached.holder?) ∧
            transitionsBound ≤ initial.transitions?.getD 0 + takeOvers turns + 1)) ∧
    ∀ turns reached, History initial turns reached →
      (∀ earlier second later first due, turns = earlier ++ second :: later →
        lastClaim? earlier = some first → second.decision.isClaim = true →
        second.identity ≠ first.identity → first.now.addSeconds? claimSeconds = some due →
        due.before second.now = true) ∧
      (∀ claim, lastClaim? turns = some claim →
        reached.holder? = some claim.identity ∧
        ∀ due, claim.now.addSeconds? claimSeconds = some due →
          ∀ identity now, identity ≠ claim.identity →
            (due.before now = true →
              reached.decide identity now = .ok (.takeOver (some claim.identity))) ∧
            (due.before now = false →
              reached.step identity now = .ok (.wait claim.identity, reached))) ∧
      (∀ identity now after, reached.step identity now = .ok (.renew, after) →
        after = { reached with
          spec := some
            { reached.spec.getD .empty with
              renewTime := some now
              durationSeconds := some claimSeconds } }) ∧
      reached.metadata = initial.metadata ∧
      reached.transitions? =
        if takeOvers turns = 0 then initial.transitions?
        else some (initial.transitions?.getD 0 + takeOvers turns) := by
  refine ⟨fun dated attempts => exists_history dated attempts, fun turns reached history => ?_⟩
  refine ⟨?_, ?_, ?_, history.metadata, history.transitions?⟩
  · intro earlier second later first due split last claims other expires
    rw [split] at history
    obtain ⟨lease, after, begun, stepped⟩ := history.before
    have decided := (of_step stepped).1
    rw [(begun.records last).decide_of_other other expires] at decided
    cases past : due.before second.now with
    | true => rfl
    | false =>
      rw [past] at decided
      rw [← Except.ok.inj decided] at claims
      cases claims
  · intro claim last
    have records := history.records last
    refine ⟨records.holder, fun due expires identity now other => ⟨fun past => ?_, fun running => ?_⟩⟩
    · rw [records.decide_of_other other expires, past]
      rfl
    · have decided : reached.decide identity now = .ok (.wait claim.identity) := by
        rw [records.decide_of_other other expires, running]
        rfl
      exact step_of_claimed decided rfl
  · intro identity now after stepped
    obtain ⟨_, written, claims, rfl⟩ := of_step stepped
    cases claims
    rfl

/-- The second replica waits while the claim of the first is running out, and takes over a moment
later. -/
theorem terms_kept_sample :
    let free : Lease := ⟨.empty, none⟩
    let turns : List Turn := [⟨"first", ⟨0, 0⟩, .takeOver none⟩, ⟨"second", ⟨15, 0⟩, .wait "first"⟩,
      ⟨"second", ⟨15, 1⟩, .takeOver (some "first")⟩]
    free.IsDated ∧ (∀ attempt ∈ turns.map Turn.attempt,
        (attempt.2.addSeconds? claimSeconds).isSome = true) ∧
      ∃ reached, History free turns reached ∧ reached.holder? = some "second" ∧
        reached.metadata = .empty ∧ reached.transitions? = some 2 := by
  intro free turns
  obtain ⟨reached, history⟩ : ∃ reached, History free turns reached :=
    ⟨_, .turn (.turn (.turn .start rfl) rfl) rfl⟩
  obtain ⟨_, last, _, metadata, transitions⟩ := (terms_kept free).2 turns reached history
  exact ⟨nofun, by decide, reached, history, (last _ rfl).1, metadata, transitions⟩

end TabletDrain.Lease
