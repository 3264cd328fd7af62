import TabletDrain.Proofs.Lease.Turns

/-! Any number of replicas that take part in the election for ever, by one clock. A replica takes itself to
lead from the end of a successful attempt to the end of its next one. All that it ever does is to make
attempts, one after another, with a pause after each. -/
namespace TabletDrain

namespace Instant

def ofNanoseconds (n : Nat) : Instant := ⟨n / perSecond, n % perSecond⟩

/-- Nanoseconds since the start of 1970, leap seconds apart. -/
def count (instant : Instant) : Int := instant.seconds * perSecond + instant.nanoseconds

theorem count_ofNanoseconds (n : Nat) : (ofNanoseconds n).count = n := by
  unfold count ofNanoseconds
  dsimp only
  exact_mod_cast Nat.div_add_mod' n perSecond

theorem nanoseconds_ofNanoseconds (n : Nat) : (ofNanoseconds n).nanoseconds < perSecond :=
  Nat.mod_lt _ (by decide)

end Instant

/-- What the server stores of a lease that it is sent. Times may lose less than a microsecond. -/
structure Lease.Kept (sent stored : Lease) : Prop where
  holder : stored.holder? = sent.holder?
  duration : (stored.spec.getD .empty).durationSeconds = (sent.spec.getD .empty).durationSeconds
  renewal : ∀ time, (sent.spec.getD .empty).renewTime = some time →
    ∃ renewed, (stored.spec.getD .empty).renewTime = some renewed ∧
      renewed.nanoseconds < Instant.perSecond ∧ renewed.count ≤ time.count ∧
      time.count < renewed.count + 1000

theorem Lease.Kept.of_spec_eq {sent stored : Lease} (same : stored.spec = sent.spec)
    (ordinary : ∀ time, (sent.spec.getD .empty).renewTime = some time →
      time.nanoseconds < Instant.perSecond) : sent.Kept stored where
  holder := congrArg (fun spec : Option LeaseSpec => spec.bind (·.holder)) same
  duration := congrArg (fun spec : Option LeaseSpec => (spec.getD .empty).durationSeconds) same
  renewal time renewed :=
    ⟨time, same ▸ renewed, ordinary time renewed, Int.le_refl _, by omega⟩

namespace Elector

/-- The time from the end of an attempt to the next one, in nanoseconds. -/
def Outcome.pauseTime (outcome : Outcome) : Nat := outcome.pause * 1000000

structure Replica where
  leads : Bool
  /-- When the attempt began by which the replica leads. -/
  since : Nat
  /-- When the last attempt began. -/
  began : Nat
  /-- Until when the replica sleeps, if it does. -/
  asleep : Option Nat

namespace Replica

def begins (replica : Replica) (clock : Nat) : Replica :=
  { replica with began := clock, asleep := none }

def ends (replica : Replica) (outcome : Outcome) (clock : Nat) : Replica :=
  { replica with
    leads := outcome.flag
    since := if outcome.flag then replica.began else replica.since
    asleep := some (clock + outcome.pauseTime) }

end Replica

/-- Times are in nanoseconds. -/
structure Election (ι : Type) where
  clock : Nat
  contest : Contest ι
  replicas : ι → Replica

section Elections

variable {ι : Type} [DecidableEq ι]

def Election.now (election : Election ι) (i : ι) : Instant :=
  .ofNanoseconds (election.replicas i).began

def Election.set (election : Election ι) (i : ι) (replica : Replica) : Election ι :=
  { election with replicas := Function.update election.replicas i replica }

theorem Election.replicas_set (election : Election ι) (i j : ι) (replica : Replica) :
    (election.set i replica).replicas j = if j = i then replica else election.replicas j :=
  Function.update_apply election.replicas i replica j

/-- What can happen next. Time passes; a replica wakes up and begins an attempt; a call of the attempt gets
on, or its write is accepted; the attempt has come to something, and the replica goes to sleep. -/
inductive Move (elector : ι → Elector) (election : Election ι) : Election ι → Prop where
  | pass (later : Nat) (onward : election.clock ≤ later) :
      Move elector election { election with clock := later }
  | wake (i : ι) (rested : Nat) (asleep : (election.replicas i).asleep = some rested)
      (ready : rested ≤ election.clock) :
      Move elector election
        { election.set i ((election.replicas i).begins election.clock) with
          contest := election.contest.update i .start }
  | call (i : ι) (attempt : Attempt) (awake : (election.replicas i).asleep = none)
      (unaccepted : attempt.swap = (election.contest.attempts i).swap)
      (steps : Step elector election.now election.contest (election.contest.update i attempt)) :
      Move elector election { election with contest := election.contest.update i attempt }
  | accept (i : ι) (write : Write) (lease : Lease) (after : Server)
      (awake : (election.replicas i).asleep = none)
      (due : (election.contest.attempts i).write? (elector i) (election.now i) = some write)
      (unsent : (election.contest.attempts i).swap = none ∧
        (election.contest.attempts i).answer = none)
      (fits : write.Fits election.contest.server.stored) (kept : write.lease.Kept lease)
      (puts : election.contest.server.Puts lease after) :
      Move elector election
        { election with
          contest := { election.contest.update i { election.contest.attempts i with
              swap := some ⟨election.contest.server.stored, lease,
                election.contest.server.deletions⟩ } with
            server := after } }
  | finish (i : ι) (outcome : Outcome) (awake : (election.replicas i).asleep = none)
      (done : (election.contest.attempts i).outcome? (elector i) (election.now i) = some outcome) :
      Move elector election
        (election.set i ((election.replicas i).ends outcome election.clock))

/-- The elections that begin with nobody leading, and in which all states are allowed ones. -/
inductive Arises (elector : ι → Elector) (allowed : Election ι → Prop) : Election ι → Prop where
  | start {election : Election ι} (idle : ∀ i, election.contest.attempts i = .start)
      (issued : ∀ lease, election.contest.server.stored = some lease →
        election.contest.server.Issued lease)
      (resting : ∀ i, ∃ rested, (election.replicas i).asleep = some rested)
      (unled : ∀ i, (election.replicas i).leads = false)
      (past : ∀ i, (election.replicas i).began ≤ election.clock) (fine : allowed election) :
      Arises elector allowed election
  | move {election next : Election ι} (arisen : Arises elector allowed election)
      (moves : Move elector election next) (fine : allowed next) : Arises elector allowed next

end Elections

/-- Attempts of one replica, and until when it rests then: each begins when the pause after the one before
it is over. -/
inductive Rounds (elector : Elector) : List Turn → Nat → Prop where
  | start (rested : Nat) : Rounds elector [] rested
  | turn {turns : List Turn} {rested began ended : Nat} {attempt : Attempt} {outcome : Outcome}
      (rounds : Rounds elector turns rested) (ready : rested ≤ began) (onward : began ≤ ended)
      (comes : attempt.outcome? elector (.ofNanoseconds began) = some outcome) :
      Rounds elector (turns ++ [⟨.ofNanoseconds began, attempt, outcome⟩]) (ended + outcome.pauseTime)

/-- The replica has made the attempts, takes itself to lead where the last one says so, and sleeps since
or has begun another one. -/
structure Replica.Took (elector : Elector) (turns : List Turn) (replica : Replica) : Prop where
  rounds : ∃ rested, Rounds elector turns rested ∧
    (∀ due, replica.asleep = some due → due = rested) ∧
    (replica.asleep = none → rested ≤ replica.began)
  leads : replica.leads = (afterTurns elector ⟨0, false, []⟩ turns).leads

section Courses

variable {ι : Type} [DecidableEq ι] {elector : ι → Elector} {allowed : Election ι → Prop}
  {election next : Election ι}

theorem Replica.Took.begins {elector : Elector} {turns : List Turn} {replica : Replica} {rested clock : Nat}
    (took : replica.Took elector turns) (asleep : replica.asleep = some rested) (ready : rested ≤ clock) :
    (replica.begins clock).Took elector turns where
  rounds := by
    obtain ⟨_, rounds, sleeps, _⟩ := took.rounds
    cases sleeps rested asleep
    exact ⟨rested, rounds, nofun, fun _ => ready⟩
  leads := took.leads

theorem Replica.Took.ends {elector : Elector} {turns : List Turn} {replica : Replica} {clock : Nat}
    {attempt : Attempt} {outcome : Outcome} (took : replica.Took elector turns)
    (awake : replica.asleep = none) (past : replica.began ≤ clock)
    (comes : attempt.outcome? elector (.ofNanoseconds replica.began) = some outcome) :
    (replica.ends outcome clock).Took elector
      (turns ++ [⟨.ofNanoseconds replica.began, attempt, outcome⟩]) where
  rounds := by
    obtain ⟨_, rounds, _, woken⟩ := took.rounds
    refine ⟨_, rounds.turn (woken awake) past comes, fun due asleep => ?_, nofun⟩
    exact (Option.some.inj asleep).symm
  leads := by
    rw [afterTurns, List.foldl_concat]
    rfl

/-- Whatever happens in an election, each replica makes attempts, one after another. -/
theorem exists_took_of_arises (arisen : Arises elector allowed election) (i : ι) :
    (∃ turns, (election.replicas i).Took (elector i) turns) ∧
      (election.replicas i).began ≤ election.clock := by
  induction arisen with
  | start idle issued resting unled past fine =>
    obtain ⟨rested, asleep⟩ := resting i
    refine ⟨⟨[], ⟨rested, .start rested, fun due same => ?_, fun awake => ?_⟩, unled i⟩, past i⟩
    · exact Option.some.inj (same.symm.trans asleep)
    · rw [asleep] at awake
      cases awake
  | @move election next arisen moves fine ih =>
    obtain ⟨⟨turns, took⟩, past⟩ := ih
    cases moves with
    | pass later onward => exact ⟨⟨turns, took⟩, Nat.le_trans past onward⟩
    | call j attempt awake unaccepted steps => exact ⟨⟨turns, took⟩, past⟩
    | accept j write lease after awake due unsent fits kept puts => exact ⟨⟨turns, took⟩, past⟩
    | wake j rested asleep ready =>
      change (∃ turns, ((election.set j _).replicas i).Took (elector i) turns) ∧
        ((election.set j _).replicas i).began ≤ election.clock
      rw [Election.replicas_set]
      split
      · rename_i same
        subst same
        exact ⟨⟨turns, took.begins asleep ready⟩, Nat.le_refl _⟩
      · exact ⟨⟨turns, took⟩, past⟩
    | finish j outcome awake done =>
      change (∃ turns, ((election.set j _).replicas i).Took (elector i) turns) ∧
        ((election.set j _).replicas i).began ≤ election.clock
      rw [Election.replicas_set]
      split
      · rename_i same
        subst same
        exact ⟨⟨_, took.ends awake past done⟩, past⟩
      · exact ⟨⟨turns, took⟩, past⟩

end Courses

end Elector

end TabletDrain
