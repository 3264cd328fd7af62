import TabletDrain.Controller
import TabletDrain.Proofs.Lease.Elections

/-! Who leads in an election. A replica takes itself to lead until the end of its next attempt, but its
claim counts from the beginning of the successful one. So it alone leads while the claim lasts; where
calls are slow, the claim is over before the replica looks again, and another one may lead beside it. -/
namespace TabletDrain

namespace Elector

/-- How long a claim lasts, in nanoseconds. -/
def claimTime : Nat := Lease.claimSeconds.toNat * Instant.perSecond

namespace Election

variable {ι : Type}

/-- The claim by which a replica leads is over, but for less than a microsecond. -/
def Outlives (election : Election ι) (i : ι) : Prop :=
  (election.replicas i).since + claimTime < election.clock + 1000

/-- No attempt takes longer than a limit, and no replica sleeps much longer than it should. -/
structure Timely (limit slack : Nat) (election : Election ι) : Prop where
  attempts : ∀ i, (election.replicas i).asleep = none →
    election.clock ≤ (election.replicas i).began + limit
  sleeps : ∀ i rested, (election.replicas i).asleep = some rested → election.clock ≤ rested + slack

end Election

/-- The lease bears out a claim of an attempt that began at a time. -/
structure Bears (lease : Lease) (identity : String) (began : Nat) : Prop where
  holder : lease.holder? = some identity
  duration : (lease.spec.getD .empty).durationSeconds = some Lease.claimSeconds
  renewal : ∃ renewed, (lease.spec.getD .empty).renewTime = some renewed ∧
    renewed.nanoseconds < Instant.perSecond ∧ (began : Int) < renewed.count + 1000

section Claims

variable {elector : Elector} {attempt : Attempt} {write : Write} {server : Server} {now : Instant}
  {lease : Lease} {identity : String} {began earlier : Nat}

theorem spec_of_write? (writes : attempt.write? elector now = some write) :
    (write.lease.spec.getD .empty).renewTime = some now ∧
      (write.lease.spec.getD .empty).durationSeconds = some Lease.claimSeconds := by
  obtain ⟨found, _, goesOn⟩ := of_write? writes
  cases found with
  | error fault =>
    rcases afterRead_cases goesOn with ⟨_, _, rfl⟩ | ⟨_, _, sound, _⟩
    · exact ⟨rfl, rfl⟩
    · cases sound
  | ok read =>
    obtain ⟨decision, claim, _, claims, rfl⟩ := of_afterRead_ok goesOn
    rcases Lease.claimed_cases claims with ⟨_, same⟩ | ⟨_, _, _, same⟩ | ⟨_, _, same⟩
    · cases same
      exact ⟨rfl, rfl⟩
    · cases same
      exact ⟨rfl, rfl⟩
    · cases same

theorem bears_of_kept (writes : attempt.write? elector (.ofNanoseconds began) = some write)
    (kept : write.lease.Kept lease) : Bears lease elector.identity began where
  holder := kept.holder.trans (holder?_of_write? writes)
  duration := kept.duration.trans (spec_of_write? writes).2
  renewal := by
    obtain ⟨renewed, stored, ordinary, _, late⟩ := kept.renewal _ (spec_of_write? writes).1
    rw [Instant.count_ofNanoseconds] at late
    exact ⟨renewed, stored, ordinary, late⟩

namespace Bears

theorem mono (bears : Bears lease identity began) (before : earlier ≤ began) :
    Bears lease identity earlier where
  holder := bears.holder
  duration := bears.duration
  renewal := by
    obtain ⟨renewed, stored, ordinary, late⟩ := bears.renewal
    exact ⟨renewed, stored, ordinary, by omega⟩

/-- The lease is not free before the claim is over. -/
theorem over_of_isFree (bears : Bears lease identity began) {time : Nat}
    (free : lease.IsFree (.ofNanoseconds time)) : began + claimTime < time + 1000 := by
  obtain ⟨renewed, stored, ordinary, late⟩ := bears.renewal
  rcases free with unheld | unrenewed | ⟨again, due, same, reached, past⟩
  · rw [bears.holder] at unheld
    cases unheld
  · rw [stored] at unrenewed
    cases unrenewed
  · cases Option.some.inj (stored.symm.trans same)
    rw [bears.duration, Option.getD_some] at reached
    have after := (Instant.before_addSeconds?_iff reached ordinary
      (Instant.nanoseconds_ofNanoseconds time)).mp past
    have count := Instant.count_ofNanoseconds time
    have term : claimTime = 15 * Instant.perSecond := rfl
    simp only [Instant.count, Lease.claimSeconds, Instant.perSecond] at late after count term
    omega

end Bears

/-- A write is accepted over nothing, over a lease of the replica itself, or over a free one. -/
theorem own_or_free_of_fits (fair : attempt.Fair elector now server)
    (writes : attempt.write? elector now = some write) (fits : write.Fits server.stored)
    (stored : server.stored = some lease) :
    lease.holder? = some elector.identity ∨ lease.IsFree now := by
  obtain ⟨found, read, goesOn⟩ := of_write? writes
  rcases afterRead_cases goesOn with ⟨_, _, rfl⟩ | ⟨copy, claim, rfl, rfl, version, _, free⟩
  · rw [show server.stored = none from fits] at stored
    cases stored
  · obtain ⟨current, here, same⟩ := fits
    obtain rfl : current = lease := Option.some.inj (here.symm.trans stored)
    have equal := (fair.copy copy read).2 current here (same.symm.trans version)
    exact equal ▸ free

end Claims

/-- One attempt begins anew, at a time of its own. -/
theorem Contest.Sound.restart {ι : Type} [DecidableEq ι] {elector : ι → Elector}
    {now later : ι → Instant} {contest : Contest ι} {i : ι} (sound : contest.Sound elector now)
    (same : ∀ j, j ≠ i → later j = now j) : (contest.update i .start).Sound elector later where
  issued := sound.issued
  fair j := by
    rw [attempts_update]
    split
    · exact .start
    · rename_i other
      rw [same j other]
      exact sound.fair j
  apart j k swap other swapped swapped' := by
    rw [attempts_update] at swapped swapped'
    split at swapped
    · cases swapped
    · split at swapped'
      · cases swapped'
      · exact sound.apart j k swap other swapped swapped'

namespace Election

variable {ι : Type} [DecidableEq ι] {elector : ι → Elector} {election next : Election ι} {i : ι}

/-- The replica claims to lead since a time, or its write was accepted and it does not know yet. -/
def Claims (election : Election ι) (i : ι) (began : Nat) : Prop :=
  (election.replicas i).leads = true ∧ began = (election.replicas i).since ∨
    (election.replicas i).asleep = none ∧ (election.contest.attempts i).swap ≠ none ∧
      began = (election.replicas i).began

def IsBorne (elector : ι → Elector) (election : Election ι) (i : ι) (began : Nat) : Prop :=
  ∃ lease, election.contest.server.stored = some lease ∧ Bears lease (elector i).identity began

/-- What holds in every election: while a claim lasts, the stored lease bears it out. -/
structure Sound (elector : ι → Elector) (election : Election ι) : Prop where
  contest : election.contest.Sound elector election.now
  past : ∀ i, (election.replicas i).began ≤ election.clock
  order : ∀ i, (election.replicas i).leads = true →
    (election.replicas i).since ≤ (election.replicas i).began
  borne : ∀ i began, election.Claims i began → election.clock + 1000 ≤ began + claimTime →
    election.IsBorne elector i began

theorem now_set {replica : Replica} (same : replica.began = (election.replicas i).began) :
    (election.set i replica).now = election.now := by
  funext j
  rw [now, replicas_set, now]
  split
  · rename_i here
    rw [here, same]
  · rfl

namespace Sound

variable (sound : election.Sound elector)

include sound

omit [DecidableEq ι] in
theorem pass {later : Nat} (onward : election.clock ≤ later) :
    Sound elector { election with clock := later } where
  contest := sound.contest
  past i := Nat.le_trans (sound.past i) onward
  order := sound.order
  borne i began claims lasting :=
    sound.borne i began claims (Nat.le_trans (Nat.add_le_add_right onward _) lasting)

/-- One replica goes on to another attempt, or to sleep, with no claim that it did not have. -/
theorem set {replica : Replica} {contest : Contest ι}
    (begins : contest.Sound elector (election.set i replica).now)
    (server : contest.server = election.contest.server)
    (others : ∀ j, j ≠ i → contest.attempts j = election.contest.attempts j)
    (past : replica.began ≤ election.clock)
    (order : replica.leads = true → replica.since ≤ replica.began)
    (claims : replica.leads = true → election.Claims i replica.since)
    (unclaimed : replica.asleep = none → (contest.attempts i).swap = none) :
    Sound elector { election.set i replica with contest := contest } where
  contest := begins
  past j := by
    change ((election.set i replica).replicas j).began ≤ election.clock
    rw [replicas_set]
    split
    · exact past
    · exact sound.past j
  order j leads := by
    change ((election.set i replica).replicas j).leads = true at leads
    change ((election.set i replica).replicas j).since ≤ ((election.set i replica).replicas j).began
    rw [replicas_set] at leads ⊢
    by_cases here : j = i
    · rw [if_pos here] at leads ⊢
      exact order leads
    · rw [if_neg here] at leads ⊢
      exact sound.order j leads
  borne j began claimed lasting := by
    have before : election.Claims j began := by
      unfold Claims at claimed
      dsimp only at claimed
      rw [replicas_set] at claimed
      by_cases here : j = i
      · rw [if_pos here, here] at claimed
        rcases claimed with ⟨leads, rfl⟩ | ⟨awake, accepted, _⟩
        · exact here ▸ claims leads
        · exact absurd (unclaimed awake) accepted
      · rw [if_neg here, others j here] at claimed
        exact claimed
    unfold IsBorne
    dsimp only
    rw [server]
    exact sound.borne j began before lasting

theorem wake : Sound elector
    { election.set i ((election.replicas i).begins election.clock) with
      contest := election.contest.update i .start } := by
  refine sound.set ?_ rfl (fun j other => ?_) (Nat.le_refl _) (fun leads => ?_)
    (fun leads => .inl ⟨leads, rfl⟩) fun _ => ?_
  · refine sound.contest.restart fun j other => ?_
    rw [now, replicas_set, if_neg other, now]
  · rw [Contest.attempts_update, if_neg other]
  · exact Nat.le_trans (sound.order i leads) (sound.past i)
  · rw [Contest.attempts_update, if_pos rfl]
    rfl

theorem finish {outcome : Outcome} (awake : (election.replicas i).asleep = none)
    (done : (election.contest.attempts i).outcome? (elector i) (election.now i) = some outcome) :
    Sound elector (election.set i ((election.replicas i).ends outcome election.clock)) := by
  have same : ((election.replicas i).ends outcome election.clock).began =
      (election.replicas i).began := rfl
  refine sound.set ?_ rfl (fun _ _ => rfl) (sound.past i) (fun leads => ?_) (fun leads => ?_)
    fun asleep => ?_
  · rw [now_set same]
    exact sound.contest
  · obtain rfl : outcome = .leads := of_decide_eq_true leads
    exact Nat.le_refl _
  · obtain rfl : outcome = .leads := of_decide_eq_true leads
    obtain ⟨swap, accepted, _⟩ := sound.contest.leads done
    exact .inr ⟨awake, by simp [accepted], rfl⟩
  · cases asleep

theorem call {attempt : Attempt} (unaccepted : attempt.swap = (election.contest.attempts i).swap)
    (steps : Step elector election.now election.contest (election.contest.update i attempt)) :
    Sound elector { election with contest := election.contest.update i attempt } where
  contest := sound.contest.step steps
  past := sound.past
  order := sound.order
  borne j began claims lasting := by
    refine sound.borne j began ?_ lasting
    unfold Claims at claims
    dsimp only at claims
    rw [Contest.swap_update unaccepted] at claims
    exact claims

/-- While a claim of another replica lasts, no write is accepted. -/
theorem accept (distinct : Function.Injective fun i => (elector i).identity) {write : Write}
    {lease : Lease} {after : Server}
    (due : (election.contest.attempts i).write? (elector i) (election.now i) = some write)
    (unsent : (election.contest.attempts i).swap = none ∧ (election.contest.attempts i).answer = none)
    (fits : write.Fits election.contest.server.stored) (kept : write.lease.Kept lease)
    (puts : election.contest.server.Puts lease after) :
    Sound elector
      { election with
        contest := { election.contest.update i { election.contest.attempts i with
            swap := some ⟨election.contest.server.stored, lease,
              election.contest.server.deletions⟩ } with
          server := after } } where
  contest := sound.contest.step (.accept i write lease after due unsent fits kept.holder puts)
  past := sound.past
  order := sound.order
  borne j began claims lasting := by
    have bears := bears_of_kept due kept
    by_cases own : j = i
    · subst own
      have before : began ≤ (election.replicas j).began := by
        rcases claims with ⟨leads, rfl⟩ | ⟨_, _, rfl⟩
        · exact sound.order j leads
        · exact Nat.le_refl _
      exact ⟨lease, puts.stored, bears.mono before⟩
    · have claimed : election.Claims j began := by
        rcases claims with leads | ⟨awake, accepted, begun⟩
        · exact .inl leads
        · change ((election.contest.update i _).attempts j).swap ≠ none at accepted
          rw [Contest.attempts_update, if_neg own] at accepted
          exact .inr ⟨awake, accepted, begun⟩
      obtain ⟨current, stored, backed⟩ := sound.borne j began claimed lasting
      rcases own_or_free_of_fits (sound.contest.fair i) due fits stored with holds | free
      · rw [backed.holder] at holds
        exact absurd (distinct (Option.some.inj holds)) own
      · have outlived := backed.over_of_isFree free
        have begun := sound.past i
        have lasting : election.clock + 1000 ≤ began + claimTime := lasting
        omega

theorem move (distinct : Function.Injective fun i => (elector i).identity)
    (moves : Move elector election next) : next.Sound elector := by
  cases moves with
  | pass later onward => exact sound.pass onward
  | wake i rested asleep ready => exact sound.wake
  | call i attempt awake unaccepted steps => exact sound.call unaccepted steps
  | accept i write lease after awake due unsent fits kept puts =>
    exact sound.accept distinct due unsent fits kept puts
  | finish i outcome awake done => exact sound.finish awake done

end Sound

theorem sound_of_arises {allowed : Election ι → Prop}
    (distinct : Function.Injective fun i => (elector i).identity)
    (arisen : Arises elector allowed election) : election.Sound elector := by
  induction arisen with
  | start idle issued resting unled past fine =>
    rename_i election
    have claimless (i : ι) (began : Nat) : ¬election.Claims i began := by
      rintro (⟨leads, _⟩ | ⟨_, accepted, _⟩)
      · exact absurd (leads.symm.trans (unled i)) (by decide)
      · rw [idle] at accepted
        exact accepted rfl
    refine ⟨?_, past, fun i leads => ?_, fun i began claims => absurd claims (claimless i began)⟩
    · exact .of_reaches (.start idle issued)
    · exact absurd (leads.symm.trans (unled i)) (by decide)
  | move _ moves _ ih => exact ih.move distinct moves

theorem allowed_of_arises {allowed : Election ι → Prop} (arisen : Arises elector allowed election) :
    allowed election := by
  cases arisen with
  | start idle issued resting unled past fine => exact fine
  | move arisen moves fine => exact fine

omit [DecidableEq ι] in
/-- A replica that leads is up again soon after the attempt that made it lead began. -/
def Returns (limit slack : Nat) (election : Election ι) : Prop :=
  ∀ i, (election.replicas i).leads = true →
    let due := (election.replicas i).since + limit + Outcome.leads.pauseTime
    (∀ rested, (election.replicas i).asleep = some rested → rested ≤ due) ∧
      ((election.replicas i).asleep = none → (election.replicas i).began ≤ due + slack)

theorem Returns.set {limit slack : Nat} (returns : election.Returns limit slack) {replica : Replica}
    (contest : Contest ι)
    (here : replica.leads = true →
      let due := replica.since + limit + Outcome.leads.pauseTime
      (∀ rested, replica.asleep = some rested → rested ≤ due) ∧
        (replica.asleep = none → replica.began ≤ due + slack)) :
    Returns limit slack { election.set i replica with contest := contest } := by
  intro j
  dsimp only
  rw [replicas_set]
  split
  · exact here
  · exact returns j

theorem Returns.move {limit slack : Nat} (returns : election.Returns limit slack)
    (timely : election.Timely limit slack) (moves : Move elector election next) :
    next.Returns limit slack := by
  cases moves with
  | pass later onward => exact returns
  | call i attempt awake unaccepted steps => exact returns
  | accept i write lease after awake due unsent fits kept puts => exact returns
  | wake i rested asleep ready =>
    refine returns.set _ fun leads => ⟨fun again same => ?_, fun _ => ?_⟩
    · cases same
    · have soon := (returns i leads).1 rested asleep
      have woken := timely.sleeps i rested asleep
      exact Nat.le_trans woken (Nat.add_le_add_right soon slack)
  | finish i outcome awake done =>
    refine returns.set election.contest fun leads => ⟨fun rested same => ?_, fun same => ?_⟩
    · obtain rfl : outcome = .leads := of_decide_eq_true leads
      cases same
      exact Nat.add_le_add_right (timely.attempts i awake) _
    · cases same

theorem returns_of_arises {allowed : Election ι → Prop} {limit slack : Nat}
    (timely : ∀ election, allowed election → election.Timely limit slack)
    (arisen : Arises elector allowed election) : election.Returns limit slack := by
  induction arisen with
  | start idle issued resting unled past fine =>
    exact fun i leads => absurd (leads.symm.trans (unled i)) (by decide)
  | move arisen moves _ ih => exact ih.move (timely _ (allowed_of_arises arisen)) moves

omit [DecidableEq ι] in
theorem Returns.not_outlives {limit slack : Nat} (returns : election.Returns limit slack)
    (timely : election.Timely limit slack)
    (short : 2 * limit + slack + Outcome.leads.pauseTime + 1000 ≤ claimTime)
    (leads : (election.replicas i).leads = true) : ¬election.Outlives i := by
  obtain ⟨sleeps, tries⟩ := returns i leads
  have soon : election.clock ≤
      (election.replicas i).since + 2 * limit + Outcome.leads.pauseTime + slack := by
    cases asleep : (election.replicas i).asleep with
    | none =>
      have begun := tries asleep
      have tried := timely.attempts i asleep
      omega
    | some rested =>
      have due := sleeps rested asleep
      have woken := timely.sleeps i rested asleep
      omega
  unfold Outlives
  omega

end Election

section Prompt

variable {ι : Type} [DecidableEq ι] {elector : ι → Elector} {allowed : Election ι → Prop}
  {election : Election ι} {i : ι} {rested : Nat} {found : Except Fault Lease}

/-- A replica that is up again reads at once. -/
theorem Arises.reads (arisen : Arises elector allowed election)
    (fine : ∀ next : Election ι, next.clock = election.clock → allowed next)
    (asleep : (election.replicas i).asleep = some rested) (ready : rested ≤ election.clock)
    (holds : ∀ lease, found = .ok lease → election.contest.server.stored = some lease) :
    ∃ next, Arises elector allowed next ∧ next.clock = election.clock ∧
      next.contest.server = election.contest.server ∧
      next.contest.attempts i = ⟨some found, none, none⟩ ∧
      next.replicas = Function.update election.replicas i
        ((election.replicas i).begins election.clock) := by
  have woken := arisen.move (.wake i rested asleep ready) (fine _ rfl)
  have idle : (election.contest.update i .start).attempts i = .start := Function.update_self ..
  have awake : ((election.set i ((election.replicas i).begins election.clock)).replicas i).asleep
      = none := by
    rw [Election.replicas_set, if_pos rfl]
    rfl
  have reads : Step elector (election.set i ((election.replicas i).begins election.clock)).now
      (election.contest.update i .start) _ := .read i found idle holds
  rw [idle] at reads
  have read := woken.move (.call i ⟨some found, none, none⟩ awake (by rw [idle]; rfl) reads)
    (fine _ rfl)
  exact ⟨_, read, rfl, rfl, Function.update_self .., rfl⟩

/-- A replica whose write was accepted hears of it at once. -/
theorem Arises.hears (arisen : Arises elector allowed election)
    (fine : ∀ next : Election ι, next.clock = election.clock → allowed next)
    (awake : (election.replicas i).asleep = none) {write : Write} {swap : Swap}
    (goesOn : (elector i).afterRead (election.now i) found = .ok (.write write))
    (accepted : election.contest.attempts i = ⟨some found, some swap, none⟩) :
    ∃ next, Arises elector allowed next ∧ next.clock = election.clock ∧
      next.contest.server = election.contest.server ∧
      next.replicas = Function.update election.replicas i
        ((election.replicas i).ends .leads election.clock) := by
  have answers : Step elector election.now election.contest _ :=
    .answer i (.ok swap.stored) (by simp [accepted]) (by rw [accepted])
  rw [accepted] at answers
  have answered := arisen.move (.call i ⟨some found, some swap, some (.ok swap.stored)⟩ awake
    (by rw [accepted]) answers) (fine _ rfl)
  have done : (⟨some found, some swap, some (.ok swap.stored)⟩ : Attempt).outcome? (elector i)
      (election.now i) = some .leads := by
    rw [Attempt.outcome?, Option.bind_some, goesOn]
    rfl
  have finished := answered.move (.finish i .leads awake (by rwa [Contest.attempts_update, if_pos rfl]))
    (fine _ rfl)
  exact ⟨_, finished, rfl, rfl, rfl⟩

/-- A replica that is up again, and whose calls are answered at once, leads. -/
theorem Arises.leads (arisen : Arises elector allowed election)
    (fine : ∀ next : Election ι, next.clock = election.clock → allowed next) (i : ι)
    (asleep : (election.replicas i).asleep = some rested) (ready : rested ≤ election.clock)
    (holds : ∀ lease, found = .ok lease → election.contest.server.stored = some lease)
    {write : Write} {lease : Lease} {after : Server}
    (goesOn : (elector i).afterRead (.ofNanoseconds election.clock) found = .ok (.write write))
    (fits : write.Fits election.contest.server.stored) (kept : write.lease.Kept lease)
    (puts : election.contest.server.Puts lease after) :
    ∃ next, Arises elector allowed next ∧ next.clock = election.clock ∧
      next.contest.server = after ∧
      next.replicas = Function.update election.replicas i
        ⟨true, election.clock, election.clock, some (election.clock + Outcome.leads.pauseTime)⟩ := by
  obtain ⟨read, arisen, clock, server, attempt, replicas⟩ := arisen.reads fine asleep ready holds
  have awake : (read.replicas i).asleep = none := by
    rw [replicas, Function.update_self]
    rfl
  have began : (read.replicas i).began = election.clock := by
    rw [replicas, Function.update_self]
    rfl
  have goesOn : (elector i).afterRead (read.now i) found = .ok (.write write) := by
    rwa [Election.now, began]
  have due : (read.contest.attempts i).write? (elector i) (read.now i) = some write := by
    rw [attempt, Attempt.write?, Option.bind_some, goesOn]
  rw [← server] at fits puts
  have accepted := arisen.move (.accept i write lease after awake due
    ⟨by rw [attempt], by rw [attempt]⟩ fits kept puts) (fine _ clock)
  rw [attempt] at accepted
  obtain ⟨told, arisen, clock', server', replicas'⟩ := accepted.hears
    (fun next same => fine next (same.trans clock)) awake goesOn (Function.update_self ..)
  refine ⟨told, arisen, clock'.trans clock, server', replicas'.trans ?_⟩
  dsimp only
  rw [replicas, Function.update_idem, Function.update_self, clock]
  rfl

/-- No lease, and every replica about to begin its first attempt. -/
def Election.fresh : Election ι := ⟨0, ⟨⟨none, [], 0⟩, fun _ => .start⟩, fun _ => ⟨false, 0, 0, some 0⟩⟩

theorem Arises.fresh (fine : allowed .fresh) : Arises elector allowed .fresh :=
  .start (fun _ => rfl) (fun _ stored => by cases stored) (fun _ => ⟨0, rfl⟩) (fun _ => rfl)
    (fun _ => Nat.le_refl _) fine

/-- Any replica can be the first one to lead. -/
theorem Arises.first (elector : ι → Elector)
    (fine : ∀ next : Election ι, next.clock = 0 → allowed next) (i : ι) :
    let lease : Lease := { (elector i).firstLease (.ofNanoseconds 0) with
      metadata := { Metadata.empty with resourceVersion := some "1" } }
    ∃ next, Arises elector allowed next ∧ next.clock = 0 ∧
      next.contest.server = ⟨some lease, ["1"], 0⟩ ∧
      next.replicas = Function.update (fun _ => ⟨false, 0, 0, some 0⟩) i
        ⟨true, 0, 0, some Outcome.leads.pauseTime⟩ := by
  intro lease
  let write : Write := .create ((elector i).firstLease (.ofNanoseconds 0))
  have kept : write.lease.Kept lease := .of_spec_eq rfl fun time same => by
    cases same
    exact Instant.nanoseconds_ofNanoseconds 0
  have puts : Server.Puts ⟨none, [], 0⟩ lease ⟨some lease, ["1"], 0⟩ :=
    ⟨⟨"1", rfl, List.not_mem_nil, rfl⟩, rfl, rfl⟩
  have goesOn : (elector i).afterRead (.ofNanoseconds 0)
      (.error (.refused ⟨"Failure", "", "NotFound", 404⟩)) = .ok (.write write) := rfl
  have leads := (Arises.fresh (fine _ rfl)).leads fine i rfl (Nat.le_refl _)
    (fun _ found => by cases found) goesOn rfl kept puts
  rwa [show (Election.fresh : Election ι).clock + Outcome.leads.pauseTime = Outcome.leads.pauseTime from
    Nat.zero_add _] at leads

end Prompt

theorem leads_of_visit {leads : Bool} {resync : Nat} {shard : Shard} {pass : Pass.Report}
    (passes : (Controller.visit leads resync shard pass).report ≠ none) : leads = true := by
  cases leads with
  | true => rfl
  | false => exact absurd rfl passes

/-- A replica that leads holds the lease until its claim is over, so of two that lead at least one has
outlived its claim. Where two attempts, a sleep between them and its lateness always fit into the time
of a claim, no two replicas ever lead, and no two start passes. Each replica leads as its program does that
gets the same answers at the same times, and the runs of a program are courses of such attempts. -/
theorem leaders_outlive_claims {ι : Type} [DecidableEq ι] {elector : ι → Elector}
    {allowed : Election ι → Prop} {election : Election ι}
    (distinct : Function.Injective fun i => (elector i).identity)
    (arisen : Arises elector allowed election) :
    (∀ i, (election.replicas i).leads = true → ¬election.Outlives i →
      ∃ lease, election.contest.server.stored = some lease ∧
        lease.holder? = some (elector i).identity) ∧
    (∀ i j, i ≠ j → (election.replicas i).leads = true → (election.replicas j).leads = true →
      election.Outlives i ∨ election.Outlives j) ∧
    (∀ i, ∃ turns, (election.replicas i).Took (elector i) turns ∧
      ∀ server clock stop, Takes (elector i) server clock stop ⟨0, false, []⟩ turns →
        ∃ final, (elector i).attempts server clock stop turns.length ⟨0, false, []⟩ = .ok final ∧
          final.leads = (election.replicas i).leads) ∧
    (∀ i server clock stop leads final, (elector i).run server clock stop leads = .ok final ↔
      ∃ turns, Takes (elector i) server clock ((elector i).deadline stop) ⟨0, leads, []⟩ turns ∧
        final = afterTurns (elector i) ⟨0, leads, []⟩ turns ∧ (elector i).deadline stop ≤ final.now) ∧
    ∀ limit slack, (∀ election, allowed election → election.Timely limit slack) →
      2 * limit + slack + Outcome.leads.pauseTime + 1000 ≤ claimTime →
        (∀ i j, (election.replicas i).leads = true → (election.replicas j).leads = true → i = j) ∧
        ∀ i j resync shard pass pass',
          (Controller.visit (election.replicas i).leads resync shard pass).report ≠ none →
            (Controller.visit (election.replicas j).leads resync shard pass').report ≠ none →
              i = j := by
  have sound := Election.sound_of_arises distinct arisen
  have holds (i : ι) (leads : (election.replicas i).leads = true) (lasting : ¬election.Outlives i) :
      ∃ lease, election.contest.server.stored = some lease ∧
        lease.holder? = some (elector i).identity := by
    obtain ⟨lease, stored, bears⟩ :=
      sound.borne i _ (.inl ⟨leads, rfl⟩) (Nat.le_of_not_lt lasting)
    exact ⟨lease, stored, bears.holder⟩
  have outlives (i j : ι) (differ : i ≠ j) (leads : (election.replicas i).leads = true)
      (leads' : (election.replicas j).leads = true) : election.Outlives i ∨ election.Outlives j := by
    by_cases outlived : election.Outlives i
    · exact .inl outlived
    by_cases outlived' : election.Outlives j
    · exact .inr outlived'
    obtain ⟨lease, stored, held⟩ := holds i leads outlived
    obtain ⟨lease', stored', held'⟩ := holds j leads' outlived'
    cases Option.some.inj (stored.symm.trans stored')
    exact absurd (distinct (Option.some.inj (held.symm.trans held'))) differ
  have makes (i : ι) : ∃ turns, (election.replicas i).Took (elector i) turns ∧
      ∀ server clock stop, Takes (elector i) server clock stop ⟨0, false, []⟩ turns →
        ∃ final, (elector i).attempts server clock stop turns.length ⟨0, false, []⟩ = .ok final ∧
          final.leads = (election.replicas i).leads := by
    obtain ⟨⟨turns, took⟩, _⟩ := exists_took_of_arises arisen i
    refine ⟨turns, took, fun server clock stop takes => ⟨_, ?_, took.leads.symm⟩⟩
    rw [← Nat.zero_add turns.length]
    exact attempts_of_takes takes 0
  refine ⟨holds, outlives, makes, fun i server clock stop leads final => run_eq_ok_iff,
    fun limit slack timely short => ?_⟩
  have prompt := timely election (Election.allowed_of_arises arisen)
  have returns := Election.returns_of_arises timely arisen
  have alone (i j : ι) (leads : (election.replicas i).leads = true)
      (leads' : (election.replicas j).leads = true) : i = j := by
    by_contra differ
    rcases outlives i j differ leads leads' with outlived | outlived
    · exact returns.not_outlives prompt short leads outlived
    · exact returns.not_outlives prompt short leads' outlived
  exact ⟨alone, fun i j _ _ _ _ passes passes' =>
    alone i j (leads_of_visit passes) (leads_of_visit passes')⟩

/-- One of two replicas finds no lease, and leads at once. -/
theorem leaders_outlive_claims_sample :
    let elector (first : Bool) : Elector := ⟨"default", if first then "first" else "second"⟩
    ∃ election : Election Bool,
      (Function.Injective fun i => (elector i).identity) ∧
      Arises elector (fun election => election.Timely 1000000000 0) election ∧
      2 * 1000000000 + 0 + Outcome.leads.pauseTime + 1000 ≤ claimTime ∧
      (election.replicas true).leads = true ∧ ¬election.Outlives true ∧
      (∃ lease, election.contest.server.stored = some lease ∧ lease.holder? = some "first") ∧
      ∀ i, (election.replicas i).leads = true → i = true := by
  intro elector
  have distinct : Function.Injective fun i => (elector i).identity := by
    unfold Function.Injective
    decide
  have short : 2 * 1000000000 + 0 + Outcome.leads.pauseTime + 1000 ≤ claimTime := by decide
  have fine (next : Election Bool) (same : next.clock = 0) : next.Timely 1000000000 0 :=
    ⟨fun _ _ => by omega, fun _ _ _ => by omega⟩
  obtain ⟨election, arisen, clock, server, replicas⟩ := Arises.first elector fine true
  have leads : (election.replicas true).leads = true := by rw [replicas, Function.update_self]
  have lasting : ¬election.Outlives true := by
    rw [Election.Outlives, replicas, Function.update_self, clock]
    decide
  obtain ⟨holds, _, _, _, alone⟩ := leaders_outlive_claims distinct arisen
  exact ⟨election, distinct, arisen, short, leads, lasting, holds true leads lasting,
    fun i leads' => (alone _ _ (fun _ timely => timely) short).1 i true leads' leads⟩

/-- The claim of the first replica is over while its renewal hangs. The second one takes the lease, and
leads beside it. -/
theorem slow_renewal_two_leaders :
    let elector (first : Bool) : Elector := ⟨"default", if first then "first" else "second"⟩
    ∃ election : Election Bool, Arises elector (fun _ => True) election ∧
      (∃ lease, election.contest.server.stored = some lease ∧ lease.holder? = some "second") ∧
      ∀ i, (election.replicas i).leads = true := by
  intro elector
  let time : Instant := .ofNanoseconds 16000000000
  have fine (next : Election Bool) (_ : next.clock = 0) : True := trivial
  obtain ⟨held, arisen, clock, server, replicas⟩ := Arises.first elector fine true
  let lease : Lease := { (elector true).firstLease (.ofNanoseconds 0) with
    metadata := { Metadata.empty with resourceVersion := some "1" } }
  let claim : Lease := { lease with spec := some ⟨some time, some "second", some 15, some 1, some time⟩ }
  let taken : Lease := { claim with
    metadata := { Metadata.empty with resourceVersion := some "2" } }
  have kept : claim.Kept taken := .of_spec_eq rfl fun time same => by
    cases same
    exact Instant.nanoseconds_ofNanoseconds _
  have puts : Server.Puts ⟨some lease, ["1"], 0⟩ taken ⟨some taken, ["2", "1"], 0⟩ :=
    ⟨⟨"2", rfl, by decide, rfl⟩, rfl, rfl⟩
  have goesOn : (elector false).afterRead time (.ok lease) = .ok (.write (.replace claim)) := rfl
  have leads : (held.replicas true).leads = true := by rw [replicas, Function.update_self]
  have due : (held.replicas true).asleep = some 10000000000 := by
    rw [replicas, Function.update_self]
    rfl
  have free : (held.replicas false).asleep = some 0 := by
    rw [replicas, Function.update_of_ne (by decide)]
  -- The renewal begins in time, and its read gets no answer for six seconds.
  have woken := (arisen.move (.pass 10000000000 (clock ▸ Nat.zero_le _)) trivial).move
    (.wake true 10000000000 due (Nat.le_refl _)) trivial
  have later : 10000000000 ≤ 16000000000 := by decide
  have hangs := woken.move (.pass 16000000000 later) trivial
  have stored := congrArg Server.stored server
  obtain ⟨both, arisen, _, server', replicas'⟩ := hangs.leads (fun _ _ => trivial) false free
    (Nat.zero_le _) (fun _ found => by cases found; exact stored) goesOn ⟨lease, stored, rfl⟩ kept
    (server ▸ puts)
  refine ⟨both, arisen, ⟨taken, congrArg Server.stored server', rfl⟩, fun i => ?_⟩
  rw [replicas']
  cases i with
  | true => exact leads
  | false => rfl

end Elector

end TabletDrain
