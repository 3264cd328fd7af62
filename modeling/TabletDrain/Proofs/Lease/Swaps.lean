import Mathlib.Logic.Function.Basic
import TabletDrain.Lease.Elector
import TabletDrain.Proofs.Lease.Claims

/-! Attempts at one lease by any number of replicas, between whose calls anything may happen. The server
gives out a new version with every accepted write, and accepts a write only where nothing has been
written since the read that it rests on: a replacement of the version that is stored, or a first lease
while there is none. -/
namespace TabletDrain

def Lease.version? (lease : Lease) : Option String := lease.metadata.resourceVersion

/-- Anybody may take the lease: it has no holder, it was never renewed, or it has expired. -/
def Lease.IsFree (lease : Lease) (now : Instant) : Prop :=
  lease.holder? = none ∨ (lease.spec.getD .empty).renewTime = none ∨
    ∃ renewed due, (lease.spec.getD .empty).renewTime = some renewed ∧
      renewed.addSeconds? ((lease.spec.getD .empty).durationSeconds.getD Lease.claimSeconds)
          = some due ∧
        due.before now = true

theorem Lease.isFree_of_hasExpired {lease : Lease} {now : Instant}
    (expired : hasExpired (lease.spec.getD .empty) now = .ok true) : lease.IsFree now := by
  unfold hasExpired at expired
  cases renewal : (lease.spec.getD .empty).renewTime with
  | none => exact .inr (.inl renewal)
  | some renewed =>
    rw [renewal] at expired
    dsimp only at expired
    split at expired
    · rename_i due reached
      exact .inr (.inr ⟨renewed, due, renewal, reached, Except.ok.inj expired⟩)
    · cases expired

namespace Elector

/-- A write that was accepted: what was stored before it and after it, and how often the lease had been
deleted by then. -/
structure Swap where
  replaced : Option Lease
  stored : Lease
  deletions : Nat

/-- How far an attempt is: what it read, its accepted write, and the answer to its write. -/
structure Attempt where
  found : Option (Except Fault Lease)
  swap : Option Swap
  answer : Option (Except Fault Lease)

def Attempt.start : Attempt := ⟨none, none, none⟩

/-- The write that an attempt of a replica comes to. -/
def Attempt.write? (attempt : Attempt) (elector : Elector) (now : Instant) : Option Write :=
  attempt.found.bind fun found =>
    match elector.afterRead now found with
    | .ok (.write write) => some write
    | _ => none

/-- What an attempt of a replica came to, once it has. -/
def Attempt.outcome? (attempt : Attempt) (elector : Elector) (now : Instant) : Option Outcome :=
  attempt.found.bind fun found =>
    match elector.afterRead now found with
    | .ok .wait => some .follows
    | .ok .fail => some .failed
    | .ok (.write _) => attempt.answer.map afterWrite
    | .error _ => none

def Write.lease : Write → Lease
  | .create lease => lease
  | .replace lease => lease

/-- The server accepts the write. -/
def Write.Fits (stored : Option Lease) : Write → Prop
  | .create _ => stored = none
  | .replace lease => ∃ current, stored = some current ∧ lease.version? = current.version?

/-- What the server holds, the versions that it has given out, and how often it has deleted the lease. -/
structure Server where
  stored : Option Lease
  versions : List String
  deletions : Nat

namespace Server

/-- The lease has a version that was given out. -/
def Issued (server : Server) (lease : Lease) : Prop :=
  ∃ version ∈ server.versions, lease.version? = some version

/-- A lease is stored under a new version. -/
structure Puts (server : Server) (lease : Lease) (after : Server) : Prop where
  fresh : ∃ version, lease.version? = some version ∧ version ∉ server.versions ∧
    after.versions = version :: server.versions
  stored : after.stored = some lease
  deletions : after.deletions = server.deletions

def drop (server : Server) : Server :=
  { server with stored := none, deletions := server.deletions + 1 }

end Server

structure Contest (ι : Type) where
  server : Server
  attempts : ι → Attempt

section Programs

variable {elector : Elector} {now : Instant} {server : Nat → Api.Response} {before after : Progress}
  {attempt : Attempt} {outcome : Outcome}

def Progress.send (progress : Progress) (requests : List Api.Request) : Progress :=
  { progress with
    sent := progress.sent ++ requests.map fun request => ⟨⟨progress.now, request⟩, progress.leads⟩ }

/-- The requests of an attempt: to read, and to write what it comes to. Those that cannot be made are
left out. -/
def Attempt.requests (attempt : Attempt) (elector : Elector) (now : Instant) : List Api.Request :=
  elector.readRequest.toOption.toList ++
    ((attempt.write? elector now).bind fun write => (elector.writeRequest write).toOption).toList

/-- The replica's program gets the answers of the attempt, if it begins one with so much done before. -/
structure Attempt.Hears (elector : Elector) (now : Instant) (server : Nat → Api.Response)
    (before : Progress) (attempt : Attempt) : Prop where
  found : attempt.found = some (exchange server before elector.readRequest).1
  answer : attempt.answer = (attempt.write? elector now).map fun write =>
    (exchange server (exchange server before elector.readRequest).2 (elector.writeRequest write)).1

theorem Progress.send_nil (progress : Progress) : progress.send [] = progress := by
  change { progress with sent := progress.sent ++ [] } = progress
  rw [List.append_nil]

theorem Progress.send_append (progress : Progress) (first second : List Api.Request) :
    progress.send (first ++ second) = (progress.send first).send second := by
  simp [send, List.append_assoc]

theorem exchange_snd (server : Nat → Api.Response) (before : Progress)
    (request : Except Fault Api.Request) :
    (exchange server before request).2 = before.send request.toOption.toList := by
  cases request with
  | error fault => exact before.send_nil.symm
  | ok request => rfl

theorem exchange_of_toBool {request : Except Fault Api.Request} (made : request.toBool = true) :
    ∃ sent, exchange server before request =
      ((server before.sent.length).object Lease.ofJson, before.send [sent]) := by
  cases request with
  | error fault => cases made
  | ok request => exact ⟨request, rfl⟩

/-- The program gets the answers of some attempt, whatever the server answers. -/
theorem exists_hears (elector : Elector) (now : Instant) (server : Nat → Api.Response)
    (before : Progress) : ∃ attempt : Attempt, attempt.Hears elector now server before := by
  let read : Attempt := ⟨some (exchange server before elector.readRequest).1, none, none⟩
  exact ⟨{ read with answer := (read.write? elector now).map _ }, rfl, rfl⟩

/-- The program comes to what the attempt comes to, and sends its requests. -/
theorem attempt_eq_ok_iff (hears : attempt.Hears elector now server before) :
    elector.attempt server now before = .ok (outcome, after) ↔
      attempt.outcome? elector now = some outcome ∧
        after = before.send (attempt.requests elector now) := by
  obtain ⟨found, answer⟩ := hears
  have ok_iff {come : Outcome} {done : Progress} :
      (Except.ok (come, done) : Except LeaseOverflow _) = .ok (outcome, after) ↔
        some come = some outcome ∧ after = done := by
    rw [Except.ok.injEq, Prod.mk.injEq, Option.some.injEq, eq_comm (a := after)]
  rw [Attempt.requests, Progress.send_append, ← exchange_snd server]
  change (elector.afterRead now (exchange server before elector.readRequest).1 >>= _) = _ ↔ _
  cases goesOn : elector.afterRead now (exchange server before elector.readRequest).1 with
  | error overflow =>
    rw [Attempt.outcome?, found, Option.bind_some, goesOn]
    exact ⟨nofun, fun comes => nomatch comes.1⟩
  | ok next =>
    rw [Attempt.outcome?, Attempt.write?, found, Option.bind_some, Option.bind_some, goesOn]
    rw [Attempt.write?, found, Option.bind_some, goesOn] at answer
    cases next with
    | wait =>
      rw [Option.bind_none, Option.toList_none, Progress.send_nil]
      exact ok_iff
    | fail =>
      rw [Option.bind_none, Option.toList_none, Progress.send_nil]
      exact ok_iff
    | write write =>
      rw [answer, Option.bind_some, ← exchange_snd server]
      exact ok_iff

end Programs

section Reads

variable {elector : Elector} {now : Instant} {found : Except Fault Lease} {write : Write}

theorem of_afterRead_ok {read : Lease} (goesOn : elector.afterRead now (.ok read) = .ok (.write write)) :
    ∃ decision claim, read.decide elector.identity now = .ok decision ∧
      read.claimed elector.identity now decision = .ok (some claim) ∧ write = .replace claim := by
  obtain ⟨decision, decided, goesOn⟩ := exists_of_bind_eq_ok goesOn
  obtain ⟨written, claims, goesOn⟩ := exists_of_bind_eq_ok goesOn
  cases written with
  | none => cases goesOn
  | some claim =>
    cases goesOn
    exact ⟨decision, claim, decided, claims, rfl⟩

/-- A write creates the first lease, where none was found, or claims the lease that was found. -/
theorem afterRead_cases (goesOn : elector.afterRead now found = .ok (.write write)) :
    (∃ refusal, found = .error (.refused refusal) ∧ write = .create (elector.firstLease now)) ∨
      ∃ read claim, found = .ok read ∧ write = .replace claim ∧ claim.version? = read.version? ∧
        claim.holder? = some elector.identity ∧
          (read.holder? = some elector.identity ∨ read.IsFree now) := by
  cases found with
  | error fault =>
    cases fault with
    | refused refusal =>
      unfold afterRead at goesOn
      dsimp only at goesOn
      split at goesOn <;> cases goesOn
      exact .inl ⟨refusal, rfl, rfl⟩
    | _ => cases goesOn
  | ok read =>
    obtain ⟨decision, claim, decided, claims, rfl⟩ := of_afterRead_ok goesOn
    refine .inr ⟨read, claim, rfl, rfl, ?_⟩
    rcases Lease.decide_cases decided with ⟨rfl, own⟩ | ⟨rfl, _, free⟩ | ⟨_, rfl, _⟩
    · cases claims
      exact ⟨rfl, (Lease.holder_getD read).trans own, .inl own⟩
    · rcases Lease.claimed_cases claims with ⟨same, _⟩ | ⟨_, _, _, same⟩ | ⟨_, same, _⟩
      · cases same
      · cases same
        exact ⟨rfl, rfl, .inr (free.elim .inl Lease.isFree_of_hasExpired)⟩
      · cases same
    · cases claims

theorem of_write? {attempt : Attempt} (writes : attempt.write? elector now = some write) :
    ∃ found, attempt.found = some found ∧ elector.afterRead now found = .ok (.write write) := by
  unfold Attempt.write? at writes
  obtain ⟨found, same, goesOn⟩ := Option.bind_eq_some_iff.mp writes
  refine ⟨found, same, ?_⟩
  split at goesOn
  · rename_i read
    rw [read, Option.some.inj goesOn]
  · cases goesOn

theorem holder?_of_write? {attempt : Attempt} (writes : attempt.write? elector now = some write) :
    write.lease.holder? = some elector.identity := by
  obtain ⟨found, _, goesOn⟩ := of_write? writes
  rcases afterRead_cases goesOn with ⟨_, _, rfl⟩ | ⟨_, _, _, rfl, _, holds, _⟩
  · rfl
  · exact holds

end Reads

section Contests

variable {ι : Type} [DecidableEq ι]

def Contest.update (contest : Contest ι) (i : ι) (attempt : Attempt) : Contest ι :=
  { contest with attempts := Function.update contest.attempts i attempt }

/-- What can happen next. A read tells what is stored, or fails. A write that fits may be accepted; what is
then stored has the holder that was sent, and the answer may be lost. A write that does not fit is a
conflict, and any write may fail. Somebody else may change or delete the lease at any time. -/
inductive Step (elector : ι → Elector) (now : ι → Instant) (contest : Contest ι) :
    Contest ι → Prop where
  | read (i : ι) (found : Except Fault Lease) (idle : contest.attempts i = .start)
      (holds : ∀ lease, found = .ok lease → contest.server.stored = some lease) :
      Step elector now contest
        (contest.update i { contest.attempts i with found := some found })
  | accept (i : ι) (write : Write) (lease : Lease) (after : Server)
      (due : (contest.attempts i).write? (elector i) (now i) = some write)
      (unsent : (contest.attempts i).swap = none ∧ (contest.attempts i).answer = none)
      (fits : write.Fits contest.server.stored) (keeps : lease.holder? = write.lease.holder?)
      (puts : contest.server.Puts lease after) :
      Step elector now contest
        { contest.update i { contest.attempts i with
            swap := some ⟨contest.server.stored, lease, contest.server.deletions⟩ } with
          server := after }
  | answer (i : ι) (told : Except Fault Lease) (accepted : (contest.attempts i).swap ≠ none)
      (unanswered : (contest.attempts i).answer = none) :
      Step elector now contest
        (contest.update i { contest.attempts i with answer := some told })
  | conflict (i : ι) (write : Write) (refusal : Refusal)
      (due : (contest.attempts i).write? (elector i) (now i) = some write)
      (unsent : (contest.attempts i).swap = none ∧ (contest.attempts i).answer = none)
      (stale : ¬write.Fits contest.server.stored) (refused : refusal.code = 409) :
      Step elector now contest
        (contest.update i { contest.attempts i with answer := some (.error (.refused refusal)) })
  | fail (i : ι) (write : Write) (fault : Fault)
      (due : (contest.attempts i).write? (elector i) (now i) = some write)
      (unsent : (contest.attempts i).swap = none ∧ (contest.attempts i).answer = none) :
      Step elector now contest
        (contest.update i { contest.attempts i with answer := some (.error fault) })
  | change (lease : Lease) (after : Server) (puts : contest.server.Puts lease after) :
      Step elector now contest { contest with server := after }
  | delete (present : contest.server.stored ≠ none) :
      Step elector now contest { contest with server := contest.server.drop }

inductive Reaches (elector : ι → Elector) (now : ι → Instant) : Contest ι → Prop where
  | start {contest : Contest ι} (idle : ∀ i, contest.attempts i = .start)
      (issued : ∀ lease, contest.server.stored = some lease → contest.server.Issued lease) :
      Reaches elector now contest
  | step {contest next : Contest ι} (reached : Reaches elector now contest)
      (steps : Step elector now contest next) : Reaches elector now next

end Contests

/-- An accepted write is one that the attempt comes to, over what the attempt found. -/
structure Earned (elector : Elector) (now : Instant) (attempt : Attempt) (swap : Swap) : Prop where
  writes : ∃ write, attempt.write? elector now = some write
  holder : swap.stored.holder? = some elector.identity
  replaced : ∀ read, attempt.found = some (.ok read) → swap.replaced = some read
  first : ∀ fault, attempt.found = some (.error fault) → swap.replaced = none

/-- What holds between an attempt and what the server holds. A copy that is still of the version stored is
what is stored, and what an accepted write went over is not stored any more. -/
structure Attempt.Fair (elector : Elector) (now : Instant) (server : Server) (attempt : Attempt) :
    Prop where
  copy : ∀ read, attempt.found = some (.ok read) → server.Issued read ∧
    ∀ current, server.stored = some current → current.version? = read.version? → current = read
  earned : ∀ swap, attempt.swap = some swap → Earned elector now attempt swap
  superseded : ∀ swap lease, attempt.swap = some swap → swap.replaced = some lease →
    server.Issued lease ∧ ∀ current, server.stored = some current → current.version? ≠ lease.version?
  created : ∀ swap, attempt.swap = some swap → swap.replaced = none →
    swap.deletions ≤ server.deletions ∧
      (swap.deletions = server.deletions → server.stored ≠ none)
  answered : attempt.answer ≠ none → ∃ write, attempt.write? elector now = some write
  granted : ∀ lease, attempt.answer = some (.ok lease) → attempt.swap ≠ none

/-- Two accepted writes went over different versions, and of two first leases one was deleted between
them. -/
def Swap.Apart (swap other : Swap) : Prop :=
  (∀ lease lease', swap.replaced = some lease → other.replaced = some lease' →
    lease.version? ≠ lease'.version?) ∧
  (swap.replaced = none → other.replaced = none → swap.deletions ≠ other.deletions)

theorem Swap.Apart.symm {swap other : Swap} (apart : swap.Apart other) : other.Apart swap :=
  ⟨fun lease lease' replaced replaced' same => apart.1 lease' lease replaced' replaced same.symm,
    fun first first' same => apart.2 first' first same.symm⟩

section Servers

variable {server after : Server} {lease : Lease} {elector : Elector} {now : Instant}
  {attempt : Attempt}

theorem Server.Puts.issued (puts : server.Puts lease after) {old : Lease} (issued : server.Issued old) :
    after.Issued old := by
  obtain ⟨version, _, _, versions⟩ := puts.fresh
  obtain ⟨given, inside, same⟩ := issued
  exact ⟨given, versions ▸ List.mem_cons_of_mem _ inside, same⟩

theorem Server.Puts.issued_stored (puts : server.Puts lease after) :
    ∀ current, after.stored = some current → after.Issued current := by
  intro current stored
  cases Option.some.inj (puts.stored.symm.trans stored)
  obtain ⟨version, versioned, _, versions⟩ := puts.fresh
  exact ⟨version, versions ▸ List.mem_cons_self, versioned⟩

theorem Server.Puts.version?_ne (puts : server.Puts lease after) {old : Lease}
    (issued : server.Issued old) : lease.version? ≠ old.version? := by
  obtain ⟨version, versioned, unused, _⟩ := puts.fresh
  obtain ⟨given, inside, same⟩ := issued
  intro equal
  rw [versioned, same] at equal
  exact unused (Option.some.inj equal ▸ inside)

namespace Attempt.Fair

theorem start : Attempt.start.Fair elector now server where
  copy _ found := nomatch found
  earned _ swapped := nomatch swapped
  superseded _ _ swapped := nomatch swapped
  created _ swapped := nomatch swapped
  answered told := absurd rfl told
  granted _ told := nomatch told

theorem put (fair : attempt.Fair elector now server) (puts : server.Puts lease after) :
    attempt.Fair elector now after where
  copy read found := by
    have issued := (fair.copy read found).1
    refine ⟨puts.issued issued, fun current stored same => ?_⟩
    cases Option.some.inj (puts.stored.symm.trans stored)
    exact absurd same (puts.version?_ne issued)
  earned := fair.earned
  superseded swap old swapped replaced := by
    have issued := (fair.superseded swap old swapped replaced).1
    refine ⟨puts.issued issued, fun current stored => ?_⟩
    cases Option.some.inj (puts.stored.symm.trans stored)
    exact puts.version?_ne issued
  created swap swapped replaced := by
    refine ⟨?_, fun _ gone => ?_⟩
    · rw [puts.deletions]
      exact (fair.created swap swapped replaced).1
    · rw [puts.stored] at gone
      cases gone
  answered := fair.answered
  granted := fair.granted

theorem drop (fair : attempt.Fair elector now server) : attempt.Fair elector now server.drop where
  copy read found := by
    refine ⟨(fair.copy read found).1, fun current stored => ?_⟩
    cases stored
  earned := fair.earned
  superseded swap old swapped replaced := by
    refine ⟨(fair.superseded swap old swapped replaced).1, fun current stored => ?_⟩
    cases stored
  created swap swapped replaced := by
    have before : swap.deletions ≤ server.deletions := (fair.created swap swapped replaced).1
    refine ⟨Nat.le_succ_of_le before, fun same => ?_⟩
    have same : swap.deletions = server.deletions + 1 := same
    omega
  answered := fair.answered
  granted := fair.granted

theorem read {found : Except Fault Lease}
    (issued : ∀ lease, server.stored = some lease → server.Issued lease)
    (holds : ∀ lease, found = .ok lease → server.stored = some lease) :
    Attempt.Fair elector now server { Attempt.start with found := some found } where
  copy read same := by
    have stored := holds read (Option.some.inj same)
    refine ⟨issued read stored, fun current again _ => ?_⟩
    exact Option.some.inj (again.symm.trans stored)
  earned _ swapped := nomatch swapped
  superseded _ _ swapped := nomatch swapped
  created _ swapped := nomatch swapped
  answered told := absurd rfl told
  granted _ told := nomatch told

theorem answer (fair : attempt.Fair elector now server) {told : Except Fault Lease}
    (writes : ∃ write, attempt.write? elector now = some write)
    (earned : ∀ lease, told = .ok lease → attempt.swap ≠ none) :
    Attempt.Fair elector now server { attempt with answer := some told } where
  copy := fair.copy
  earned swap swapped :=
    let old := fair.earned swap swapped
    ⟨old.writes, old.holder, old.replaced, old.first⟩
  superseded := fair.superseded
  created := fair.created
  answered _ := writes
  granted lease same := earned lease (Option.some.inj same)

/-- What an accepted write goes over is what its attempt found. -/
theorem accept (fair : attempt.Fair elector now server) {write : Write}
    (due : attempt.write? elector now = some write) (unanswered : attempt.answer = none)
    (fits : write.Fits server.stored) (keeps : lease.holder? = write.lease.holder?)
    (issued : ∀ lease, server.stored = some lease → server.Issued lease)
    (puts : server.Puts lease after) :
    Attempt.Fair elector now after
      { attempt with swap := some ⟨server.stored, lease, server.deletions⟩ } where
  copy := (fair.put puts).copy
  earned swap same := by
    cases same
    obtain ⟨found, read, goesOn⟩ := of_write? due
    refine ⟨⟨write, due⟩, keeps.trans (holder?_of_write? due), fun old again => ?_, fun fault again => ?_⟩
    · obtain rfl : found = .ok old := Option.some.inj (read.symm.trans again)
      rcases afterRead_cases goesOn with ⟨_, failed, _⟩ | ⟨_, claim, same, rfl, version, _⟩
      · cases failed
      · cases same
        obtain ⟨current, stored, same⟩ := fits
        have equal := (fair.copy _ read).2 current stored (same.symm.trans version)
        exact equal ▸ stored
    · obtain rfl : found = .error fault := Option.some.inj (read.symm.trans again)
      rcases afterRead_cases goesOn with ⟨_, _, rfl⟩ | ⟨_, _, sound, _⟩
      · exact fits
      · cases sound
  superseded swap old same replaced := by
    cases same
    refine ⟨puts.issued (issued old replaced), fun current stored => ?_⟩
    cases Option.some.inj (puts.stored.symm.trans stored)
    exact puts.version?_ne (issued old replaced)
  created swap same replaced := by
    cases same
    refine ⟨Nat.le_of_eq puts.deletions.symm, fun _ gone => ?_⟩
    rw [puts.stored] at gone
    cases gone
  answered told := absurd unanswered told
  granted lease told := by
    rw [show attempt.answer = some (.ok lease) from told] at unanswered
    cases unanswered

end Attempt.Fair

end Servers

namespace Contest

variable {ι : Type} [DecidableEq ι] {elector : ι → Elector} {now : ι → Instant}
  {contest next : Contest ι} {i j : ι} {attempt : Attempt}

/-- What holds in every contest. -/
structure Sound (elector : ι → Elector) (now : ι → Instant) (contest : Contest ι) : Prop where
  issued : ∀ lease, contest.server.stored = some lease → contest.server.Issued lease
  fair : ∀ i, (contest.attempts i).Fair (elector i) (now i) contest.server
  apart : ∀ i j swap other, (contest.attempts i).swap = some swap →
    (contest.attempts j).swap = some other → i ≠ j → swap.Apart other

theorem attempts_update (contest : Contest ι) (i j : ι) (attempt : Attempt) :
    (contest.update i attempt).attempts j = if j = i then attempt else contest.attempts j :=
  Function.update_apply contest.attempts i attempt j

theorem swap_update (same : attempt.swap = (contest.attempts i).swap) (j : ι) :
    ((contest.update i attempt).attempts j).swap = (contest.attempts j).swap := by
  rw [attempts_update]
  split
  · rename_i here
    rw [here, same]
  · rfl

namespace Sound

/-- One attempt gets on, without an accepted write. -/
theorem update (sound : contest.Sound elector now)
    (fair : attempt.Fair (elector i) (now i) contest.server)
    (same : attempt.swap = (contest.attempts i).swap) :
    (contest.update i attempt).Sound elector now where
  issued := sound.issued
  fair j := by
    rw [attempts_update]
    split
    · rename_i here
      exact here ▸ fair
    · exact sound.fair j
  apart j k swap other swapped swapped' := by
    rw [swap_update same] at swapped swapped'
    exact sound.apart j k swap other swapped swapped'

/-- An accepted write goes over what no accepted write before it went over. -/
theorem accept (sound : contest.Sound elector now) {write : Write} {lease : Lease} {after : Server}
    (due : (contest.attempts i).write? (elector i) (now i) = some write)
    (unanswered : (contest.attempts i).answer = none) (fits : write.Fits contest.server.stored)
    (keeps : lease.holder? = write.lease.holder?) (puts : contest.server.Puts lease after) :
    Sound elector now
      { contest.update i { contest.attempts i with
          swap := some ⟨contest.server.stored, lease, contest.server.deletions⟩ } with
        server := after } := by
  let made : Swap := ⟨contest.server.stored, lease, contest.server.deletions⟩
  -- What is stored now is nothing that an earlier write went over, by what is fair to its attempt.
  have separates (k : ι) (other : Swap) (swapped : (contest.attempts k).swap = some other) :
      made.Apart other := by
    have fair := sound.fair k
    refine ⟨fun stored old replaced replaced' => ?_, fun first first' same => ?_⟩
    · exact (fair.superseded other old swapped replaced').2 stored replaced
    · exact (fair.created other swapped first').2 same.symm first
  refine ⟨puts.issued_stored, fun j => ?_, fun j k swap other swapped swapped' differ => ?_⟩
  · change Attempt.Fair _ _ _ ((contest.update i _).attempts j)
    rw [attempts_update]
    split
    · rename_i here
      rw [here]
      exact (sound.fair i).accept due unanswered fits keeps sound.issued puts
    · exact (sound.fair j).put puts
  · change ((contest.update i _).attempts j).swap = _ at swapped
    change ((contest.update i _).attempts k).swap = _ at swapped'
    rw [attempts_update] at swapped swapped'
    split at swapped
    · rename_i here
      rw [if_neg fun there => differ (here.trans there.symm)] at swapped'
      cases swapped
      exact separates k other swapped'
    · split at swapped'
      · cases swapped'
        exact (separates j swap swapped).symm
      · exact sound.apart j k swap other swapped swapped' differ

theorem step (sound : contest.Sound elector now) (steps : Step elector now contest next) :
    next.Sound elector now := by
  cases steps with
  | read i found idle holds =>
    refine sound.update ?_ rfl
    rw [idle]
    exact .read sound.issued holds
  | accept i write lease after due unsent fits keeps puts =>
    exact sound.accept due unsent.2 fits keeps puts
  | answer i told accepted unanswered =>
    obtain ⟨swap, swapped⟩ := Option.ne_none_iff_exists'.mp accepted
    have earned := (sound.fair i).earned swap swapped
    exact sound.update ((sound.fair i).answer earned.writes fun _ _ => accepted) rfl
  | conflict i write refusal due unsent stale refused =>
    exact sound.update ((sound.fair i).answer ⟨write, due⟩ fun _ same => nomatch same) rfl
  | fail i write fault due unsent =>
    exact sound.update ((sound.fair i).answer ⟨write, due⟩ fun _ same => nomatch same) rfl
  | change lease after puts =>
    exact ⟨puts.issued_stored, fun j => (sound.fair j).put puts, sound.apart⟩
  | delete present =>
    exact ⟨fun _ stored => (nomatch stored), fun j => (sound.fair j).drop, sound.apart⟩

theorem of_reaches (reached : Reaches elector now contest) : contest.Sound elector now := by
  induction reached with
  | start idle issued =>
    refine ⟨issued, fun i => ?_, fun i j swap other swapped => ?_⟩
    · rw [idle]
      exact .start
    · rw [idle] at swapped
      cases swapped
  | step _ steps ih => exact ih.step steps

end Sound

/-- An accepted write goes over what is stored when it is made, and what it leaves is stored then. -/
theorem swap_of_step (steps : Step elector now contest next) {swap : Swap}
    (unmade : (contest.attempts i).swap = none) (made : (next.attempts i).swap = some swap) :
    swap.replaced = contest.server.stored ∧ swap.deletions = contest.server.deletions ∧
      next.server.stored = some swap.stored := by
  have remains {j : ι} {attempt : Attempt} (same : attempt.swap = (contest.attempts j).swap) :
      ((contest.update j attempt).attempts i).swap ≠ some swap := by
    rw [swap_update same, unmade]
    nofun
  cases steps with
  | read j found idle holds => exact absurd made (remains rfl)
  | answer j told accepted unanswered => exact absurd made (remains rfl)
  | conflict j write refusal due unsent stale refused => exact absurd made (remains rfl)
  | fail j write fault due unsent => exact absurd made (remains rfl)
  | change lease after puts =>
    rw [show (contest.attempts i).swap = _ from made] at unmade
    cases unmade
  | delete present =>
    rw [show (contest.attempts i).swap = _ from made] at unmade
    cases unmade
  | accept j write lease after due unsent fits keeps puts =>
    change ((contest.update j _).attempts i).swap = _ at made
    rw [attempts_update] at made
    split at made
    · cases made
      exact ⟨rfl, rfl, puts.stored⟩
    · rw [unmade] at made
      cases made

omit [DecidableEq ι] in
theorem Sound.leads (sound : contest.Sound elector now)
    (leads : (contest.attempts i).outcome? (elector i) (now i) = some .leads) :
    ∃ swap, (contest.attempts i).swap = some swap ∧
      swap.stored.holder? = some (elector i).identity := by
  obtain ⟨found, _, outcome⟩ := Option.bind_eq_some_iff.mp leads
  have fair := sound.fair i
  cases goesOn : (elector i).afterRead (now i) found with
  | error overflow =>
    rw [goesOn] at outcome
    cases outcome
  | ok next =>
    rw [goesOn] at outcome
    cases next with
    | wait => cases outcome
    | fail => cases outcome
    | write write =>
      obtain ⟨told, answered, leads⟩ := Option.map_eq_some_iff.mp outcome
      cases told with
      | ok lease =>
        obtain ⟨swap, swapped⟩ := Option.ne_none_iff_exists'.mp (fair.granted lease answered)
        exact ⟨swap, swapped, (fair.earned swap swapped).holder⟩
      | error fault =>
        cases fault with
        | refused refusal =>
          unfold afterWrite at leads
          dsimp only at leads
          split at leads <;> cases leads
        | _ => cases leads

omit [DecidableEq ι] in
theorem Sound.follows (sound : contest.Sound elector now) {refusal : Refusal}
    (answered : (contest.attempts i).answer = some (.error (.refused refusal)))
    (conflict : refusal.code = 409) :
    (contest.attempts i).outcome? (elector i) (now i) = some .follows := by
  have told : (contest.attempts i).answer ≠ none := by
    rw [answered]
    nofun
  obtain ⟨write, due⟩ := (sound.fair i).answered told
  obtain ⟨found, read, goesOn⟩ := of_write? due
  have isConflict : refusal.isConflict = true := by
    rw [Refusal.isConflict, conflict]
    rfl
  rw [Attempt.outcome?, read, Option.bind_some, goesOn]
  dsimp only
  rw [answered, Option.map_some, afterWrite, isConflict]
  rfl

end Contest

/-- Whatever happens between the calls of attempts at a lease: only an accepted write makes a replica
lead, and names it as holder when it is made; one write at most is accepted over each version, and one
first lease until a deletion; a lease changes hands only where the copy that was read was still stored
and free at the time taken before the read; and a conflict is no failure. A replica's program that gets
the answers of an attempt comes to the same, and sends a read and the write of the attempt. -/
theorem swaps_exclusive {ι : Type} [DecidableEq ι] {elector : ι → Elector} {now : ι → Instant}
    {contest : Contest ι} (reached : Reaches elector now contest) :
    (∀ i, (contest.attempts i).outcome? (elector i) (now i) = some .leads →
      ∃ swap, (contest.attempts i).swap = some swap ∧
        swap.stored.holder? = some (elector i).identity) ∧
    (∀ next, Step elector now contest next → ∀ i swap, (contest.attempts i).swap = none →
      (next.attempts i).swap = some swap →
        swap.replaced = contest.server.stored ∧ swap.deletions = contest.server.deletions ∧
          next.server.stored = some swap.stored) ∧
    (∀ i j swap other, i ≠ j → (contest.attempts i).swap = some swap →
      (contest.attempts j).swap = some other →
        (∀ read read', (contest.attempts i).found = some (.ok read) →
          (contest.attempts j).found = some (.ok read') → read.version? ≠ read'.version?) ∧
        (∀ fault fault', (contest.attempts i).found = some (.error fault) →
          (contest.attempts j).found = some (.error fault') → swap.deletions ≠ other.deletions)) ∧
    (∀ i swap read, (contest.attempts i).swap = some swap →
      (contest.attempts i).found = some (.ok read) →
        swap.replaced = some read ∧ (swap.stored.holder? ≠ read.holder? → read.IsFree (now i))) ∧
    (∀ i refusal, (contest.attempts i).answer = some (.error (.refused refusal)) →
      refusal.code = 409 → (contest.attempts i).outcome? (elector i) (now i) = some .follows) ∧
    ∀ i server before, (contest.attempts i).Hears (elector i) (now i) server before →
      ∀ outcome after, (elector i).attempt server (now i) before = .ok (outcome, after) ↔
        (contest.attempts i).outcome? (elector i) (now i) = some outcome ∧
          after = before.send ((contest.attempts i).requests (elector i) (now i)) := by
  have sound := Contest.Sound.of_reaches reached
  refine ⟨fun i leads => sound.leads leads, fun next steps i swap => Contest.swap_of_step steps, ?_, ?_,
    fun i refusal => sound.follows, fun i server before hears outcome after => attempt_eq_ok_iff hears⟩
  · intro i j swap other differ swapped swapped'
    have earned := (sound.fair i).earned swap swapped
    have earned' := (sound.fair j).earned other swapped'
    obtain ⟨versions, deletions⟩ := sound.apart i j swap other swapped swapped' differ
    refine ⟨fun read read' found found' => ?_, fun fault fault' found found' => ?_⟩
    · exact versions read read' (earned.replaced read found) (earned'.replaced read' found')
    · exact deletions (earned.first fault found) (earned'.first fault' found')
  · intro i swap read swapped found
    have earned := (sound.fair i).earned swap swapped
    refine ⟨earned.replaced read found, fun changes => ?_⟩
    obtain ⟨write, due⟩ := earned.writes
    obtain ⟨_, again, goesOn⟩ := of_write? due
    cases Option.some.inj (found.symm.trans again)
    rcases afterRead_cases goesOn with ⟨_, failed, _⟩ | ⟨_, _, same, _, _, _, own | free⟩
    · cases failed
    · cases same
      exact absurd (earned.holder.trans own.symm) changes
    · cases same
      exact free

/-- Two replicas find no lease, and the first one is faster. The program of the second one sends both its
requests, and follows. -/
theorem swaps_exclusive_sample :
    let elector (faster : Bool) : Elector := ⟨"default", if faster then "first" else "second"⟩
    let now (_ : Bool) : Instant := ⟨0, 0⟩
    let taken : Refusal := ⟨"Failure", "", "AlreadyExists", 409⟩
    let server : Nat → Api.Response
      | 0 => .answered 404 "\x7b\"status\":\"Failure\",\"reason\":\"NotFound\",\"code\":404\x7d"
      | _ => .answered 409 "\x7b\"status\":\"Failure\",\"reason\":\"AlreadyExists\",\"code\":409\x7d"
    ∃ contest : Contest Bool, Reaches elector now contest ∧
      (contest.attempts true).outcome? (elector true) (now true) = some .leads ∧
      (∃ swap, (contest.attempts true).swap = some swap ∧ swap.stored.holder? = some "first") ∧
      (contest.attempts false).answer = some (.error (.refused taken)) ∧
      (contest.attempts false).outcome? (elector false) (now false) = some .follows ∧
      (contest.attempts false).Hears (elector false) (now false) server ⟨0, false, []⟩ ∧
      ∃ after, (elector false).attempt server (now false) ⟨0, false, []⟩ = .ok (.follows, after) ∧
        after.sent.length = 2 := by
  intro elector now taken server
  let missing : Except Fault Lease := .error (.refused ⟨"Failure", "", "NotFound", 404⟩)
  let lease : Lease := { (elector true).firstLease (now true) with
    metadata := { Metadata.empty with resourceVersion := some "1" } }
  have puts : Server.Puts ⟨none, [], 0⟩ lease ⟨some lease, ["1"], 0⟩ :=
    ⟨⟨"1", rfl, List.not_mem_nil, rfl⟩, rfl, rfl⟩
  have idle : Reaches elector now ⟨⟨none, [], 0⟩, fun _ => .start⟩ :=
    .start (fun _ => rfl) fun _ stored => nomatch stored
  have first := idle.step (.read true missing rfl fun _ found => nomatch found)
  have both := first.step (.read false missing rfl fun _ found => nomatch found)
  have created := both.step (.accept true (.create ((elector true).firstLease (now true))) lease _ rfl
    ⟨rfl, rfl⟩ rfl rfl puts)
  have answered := created.step (.answer true (.ok lease) (fun unmade => nomatch unmade) rfl)
  let write : Write := .create ((elector false).firstLease (now false))
  have lost := answered.step (.conflict false write taken rfl ⟨rfl, rfl⟩ (fun fits => nomatch fits) rfl)
  obtain ⟨leads, _, _, _, follows, programs⟩ := swaps_exclusive lost
  obtain ⟨asked, asks⟩ : ∃ sent, exchange server ⟨0, false, []⟩ (elector false).readRequest = (_, _) :=
    exchange_of_toBool (by decide +kernel)
  obtain ⟨written, writes⟩ : ∃ sent, exchange server (Progress.send ⟨0, false, []⟩ [asked])
      ((elector false).writeRequest write) = (_, _) := exchange_of_toBool (by decide +kernel)
  have refuses {code : Nat} {body : String} {refusal : Refusal} (isError : Http.isError code = true)
      (reads : Api.refusal code body = refusal) :
      (Api.Response.answered code body).object Lease.ofJson = .error (.refused refusal) := by
    rw [Api.Response.object, if_pos isError, reads]
  have told : (server 0).object Lease.ofJson = missing := refuses (by decide) (by decide +kernel)
  have told' : (server 1).object Lease.ofJson = .error (.refused taken) :=
    refuses (by decide) (by decide +kernel)
  have hears : Attempt.Hears (elector false) (now false) server ⟨0, false, []⟩
      ⟨some missing, none, some (.error (.refused taken))⟩ := by
    refine ⟨?_, ?_⟩
    · rw [asks]
      exact congrArg some told.symm
    · change _ = some (exchange _ (exchange _ _ _).2 ((elector false).writeRequest write)).1
      rw [asks, writes]
      exact congrArg some told'.symm
  refine ⟨_, lost, rfl, leads true rfl, rfl, follows false taken rfl rfl, hears, _,
    (programs false server _ hears .follows _).mpr ⟨rfl, rfl⟩, ?_⟩
  decide +kernel

end Elector

end TabletDrain
