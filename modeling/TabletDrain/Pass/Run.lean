import TabletDrain.Pass.Cluster

/-! Running through a drain pass. A run moves a clock that counts milliseconds from the start of the
pass, logs every outside call when it is made, and changes the stored pods; it may be abandoned at a
point in time, and then ends where it waits. Waiting ends exactly at its millisecond. What needs no
wait is done even after a deadline, and what is finished at the very instant of a deadline is in
time. `bind_of_some` and `bind_of_none` say how a run goes on after its first part. -/
namespace TabletDrain

structure Results where
  /-- The shortest delay asked for before the next pass, in milliseconds. -/
  requeue : Option Nat
  fault : Option Fault
  deriving DecidableEq, Repr

namespace Results

def empty : Results := ⟨none, none⟩

/-- Asks for another pass; the shortest delay counts. -/
def requeueAfter (results : Results) (delay : Nat) : Results :=
  { results with
    requeue := match results.requeue with
      | some current => some (min current delay)
      | none => some delay }

/-- Notes a failure; the first one counts. -/
def fail (results : Results) (fault : Fault) : Results :=
  { results with fault := results.fault.or (some fault) }

def result (results : Results) : Except Fault (Option Nat) :=
  match results.fault with
  | some fault => .error fault
  | none => .ok results.requeue

end Results

structure Progress where
  /-- Milliseconds since the start. -/
  now : Nat
  log : List LogEntry
  pods : List Pod
  /-- The stored pods as they were after each write, the first write first. -/
  history : List (List Pod)
  results : Results
  deriving DecidableEq

def Progress.start (pods : List Pod) : Progress := ⟨0, [], pods, [], .empty⟩

/-- A part of a pass: what it gives, or nothing where it is abandoned, and how far it gets. -/
def Run (α : Type) : Type := Progress → Option α × Progress

namespace Run

variable {α β : Type}

def pure (a : α) : Run α := fun progress => (some a, progress)

/-- One part after another, unless the first is abandoned. -/
def bind (first : Run α) (next : α → Run β) : Run β := fun progress =>
  match first progress with
  | (some a, progress) => next a progress
  | (none, progress) => (none, progress)

instance : Monad Run where
  pure := pure
  bind := bind

@[simp] theorem pure_apply (a : α) (progress : Progress) :
    (Pure.pure a : Run α) progress = (some a, progress) := rfl

theorem bind_of_some {first : Run α} {progress reached : Progress} {a : α} (next : α → Run β)
    (h : first progress = (some a, reached)) : (first >>= next) progress = next a reached := by
  change bind first next progress = _
  simp only [bind, h]

theorem bind_of_none {first : Run α} {progress reached : Progress} (next : α → Run β)
    (h : first progress = (none, reached)) : (first >>= next) progress = (none, reached) := by
  change bind first next progress = _
  simp only [bind, h]

def get : Run Progress := fun progress => (some progress, progress)

def modify (f : Progress → Progress) : Run Unit := fun progress => (some (), f progress)

def log (call : Call) : Run Unit :=
  modify fun progress => { progress with log := progress.log ++ [⟨progress.now, call⟩] }

def fail (fault : Fault) : Run Unit :=
  modify fun progress => { progress with results := progress.results.fail fault }

def requeueAfter (delay : Nat) : Run Unit :=
  modify fun progress => { progress with results := progress.results.requeueAfter delay }

def store (name : String) (pod : Pod) : Run Unit :=
  modify fun progress =>
    let pods := Cluster.replaceFirst name pod progress.pods
    { progress with pods := pods, history := progress.history ++ [pods] }

def isBy (limit : Option Nat) (time : Nat) : Bool :=
  match limit with
  | some limit => time ≤ limit
  | none => true

def notBefore (limit : Option Nat) (time : Nat) : Nat :=
  match limit with
  | some limit => max time limit
  | none => time

def wait (cutoff : Option Nat) (delay : Nat) : Run Unit := fun progress =>
  let done := progress.now + delay
  if delay = 0 then (some (), progress)
  else if isBy cutoff done then (some (), { progress with now := done })
  else (none, { progress with now := notBefore cutoff progress.now })

/-- Waits up to a deadline, and says whether the wait was over in time. The pass is abandoned at
`cutoff` if that comes before both. -/
def waitWithin (cutoff : Option Nat) (deadline delay : Nat) : Run Bool := fun progress =>
  let done := progress.now + delay
  if delay = 0 then (some true, progress)
  else if done ≤ deadline && isBy cutoff done then (some true, { progress with now := done })
  else if isBy cutoff deadline then
    (some false, { progress with now := max progress.now deadline })
  else (none, { progress with now := notBefore cutoff progress.now })

end Run

end TabletDrain
