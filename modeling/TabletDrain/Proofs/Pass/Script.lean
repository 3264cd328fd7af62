import TabletDrain.Pass.Calls

/-! Scripts of what a pass does. A part of a pass that decides nothing by the clock is the same as
carrying out a list of deeds and giving a value. Abandoning it only cuts the list short: a first
part of the deeds is done, in order, and the rest never happens. -/
namespace TabletDrain

instance : LawfulMonad Run := LawfulMonad.mk' Run
  (by
    intro α first
    funext progress
    change Run.bind first _ progress = _
    unfold Run.bind
    cases first progress with
    | mk value reached => cases value <;> rfl)
  (by intros; rfl)
  (by
    intro α β γ first next last
    funext progress
    change Run.bind (Run.bind first next) last progress = Run.bind first _ progress
    unfold Run.bind
    cases first progress with
    | mk value reached => cases value <;> rfl)

inductive Purpose where
  | read
  | update
  | prepare
  | ask
  | handOver
  | tell
  deriving DecidableEq

def Call.purpose : Call → Purpose
  | .listPods .. | .getShard .. | .getTablets .. => .read
  | .updatePod _ => .update
  | .execute .. => .prepare
  | .replicationStatus _ => .ask
  | .plannedReparent _ | .externallyReparented _ | .changeTabletType .. => .handOver
  | .event .. | .metric .. => .tell

inductive Deed where
  | call (call : Call)
  | event (severity : Severity) (object : ObjectRef) (reason message : String)
  | wait (delay : Nat)
  /-- Waits, but no longer than a time. -/
  | waitUpTo (time delay : Nat)
  | store (name : String) (pod : Pod)
  | fail (fault : Fault)
  | requeueAfter (delay : Nat)

namespace Deed

def perform (setting : Setting) : Deed → Run Unit
  | .call made => Run.log made
  | .event severity object reason message => setting.publish severity object reason message
  | .wait delay => Run.wait setting.cutoff delay
  | .waitUpTo time delay => do
    let progress ← Run.get
    let _ ← Run.waitWithin setting.cutoff (progress.now + time) delay
    return ()
  | .store name pod => Run.store name pod
  | .fail fault => Run.fail fault
  | .requeueAfter delay => Run.requeueAfter delay

def call? : Deed → Option Call
  | .call made => some made
  | .event severity object reason message => some (.event severity object reason message)
  | _ => none

def write? : Deed → Option (String × Pod)
  | .store name pod => some (name, pod)
  | _ => none

def note (results : Results) : Deed → Results
  | .fail fault => results.fail fault
  | .requeueAfter delay => results.requeueAfter delay
  | _ => results

def purpose : Deed → Purpose
  | .call made => made.purpose
  | .store _ _ => .update
  | _ => .tell

end Deed

/-- The deeds are for one purpose, telling about it apart. -/
def Serve (purpose : Purpose) (deeds : List Deed) : Prop :=
  ∀ deed ∈ deeds, deed.purpose = purpose ∨ deed.purpose = .tell

namespace Serve

variable {purpose : Purpose} {first second : List Deed}

theorem nil : Serve purpose [] := fun _ member => absurd member (List.not_mem_nil)

theorem cons {deed : Deed} (here : deed.purpose = purpose ∨ deed.purpose = .tell)
    (rest : Serve purpose second) : Serve purpose (deed :: second) := by
  intro other member
  rcases List.mem_cons.mp member with same | inside
  · exact same ▸ here
  · exact rest other inside

theorem append (before : Serve purpose first) (after : Serve purpose second) :
    Serve purpose (first ++ second) := by
  intro deed member
  rcases List.mem_append.mp member with inside | inside
  · exact before deed inside
  · exact after deed inside

theorem flatMap {α : Type} {items : List α} {deeds : α → List Deed}
    (each : ∀ item ∈ items, Serve purpose (deeds item)) : Serve purpose (items.flatMap deeds) := by
  intro deed member
  obtain ⟨item, inside, made⟩ := List.mem_flatMap.mp member
  exact each item inside deed made

end Serve

def partFor (purpose : Purpose) (deeds : List Deed) : List Deed :=
  deeds.filter fun deed => deed.purpose = purpose

section Parts

variable {purpose wanted : Purpose} {deeds : List Deed}

theorem partFor_append (first second : List Deed) :
    partFor purpose (first ++ second) = partFor purpose first ++ partFor purpose second :=
  List.filter_append _ _

theorem partFor_eq_nil (served : Serve purpose deeds) (other : wanted ≠ purpose)
    (untold : wanted ≠ .tell) : partFor wanted deeds = [] := by
  apply List.filter_eq_nil_iff.mpr
  intro deed member
  rcases served deed member with same | same
  · simpa [same] using other.symm
  · simpa [same] using untold.symm

theorem filter_calls (purpose : Purpose) (deeds : List Deed) :
    ((deeds.filterMap Deed.call?).filter fun call => call.purpose = purpose) =
      (partFor purpose deeds).filterMap Deed.call? := by
  induction deeds with
  | nil => rfl
  | cons deed rest ih =>
    have same (made : Call) (called : deed.call? = some made) : deed.purpose = made.purpose := by
      cases deed <;> cases called <;> rfl
    rw [partFor, List.filterMap_cons, List.filter_cons]
    cases called : deed.call? with
    | none =>
      dsimp only
      rw [ih]
      split
      · rw [List.filterMap_cons_none called]
        rfl
      · rfl
    | some made =>
      dsimp only
      rw [List.filter_cons, ih, same made called]
      split
      · rw [List.filterMap_cons_some called]
        rfl
      · rfl

theorem filterMap_write? (deeds : List Deed) :
    (partFor .update deeds).filterMap Deed.write? = deeds.filterMap Deed.write? := by
  induction deeds with
  | nil => rfl
  | cons deed rest ih =>
    rw [partFor, List.filter_cons]
    split
    · rw [List.filterMap_cons, List.filterMap_cons, ← ih]
      rfl
    · rename_i other
      have quiet : deed.write? = none := by
        cases deed with
        | store name pod => simp [Deed.purpose] at other
        | _ => rfl
      rw [List.filterMap_cons_none quiet, ← ih]
      rfl

end Parts

def perform (setting : Setting) : List Deed → Run Unit
  | [] => return ()
  | deed :: rest => do
    deed.perform setting
    perform setting rest

def script {α : Type} (setting : Setting) (deeds : List Deed) (value : α) : Run α := do
  perform setting deeds
  return value

section Scripts

variable {α β : Type} {setting : Setting}

theorem perform_append (first second : List Deed) :
    perform setting (first ++ second) = (do perform setting first; perform setting second) := by
  induction first with
  | nil => rfl
  | cons deed rest ih => simp only [List.cons_append, perform, ih, bind_assoc]

theorem script_bind (deeds : List Deed) (value : α) (next : α → Run β) :
    (script setting deeds value >>= next) = (do perform setting deeds; next value) := by
  simp only [script, bind_assoc, pure_bind]

theorem script_append (first second : List Deed) (value : α) :
    script setting (first ++ second) value = (do perform setting first; script setting second value) := by
  simp only [script, perform_append, bind_assoc]

theorem script_bind_eq {deeds later : List Deed} {value : α} {result : β} {next : α → Run β}
    (then_ : next value = script setting later result) :
    (script setting deeds value >>= next) = script setting (deeds ++ later) result := by
  rw [script_bind, then_, script_append]

theorem perform_singleton (deed : Deed) : perform setting [deed] = deed.perform setting := by
  simp only [perform, bind_pure_unit]

/-- A part that is a script from some progress on. -/
theorem bind_at {first : Run α} {deeds : List Deed} {value : α} {before : Progress}
    (same : first before = script setting deeds value before) (next : α → Run β) :
    (first >>= next) before = (do perform setting deeds; next value : Run β) before := by
  rw [← script_bind deeds value next]
  change Run.bind first next before = Run.bind (script setting deeds value) next before
  unfold Run.bind
  rw [same]

/-- What follows after deeds has to agree only where they lead to. -/
theorem perform_bind_congr {deeds : List Deed} {before : Progress} {next other : Run β}
    (agree : ∀ reached, perform setting deeds before = (some (), reached) →
      next reached = other reached) :
    (do perform setting deeds; next : Run β) before =
      (do perform setting deeds; other : Run β) before := by
  change Run.bind (perform setting deeds) _ before = Run.bind (perform setting deeds) _ before
  unfold Run.bind
  cases done : perform setting deeds before with
  | mk value reached =>
    cases value with
    | none => rfl
    | some _ => exact agree reached done

/-- A fold whose parts are scripts on the values that it comes by. -/
theorem foldlM_eq_script {f : α → β → Run α} {deeds : β → List Deed} {step : α → β → α}
    (comesBy : α → List β → Prop)
    (each : ∀ value item rest, comesBy value (item :: rest) →
      f value item = script setting (deeds item) (step value item))
    (keeps : ∀ value item rest, comesBy value (item :: rest) → comesBy (step value item) rest)
    {items : List β} {value : α} (start : comesBy value items) :
    items.foldlM f value = script setting (items.flatMap deeds) (items.foldl step value) := by
  induction items generalizing value with
  | nil => rfl
  | cons item rest ih =>
    rw [List.foldlM_cons, each value item rest start, List.flatMap_cons, List.foldl_cons]
    exact script_bind_eq (ih (keeps value item rest start))

end Scripts

def Progress.calls (progress : Progress) : List Call := progress.log.map LogEntry.call

def storesAfter (pods : List Pod) : List (String × Pod) → List (List Pod)
  | [] => []
  | (name, pod) :: rest =>
    let stored := Cluster.replaceFirst name pod pods
    stored :: storesAfter stored rest

def storeAll (pods : List Pod) (writes : List (String × Pod)) : List Pod :=
  writes.foldl (fun pods write => Cluster.replaceFirst write.1 write.2 pods) pods

theorem storesAfter_append (pods : List Pod) (first second : List (String × Pod)) :
    storesAfter pods (first ++ second) =
      storesAfter pods first ++ storesAfter (storeAll pods first) second := by
  induction first generalizing pods with
  | nil => rfl
  | cons write rest ih => exact congrArg _ (ih _)

theorem storeAll_append (pods : List Pod) (first second : List (String × Pod)) :
    storeAll pods (first ++ second) = storeAll (storeAll pods first) second :=
  List.foldl_append

/-- All that the deeds leave behind, the times apart. -/
structure Performed (made : List Deed) (before after : Progress) : Prop where
  calls : after.calls = before.calls ++ made.filterMap Deed.call?
  pods : after.pods = storeAll before.pods (made.filterMap Deed.write?)
  history : after.history = before.history ++ storesAfter before.pods (made.filterMap Deed.write?)
  results : after.results = made.foldl Deed.note before.results

namespace Performed

variable {first second : List Deed} {before middle after : Progress}

theorem nil (progress : Progress) : Performed [] progress progress :=
  ⟨by simp, rfl, by simp [storesAfter], rfl⟩

theorem append (begun : Performed first before middle) (done : Performed second middle after) :
    Performed (first ++ second) before after where
  calls := by rw [done.calls, begun.calls, List.filterMap_append, List.append_assoc]
  pods := by rw [done.pods, begun.pods, List.filterMap_append, storeAll_append]
  history := by
    rw [done.history, begun.history, begun.pods, List.filterMap_append, storesAfter_append,
      List.append_assoc]
  results := by rw [done.results, begun.results, List.foldl_append]

end Performed

theorem wait_snd (cutoff : Option Nat) (delay : Nat) (before : Progress) :
    ∃ now, (Run.wait cutoff delay before).2 = { before with now := now } := by
  unfold Run.wait
  dsimp only
  split
  · exact ⟨before.now, rfl⟩
  · split
    · exact ⟨_, rfl⟩
    · exact ⟨_, rfl⟩

theorem waitWithin_snd (cutoff : Option Nat) (deadline delay : Nat) (before : Progress) :
    ∃ now, (Run.waitWithin cutoff deadline delay before).2 = { before with now := now } := by
  unfold Run.waitWithin
  dsimp only
  split
  · exact ⟨before.now, rfl⟩
  · split
    · exact ⟨_, rfl⟩
    · split
      · exact ⟨_, rfl⟩
      · exact ⟨_, rfl⟩

/-- What a deed leaves behind is there even when it is abandoned in its own wait. -/
theorem performed_deed (setting : Setting) (deed : Deed) (before : Progress) :
    Performed [deed] before (deed.perform setting before).2 := by
  cases deed with
  | call made =>
    exact ⟨by simp [Deed.perform, Run.log, Run.modify, Progress.calls, Deed.call?], rfl,
      (List.append_nil _).symm, rfl⟩
  | event severity object reason message =>
    obtain ⟨now, waited⟩ := wait_snd setting.cutoff (setting.replies.publishAfter before.log.length)
      { before with log := before.log ++ [⟨before.now, .event severity object reason message⟩] }
    change Performed _ before (Run.wait _ _ _).2
    rw [waited]
    exact ⟨by simp [Progress.calls, Deed.call?], rfl, (List.append_nil _).symm, rfl⟩
  | wait delay =>
    obtain ⟨now, waited⟩ := wait_snd setting.cutoff delay before
    change Performed _ before (Run.wait _ _ _).2
    rw [waited]
    exact ⟨(List.append_nil _).symm, rfl, (List.append_nil _).symm, rfl⟩
  | waitUpTo time delay =>
    obtain ⟨now, waited⟩ := waitWithin_snd setting.cutoff (before.now + time) delay before
    have same : ((Deed.waitUpTo time delay).perform setting before).2 =
        (Run.waitWithin setting.cutoff (before.now + time) delay before).2 := by
      change (Run.bind (Run.waitWithin _ _ _) _ before).2 = _
      unfold Run.bind
      cases Run.waitWithin setting.cutoff (before.now + time) delay before with
      | mk value reached => cases value <;> rfl
    rw [same, waited]
    exact ⟨(List.append_nil _).symm, rfl, (List.append_nil _).symm, rfl⟩
  | store name pod => exact ⟨(List.append_nil _).symm, rfl, rfl, rfl⟩
  | fail fault => exact ⟨(List.append_nil _).symm, rfl, (List.append_nil _).symm, rfl⟩
  | requeueAfter delay => exact ⟨(List.append_nil _).symm, rfl, (List.append_nil _).symm, rfl⟩

/-- Of a script, a first part is done, and all of it unless it is abandoned. -/
theorem perform_prefix (setting : Setting) (deeds : List Deed) (before : Progress) :
    ∃ made, made <+: deeds ∧ Performed made before (perform setting deeds before).2 ∧
      ((perform setting deeds before).1 = some () → made = deeds) := by
  induction deeds generalizing before with
  | nil => exact ⟨[], List.prefix_refl _, .nil before, fun _ => rfl⟩
  | cons deed rest ih =>
    have here := performed_deed setting deed before
    cases outcome : deed.perform setting before with
    | mk value middle =>
      rw [outcome] at here
      cases value with
      | none =>
        have done : perform setting (deed :: rest) before = (none, middle) :=
          Run.bind_of_none _ outcome
        rw [done]
        exact ⟨[deed], ⟨rest, rfl⟩, here, fun done => absurd done (by simp)⟩
      | some _ =>
        have done : perform setting (deed :: rest) before = perform setting rest middle :=
          Run.bind_of_some _ outcome
        obtain ⟨made, isPrefix, performed, whole⟩ := ih middle
        rw [done]
        refine ⟨deed :: made, (List.prefix_cons_inj deed).mpr isPrefix, here.append performed, ?_⟩
        exact fun complete => congrArg _ (whole complete)

/-- Without a cutoff nothing is abandoned. -/
theorem perform_of_uncut {setting : Setting} (uncut : setting.cutoff = none) (deeds : List Deed)
    (before : Progress) : (perform setting deeds before).1 = some () := by
  have waits (delay : Nat) (before : Progress) : (Run.wait setting.cutoff delay before).1 = some () := by
    rw [uncut, Run.wait]
    split <;> rfl
  have waitsWithin (deadline delay : Nat) (before : Progress) :
      ∃ inTime after, Run.waitWithin setting.cutoff deadline delay before = (some inTime, after) := by
    rw [uncut, Run.waitWithin]
    split
    · exact ⟨_, _, rfl⟩
    · split
      · exact ⟨_, _, rfl⟩
      · exact ⟨_, _, rfl⟩
  induction deeds generalizing before with
  | nil => rfl
  | cons deed rest ih =>
    have here : (deed.perform setting before).1 = some () := by
      cases deed with
      | event severity object reason message => exact waits _ _
      | wait delay => exact waits delay before
      | waitUpTo time delay =>
        obtain ⟨inTime, after, done⟩ := waitsWithin (before.now + time) delay before
        exact congrArg Prod.fst (Run.bind_of_some _ done)
      | call made => rfl
      | store name pod => rfl
      | fail fault => rfl
      | requeueAfter delay => rfl
    cases outcome : deed.perform setting before with
    | mk value middle =>
      rw [outcome] at here
      cases here
      exact (congrArg Prod.fst (Run.bind_of_some _ outcome)).trans (ih middle)

/-- What the first deed leaves behind is there, even when the script is abandoned. -/
theorem perform_cons_prefix (setting : Setting) (deed : Deed) (rest : List Deed) (before : Progress) :
    ∃ made, made <+: rest ∧
      Performed (deed :: made) before (perform setting (deed :: rest) before).2 := by
  have here := performed_deed setting deed before
  cases outcome : deed.perform setting before with
  | mk value middle =>
    rw [outcome] at here
    cases value with
    | none =>
      rw [show perform setting (deed :: rest) before = (none, middle) from Run.bind_of_none _ outcome]
      exact ⟨[], List.nil_prefix, here⟩
    | some _ =>
      obtain ⟨made, isPrefix, performed, _⟩ := perform_prefix setting rest middle
      rw [show perform setting (deed :: rest) before = perform setting rest middle from
        Run.bind_of_some _ outcome]
      exact ⟨made, isPrefix, here.append performed⟩

namespace Setting

variable {setting : Setting}

theorem call_eq (call : Call) (reply : Reply) :
    setting.call call reply = script setting [.call call, .wait reply.delay] reply.outcome := by
  simp only [Setting.call, script, perform, Deed.perform, bind_assoc, pure_bind]

private theorem waitWithin_eq_some {cutoff : Option Nat} {time delay : Nat} {before after : Progress}
    {inTime : Bool}
    (done : Run.waitWithin cutoff (before.now + time) delay before = (some inTime, after)) :
    inTime = decide (delay ≤ time) ∧ after.now = before.now + min delay time := by
  unfold Run.waitWithin at done
  by_cases atOnce : delay = 0
  · rw [if_pos atOnce] at done
    cases done
    simp [atOnce]
  · rw [if_neg atOnce] at done
    by_cases early : delay ≤ time
    · by_cases allowed : Run.isBy cutoff (before.now + delay) = true
      · rw [if_pos (by simp [early, allowed])] at done
        cases done
        simp [early]
      · have late : ¬Run.isBy cutoff (before.now + time) = true := by
          cases cutoff with
          | none => exact absurd rfl allowed
          | some limit =>
            simp only [Run.isBy, decide_eq_true_eq] at allowed ⊢
            omega
        rw [if_neg (by simp [allowed]), if_neg late] at done
        cases done
    · rw [if_neg (by simp [early])] at done
      split at done
      · cases done
        simp only [early, decide_false, true_and]
        omega
      · cases done

/-- What comes of a call with so much time to answer; `after` is what the failure says of it. -/
def answered (operation : String) (after time : Nat) (reply : Reply) : Except Fault Unit :=
  if reply.delay ≤ time then reply.outcome else .error (.timeout operation (.ofMilliseconds after))

/-- What comes of a call with a deadline follows from the time that is left when it is made. -/
theorem callWithin_at {time deadline : Nat} {before : Progress} (left : before.now + time = deadline)
    (operation : String) (after : Nat) (call : Call) (reply : Reply) :
    setting.callWithin deadline operation after call reply before =
      script setting [.call call, .waitUpTo time reply.delay]
        (answered operation after time reply) before := by
  subst left
  let logged : Progress := { before with log := before.log ++ [⟨before.now, call⟩] }
  change Run.bind (Run.waitWithin _ (logged.now + time) _) _ logged =
    Run.bind (Run.bind (Run.bind (Run.waitWithin _ (logged.now + time) _) _) _) _ logged
  unfold Run.bind
  cases outcome : Run.waitWithin setting.cutoff (logged.now + time) reply.delay logged with
  | mk value reached =>
    cases value with
    | none => rfl
    | some inTime =>
      obtain ⟨same, _⟩ := waitWithin_eq_some outcome
      subst same
      by_cases early : reply.delay ≤ time <;> simp [early, answered, Run.pure_apply] <;> rfl

theorem now_of_timedCall {time delay : Nat} {call : Call} {before reached : Progress}
    (done : perform setting [.call call, .waitUpTo time delay] before = (some (), reached)) :
    reached.now = before.now + min delay time := by
  let logged : Progress := { before with log := before.log ++ [⟨before.now, call⟩] }
  change Run.bind (Run.bind (Run.waitWithin _ (logged.now + time) _) _) _ logged = _ at done
  unfold Run.bind at done
  cases outcome : Run.waitWithin setting.cutoff (logged.now + time) delay logged with
  | mk value last =>
    rw [outcome] at done
    cases value with
    | none => cases done
    | some inTime =>
      cases done
      exact (waitWithin_eq_some outcome).2

end Setting

end TabletDrain
