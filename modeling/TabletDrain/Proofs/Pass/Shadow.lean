import TabletDrain.Proofs.Pass.Script

/-! Two lists of deeds of which one leaves out what the other does to the shard. As long as the calls
that are left out take no time, both runs do the rest at the same times, and end alike. -/
namespace TabletDrain

/-- The call acts on the shard, or tells of having acted. -/
def Call.isAct : Call → Bool
  | .updatePod _ | .execute .. | .plannedReparent _ | .externallyReparented _
  | .changeTabletType .. | .metric .. => true
  | .event _ _ reason _ => reason = "MySQL_Upgrade" || reason = "PlannedReparent"
  | _ => false

/-- The deed neither acts nor writes. -/
def Deed.IsPlain : Deed → Prop
  | .call made => made.isAct = false
  | .event _ _ reason _ => reason ≠ "MySQL_Upgrade" ∧ reason ≠ "PlannedReparent"
  | .store .. => False
  | _ => True

theorem Deed.IsPlain.call {deed : Deed} (plain : deed.IsPlain) {call : Call}
    (calls : deed.call? = some call) : call.isAct = false := by
  cases deed with
  | call made =>
    cases calls
    exact plain
  | event severity object reason message =>
    cases calls
    simpa [IsPlain, Call.isAct] using plain
  | _ => cases calls

/-- Nothing is left of the deed in the log, the clock or the results. -/
def Deed.IsIdle : Deed → Prop
  | .wait delay => delay = 0
  | .waitUpTo _ delay => delay = 0
  | .store .. => True
  | _ => False

/-- The second list leaves out acts of the first, and deeds that take no time. What follows a call has
to fit only where the call is a good one. -/
inductive Shadows (good : Call → Prop) : List Deed → List Deed → Prop where
  | nil : Shadows good [] []
  | both {deed : Deed} {live dry : List Deed} (plain : deed.IsPlain)
      (rest : (∀ call, deed.call? = some call → good call) → Shadows good live dry) :
      Shadows good (deed :: live) (deed :: dry)
  | skip {deed : Deed} {call : Call} {live dry : List Deed} (calls : deed.call? = some call)
      (acts : good call → call.isAct = true) (rest : good call → Shadows good live dry) :
      Shadows good (deed :: live) dry
  | idle {deed : Deed} {live dry : List Deed} (idle : deed.IsIdle) (rest : Shadows good live dry) :
      Shadows good (deed :: live) dry

namespace Shadows

variable {good : Call → Prop} {live dry later later' : List Deed}

theorem append (first : Shadows good live dry)
    (second : (∀ call ∈ live.filterMap Deed.call?, good call) → Shadows good later later') :
    Shadows good (live ++ later) (dry ++ later') := by
  induction first with
  | nil => exact second (by simp)
  | both plain rest ih =>
    refine .both plain fun here => ih here fun others => second fun call inside => ?_
    obtain ⟨deed, member, called⟩ := List.mem_filterMap.mp inside
    rcases List.mem_cons.mp member with same | member
    · exact here call (same ▸ called)
    · exact others call (List.mem_filterMap.mpr ⟨deed, member, called⟩)
  | skip calls acts rest ih =>
    refine .skip calls acts fun here => ih here fun others => second ?_
    rw [List.filterMap_cons_some calls]
    exact List.forall_mem_cons.mpr ⟨here, others⟩
  | @idle deed live dry idle rest ih =>
    refine .idle idle (ih fun others => second ?_)
    have silent : deed.call? = none := by
      cases deed <;> first | rfl | exact absurd idle id
    rw [List.filterMap_cons_none silent]
    exact others

/-- The first list alone goes on with acts. -/
theorem before (first : Shadows good live [])
    (second : (∀ call ∈ live.filterMap Deed.call?, good call) → Shadows good later dry) :
    Shadows good (live ++ later) dry := first.append second

theorem refl (plain : ∀ deed ∈ live, deed.IsPlain) : Shadows good live live := by
  induction live with
  | nil => exact .nil
  | cons deed rest ih =>
    obtain ⟨here, others⟩ := List.forall_mem_cons.mp plain
    exact .both here fun _ => ih others

theorem flatMap {α : Type} {items : List α} {first second : α → List Deed}
    (each : ∀ item ∈ items, Shadows good (first item) (second item)) :
    Shadows good (items.flatMap first) (items.flatMap second) := by
  induction items with
  | nil => exact .nil
  | cons item rest ih =>
    obtain ⟨here, others⟩ := List.forall_mem_cons.mp each
    exact here.append fun _ => ih others

end Shadows

/-- The first run has come as far as the second, the acts apart. -/
structure Progress.Shadows (dry live : Progress) : Prop where
  now : dry.now = live.now
  log : dry.log = live.log.filter fun entry => !entry.call.isAct
  results : dry.results = live.results

section Runs

variable {setting : Setting} {good : Call → Prop} {deed : Deed} {live dry : List Deed}
  {before before' : Progress}

private theorem logged_shadows (alike : before'.Shadows before) (call : Call)
    (plain : call.isAct = false) :
    Progress.Shadows { before' with log := before'.log ++ [⟨before'.now, call⟩] }
      { before with log := before.log ++ [⟨before.now, call⟩] } where
  now := alike.now
  log := by
    dsimp only
    rw [List.filter_append, ← alike.log, alike.now]
    simp [plain]
  results := alike.results

private theorem wait_shadows (alike : before'.Shadows before) (cutoff : Option Nat) (delay : Nat) :
    (Run.wait cutoff delay before').1 = (Run.wait cutoff delay before).1 ∧
      (Run.wait cutoff delay before').2.Shadows (Run.wait cutoff delay before).2 := by
  unfold Run.wait
  dsimp only
  rw [alike.now]
  split
  · exact ⟨rfl, alike⟩
  · split
    · exact ⟨rfl, rfl, alike.log, alike.results⟩
    · exact ⟨rfl, rfl, alike.log, alike.results⟩

private theorem waitWithin_shadows (alike : before'.Shadows before) (cutoff : Option Nat)
    (deadline delay : Nat) :
    (Run.waitWithin cutoff deadline delay before').1 =
        (Run.waitWithin cutoff deadline delay before).1 ∧
      (Run.waitWithin cutoff deadline delay before').2.Shadows
        (Run.waitWithin cutoff deadline delay before).2 := by
  unfold Run.waitWithin
  dsimp only
  rw [alike.now]
  split
  · exact ⟨rfl, alike⟩
  · split
    · exact ⟨rfl, rfl, alike.log, alike.results⟩
    · split
      · exact ⟨rfl, rfl, alike.log, alike.results⟩
      · exact ⟨rfl, rfl, alike.log, alike.results⟩

/-- Publishing takes no time where an event is a good call. -/
def EventsAtOnce (setting : Setting) (good : Call → Prop) : Prop :=
  ∀ severity object reason message, good (.event severity object reason message) →
    ∀ calls, setting.replies.publishAfter calls = 0

variable (atOnce : EventsAtOnce setting good)

include atOnce

private theorem perform_both (plain : deed.IsPlain)
    (heeded : ∀ call, deed.call? = some call → good call) (alike : before'.Shadows before) :
    (deed.perform setting before').1 = (deed.perform setting before).1 ∧
      (deed.perform setting before').2.Shadows (deed.perform setting before).2 := by
  cases deed with
  | call made => exact ⟨rfl, logged_shadows alike made plain⟩
  | event severity object reason message =>
    have quick := atOnce _ _ _ _ (heeded _ rfl)
    have waits (progress : Progress) :
        (Deed.event severity object reason message).perform setting progress =
          (some (), { progress with
            log := progress.log ++ [⟨progress.now, .event severity object reason message⟩] }) := by
      change Run.wait setting.cutoff (setting.replies.publishAfter progress.log.length) _ = _
      rw [quick]
      rfl
    rw [waits, waits]
    exact ⟨rfl, logged_shadows alike _ (plain.call rfl)⟩
  | wait delay => exact wait_shadows alike setting.cutoff delay
  | waitUpTo time delay =>
    obtain ⟨same, alike'⟩ := waitWithin_shadows alike setting.cutoff (before.now + time) delay
    change (Run.bind (Run.waitWithin _ (before'.now + time) _) _ before').1 =
        (Run.bind (Run.waitWithin _ (before.now + time) _) _ before).1 ∧
      (Run.bind (Run.waitWithin _ (before'.now + time) _) _ before').2.Shadows
        (Run.bind (Run.waitWithin _ (before.now + time) _) _ before).2
    rw [alike.now]
    unfold Run.bind
    cases first : Run.waitWithin setting.cutoff (before.now + time) delay before with
    | mk value reached =>
      cases second : Run.waitWithin setting.cutoff (before.now + time) delay before' with
      | mk value' reached' =>
        rw [first, second] at same alike'
        dsimp only at same alike'
        subst same
        cases value' with
        | none => exact ⟨rfl, alike'⟩
        | some _ => exact ⟨rfl, alike'⟩
  | store name pod => exact absurd plain id
  | fail fault => exact ⟨rfl, alike.now, alike.log, congrArg (·.fail fault) alike.results⟩
  | requeueAfter delay =>
    exact ⟨rfl, alike.now, alike.log, congrArg (·.requeueAfter delay) alike.results⟩

private theorem perform_skip {call : Call} (calls : deed.call? = some call)
    (heeded : good call) (acts : call.isAct = true) (alike : before'.Shadows before) :
    ∃ reached, deed.perform setting before = (some (), reached) ∧ before'.Shadows reached := by
  have logged : before'.Shadows { before with log := before.log ++ [⟨before.now, call⟩] } := by
    refine ⟨alike.now, ?_, alike.results⟩
    dsimp only
    rw [List.filter_append, ← alike.log]
    simp [acts]
  cases deed with
  | call made =>
    cases calls
    exact ⟨_, rfl, logged⟩
  | event severity object reason message =>
    cases calls
    refine ⟨_, ?_, logged⟩
    change Run.wait setting.cutoff (setting.replies.publishAfter before.log.length) _ = _
    rw [atOnce _ _ _ _ heeded]
    rfl
  | _ => cases calls

omit atOnce in
private theorem perform_idle (idle : deed.IsIdle) (alike : before'.Shadows before) :
    ∃ reached, deed.perform setting before = (some (), reached) ∧ before'.Shadows reached := by
  cases deed with
  | wait delay =>
    cases idle
    exact ⟨before, rfl, alike⟩
  | waitUpTo time delay =>
    cases idle
    exact ⟨before, rfl, alike⟩
  | store name pod => exact ⟨_, rfl, alike.now, alike.log, alike.results⟩
  | _ => exact absurd idle id

omit atOnce in
private theorem mem_calls_perform_cons {call : Call} (calls : deed.call? = some call) :
    call ∈ (perform setting (deed :: live) before).2.calls := by
  have here := (performed_deed setting deed before).calls
  cases outcome : deed.perform setting before with
  | mk value middle =>
    rw [outcome] at here
    have member : call ∈ middle.calls := by
      rw [here]
      exact List.mem_append_right _ (List.mem_filterMap.mpr ⟨deed, List.mem_cons_self, calls⟩)
    cases value with
    | none =>
      have done : perform setting (deed :: live) before = (none, middle) := Run.bind_of_none _ outcome
      rw [done]
      exact member
    | some _ =>
      have done : perform setting (deed :: live) before = perform setting live middle :=
        Run.bind_of_some _ outcome
      obtain ⟨made, _, performed, _⟩ := perform_prefix setting live middle
      rw [done, performed.calls]
      exact List.mem_append_left _ member

/-- Where all calls of the first run are good, the second goes on beside it to the end. -/
theorem perform_shadows (shadows : Shadows good live dry) (alike : before'.Shadows before)
    (heeded : ∀ call ∈ (perform setting live before).2.calls, good call) :
    (perform setting dry before').1 = (perform setting live before).1 ∧
      (perform setting dry before').2.Shadows (perform setting live before).2 := by
  induction shadows generalizing before before' with
  | nil => exact ⟨rfl, alike⟩
  | @both deed live dry plain rest ih =>
    have here (call : Call) (calls : deed.call? = some call) : good call :=
      heeded call (mem_calls_perform_cons calls)
    obtain ⟨same, alike'⟩ := perform_both atOnce plain here alike
    cases first : deed.perform setting before with
    | mk value reached =>
      cases second : deed.perform setting before' with
      | mk value' reached' =>
        rw [first, second] at same alike'
        dsimp only at same alike'
        subst same
        cases value' with
        | none =>
          have done : perform setting (deed :: live) before = (none, reached) :=
            Run.bind_of_none _ first
          have done' : perform setting (deed :: dry) before' = (none, reached') :=
            Run.bind_of_none _ second
          rw [done, done']
          exact ⟨rfl, alike'⟩
        | some _ =>
          have done : perform setting (deed :: live) before = perform setting live reached :=
            Run.bind_of_some _ first
          have done' : perform setting (deed :: dry) before' = perform setting dry reached' :=
            Run.bind_of_some _ second
          rw [done] at heeded ⊢
          rw [done']
          exact ih here alike' heeded
  | @skip deed call live dry calls acts rest ih =>
    have here : good call := heeded call (mem_calls_perform_cons calls)
    obtain ⟨reached, first, alike'⟩ := perform_skip atOnce calls here (acts here) alike
    have done : perform setting (deed :: live) before = perform setting live reached :=
      Run.bind_of_some _ first
    rw [done] at heeded ⊢
    exact ih here alike' heeded
  | @idle deed live dry idle rest ih =>
    obtain ⟨reached, first, alike'⟩ := perform_idle idle alike
    have done : perform setting (deed :: live) before = perform setting live reached :=
      Run.bind_of_some _ first
    rw [done] at heeded ⊢
    exact ih alike' heeded

end Runs

end TabletDrain
