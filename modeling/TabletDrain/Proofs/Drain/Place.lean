import TabletDrain.Proofs.Drain.Settling

/-! The one place for a finished pod over many steps. Two steps settle the states of a shard: a third
one changes nothing, whoever is primary at each of them. While requests come and go and the primary
changes, at most one pod is finished, and the finished one stays so until it is removed. -/
namespace TabletDrain.Drain

open DrainState

section Steps

variable {states : Keyed DrainState} {primary : Option String} {key : String} {state : DrainState}

theorem advance_eq_empty (idle : ∀ key state, states.get? key = some state → state = notDraining) :
    advance states primary = .empty := by
  apply Keyed.ext_get?
  intro key
  apply Option.eq_none_iff_forall_ne_some.mpr
  intro state stepped
  obtain ⟨old, found, requested⟩ := exists_of_get?_advance stepped
  exact requested (idle key old found)

theorem atMostOneFinished_advance (states : Keyed DrainState) (primary : Option String) :
    AtMostOneFinished (advance states primary) :=
  fun _ _ => finished_unique

/-- Whoever alone is finished stays so. -/
theorem get?_advance_of_finished (single : AtMostOneFinished states)
    (found : states.get? key = some finished) :
    (advance states primary).get? key = some finished := by
  refine get?_advance_eq_finished_iff.mpr (.inl ⟨found, fun other found' => ?_⟩)
  cases single key other found found'
  exact String.le_refl _

/-- Of two steps the second one finishes a pod, unless the first one has. -/
theorem exists_finished_advance_advance (requested : states.get? key = some state)
    (active : state ≠ notDraining) (first second : Option String) :
    ∃ key, (advance (advance states first) second).get? key = some finished := by
  have single := atMostOneFinished_advance states first
  by_cases settled : ∃ key, (advance states first).get? key = some finished
  · obtain ⟨key, found⟩ := settled
    exact ⟨key, get?_advance_of_finished single found⟩
  · have quiet : ¬Busy (advance states first) := by
      rintro ⟨other, isFinished | isNew⟩
      · exact settled ⟨other, isFinished⟩
      · rcases state_of_get?_advance isNew with same | same <;> cases same
    obtain ⟨after, stepped⟩ : ∃ after, (advance states first).get? key = some after :=
      exists_get?_advance requested active
    have waits : (advance states first).get? key = some acknowledged := by
      rcases state_of_get?_advance stepped with same | same
      · exact same ▸ stepped
      · exact absurd ⟨key, same ▸ stepped⟩ settled
    obtain ⟨promoted, turn⟩ := exists_promoted_of_waits quiet waits second
    exact ⟨promoted, get?_advance_eq_finished_iff.mpr (.inr turn)⟩

end Steps

structure Roster where
  states : Keyed DrainState
  primary : Option String

inductive Change where
  | step
  | elect (primary : Option String)
  | remove (key : String)
  | request (key : String)
  deriving DecidableEq

/-- What a change makes of a roster. A request is new only under a key that is not there. -/
inductive Roster.Changes : Roster → Change → Roster → Prop
  | step (roster : Roster) :
      Changes roster .step { roster with states := advance roster.states roster.primary }
  | elect (roster : Roster) (primary : Option String) :
      Changes roster (.elect primary) { roster with primary := primary }
  | remove (roster : Roster) (key : String) :
      Changes roster (.remove key) { roster with states := roster.states.erase key }
  | request (roster : Roster) (key : String) (absent : roster.states.get? key = none) :
      Changes roster (.request key) { roster with states := roster.states.insert key draining }

/-- One change after another. -/
inductive Roster.Passes : Roster → List Change → Roster → Prop
  | nil (roster : Roster) : Passes roster [] roster
  | cons {roster next later : Roster} {change : Change} {changes : List Change}
      (first : Changes roster change next) (rest : Passes next changes later) :
      Passes roster (change :: changes) later

namespace Roster

variable {roster later : Roster} {change : Change} {changes : List Change} {key : String}

theorem Changes.atMostOneFinished (changed : Changes roster change later)
    (single : AtMostOneFinished roster.states) : AtMostOneFinished later.states := by
  cases changed with
  | step => exact atMostOneFinished_advance _ _
  | elect => exact single
  | remove removed =>
    intro key other found found'
    simp only [Keyed.get?_erase, Option.ite_none_left_eq_some] at found found'
    exact single key other found.2 found'.2
  | request new =>
    intro key other found found'
    simp only [Keyed.get?_insert] at found found'
    split at found
    · cases found
    · split at found'
      · cases found'
      · exact single key other found found'

theorem Changes.stays_finished (changed : Changes roster change later)
    (single : AtMostOneFinished roster.states) (found : roster.states.get? key = some finished)
    (kept : change ≠ .remove key) : later.states.get? key = some finished := by
  cases changed with
  | step => exact get?_advance_of_finished single found
  | elect => exact found
  | remove removed =>
    have other : removed ≠ key := fun same => kept (congrArg Change.remove same)
    rw [Keyed.get?_erase, if_neg other, found]
  | request new absent =>
    have other : new ≠ key := by
      rintro rfl
      rw [absent] at found
      cases found
    rw [Keyed.get?_insert, if_neg other, found]

theorem Passes.atMostOneFinished (passed : Passes roster changes later)
    (single : AtMostOneFinished roster.states) : AtMostOneFinished later.states := by
  induction passed with
  | nil => exact single
  | cons first _ ih => exact ih (first.atMostOneFinished single)

theorem Passes.stays_finished (passed : Passes roster changes later)
    (single : AtMostOneFinished roster.states) (found : roster.states.get? key = some finished)
    (kept : .remove key ∉ changes) : later.states.get? key = some finished := by
  induction passed with
  | nil => exact found
  | cons first _ ih =>
    obtain ⟨here, afterwards⟩ := not_or.mp (mt List.mem_cons.mpr kept)
    refine ih (first.atMostOneFinished single) ?_ afterwards
    exact first.stays_finished single found fun same => here same.symm

end Roster

theorem settles_and_keeps_place :
    (∀ (states : Keyed DrainState) (first second third : Option String),
      let settled := advance (advance states first) second
      advance settled third = settled ∧
        ((∃ key state, states.get? key = some state ∧ state ≠ notDraining) →
          ∃! key, settled.get? key = some finished) ∧
        ((∀ key state, states.get? key = some state → state = notDraining) → settled = .empty)) ∧
      ∀ {start roster later : Roster} {before after : List Change},
        AtMostOneFinished start.states → start.Passes before roster → roster.Passes after later →
          AtMostOneFinished roster.states ∧
            ∀ key, roster.states.get? key = some finished → .remove key ∉ after →
              later.states.get? key = some finished := by
  constructor
  · intro states first second third settled
    have single : AtMostOneFinished settled := atMostOneFinished_advance _ _
    have occupied (requested : ∃ key state, states.get? key = some state ∧ state ≠ notDraining) :
        ∃ key, settled.get? key = some finished := by
      obtain ⟨key, state, found, active⟩ := requested
      exact exists_finished_advance_advance found active first second
    have vacant (idle : ∀ key state, states.get? key = some state → state = notDraining) :
        settled = .empty := by
      have none : advance states first = .empty := advance_eq_empty idle
      refine advance_eq_empty fun key state found => ?_
      rw [none] at found
      cases found
    refine ⟨?_, fun requested => ?_, vacant⟩
    · by_cases requested : ∃ key state, states.get? key = some state ∧ state ≠ notDraining
      · obtain ⟨key, found⟩ := occupied requested
        exact advance_advance_of_finished found third
      · have idle : ∀ key state, states.get? key = some state → state = notDraining := by
          simpa using requested
        rw [vacant idle]
        exact advance_eq_empty fun _ _ found => by cases found
    · obtain ⟨key, found⟩ := occupied requested
      exact ⟨key, found, fun other found' => single other key found' found⟩
  · intro start roster later before after single passed passes
    have single' := passed.atMostOneFinished single
    exact ⟨single', fun key found kept => passes.stays_finished single' found kept⟩

theorem settles_and_keeps_place_sample :
    let states := advance (.ofList [("a", acknowledged), ("b", acknowledged)]) (some "a")
    let start : Roster := ⟨states, some "a"⟩
    AtMostOneFinished start.states ∧ ∃ roster later : Roster,
      start.Passes [.request "c", .step] roster ∧
      roster.Passes [.elect (some "b"), .remove "a", .step] later ∧
      roster.states.get? "b" = some finished ∧ AtMostOneFinished roster.states ∧
      later.states.get? "b" = some finished := by
  intro states start
  have single : AtMostOneFinished start.states := atMostOneFinished_advance _ _
  obtain ⟨roster, passed, found⟩ : ∃ roster : Roster,
      start.Passes [.request "c", .step] roster ∧ roster.states.get? "b" = some finished :=
    ⟨_, .cons (.request _ "c" (by decide +kernel)) (.cons (.step _) (.nil _)), by decide +kernel⟩
  obtain ⟨later, passes⟩ : ∃ later : Roster,
      roster.Passes [.elect (some "b"), .remove "a", .step] later :=
    ⟨_, .cons (.elect _ _) (.cons (.remove _ _) (.cons (.step _) (.nil _)))⟩
  have kept : Change.remove "b" ∉ [Change.elect (some "b"), .remove "a", .step] := by decide
  obtain ⟨single', stays⟩ := settles_and_keeps_place.2 single passed passes
  exact ⟨single, roster, later, passed, passes, found, single', stays "b" found kept⟩

end TabletDrain.Drain
