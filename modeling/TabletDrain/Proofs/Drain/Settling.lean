import TabletDrain.Proofs.Drain.Advance
import TabletDrain.Proofs.Pod.View

/-! The markers of a shard from one pass to the next, when nothing else changes them. Answers without a
request are cleared first. The next round leaves no request new, and from then on a round asks again
for what the one before it asked for; so three rounds are enough, and two where nothing has to be
cleared. -/
namespace TabletDrain

namespace Markers

def cleared (markers : Markers) : Markers :=
  if markers.isAborted then { markers with acknowledged := false, finished := false } else markers

/-- The markers once a pod has the answer that a step gives it; a finish may be withheld. -/
def answered (markers : Markers) (state : Option DrainState) (withheld : Bool) : Markers :=
  match state with
  | some .finished =>
    if withheld then markers else { markers with acknowledged := true, finished := true }
  | some .acknowledged => { markers with acknowledged := true }
  | _ => markers

variable (markers : Markers) (state : Option DrainState) (withheld : Bool)

@[simp] theorem started_cleared : markers.cleared.started = markers.started := by
  unfold cleared
  split <;> rfl

@[simp] theorem isAborted_cleared : markers.cleared.isAborted = false := by
  unfold cleared
  split
  · simp [isAborted]
  · rename_i settled
    exact Bool.eq_false_iff.mpr settled

@[simp] theorem state_cleared : markers.cleared.state = markers.state := by
  unfold cleared
  split
  · rename_i aborted
    simp only [isAborted, Bool.and_eq_true, Bool.not_eq_true'] at aborted
    rw [(state_eq_notDraining_iff markers).mpr aborted.1]
    exact (state_eq_notDraining_iff ⟨_, _, _⟩).mpr aborted.1
  · rfl

@[simp] theorem started_answered : (markers.answered state withheld).started = markers.started := by
  unfold answered
  split
  · split <;> rfl
  · rfl
  · rfl

theorem finished_answered : (markers.answered state withheld).finished = true ↔
    markers.finished = true ∨ state = some .finished ∧ withheld = false := by
  unfold answered
  split
  · cases withheld <;> simp
  · simp
  · rename_i other _
    exact (or_iff_left fun due => other due.1).symm

/-- The same answer, given again, changes nothing. -/
theorem answered_answered :
    (markers.answered state withheld).answered state withheld = markers.answered state withheld := by
  rcases state with _ | _ | _ | _ | _
  · rfl
  · rfl
  · rfl
  · rfl
  · cases withheld <;> rfl

end Markers

namespace Drain

open DrainState

section States

variable {states : Keyed DrainState} {primary : Option String} {key first : String}
  {state : DrainState}

/-- Which keys a step finishes tells the whole step: it acknowledges all others that have a request. -/
theorem get?_advance_eq_some_iff
    (requested : ∀ key {old}, states.get? key = some old → old ≠ notDraining) :
    (advance states primary).get? key = some state ↔
      (states.get? key).isSome = true ∧
        ((advance states primary).get? key = some finished ∧ state = finished ∨
          (advance states primary).get? key ≠ some finished ∧ state = acknowledged) := by
  constructor
  · intro stepped
    obtain ⟨old, found, _⟩ := exists_of_get?_advance stepped
    refine ⟨Option.isSome_iff_exists.mpr ⟨old, found⟩, ?_⟩
    rw [stepped]
    rcases state_of_get?_advance stepped with same | same <;> simp [same]
  · intro both
    obtain ⟨isRequested, ⟨stepped, same⟩ | ⟨unfinished, same⟩⟩ := both
    · exact same ▸ stepped
    · obtain ⟨old, found⟩ := Option.isSome_iff_exists.mp isRequested
      obtain ⟨after, stepped⟩ : ∃ after, (advance states primary).get? key = some after :=
        exists_get?_advance found (requested key found)
      rcases state_of_get?_advance stepped with isAcknowledged | isFinished
      · rw [same, stepped, isAcknowledged]
      · exact absurd (isFinished ▸ stepped) unfinished

/-- A step that finishes a pod is the last: another one changes nothing, whoever is primary then. -/
theorem advance_advance_of_finished (finishes : (advance states primary).get? first = some finished)
    (successor : Option String) :
    advance (advance states primary) successor = advance states primary := by
  have isFinished (key : String) :
      (advance (advance states primary) successor).get? key = some finished ↔
        (advance states primary).get? key = some finished := by
    rw [get?_advance_eq_finished_iff]
    constructor
    · intro either
      rcases either with leads | promoted
      · exact leads.1
      · exact absurd ⟨first, .inl finishes⟩ promoted.1
    · intro found
      refine .inl ⟨found, fun other found' => ?_⟩
      cases finished_unique found found'
      exact String.le_refl _
  apply Keyed.ext_get?
  intro key
  apply Option.ext
  intro state
  constructor
  · intro stepped
    obtain ⟨old, found, _⟩ := exists_of_get?_advance stepped
    rcases state_of_get?_advance found with same | same <;>
      rcases state_of_get?_advance stepped with same' | same' <;> subst same <;> subst same'
    · exact found
    · exact (isFinished key).mp stepped
    · exact absurd ((isFinished key).mpr found ▸ stepped) (by decide)
    · exact found
  · intro found
    rcases state_of_get?_advance found with same | same
    · subst same
      obtain ⟨after, stepped⟩ :
          ∃ after, (advance (advance states primary) successor).get? key = some after :=
        exists_get?_advance found (by decide)
      rcases state_of_get?_advance stepped with same | same
      · exact same ▸ stepped
      · exact absurd ((isFinished key).mp (same ▸ stepped) ▸ found) (by decide)
    · exact same ▸ (isFinished key).mpr (same ▸ found)

end States

/-- The states that markers ask for. -/
def asked (marks : Keyed Markers) : Keyed DrainState :=
  (marks.filter fun _ markers => markers.started).map Markers.state

def anyAborted (marks : Keyed Markers) : Bool := marks.values.any Markers.isAborted

def answeredAll (primary : String) (marks : Keyed Markers) : Keyed Markers :=
  marks.mapKeyed fun key markers =>
    markers.answered ((advance (asked marks) (some primary)).get? key) (key = primary)

/-- What one pass makes of the markers: it clears answers, or it gives them. -/
def round (primary : String) (marks : Keyed Markers) : Keyed Markers :=
  if anyAborted marks then marks.map Markers.cleared else answeredAll primary marks

variable {marks : Keyed Markers} {primary key : String} {markers : Markers} {state : DrainState}

theorem asked_markers (view : Keyed Pod) : asked (view.map Pod.markers) = requests view := by
  apply Keyed.ext_get?
  intro key
  simp only [asked, requests, Keyed.get?_map, Keyed.get?_filter]
  cases view.get? key with
  | none => rfl
  | some pod => by_cases started : pod.markers.started = true <;> simp [Option.filter_some, started]

theorem get?_asked : (asked marks).get? key = some state ↔
    ∃ markers, marks.get? key = some markers ∧ markers.started = true ∧ markers.state = state := by
  simp only [asked, Keyed.get?_map, Keyed.get?_filter, Option.map_eq_some_iff,
    Option.filter_eq_some_iff, and_assoc]

theorem asked_ne_notDraining (found : (asked marks).get? key = some state) :
    state ≠ notDraining := by
  obtain ⟨markers, _, started, rfl⟩ := get?_asked.mp found
  rw [Ne, Markers.state_eq_notDraining_iff, started]
  decide

theorem anyAborted_eq_false_iff : anyAborted marks = false ↔
    ∀ key markers, marks.get? key = some markers → markers.isAborted = false := by
  simp only [anyAborted, Keyed.values, List.any_map, List.any_eq_false, Function.comp_apply,
    Bool.not_eq_true]
  constructor
  · intro quiet key markers found
    exact quiet (key, markers) (Keyed.mem_entries_iff.mpr found)
  · intro quiet entry inside
    exact quiet entry.1 entry.2 (Keyed.get?_of_mem inside)

theorem asked_cleared (marks : Keyed Markers) : asked (marks.map Markers.cleared) = asked marks := by
  apply Keyed.ext_get?
  intro key
  simp only [asked, Keyed.get?_map, Keyed.get?_filter]
  cases marks.get? key with
  | none => rfl
  | some markers =>
    by_cases started : markers.started = true <;> simp [Option.filter_some, started]

theorem get?_answeredAll : (answeredAll primary marks).get? key = (marks.get? key).map fun markers =>
    markers.answered ((advance (asked marks) (some primary)).get? key) (key = primary) :=
  Keyed.get?_mapKeyed _ _ _

theorem isSome_asked_answeredAll :
    ((asked (answeredAll primary marks)).get? key).isSome = ((asked marks).get? key).isSome := by
  simp only [asked, Keyed.get?_map, Keyed.get?_filter, Option.isSome_map, get?_answeredAll]
  cases marks.get? key with
  | none => rfl
  | some markers => by_cases started : markers.started = true <;> simp [started]

/-- A round finishes what was finished before, and the promoted one unless it is the primary. -/
theorem finished_answeredAll :
    (asked (answeredAll primary marks)).get? key = some finished ↔
      (asked marks).get? key = some finished ∨
        Promoted (asked marks) (some primary) key ∧ key ≠ primary := by
  have step := @get?_advance_eq_finished_iff (asked marks) (some primary) key
  constructor
  · intro found
    obtain ⟨after, stored, started, isFinished⟩ := get?_asked.mp found
    rw [get?_answeredAll, Option.map_eq_some_iff] at stored
    obtain ⟨before, listed, rfl⟩ := stored
    rw [Markers.started_answered] at started
    have isFinished := ((Markers.state_eq_finished_iff _).mp isFinished).2
    rcases (Markers.finished_answered _ _ _).mp isFinished with already | ⟨stepped, secondary⟩
    · exact .inl (get?_asked.mpr ⟨before, listed, started,
        (Markers.state_eq_finished_iff _).mpr ⟨started, already⟩⟩)
    · exact (step.mp stepped).imp (·.1) fun promoted => ⟨promoted, by simpa using secondary⟩
  · intro due
    have listed : ∃ markers, marks.get? key = some markers ∧ markers.started = true ∧
        (markers.finished = true ∨
          (advance (asked marks) (some primary)).get? key = some finished ∧ key ≠ primary) := by
      rcases due with found | ⟨promoted, secondary⟩
      · obtain ⟨markers, listed, started, isFinished⟩ := get?_asked.mp found
        exact ⟨markers, listed, started, .inl ((Markers.state_eq_finished_iff _).mp isFinished).2⟩
      · obtain ⟨markers, listed, started, _⟩ := get?_asked.mp promoted.2.1
        exact ⟨markers, listed, started, .inr ⟨step.mpr (.inr promoted), secondary⟩⟩
    obtain ⟨markers, listed, started, isFinished⟩ := listed
    refine get?_asked.mpr ⟨_, by rw [get?_answeredAll, listed]; rfl, by simpa using started, ?_⟩
    rw [Markers.state_eq_finished_iff, Markers.started_answered, Markers.finished_answered]
    exact ⟨started, isFinished.imp_right fun due => ⟨due.1, by simpa using due.2⟩⟩

/-- No request is new after a round. -/
theorem noneNew_answeredAll (primary key : String) (marks : Keyed Markers) :
    (asked (answeredAll primary marks)).get? key ≠ some draining := by
  intro found
  obtain ⟨after, stored, started, isNew⟩ := get?_asked.mp found
  rw [get?_answeredAll, Option.map_eq_some_iff] at stored
  obtain ⟨before, listed, rfl⟩ := stored
  rw [Markers.started_answered] at started
  obtain ⟨-, unacknowledged, unfinished⟩ := (Markers.state_eq_draining_iff _).mp isNew
  have requested := get?_asked.mpr ⟨before, listed, started, rfl⟩
  obtain ⟨next, stepped⟩ : ∃ next, (advance (asked marks) (some primary)).get? key = some next :=
    exists_get?_advance requested (asked_ne_notDraining requested)
  rw [stepped] at unacknowledged unfinished
  rcases state_of_get?_advance stepped with same | same
  · subst same
    cases unacknowledged
  · subst same
    -- A finish is withheld only where the pod is acknowledged or finished already.
    have answered : before.state = finished ∨ before.state = acknowledged := by
      rcases get?_advance_eq_finished_iff.mp stepped with leads | promoted
      · exact .inl (Option.some.inj (requested.symm.trans leads.1))
      · exact .inr (Option.some.inj (requested.symm.trans promoted.2.1))
    by_cases isPrimary : key = primary
    · rw [isPrimary, decide_eq_true rfl] at unacknowledged unfinished
      rcases answered with same | same
      · have isFinished := ((Markers.state_eq_finished_iff _).mp same).2
        exact absurd (isFinished.symm.trans unfinished) (by decide)
      · have isAcknowledged := ((Markers.state_eq_acknowledged_iff _).mp same).2.1
        exact absurd (isAcknowledged.symm.trans unacknowledged) (by decide)
    · rw [decide_eq_false isPrimary] at unacknowledged
      cases unacknowledged

section NoneNew

variable (noneNew : ∀ key, (asked marks).get? key ≠ some draining)

include noneNew

private theorem asked_eq_some_iff {found : DrainState} : (asked marks).get? key = some found ↔
    ((asked marks).get? key).isSome = true ∧
      ((asked marks).get? key = some finished ∧ found = finished ∨
        (asked marks).get? key ≠ some finished ∧ found = acknowledged) := by
  cases requested : (asked marks).get? key with
  | none => simp
  | some state =>
    cases state with
    | notDraining => exact absurd rfl (asked_ne_notDraining requested)
    | draining => exact absurd requested (noneNew key)
    | acknowledged => simp [eq_comm]
    | finished => simp [eq_comm]

/-- Where no request is new, the step after a round is the step of the round. -/
theorem advance_answeredAll :
    advance (asked (answeredAll primary marks)) (some primary) =
      advance (asked marks) (some primary) := by
  have noneNew' := fun key => noneNew_answeredAll primary key marks
  by_cases due : ∃ first, Promoted (asked marks) (some primary) first ∧ first ≠ primary
  · obtain ⟨first, promoted, secondary⟩ := due
    have finishes := get?_advance_eq_finished_iff.mpr (.inr promoted)
    have step : asked (answeredAll primary marks) = advance (asked marks) (some primary) := by
      apply Keyed.ext_get?
      intro key
      apply Option.ext
      intro after
      have isFinished : (asked (answeredAll primary marks)).get? key = some finished ↔
          (advance (asked marks) (some primary)).get? key = some finished := by
        rw [finished_answeredAll, get?_advance_eq_finished_iff]
        constructor
        · intro either
          rcases either with already | again
          · exact absurd ⟨key, .inl already⟩ promoted.1
          · exact .inr again.1
        · intro either
          have same := finished_unique (get?_advance_eq_finished_iff.mpr either) finishes
          exact .inr (same ▸ ⟨promoted, secondary⟩)
      refine ((asked_eq_some_iff noneNew').trans ?_).trans
        (get?_advance_eq_some_iff fun _ => asked_ne_notDraining).symm
      rw [isSome_asked_answeredAll, Ne, isFinished]
    rw [step, advance_advance_of_finished finishes (some primary)]
  · have same : asked (answeredAll primary marks) = asked marks := by
      apply Keyed.ext_get?
      intro key
      apply Option.ext
      intro found
      have isFinished := @finished_answeredAll marks primary key
      rw [or_iff_left fun promoted => due ⟨key, promoted⟩] at isFinished
      rw [asked_eq_some_iff noneNew', asked_eq_some_iff noneNew, isSome_asked_answeredAll, Ne,
        isFinished]
    rw [same]

theorem answeredAll_answeredAll :
    answeredAll primary (answeredAll primary marks) = answeredAll primary marks := by
  apply Keyed.ext_get?
  intro key
  rw [get?_answeredAll, advance_answeredAll noneNew, get?_answeredAll, Option.map_map]
  exact Option.map_congr fun markers _ => markers.answered_answered _ _

end NoneNew

theorem anyAborted_round (primary : String) (marks : Keyed Markers) :
    anyAborted (round primary marks) = false := by
  rw [anyAborted_eq_false_iff]
  intro key markers found
  unfold round at found
  by_cases aborting : anyAborted marks = true
  · rw [if_pos aborting, Keyed.get?_map, Option.map_eq_some_iff] at found
    obtain ⟨before, _, rfl⟩ := found
    exact before.isAborted_cleared
  · rw [if_neg aborting, get?_answeredAll, Option.map_eq_some_iff] at found
    obtain ⟨before, listed, rfl⟩ := found
    have quiet := anyAborted_eq_false_iff.mp (Bool.eq_false_iff.mpr aborting) key before listed
    cases started : before.started with
    | true => simp [Markers.isAborted, started]
    | false =>
      have unasked : (advance (asked marks) (some primary)).get? key = none := by
        apply Option.eq_none_iff_forall_ne_some.mpr
        intro state stepped
        obtain ⟨_, found, _⟩ := exists_of_get?_advance stepped
        obtain ⟨markers, again, isStarted, _⟩ := get?_asked.mp found
        cases Option.some.inj (again.symm.trans listed)
        exact absurd (started.symm.trans isStarted) (by decide)
      rw [unasked]
      exact quiet

/-- How many rounds may change anything. -/
def rounds (marks : Keyed Markers) : Nat := if anyAborted marks then 3 else 2

theorem rounds_of_quiet (quiet : anyAborted marks = false) :
    round primary (round primary (round primary marks)) = round primary (round primary marks) := by
  have first : round primary marks = answeredAll primary marks :=
    if_neg (Bool.eq_false_iff.mp quiet)
  have settled (marks : Keyed Markers) : round primary (round primary marks) =
      answeredAll primary (round primary marks) :=
    if_neg (Bool.eq_false_iff.mp (anyAborted_round primary marks))
  rw [settled (round primary marks), settled marks, first]
  exact answeredAll_answeredAll fun key => noneNew_answeredAll primary key marks

/-- After so many rounds, another one changes nothing. -/
theorem round_rounds (primary : String) (marks : Keyed Markers) :
    round primary ((round primary)^[rounds marks] marks) = (round primary)^[rounds marks] marks := by
  unfold rounds
  by_cases aborting : anyAborted marks = true
  · rw [if_pos aborting]
    exact rounds_of_quiet (anyAborted_round primary marks)
  · rw [if_neg aborting]
    exact rounds_of_quiet (Bool.eq_false_iff.mpr aborting)

/-- The markers are such that no round changes them. -/
def Rests (primary : String) (marks : Keyed Markers) : Prop := round primary marks = marks

section Rests

variable (rests : Rests primary marks)

include rests

theorem Rests.unaborted (found : marks.get? key = some markers) : markers.isAborted = false := by
  have quiet := anyAborted_round primary marks
  rw [rests] at quiet
  exact anyAborted_eq_false_iff.mp quiet key markers found

theorem Rests.answeredAll : answeredAll primary marks = marks := by
  have quiet := anyAborted_eq_false_iff.mpr fun _ _ => rests.unaborted
  exact (if_neg (Bool.eq_false_iff.mp quiet)).symm.trans rests

theorem Rests.answered (found : marks.get? key = some markers) :
    markers.answered ((advance (asked marks) (some primary)).get? key) (key = primary) = markers := by
  have same := @get?_answeredAll marks primary key
  rw [rests.answeredAll, found, Option.map_some] at same
  exact (Option.some.inj same).symm

theorem Rests.acknowledged (found : marks.get? key = some markers) (started : markers.started = true)
    (secondary : key ≠ primary) : markers.acknowledged = true := by
  have requested := get?_asked.mpr ⟨markers, found, started, rfl⟩
  obtain ⟨state, stepped⟩ : ∃ state, (advance (asked marks) (some primary)).get? key = some state :=
    exists_get?_advance requested (asked_ne_notDraining requested)
  have answered := rests.answered found
  rw [stepped, decide_eq_false secondary] at answered
  rcases state_of_get?_advance stepped with same | same <;>
    · subst same
      exact (congrArg Markers.acknowledged answered).symm

/-- Where a pod other than the primary's has a request, one is finished: the promoted one would be. -/
theorem Rests.exists_finished (requested : (asked marks).get? key = some state)
    (secondary : key ≠ primary) : ∃ key, (asked marks).get? key = some finished := by
  by_contra unfinished
  have noneNew (key : String) : (asked marks).get? key ≠ some draining := by
    rw [← rests.answeredAll]
    exact noneNew_answeredAll primary key marks
  have quiet : ¬Busy (asked marks) := fun busy => by
    obtain ⟨other, isFinished | isNew⟩ := busy
    · exact unfinished ⟨other, isFinished⟩
    · exact noneNew other isNew
  have waits : (asked marks).get? key = some .acknowledged := by
    rcases ((asked_eq_some_iff noneNew).mp requested).2 with ⟨isFinished, _⟩ | ⟨_, same⟩
    · exact absurd ⟨key, isFinished⟩ unfinished
    · exact same ▸ requested
  obtain ⟨first, promoted, other⟩ := exists_promoted quiet waits fun same =>
    secondary (Option.some.inj same)
  have finishes := finished_answeredAll.mpr (.inr ⟨promoted, fun same => other (congrArg some same)⟩)
  rw [rests.answeredAll] at finishes
  exact unfinished ⟨first, finishes⟩

end Rests

def AtMostOneFinished (states : Keyed DrainState) : Prop :=
  ∀ key other, states.get? key = some finished → states.get? other = some finished → key = other

theorem atMostOneFinished_round (single : AtMostOneFinished (asked marks)) :
    AtMostOneFinished (asked (round primary marks)) := by
  unfold round
  split
  · rw [asked_cleared]
    exact single
  · intro key other found found'
    rcases finished_answeredAll.mp found with isFinished | ⟨promoted, _⟩ <;>
      rcases finished_answeredAll.mp found' with isFinished' | ⟨promoted', _⟩
    · exact single key other isFinished isFinished'
    · exact absurd ⟨key, .inl isFinished⟩ promoted'.1
    · exact absurd ⟨other, .inl isFinished'⟩ promoted.1
    · exact finished_unique (get?_advance_eq_finished_iff.mpr (.inr promoted))
        (get?_advance_eq_finished_iff.mpr (.inr promoted'))

theorem atMostOneFinished_rounds (single : AtMostOneFinished (asked marks)) (count : Nat) :
    AtMostOneFinished (asked ((round primary)^[count] marks)) := by
  induction count with
  | zero => exact single
  | succ count ih =>
    rw [Function.iterate_succ_apply']
    exact atMostOneFinished_round ih

end Drain

end TabletDrain
