import TabletDrain.Proofs.Succession.Furthest

/-! Who wins the race on a tie. Where the responses all include one another, either none of them says
nothing or all do. In the first case the lead stays with the first to respond; in the second it passes
on with every response, and the last one has it in the end. -/
namespace TabletDrain.Succession

open Position

/-- All the responses include one another. -/
def Tied (responses : List Response) : Prop :=
  ∀ response ∈ responses, response.IncludesAll responses

instance (responses : List Response) : Decidable (Tied responses) :=
  inferInstanceAs (Decidable (∀ response ∈ responses, response.IncludesAll responses))

section Leads

variable {responses : List Response} {first last response other : Response}

theorem Tied.isZero_eq (tied : Tied responses) (member : response ∈ responses)
    (member' : other ∈ responses) : response.position.isZero = other.position.isZero :=
  Bool.eq_iff_iff.mpr ⟨fun nothing => isZero_of_atLeast nothing (tied response member other member'),
    fun nothing => isZero_of_atLeast nothing (tied other member' response member)⟩

theorem Tied.leader_of_something (tied : Tied responses) (isFirst : responses.head? = some first)
    (something : first.position.isZero = false) : leader responses = first.lead := by
  obtain ⟨rest, rfl⟩ := List.head?_eq_some_iff.mp isFirst
  change leader ([] ++ first :: rest) = first.lead
  exact leader_of_first something (tied first List.mem_cons_self) (List.forall_mem_nil _)

/-- A leader that says nothing gives way to whoever responds next. -/
theorem leader_of_nothing (nothing : ∀ response ∈ responses, response.position.isZero = true)
    (isLast : responses.getLast? = some last) : leader responses = last.lead := by
  obtain ⟨earlier, rfl⟩ := List.getLast?_eq_some_iff.mp isLast
  rw [leader_concat]
  refine next_answer_of_takes (.inl ?_)
  rcases leader_eq_start_or earlier with ⟨_, start⟩ | ⟨before, chosen, after, split, leads, _⟩
  · rw [start]
    rfl
  · rw [leads]
    exact nothing chosen (by simp [split])

end Leads

namespace Race

variable {race : Race} {responses : List Response} {tablet other : Tablet}

theorem Chooses.unique (uncut : race.setting.cutoff = none) (chooses : race.Chooses tablet)
    (chooses' : race.Chooses other) : tablet = other := by
  rcases chooses (.start []) with first | ⟨_, limit, cut, _⟩
  · rcases chooses' (.start []) with second | ⟨_, limit, cut, _⟩
    · exact Option.some.inj (Option.some.inj (first.symm.trans second))
    · cases uncut.symm.trans cut
  · cases uncut.symm.trans cut

/-- On a tie the first to respond is chosen, unless the responses say nothing: then the last one is. -/
theorem tie_kept_unless_zero (hears : race.Hears responses) (answered : responses ≠ [])
    (tied : Tied responses) :
    ∃ first last, responses.head? = some first ∧ responses.getLast? = some last ∧
      (first.position.isZero = false → race.Chooses first.tablet) ∧
      (first.position.isZero = true → race.Chooses last.tablet) := by
  have same := hears_iff.mp hears
  obtain ⟨first, isFirst⟩ := Option.ne_none_iff_exists'.mp (mt List.head?_eq_none_iff.mp answered)
  obtain ⟨last, isLast⟩ := Option.ne_none_iff_exists'.mp (mt List.getLast?_eq_none_iff.mp answered)
  refine ⟨first, last, isFirst, isLast, fun something => ?_, fun nothing => ?_⟩
  · refine chooses_of_leader ?_
    rw [← same, tied.leader_of_something isFirst something]
    rfl
  · have all : ∀ response ∈ responses, response.position.isZero = true := fun _ member =>
      (tied.isZero_eq member (List.mem_of_head? isFirst)).trans nothing
    refine chooses_of_leader ?_
    rw [← same, leader_of_nothing all isLast]
    rfl

theorem tie_kept_unless_zero_sample :
    let race := Sample.race "FilePos/log.7:12" "FilePos/log.7:12" "FilePos/log.7:12"
    race.Hears race.responses ∧ race.responses ≠ [] ∧ Tied race.responses ∧
      ∃ first, race.responses.head? = some first ∧ first.position.isZero = false ∧
        race.Chooses first.tablet := by
  intro race
  have hears : race.Hears race.responses := hears_iff.mpr rfl
  have answered : race.responses ≠ [] := by
    rw [Sample.responses_race]
    decide +kernel
  have tied : Tied race.responses := by
    rw [Sample.responses_race]
    decide +kernel
  have something : race.responses.head?.map (·.position.isZero) = some false := by
    rw [Sample.responses_race]
    decide +kernel
  obtain ⟨first, _, isFirst, _, kept, _⟩ := tie_kept_unless_zero hears answered tied
  rw [isFirst] at something
  have something : first.position.isZero = false := Option.some.inj something
  exact ⟨hears, answered, tied, first, isFirst, something, kept something⟩

/-- Three tablets that have received nothing tell so one after another, and the last one is chosen. -/
theorem zero_tie_taken_by_last :
    let race := Sample.race "" "MySQL56/" ""
    race.Hears race.responses ∧ Tied race.responses ∧
      ∃ first last, race.responses.head? = some first ∧ race.responses.getLast? = some last ∧
        race.Chooses last.tablet ∧ ¬race.Chooses first.tablet := by
  intro race
  have hears : race.Hears race.responses := hears_iff.mpr rfl
  have tied : Tied race.responses := by
    rw [Sample.responses_race]
    decide +kernel
  have leads : (leader race.responses).tablet = some (Sample.tablet 4 .replica) := by
    rw [Sample.responses_race]
    decide +kernel
  have isFirst : race.responses.head?.map Response.tablet = some (Sample.tablet 2 .replica) := by
    rw [Sample.responses_race]
    decide +kernel
  have isLast : race.responses.getLast?.map Response.tablet = some (Sample.tablet 4 .replica) := by
    rw [Sample.responses_race]
    decide +kernel
  obtain ⟨first, isFirst, second⟩ := Option.map_eq_some_iff.mp isFirst
  obtain ⟨last, isLast, fourth⟩ := Option.map_eq_some_iff.mp isLast
  have chosen : race.Chooses (Sample.tablet 4 .replica) := chooses_of_leader leads
  refine ⟨hears, tied, first, last, isFirst, isLast, fourth ▸ chosen, fun chooses => ?_⟩
  have same : first.tablet = Sample.tablet 4 .replica := chooses.unique rfl chosen
  rw [second] at same
  exact absurd same (by decide +kernel)

end Race

end TabletDrain.Succession
