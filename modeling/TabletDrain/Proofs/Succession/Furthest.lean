import Mathlib.Data.List.Induction
import TabletDrain.Proofs.Pass.Prompt
import TabletDrain.Proofs.Succession.Race

/-! Who wins the race. A response that includes all the others wins whatever came before it. Where
responses hold what others lack, the lead may come to one that an earlier response includes: only the
last leader is remembered, and not those that it displaced. -/
namespace TabletDrain.Succession

open Position

namespace Response

def IncludesAll (response : Response) (responses : List Response) : Prop :=
  ∀ other ∈ responses, response.position.atLeast other.position = true

/-- Each of the two holds what the other one lacks. -/
def Rivals (a b : Response) : Prop :=
  a.position.atLeast b.position = false ∧ b.position.atLeast a.position = false

instance (response : Response) (responses : List Response) :
    Decidable (response.IncludesAll responses) :=
  inferInstanceAs (Decidable (∀ other ∈ responses, _))

instance (a b : Response) : Decidable (a.Rivals b) := inferInstanceAs (Decidable (_ ∧ _))

end Response

section Leads

variable {lead : Lead} {response other : Response} {responses before after : List Response}

theorem next_answer_of_takes
    (takes : lead.position.isZero = true ∨ ¬lead.position.atLeast response.position = true) :
    lead.next response.answer = response.lead := by
  rw [next_answer, if_pos takes]

theorem next_answer_of_stays (something : lead.position.isZero = false)
    (includes : lead.position.atLeast response.position = true) :
    lead.next response.answer = lead := by
  rw [next_answer, if_neg]
  simp [something, includes]

theorem next_answer_cases (lead : Lead) (response : Response) :
    (lead.next response.answer = response.lead ∧
        (lead.position.isZero = true ∨ ¬lead.position.atLeast response.position = true)) ∨
      lead.next response.answer = lead ∧ lead.position.isZero = false ∧
        lead.position.atLeast response.position = true := by
  rw [next_answer]
  by_cases takes : lead.position.isZero = true ∨ ¬lead.position.atLeast response.position = true
  · exact .inl ⟨if_pos takes, takes⟩
  · refine .inr ⟨if_neg takes, ?_⟩
    simpa [not_or] using takes

/-- A response that includes what follows keeps the lead. -/
theorem leader_append_of_includes (something : (leader before).position.isZero = false)
    (includes : ∀ later ∈ after, (leader before).position.atLeast later.position = true) :
    leader (before ++ after) = leader before := by
  induction after using List.reverseRecOn with
  | nil => rw [List.append_nil]
  | append_singleton rest last ih =>
    obtain ⟨rest', last'⟩ := List.forall_mem_append.mp includes
    rw [← List.append_assoc, leader_concat, ih rest']
    exact next_answer_of_stays something (last' last (List.mem_singleton_self last))

theorem leader_eq_start_or (responses : List Response) :
    (responses = [] ∧ leader responses = .start) ∨
      ∃ before chosen after, responses = before ++ chosen :: after ∧
        leader responses = chosen.lead ∧
        ∀ later ∈ after, chosen.position.atLeast later.position = true := by
  induction responses using List.reverseRecOn with
  | nil => exact .inl ⟨rfl, rfl⟩
  | append_singleton rest last ih =>
    right
    rw [leader_concat]
    rcases next_answer_cases (leader rest) last with ⟨takes, _⟩ | ⟨stays, something, includes⟩
    · exact ⟨rest, last, [], rfl, takes, List.forall_mem_nil _⟩
    · rcases ih with ⟨rfl, _⟩ | ⟨before, chosen, after, rfl, leads, ahead⟩
      · cases something
      · rw [leads] at includes
        refine ⟨before, chosen, after ++ [last], by simp, stays.trans leads, ?_⟩
        exact List.forall_mem_append.mpr ⟨ahead, List.forall_mem_singleton.mpr includes⟩

/-- What the leader does not include has a rival, and lost its lead to one. -/
theorem leader_includes_or_rival (member : other ∈ responses) :
    (leader responses).position.atLeast other.position = true ∨
      ∃ rival ∈ responses, rival.Rivals other := by
  induction responses using List.reverseRecOn with
  | nil => cases member
  | append_singleton rest last ih =>
    rw [leader_concat]
    rcases List.mem_append.mp member with earlier | here
    · rcases ih earlier with includes | ⟨rival, inside, rivals⟩
      · rcases next_answer_cases (leader rest) last with ⟨takes, loses⟩ | ⟨stays, _⟩
        · rw [takes]
          rcases loses with nothing | lacks
          · exact .inl (atLeast_of_isZero (isZero_of_atLeast nothing includes) _)
          · by_cases whole : last.position.atLeast other.position = true
            · exact .inl whole
            · have apart : other.position.atLeast last.position = false :=
                Bool.eq_false_iff.mpr fun holds => lacks (atLeast_trans includes holds)
              exact .inr ⟨last, List.mem_concat_self, Bool.eq_false_iff.mpr whole, apart⟩
        · rw [stays]
          exact .inl includes
      · exact .inr ⟨rival, List.mem_append_left _ inside, rivals⟩
    · obtain rfl := List.mem_singleton.mp here
      rcases next_answer_cases (leader rest) other with ⟨takes, _⟩ | ⟨stays, _, includes⟩
      · rw [takes]
        exact .inl (atLeast_refl _)
      · rw [stays]
        exact .inl includes

/-- The first response to include all the others ends up with the lead. -/
theorem leader_of_first (something : response.position.isZero = false)
    (includes : response.IncludesAll (before ++ response :: after))
    (first : ∀ earlier ∈ before, ¬earlier.IncludesAll (before ++ response :: after)) :
    leader (before ++ response :: after) = response.lead := by
  have takes : leader (before ++ [response]) = response.lead := by
    rw [leader_concat]
    refine next_answer_of_takes ?_
    rcases leader_eq_start_or before with ⟨_, start⟩ | ⟨earlier, chosen, later, rfl, leads, _⟩
    · rw [start]
      exact .inl rfl
    · rw [leads]
      refine .inr fun ahead => first chosen (by simp) fun other member => ?_
      exact atLeast_trans ahead (includes other member)
  rw [List.append_cons, leader_append_of_includes, takes]
  · rw [takes]
    exact something
  · intro later member
    rw [takes]
    exact includes later (by simp [member])

end Leads

/-- Tablets that are asked in the order in which they answer need no sorting. -/
theorem Race.responses_eq_of_inTurn {race : Race}
    (inTurn : race.asked.Pairwise fun a b => (race.heard a).time ≤ (race.heard b).time) :
    race.responses = race.asked.filterMap race.response? := by
  rw [Race.responses, List.mergeSort_of_pairwise]
  simpa using inTurn

/-- Three replicas tell their positions one after another. -/
def Sample.race (first second third : String) : Race where
  setting := ⟨{ Replies.atOnce with
    replicationStatus := fun tablet =>
      ⟨10 * tablet.uid, none, ["", "", first, second, third][tablet.uid]?⟩ }, none⟩
  record := Sample.cluster.record
  tablets := Tablet.index [Sample.tablet 1 .primary, Sample.tablet 2 .replica,
    Sample.tablet 3 .replica, Sample.tablet 4 .replica]
  pods := Sample.spec.view [Sample.pod "1" [], Sample.pod "2" [], Sample.pod "3" [], Sample.pod "4" []]
  external := false
  timeout := 2000

/-- Whatever they tell, they come in in the order in which they are asked. -/
theorem Sample.responses_race (first second third : String) :
    let race := Sample.race first second third
    race.responses = race.asked.filterMap race.response? :=
  Race.responses_eq_of_inTurn (of_decide_eq_true rfl)

namespace Race

variable {race : Race} {responses : List Response}

theorem furthest_wins (hears : race.Hears responses)
    (ahead : ∃ response ∈ responses, response.position.isZero = false ∧
      response.IncludesAll responses) :
    ∃ before first after, responses = before ++ first :: after ∧ first.IncludesAll responses ∧
      (∀ earlier ∈ before, ¬earlier.IncludesAll responses) ∧ race.Chooses first.tablet := by
  obtain ⟨furthest, member, something, includes⟩ := ahead
  obtain ⟨first, found⟩ : ∃ first, responses.find? (·.IncludesAll responses) = some first :=
    Option.isSome_iff_exists.mp (List.find?_isSome.mpr ⟨furthest, member, by simpa using includes⟩)
  obtain ⟨whole, before, after, split, earlier⟩ := List.find?_eq_some_iff_append.mp found
  simp only [decide_eq_true_eq, Bool.not_eq_true', decide_eq_false_iff_not] at whole earlier
  have nonzero : first.position.isZero = false := by
    refine Bool.eq_false_iff.mpr fun nothing => ?_
    have zero := isZero_of_atLeast nothing (whole furthest member)
    rw [something] at zero
    cases zero
  refine ⟨before, first, after, split, whole, earlier, chooses_of_leader ?_⟩
  rw [← hears_iff.mp hears]
  rw [split] at whole earlier ⊢
  rw [leader_of_first nonzero whole earlier]
  rfl

theorem furthest_wins_sample :
    let race := Sample.race "MySQL56/a:1-5" "MySQL56/b:1-5" "MySQL56/a:1-7,b:1-5"
    race.Hears race.responses ∧
      (∃ response ∈ race.responses, response.position.isZero = false ∧
        response.IncludesAll race.responses) ∧
      ∃ before first after, race.responses = before ++ first :: after ∧
        first.IncludesAll race.responses ∧
        (∀ earlier ∈ before, ¬earlier.IncludesAll race.responses) ∧ race.Chooses first.tablet := by
  intro race
  have hears : race.Hears race.responses := hears_iff.mpr rfl
  have ahead : ∃ response ∈ race.responses, response.position.isZero = false ∧
      response.IncludesAll race.responses := by
    rw [Sample.responses_race]
    decide +kernel
  exact ⟨hears, ahead, furthest_wins hears ahead⟩

/-- The tablet chosen is never behind one that responded later, and where it is behind an earlier one
a rival of that one has responded. -/
theorem chosen_behind_rivals_only (hears : race.Hears responses) (answered : responses ≠ []) :
    ∃ before chosen after, responses = before ++ chosen :: after ∧ race.Chooses chosen.tablet ∧
      (∀ later ∈ after, chosen.position.atLeast later.position = true) ∧
      ∀ other ∈ responses, chosen.position.atLeast other.position = true ∨
        ∃ rival ∈ responses, rival.Rivals other := by
  rcases leader_eq_start_or responses with ⟨nothing, _⟩ | ⟨before, chosen, after, split, leads, ahead⟩
  · exact absurd nothing answered
  refine ⟨before, chosen, after, split, chooses_of_leader ?_, ahead, fun other member => ?_⟩
  · rw [← hears_iff.mp hears, leads]
    rfl
  · have includes := leader_includes_or_rival member
    rw [leads] at includes
    exact includes

theorem chosen_behind_rivals_only_sample :
    let race := Sample.race "MySQL56/a:1-5" "MySQL56/b:1-5" "MySQL56/a:1-3"
    race.Hears race.responses ∧ race.responses ≠ [] ∧
      ∃ before chosen after, race.responses = before ++ chosen :: after ∧
        race.Chooses chosen.tablet ∧
        (∀ later ∈ after, chosen.position.atLeast later.position = true) ∧
        ∀ other ∈ race.responses, chosen.position.atLeast other.position = true ∨
          ∃ rival ∈ race.responses, rival.Rivals other := by
  intro race
  have hears : race.Hears race.responses := hears_iff.mpr rfl
  have answered : race.responses ≠ [] := by
    rw [Sample.responses_race]
    decide +kernel
  exact ⟨hears, answered, chosen_behind_rivals_only hears answered⟩

/-- The first response is displaced by a rival, and the rival by a response that the first one
includes and goes beyond. -/
theorem overtaken_leader_forgotten :
    let race := Sample.race "MySQL56/a:1-5" "MySQL56/b:1-5" "MySQL56/a:1-3"
    ∃ ahead ∈ race.responses, ∃ chosen ∈ race.responses,
      ahead.tablet = Sample.tablet 2 .replica ∧ chosen.tablet = Sample.tablet 4 .replica ∧
        race.Chooses chosen.tablet ∧ ahead.position.atLeast chosen.position = true ∧
        chosen.position.atLeast ahead.position = false := by
  intro race
  have inTurn := Sample.responses_race "MySQL56/a:1-5" "MySQL56/b:1-5" "MySQL56/a:1-3"
  have leads : (leader race.responses).tablet = some (Sample.tablet 4 .replica) := by
    rw [inTurn]
    decide +kernel
  have apart : ∃ ahead ∈ race.responses, ∃ chosen ∈ race.responses,
      ahead.tablet = Sample.tablet 2 .replica ∧ chosen.tablet = Sample.tablet 4 .replica ∧
        ahead.position.atLeast chosen.position = true ∧
        chosen.position.atLeast ahead.position = false := by
    rw [inTurn]
    decide +kernel
  obtain ⟨ahead, member, chosen, member', second, fourth, includes, lacks⟩ := apart
  refine ⟨ahead, member, chosen, member', second, fourth, ?_, includes, lacks⟩
  exact fourth ▸ chooses_of_leader leads

end Race

end TabletDrain.Succession
