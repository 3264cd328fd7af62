import TabletDrain.Proofs.Succession.Furthest

/-! The race as a poll of the tablets that could take over. Each of them is asked once, at the start and
in the order of the names; the poll is over when the last one has answered or has had its time. Somebody
who responded is chosen, and the first one asked where nobody did. -/
namespace TabletDrain.Succession

/-- Of the times that tablets take, the longest. -/
theorem max?_times {timeout : Nat} {reply : Alias → ProbeReply} {tablets : List Tablet}
    (some_asked : tablets ≠ []) :
    (tablets.map fun tablet => min (reply tablet.name).delay timeout).max? =
      some (Succession.duration (answers timeout reply tablets)) := by
  have bounds := @duration_answers_le_iff timeout reply tablets
  cases longest : (tablets.map fun tablet => min (reply tablet.name).delay timeout).max? with
  | none => exact absurd (List.map_eq_nil_iff.mp (List.max?_eq_none_iff.mp longest)) some_asked
  | some time =>
    obtain ⟨member, greatest⟩ := List.max?_eq_some_iff.mp longest
    obtain ⟨tablet, asked, same⟩ := List.mem_map.mp member
    refine congrArg some (Nat.le_antisymm ?_ ?_)
    · rw [← same]
      exact bounds.mp (Nat.le_refl _) tablet asked
    · exact bounds.mpr fun other asked => greatest _ (List.mem_map_of_mem asked)

/-- The tablets that could take over come in the order of their names. -/
theorem eligible_inOrder {record : ShardRecord} {tablets : Keyed Tablet} {pods : Keyed Pod}
    {external : Bool} (keyed : ∀ key tablet, tablets.get? key = some tablet → tablet.name.text = key) :
    (eligible record tablets pods external).Pairwise fun a b => a.name.text < b.name.text := by
  have keys := List.pairwise_map.mp tablets.ascending
  rw [eligible, List.pairwise_filterMap]
  refine keys.imp_of_mem fun {a b} member member' before tablet taken tablet' taken' => ?_
  obtain ⟨key, recorded⟩ := a
  obtain ⟨key', recorded'⟩ := b
  dsimp only at taken taken'
  split at taken
  · split at taken'
    · cases (Option.ite_none_right_eq_some.mp taken).2
      cases (Option.ite_none_right_eq_some.mp taken').2
      rw [keyed key tablet (Keyed.get?_of_mem member), keyed key' tablet' (Keyed.get?_of_mem member')]
      exact before
    · cases taken'
  · cases taken

namespace Race

variable (race : Race)

/-- The tablets stand under the texts of their names. -/
def KeyedByName : Prop := ∀ key tablet, race.tablets.get? key = some tablet → tablet.name.text = key

/-- The tablet is a recorded one that could take over. -/
structure MayLead (tablet : Tablet) : Prop where
  recorded : race.tablets.get? tablet.name.text = some tablet
  secondary : race.record.primary ≠ some tablet.name
  runs : ∃ pod, race.pods.get? tablet.name.text = some pod ∧
    pod.isReady = true ∧ pod.markers.any = false ∧
      if race.external = true then
        pod.label? poolLabel = some externalPool ∧ (tablet.role = .spare ∨ tablet.role = .primary)
      else tablet.role = .replica

/-- How long the tablet is waited for. -/
def wait (tablet : Tablet) : Nat :=
  min (race.setting.replies.replicationStatus tablet.name).delay race.timeout

variable {race} {tablet : Tablet} {response : Response}

theorem mem_eligible_iff (keyed : race.KeyedByName) :
    tablet ∈ race.eligible ↔ race.MayLead tablet := by
  rw [eligible, Succession.mem_eligible]
  constructor
  · rintro ⟨key, pod, recorded, found, eligible⟩
    obtain rfl := keyed key tablet recorded
    obtain ⟨secondary, promotable, ready, unmarked⟩ := isEligible_iff.mp eligible
    exact ⟨recorded, secondary, pod, found, ready, unmarked, canBePromoted_iff.mp promotable⟩
  · intro may
    obtain ⟨pod, found, ready, unmarked, promotable⟩ := may.runs
    have eligible : isEligible race.record race.external tablet pod = true :=
      isEligible_iff.mpr ⟨may.secondary, canBePromoted_iff.mpr promotable, ready, unmarked⟩
    exact ⟨tablet.name.text, pod, may.recorded, found, eligible⟩

theorem eligible_inOrder (keyed : race.KeyedByName) :
    race.eligible.Pairwise fun a b => a.name.text < b.name.text := Succession.eligible_inOrder keyed

theorem Tells.mem_eligible (tells : race.Tells response) : response.tablet ∈ race.eligible := by
  obtain ⟨pod, found, fit⟩ := tells.eligible
  exact Succession.mem_eligible.mpr ⟨response.key, pod, tells.recorded, found, fit⟩

variable (race) in
/-- Somebody who responded leads in the end, or nobody has responded. -/
theorem leader_responses :
    ((∀ response, ¬race.Tells response) ∧ (leader race.responses).tablet = none) ∨
      ∃ response, race.Tells response ∧ (leader race.responses).tablet = some response.tablet := by
  rcases leader_eq_start_or race.responses with ⟨nobody, start⟩ | ⟨before, chosen, after, split, leads, _⟩
  · refine .inl ⟨fun response tells => ?_, by rw [start]; rfl⟩
    have member := mem_responses.mpr tells
    rw [nobody] at member
    cases member
  · have member : chosen ∈ race.responses := by simp [split]
    exact .inr ⟨chosen, mem_responses.mp member, by rw [leads]; rfl⟩

theorem poll_accounted (keyed : race.KeyedByName) (before : Progress) :
    (∀ tablet, tablet ∈ race.eligible ↔ race.MayLead tablet) ∧
      race.eligible.Pairwise (fun a b => a.name.text < b.name.text) ∧
      ((race.outcome before).1 = some none ↔ race.eligible = []) ∧
      (race.eligible = [] → race.outcome before = (some none, before)) ∧
      ∀ first rest, race.eligible = first :: rest →
        ∃ longest, (race.eligible.map race.wait).max? = some longest ∧
        ∃ chosen ∈ race.eligible,
          (race.outcome before = (some (some chosen),
              { asking race.eligible before with now := before.now + longest }) ∨
            ∃ limit, race.setting.cutoff = some limit ∧ limit < before.now + longest ∧
              race.outcome before =
                (none, { asking race.eligible before with now := max before.now limit })) ∧
          ((∀ response, ¬race.Tells response) → chosen = first) ∧
          ((∃ response, race.Tells response) →
            ∃ response, race.Tells response ∧ response.tablet = chosen) := by
  have none_asked (empty : race.eligible = []) : race.outcome before = (some none, before) := by
    change Succession.eligible _ _ _ _ = _ at empty
    unfold outcome newPrimary
    rw [empty]
    rfl
  refine ⟨fun tablet => mem_eligible_iff keyed, eligible_inOrder keyed, ?_, none_asked,
    fun first rest asked => ?_⟩
  · constructor
    · intro nobody
      cases asked : race.eligible with
      | nil => rfl
      | cons first rest =>
        rcases outcome_cases asked before with chosen | ⟨_, _, _, abandoned⟩
        · rw [chosen] at nobody
          cases nobody
        · rw [abandoned] at nobody
          cases nobody
    · intro empty
      rw [none_asked empty]
  · have nonempty : race.eligible ≠ [] := by simp [asked]
    refine ⟨race.duration, max?_times nonempty, (leader race.responses).tablet.getD first, ?_, ?_, ?_, ?_⟩
    · rcases race.leader_responses with ⟨_, nobody⟩ | ⟨response, tells, leads⟩
      · simp [nobody, asked]
      · rw [leads]
        exact tells.mem_eligible
    · exact outcome_cases asked before
    · intro silent
      rcases race.leader_responses with ⟨_, nobody⟩ | ⟨response, tells, _⟩
      · rw [nobody, Option.getD_none]
      · exact absurd tells (silent response)
    · rintro ⟨response, tells⟩
      rcases race.leader_responses with ⟨silent, _⟩ | ⟨chosen, tells', leads⟩
      · exact absurd tells (silent response)
      · exact ⟨chosen, tells', by rw [leads, Option.getD_some]⟩

theorem poll_accounted_sample :
    let race := Sample.race "FilePos/log.7:12" "unreadable" "FilePos/log.7:12"
    race.KeyedByName ∧ ∃ longest chosen,
      (race.eligible.map race.wait).max? = some longest ∧ race.MayLead chosen ∧
      race.outcome (.start []) =
        (some (some chosen), { asking race.eligible (.start []) with now := 0 + longest }) := by
  intro race
  have keyed : race.KeyedByName := fun _ _ => Tablet.text_of_get?_index
  have may : race.MayLead (Sample.tablet 2 .replica) :=
    ⟨by decide +kernel, by decide +kernel, Sample.pod "2" [], by decide +kernel⟩
  obtain ⟨members, _, _, _, account⟩ := poll_accounted keyed (.start [])
  cases asked : race.eligible with
  | nil =>
    have member := (members _).mpr may
    rw [asked] at member
    cases member
  | cons first rest =>
    obtain ⟨longest, isLongest, chosen, member, whole | ⟨_, cut, _⟩, _⟩ := account first rest asked
    · rw [← asked]
      exact ⟨keyed, longest, chosen, isLongest, (members chosen).mp member, whole⟩
    · cases cut

end Race

end TabletDrain.Succession
