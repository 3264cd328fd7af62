import TabletDrain.Proofs.Course.Underway

/-! What one pass of a rolling drain does, by what is left to do: it acknowledges new requests,
finishes the first pod that is not the primary's, hands over when the primary alone is left, or does
nothing. Each time it is said what is left to do afterwards. -/
namespace TabletDrain

inductive Stage where
  | idle
  | finish (key : String)
  | handOver
  deriving DecidableEq, Repr

def Stage.marks : Stage → List String
  | finish key => [key]
  | _ => []

/-- The pods that a pass sends finished, those that it leaves stored finished, and its hand-overs are
those of the stage. -/
structure Pass.Report.Does (report : Report) (spec : ShardSpec) (stage : Stage) : Prop where
  marks : report.marks = stage.marks
  finished : ((spec.view report.pods).filter fun _ pod => pod.markers.finished).keys = stage.marks
  handovers : report.handovers.length = [stage].count .handOver

/-- A ready pod in view without a request, other than the primary's, that runs a replica. -/
structure ShardSpec.Spare (spec : ShardSpec) (cluster : Cluster) (primary name : Alias) (pod : Pod)
    (tablet : Tablet) : Prop where
  inView : (spec.view cluster.pods).get? name.text = some pod
  idle : pod.markers.started = false
  ready : pod.isReady = true
  secondary : name ≠ primary
  recorded : cluster.tablets.get? name.text = some tablet
  named : tablet.name = name
  replica : tablet.role = .replica
  served : name.cell ∈ spec.cells

namespace Underway

open Pass.Context

variable {shard : Shard} {cluster : Cluster} {primary : Alias} {state : DrainState}
  {todo : List String} {occasion : Occasion}

theorem does (underway : Underway shard cluster primary state todo)
    (inTime : occasion.InTime shard cluster) {stage : Stage}
    (turn : (occasion.context shard cluster).turn primary = stage.marks)
    (handovers : (occasion.run shard cluster).handovers.length = [stage].count .handOver) :
    (occasion.run shard cluster).Does shard.spec stage where
  marks := (underway.marks_run inTime).trans turn
  finished := (underway.finished_run inTime).trans turn
  handovers := handovers

theorem spare_afterPass (underway : Underway shard cluster primary state todo)
    (inTime : occasion.InTime shard cluster) (unmoved : (occasion.run shard cluster).handovers = [])
    {name : Alias} {pod : Pod} {tablet : Tablet}
    (spare : shard.spec.Spare cluster primary name pod tablet) :
    shard.spec.Spare (cluster.afterPass (occasion.run shard cluster)) primary name pod tablet where
  inView := by
    have unanswered := unanswered_of_isAborting_eq_false underway.quiet spare.inView spare.idle
    rw [underway.view_afterPass inTime]
    exact (get?_remaining (underway.smooth inTime)).mpr
      ⟨pod, spare.inView, carried_of_idle spare.inView spare.idle, unanswered.2⟩
  idle := spare.idle
  ready := spare.ready
  secondary := spare.secondary
  recorded := by
    rw [afterPass_of_no_handover unmoved]
    exact spare.recorded
  named := spare.named
  replica := spare.replica
  served := spare.served

/-- What is left to do after a pass that leaves the primary. -/
theorem afterPass_of_same (underway : Underway shard cluster primary state todo)
    (inTime : occasion.InTime shard cluster) (unmoved : (occasion.run shard cluster).handovers = [])
    {rest : List String}
    (left : ∀ key now, ((occasion.context shard cluster).next primary).get? key = some now →
      now = .acknowledged ∧ key ∈ rest ∨ now = .finished ∧ key ∉ rest ∧ key ≠ primary.text)
    (kept : ∀ key ∈ rest,
      ((occasion.context shard cluster).next primary).get? key = some .acknowledged) :
    Underway shard (cluster.afterPass (occasion.run shard cluster)) primary .acknowledged rest := by
  refine underway.afterPass inTime ?_ (by decide) ?_
  · rw [afterPass_of_no_handover unmoved]
    exact underway.healthy
  · intro key after
    constructor
    · intro stays
      rcases stays with ⟨stepped, same⟩ | ⟨stepped, isPrimary, _⟩
      · rcases left key _ stepped with ⟨_, member⟩ | ⟨isFinished, _⟩
        · exact ⟨member, same⟩
        · cases isFinished
      · rcases left key _ stepped with ⟨waits, _⟩ | ⟨_, _, secondary⟩
        · cases waits
        · exact absurd isPrimary secondary
    · intro member
      exact .inl ⟨kept key member.1, member.2⟩

/-- The first pass acknowledges all requests. -/
theorem acknowledges (underway : Underway shard cluster primary .draining todo)
    (inTime : occasion.InTime shard cluster) :
    (occasion.run shard cluster).Does shard.spec .idle ∧
      (occasion.run shard cluster).handovers = [] ∧
        Underway shard (cluster.afterPass (occasion.run shard cluster)) primary .acknowledged
          todo := by
  have next (key : String) (now : DrainState) :
      ((occasion.context shard cluster).next primary).get? key = some now ↔
        key ∈ todo ∧ now = .acknowledged := by
    refine (Drain.get?_advance_of_draining (underway.allIn occasion).2).trans ?_
    refine and_congr_left fun _ => ?_
    exact (underway.requests key .draining).trans (and_iff_left rfl)
  have unmoved : (occasion.run shard cluster).handovers = [] :=
    underway.handovers_eq_nil (.inr (.inl (by decide)))
  refine ⟨underway.does inTime ?_ (congrArg List.length unmoved), unmoved,
    underway.afterPass_of_same inTime unmoved ?_ ?_⟩
  · apply List.eq_nil_iff_forall_not_mem.mpr
    intro key member
    exact absurd ((next key _).mp (mem_turn_iff.mp member).1).2 (by decide)
  · intro key now stepped
    exact .inl ((next key now).mp stepped).symm
  · intro key member
    exact (next key _).mpr ⟨member, rfl⟩

section First

variable {first : String} {rest : List String}

private theorem promoted_first
    (underway : Underway shard cluster primary .acknowledged (first :: rest))
    (secondary : first ≠ primary.text)
    (least : ∀ key ∈ rest, key ≠ primary.text → first ≤ key) :
    Drain.Promoted (Drain.requests (shard.spec.view cluster.pods)) (some primary.text) first := by
  have requests := underway.requests
  refine ⟨?_, (requests _ _).mpr ⟨List.mem_cons_self, rfl⟩, .inl ⟨?_, ?_⟩⟩
  · intro busy
    obtain ⟨key, isFinished | isNew⟩ := busy
    · exact absurd ((requests key _).mp isFinished).2 (by decide)
    · exact absurd ((requests key _).mp isNew).2 (by decide)
  · exact fun same => secondary (Option.some.inj same)
  · intro other found differs
    rcases List.mem_cons.mp ((requests other _).mp found).1 with same | later
    · exact same ▸ String.le_refl _
    · exact least other later fun same => differs (congrArg some same)

private theorem next_first
    (underway : Underway shard cluster primary .acknowledged (first :: rest))
    (secondary : first ≠ primary.text) (once : first ∉ rest)
    (least : ∀ key ∈ rest, key ≠ primary.text → first ≤ key) (key : String) (now : DrainState) :
    ((occasion.context shard cluster).next primary).get? key = some now ↔
      key = first ∧ now = .finished ∨ key ∈ rest ∧ now = .acknowledged := by
  refine (Drain.get?_advance_of_promoted (underway.promoted_first secondary least)
    (underway.allIn occasion).2).trans ?_
  rw [underway.requests, List.mem_cons]
  constructor
  · intro stepped
    rcases stepped with same | ⟨differs, ⟨member, _⟩, isAcknowledged⟩
    · exact .inl same
    · exact .inr ⟨member.resolve_left differs, isAcknowledged⟩
  · intro stepped
    rcases stepped with same | ⟨member, isAcknowledged⟩
    · exact .inl same
    · exact .inr ⟨fun same => once (same ▸ member), ⟨.inr member, rfl⟩, isAcknowledged⟩

/-- Then each pass finishes the first of the pods that are not the primary's. -/
theorem finishes (underway : Underway shard cluster primary .acknowledged (first :: rest))
    (inTime : occasion.InTime shard cluster) (secondary : first ≠ primary.text) (once : first ∉ rest)
    (least : ∀ key ∈ rest, key ≠ primary.text → first ≤ key) :
    (occasion.run shard cluster).Does shard.spec (.finish first) ∧
      (occasion.run shard cluster).handovers = [] ∧
        Underway shard (cluster.afterPass (occasion.run shard cluster)) primary .acknowledged
          rest := by
  have next (key : String) (now : DrainState) :
      ((occasion.context shard cluster).next primary).get? key = some now ↔
        key = first ∧ now = .finished ∨ key ∈ rest ∧ now = .acknowledged :=
    underway.next_first secondary once least key now
  have unmoved : (occasion.run shard cluster).handovers = [] :=
    underway.handovers_eq_nil (.inl ⟨first, List.mem_cons_self, secondary⟩)
  refine ⟨underway.does inTime ?_ (congrArg List.length unmoved), unmoved,
    underway.afterPass_of_same inTime unmoved ?_ ?_⟩
  · apply Keyed.keys_eq_singleton
    intro key
    refine mem_turn_iff.trans ?_
    rw [next]
    constructor
    · intro turn
      rcases turn.1 with ⟨same, _⟩ | ⟨_, waits⟩
      · exact same
      · cases waits
    · intro same
      exact ⟨.inl ⟨same, rfl⟩, same ▸ secondary⟩
  · intro key now stepped
    rcases (next key now).mp stepped with ⟨same, isFinished⟩ | ⟨member, isAcknowledged⟩
    · exact .inr ⟨isFinished, same ▸ once, same ▸ secondary⟩
    · exact .inl ⟨isAcknowledged, member⟩
  · intro key member
    exact (next key _).mpr (.inr ⟨member, rfl⟩)

end First

/-- In the end nothing is left to do. -/
theorem rests (underway : Underway shard cluster primary .acknowledged [])
    (inTime : occasion.InTime shard cluster) :
    (occasion.run shard cluster).Does shard.spec .idle ∧
      (occasion.run shard cluster).handovers = [] ∧
        Underway shard (cluster.afterPass (occasion.run shard cluster)) primary .acknowledged
          [] := by
  have idle (key : String) (now : DrainState) :
      ((occasion.context shard cluster).next primary).get? key ≠ some now := by
    intro stepped
    obtain ⟨old, requested, _⟩ := Drain.exists_of_get?_advance stepped
    exact absurd ((underway.requests key old).mp requested).1 List.not_mem_nil
  have unmoved : (occasion.run shard cluster).handovers = [] :=
    underway.handovers_eq_nil (.inr (.inr List.not_mem_nil))
  refine ⟨underway.does inTime ?_ (congrArg List.length unmoved), unmoved,
    underway.afterPass_of_same inTime unmoved ?_ ?_⟩
  · apply List.eq_nil_iff_forall_not_mem.mpr
    intro key member
    exact idle key _ (mem_turn_iff.mp member).1
  · intro key now stepped
    exact absurd stepped (idle key now)
  · intro key member
    exact absurd member List.not_mem_nil

theorem eligible_of_spare (underway : Underway shard cluster primary state todo)
    (inTime : occasion.InTime shard cluster) (own : shard.spec.usesExternalDatastore = false)
    {name : Alias} {pod : Pod} {tablet : Tablet}
    (spare : shard.spec.Spare cluster primary name pod tablet) :
    tablet ∈ (occasion.context shard cluster).eligible
      ((occasion.context shard cluster).held primary) (occasion.context shard cluster).tablets := by
  have smooth := underway.smooth inTime
  have led : cluster.record.primary = some primary :=
    (Shard.healthyPrimary_eq_ok_iff.mp underway.healthy).2
  have listed : (occasion.context shard cluster).tablets.get? name.text = some tablet := by
    rw [tablets, Cluster.tabletsIn, Keyed.get?_filter, Option.filter_eq_some_iff]
    refine ⟨spare.recorded, ?_⟩
    rw [spare.named]
    exact List.contains_iff_mem.mpr spare.served
  have inView : (occasion.context shard cluster).view.get? name.text = some pod := spare.inView
  have held : ((occasion.context shard cluster).held primary).get? name.text = some pod := by
    rw [get?_held smooth, inView, Option.map_some, carried_of_idle inView spare.idle]
  have unanswered := unanswered_of_isAborting_eq_false underway.quiet spare.inView spare.idle
  have isEligible : Succession.isEligible cluster.record shard.spec.usesExternalDatastore tablet pod =
      true := by
    rw [Succession.isEligible, Succession.canBePromoted, own, led, spare.named, spare.replica,
      spare.ready, Markers.any, spare.idle, unanswered.1, unanswered.2]
    simpa using Ne.symm spare.secondary
  exact Succession.mem_eligible.mpr ⟨name.text, pod, listed, held, isEligible⟩

theorem handoverDue (underway : Underway shard cluster primary .acknowledged [primary.text])
    (inTime : occasion.InTime shard cluster) (own : shard.spec.usesExternalDatastore = false)
    (imageless : shard.spec.databaseImage.getD "" = "") {name : Alias} {pod : Pod} {tablet : Tablet}
    (spare : shard.spec.Spare cluster primary name pod tablet) :
    (occasion.context shard cluster).HandoverDue primary where
  live := inTime.live
  listed := inTime.answered.listed
  recorded := inTime.answered.recorded
  inventoried := inTime.answered.inventoried
  inTime := inTime.answered.read
  available := (Shard.healthyPrimary_eq_ok_iff.mp underway.healthy).1
  led := (Shard.healthyPrimary_eq_ok_iff.mp underway.healthy).2
  noneWithdrawn := isAborting_eq_false_iff.mp underway.quiet
  prepared := by
    intro key pod tablet _ _
    refine .inl ?_
    have unset : (occasion.context shard cluster).desiredImage = "" := imageless
    rw [unset, Upgrade.imagesNeedSlowShutdown_unset]
  eligible := List.ne_nil_of_mem (underway.eligible_of_spare inTime own spare)
  turn := by
    refine .inr (Keyed.entries_eq_singleton_iff.mpr ?_)
    intro key old
    exact (underway.requests key old).trans (and_congr_left fun _ => List.mem_singleton)

theorem promotes (inTime : occasion.InTime shard cluster) (own : shard.spec.usesExternalDatastore = false)
    (due : (occasion.context shard cluster).HandoverDue primary) :
    ∃ name, name ≠ primary ∧ (occasion.run shard cluster).handovers.length = 1 ∧
      (occasion.run shard cluster).promoted? = some name := by
  obtain ⟨tablet, chosen, split⟩ := deeds_of_due due
  have eligible := (occasion.context shard cluster).candidate_mem chosen
  have handovers : (occasion.run shard cluster).handovers =
      [.plannedReparent ((occasion.context shard cluster).reparent tablet.name)] := by
    have planned : (occasion.context shard cluster).shard.spec.usesExternalDatastore = false := own
    rw [handovers_run inTime, split, partFor_append, partFor_append, partFor_append,
      partFor_leadDeeds (.inr rfl),
      partFor_eq_nil (serve_chooseDeeds _ _) (by decide) (by decide),
      partFor_eq_nil (serve_tellDeeds .tell _ _) (by decide) (by decide),
      List.nil_append, List.nil_append, List.append_nil, calls_handoverDeeds, planned]
    rfl
  have succeeded : (occasion.context shard cluster).reparentOutcome = .success := by
    have outcome : (occasion.context shard cluster).plannedOutcome = .ok () :=
      Setting.answered_eq_ok_iff.mpr ⟨inTime.promotesBy, inTime.promotes⟩
    have planned : (occasion.context shard cluster).shard.spec.usesExternalDatastore = false := own
    rw [reparentOutcome, handoverOutcome, planned, if_neg (by decide), outcome]
  have counted : (occasion.run shard cluster).calls.any Call.isSuccess = true := by
    refine List.any_eq_true.mpr ⟨.metric shard.spec.metricLabels .success, ?_, rfl⟩
    rw [calls_run inTime, split]
    refine List.mem_filterMap.mpr ⟨.call (.metric shard.spec.metricLabels .success), ?_, rfl⟩
    refine List.mem_append_right _ (List.mem_append_right _ (List.mem_append_right _ ?_))
    rw [tellDeeds, succeeded]
    exact List.mem_cons_of_mem _ (List.mem_singleton_self _)
  refine ⟨tablet.name, ?_, congrArg List.length handovers, ?_⟩
  · intro same
    exact primary_ne_of_eligible eligible (same ▸ due.led)
  · rw [Pass.Report.promoted?, if_pos counted, handovers]
    rfl

/-- The primary, left alone, is not finished but handed over from, and waits to be finished. -/
theorem hands_over (underway : Underway shard cluster primary .acknowledged [primary.text])
    (inTime : occasion.InTime shard cluster) (own : shard.spec.usesExternalDatastore = false)
    (due : (occasion.context shard cluster).HandoverDue primary) :
    ∃ name, name ≠ primary ∧ (occasion.run shard cluster).Does shard.spec .handOver ∧
      Underway shard (cluster.afterPass (occasion.run shard cluster)) name .acknowledged
        [primary.text] := by
  obtain ⟨name, differs, once, promoted⟩ := promotes inTime own due
  have requested : (Drain.requests (occasion.context shard cluster).view).entries =
      [(primary.text, .acknowledged)] := by
    refine Keyed.entries_eq_singleton_iff.mpr ?_
    intro key old
    exact (underway.requests key old).trans (and_congr_left fun _ => List.mem_singleton)
  have next (key : String) (now : DrainState) :
      ((occasion.context shard cluster).next primary).get? key = some now ↔
        key = primary.text ∧ now = .finished := by
    refine (Drain.get?_advance_of_promoted (promoted_of_alone requested)
      (underway.allIn occasion).2).trans (or_iff_left ?_)
    intro waits
    exact waits.1 ((Keyed.entries_eq_singleton_iff.mp requested _ _).mp waits.2.1).1
  refine ⟨name, differs, underway.does inTime ?_ once, underway.afterPass inTime ?_ (by decide) ?_⟩
  · apply List.eq_nil_iff_forall_not_mem.mpr
    intro key member
    obtain ⟨stepped, secondary⟩ := mem_turn_iff.mp member
    exact secondary ((next key _).mp stepped).1
  · rw [Cluster.afterPass, promoted]
    exact Shard.healthyPrimary_eq_ok_iff.mpr ⟨(Shard.healthyPrimary_eq_ok_iff.mp underway.healthy).1, rfl⟩
  · intro key after
    rw [next, next, List.mem_singleton]
    constructor
    · intro stays
      rcases stays with ⟨⟨_, waits⟩, _⟩ | ⟨_, isPrimary, same⟩
      · cases waits
      · exact ⟨isPrimary, same⟩
    · intro waits
      exact .inr ⟨⟨waits.1, rfl⟩, waits⟩

end Underway

end TabletDrain
