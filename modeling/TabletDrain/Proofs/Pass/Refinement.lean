import TabletDrain.Proofs.Pass.Prompt
import TabletDrain.Proofs.Pass.Updates

/-! A pass that moves requests along does to the stored pods what one step does to the map of their
states, each pod on its own: where its update fails, it stays as it is. Two things are kept back from
what the step says. The primary is not finished, and a pod that is finished already stays so where
the step has it acknowledged. -/
namespace TabletDrain.Pass

namespace Context

variable {context : Context} {primary : Alias} {key : String} {state : DrainState}
  {pod listed : Pod}

/-- The markers that a step of the states asks of a pod; the finish of the primary is withheld. -/
def aim (context : Context) (primary : Alias) (key : String) (pod : Pod) : Markers :=
  match (context.next primary).get? key with
  | some .finished =>
    if key = primary.text then pod.markers
    else { pod.markers with acknowledged := true, finished := true }
  | some .acknowledged => { pod.markers with acknowledged := true }
  | _ => pod.markers

/-- What becomes of a stored pod in a pass that moves requests along. -/
structure MovedAlong (context : Context) (primary : Alias) (before after : Pod) : Prop where
  unrequested : context.shard.spec.inView before = false ∨ before.markers.started = false →
    after = before
  failed : (context.replies.updatePod before.shownName).fault ≠ none → after = before
  stepped : ∀ key, before.key? = some key → context.shard.spec.inView before = true →
    before.markers.started = true →
      ((context.next primary).get? key = some .acknowledged ∨
        (context.next primary).get? key = some .finished) ∧
      (context.aim primary key before = before.markers → after = before) ∧
      (context.aim primary key before ≠ before.markers →
        (context.replies.updatePod before.shownName).Succeeds →
          after.markers = context.aim primary key before ∧ Pod.Tended before after)

theorem aim_of_next (stepped : (context.next primary).get? key = some state) (pod : Pod) :
    context.aim primary key pod =
      if state = .finished ∧ key = primary.text then pod.markers else pod.markers.towards state := by
  unfold aim
  rw [stepped]
  rcases Drain.state_of_get?_advance stepped with same | same
  · subst same
    rfl
  · subst same
    by_cases isPrimary : key = primary.text <;> simp [isPrimary, Markers.towards]

/-- A request has an update just where its aim is not reached yet, and that one reaches it. -/
theorem advance?_of_next (live : context.configuration.dryRun = false)
    (stepped : (context.next primary).get? key = some state)
    (found : context.view.get? key = some listed) :
    context.aim primary key listed = listed.markers ∧
        context.advance? primary.text (key, state) = none ∨
      context.aim primary key listed ≠ listed.markers ∧
        ∃ sent, context.advance? primary.text (key, state) = some ⟨listed, sent⟩ ∧
          sent.markers = context.aim primary key listed := by
  have controlled : state ≠ .draining := by
    rcases Drain.state_of_get?_advance stepped with same | same <;> rw [same] <;> decide
  obtain ⟨sent, moves⟩ := listed.exists_setDrainState? context.stamp controlled
  rw [aim_of_next stepped, advance?]
  by_cases withheld : state = .finished ∧ key = primary.text
  · rw [if_pos withheld, if_pos withheld]
    exact .inl ⟨rfl, rfl⟩
  · rw [if_neg withheld, if_neg withheld, found, Option.bind_some]
    by_cases reached : listed.markers.towards state = listed.markers
    · refine .inl ⟨reached, ?_⟩
      rw [update?, moves]
      simp [reached]
    · refine .inr ⟨reached, sent, ?_, Pod.markers_of_setDrainState? moves⟩
      rw [decide_eq_true reached] at moves
      exact update?_eq_some_iff.mpr ⟨live, rfl, moves⟩

section Admitted

variable (admitted : context.Admitted primary) (quiet : isAborting context.view = false)

include admitted quiet

theorem aim_of_mem_updates {update : Update} (member : update ∈ context.updates) :
    ∃ key, context.view.get? key = some update.listed ∧
      context.aim primary key update.listed ≠ update.listed.markers ∧
        update.sent.markers = context.aim primary key update.listed ∧
          update.listed.markers.started = true := by
  rw [updates_of_quiet admitted.served quiet] at member
  obtain ⟨⟨key, state⟩, inside, advanced⟩ := List.mem_filterMap.mp member
  have stepped := Keyed.mem_entries_iff.mp inside
  obtain ⟨listed, found, started⟩ := listed_of_next stepped
  rcases advance?_of_next admitted.live stepped found with ⟨_, none⟩ | ⟨due, sent, one, reached⟩
  · rw [none] at advanced
    cases advanced
  · obtain rfl : update = ⟨listed, sent⟩ := Option.some.inj (advanced.symm.trans one)
    exact ⟨key, found, due, reached, started⟩

theorem mem_updates_of_aim (found : context.view.get? key = some listed)
    (due : context.aim primary key listed ≠ listed.markers) :
    ∃ sent, ⟨listed, sent⟩ ∈ context.updates ∧ sent.markers = context.aim primary key listed := by
  cases stepped : (context.next primary).get? key with
  | none => exact absurd (by rw [aim, stepped]) due
  | some state =>
    rcases advance?_of_next admitted.live stepped found with ⟨same, _⟩ | ⟨_, sent, one, reached⟩
    · exact absurd same due
    · refine ⟨sent, ?_, reached⟩
      rw [updates_of_quiet admitted.served quiet]
      exact List.mem_filterMap.mpr ⟨(key, state), Keyed.mem_entries_iff.mpr stepped, one⟩

/-- The updates are in the order of the keys, one for each pod whose aim is not reached yet. -/
theorem keys_updates :
    context.updates.map (fun update => update.listed.key?) =
      (context.view.filter fun key pod =>
        decide (context.aim primary key pod ≠ pod.markers)).keys.map some := by
  let due (key : String) (_ : DrainState) : Bool :=
    (context.view.get? key).any fun pod => decide (context.aim primary key pod ≠ pod.markers)
  have keys : (context.view.filter fun key pod =>
      decide (context.aim primary key pod ≠ pod.markers)).keys =
        ((context.next primary).filter due).keys := by
    apply Keyed.keys_eq_of_isSome_eq
    intro key
    rw [Keyed.get?_filter, Keyed.get?_filter]
    cases stepped : (context.next primary).get? key with
    | none =>
      have settled (pod : Pod) : context.aim primary key pod = pod.markers := by rw [aim, stepped]
      cases context.view.get? key <;> simp [settled]
    | some state =>
      obtain ⟨listed, found, _⟩ := listed_of_next stepped
      simp only [due, found, Option.filter_some, Option.any_some]
      split <;> rfl
  rw [keys, updates_of_quiet admitted.served quiet, List.map_filterMap, Keyed.keys, Keyed.filter,
    List.map_map, ← List.filterMap_eq_map, List.filterMap_filter]
  refine List.filterMap_congr fun entry inside => ?_
  obtain ⟨key, state⟩ := entry
  have stepped := Keyed.mem_entries_iff.mp inside
  obtain ⟨listed, found, _⟩ := listed_of_next stepped
  have keyed := (ShardSpec.of_mem_view (Keyed.mem_entries_iff.mpr found)).2.2
  rcases advance?_of_next admitted.live stepped found with ⟨reached, none⟩ | ⟨aims, sent, one, _⟩
  · simp [due, found, none, reached]
  · simp [due, found, one, aims, keyed]

theorem movedAlong_landing (distinct : context.shard.spec.Distinct context.cluster.pods)
    (member : pod ∈ context.cluster.pods) :
    context.MovedAlong primary pod (context.landing context.updates pod) where
  unrequested apart := by
    apply landing_of_not_mem distinct.names (List.prefix_refl _) member
    intro update inside same
    obtain ⟨key, found, _, _, started⟩ := aim_of_mem_updates admitted quiet inside
    have inView := (ShardSpec.of_mem_view (Keyed.mem_entries_iff.mpr found)).2.1
    rw [same] at inView started
    simp [inView, started] at apart
  failed fault := by
    apply landing_of_not_mem distinct.names (List.prefix_refl _) member
    intro update inside same
    rw [reply, same]
    exact fault
  stepped key keyed inView started := by
    have found := (ShardSpec.get?_view distinct).mpr ⟨member, inView, keyed⟩
    have requested : (Drain.requests context.view).get? key = some pod.markers.state :=
      Drain.get?_requests.mpr ⟨pod, found, started, rfl⟩
    obtain ⟨after, stepped⟩ := Drain.exists_get?_advance requested
      (Drain.requests_ne_notDraining requested)
    refine ⟨?_, fun reached => ?_, fun due succeeds => ?_⟩
    · change (context.next primary).get? key = some after at stepped
      rw [stepped]
      exact (Drain.state_of_get?_advance stepped).imp (congrArg some) (congrArg some)
    · apply landing_of_not_mem distinct.names (List.prefix_refl _) member
      intro update inside same
      obtain ⟨other, found', due, _⟩ := aim_of_mem_updates admitted quiet inside
      rw [same] at found' due
      cases key_unique distinct.names found found' rfl
      exact absurd reached due
    · obtain ⟨sent, inside, reached⟩ := mem_updates_of_aim admitted quiet found due
      have stored := landing_of_mem distinct.names (List.prefix_refl _) inside succeeds
      dsimp only at stored
      rw [stored]
      exact ⟨reached, (amended_of_mem_updates inside).tended⟩

end Admitted

end Context

/-- What a pass that moves requests along sends, and what it leaves stored: the update of a pod is
sent exactly where its aim is not reached yet, in the order of the keys. -/
theorem moves_along {configuration : Configuration} {replies : Replies} {stamp : String}
    {shard : Shard} {cluster : Cluster} {primary : Alias}
    (admitted : (contextOf configuration replies stamp shard cluster).Admitted primary)
    (completes : (contextOf configuration replies stamp shard cluster).Completes)
    (keepsNames : KeepsNames replies) (distinct : shard.spec.Distinct cluster.pods)
    (noneAborted : ∀ pod ∈ cluster.pods, shard.spec.inView pod = true →
      pod.markers.isAborted = false) :
    let context := contextOf configuration replies stamp shard cluster
    let report := run configuration replies stamp shard cluster
    report.sent.map Pod.key? = (context.view.filter fun key pod =>
        decide (context.aim primary key pod ≠ pod.markers)).keys.map some ∧
      (∀ sent ∈ report.sent, ∃ key listed, context.view.get? key = some listed ∧
        Pod.Amended stamp listed sent ∧ sent.markers = context.aim primary key listed) ∧
      List.Forall₂ (context.MovedAlong primary) cluster.pods report.pods := by
  intro context report
  have quiet : Context.isAborting context.view = false := by
    apply Context.isAborting_eq_false_iff.mpr
    intro entry inside
    obtain ⟨member, inView, _⟩ := ShardSpec.of_mem_view inside
    exact noneAborted entry.2 member inView
  have sent : report.sent = context.updates.map Update.sent := sent_of_completes completes
  have pods : report.pods = cluster.pods.map (context.landing context.updates) :=
    pods_of_completes completes keepsNames distinct.names
  refine ⟨?_, ?_, ?_⟩
  · rw [sent, Context.key?_updates]
    exact Context.keys_updates admitted quiet
  · intro pod member
    rw [sent] at member
    obtain ⟨update, inside, same⟩ := List.mem_map.mp member
    obtain ⟨key, found, _, reached, _⟩ := Context.aim_of_mem_updates admitted quiet inside
    exact ⟨key, update.listed, found, same ▸ Context.amended_of_mem_updates inside, same ▸ reached⟩
  · rw [pods, List.forall₂_map_right_iff]
    exact List.forall₂_same.mpr fun pod member =>
      Context.movedAlong_landing admitted quiet distinct member

/-- The primary comes first and is finished, so the other finished pod counts as acknowledged from
then on; it stays finished, and gains the answer that it lacks. The update of the third pod fails. -/
theorem moves_along_in_sample :
    let pods := [Sample.pod "1" [(startedMarker, ""), (acknowledgedMarker, ""), (finishedMarker, "")],
      Sample.pod "2" [(startedMarker, ""), (finishedMarker, "")],
      Sample.pod "3" [(startedMarker, "")], Sample.pod "4" []]
    let cluster := { Sample.cluster with pods := pods }
    let replies := Sample.refusing "tablet-3"
    let context := contextOf Sample.configuration replies "now" Sample.shard cluster
    let report := run Sample.configuration replies "now" Sample.shard cluster
    context.Admitted ⟨"zone1", 1⟩ ∧ context.Completes ∧ KeepsNames replies ∧
      Sample.spec.Distinct pods ∧
      (∀ pod ∈ pods, Sample.spec.inView pod = true → pod.markers.isAborted = false) ∧
      report.sent.map Pod.key? = [some "zone1-0000000002", some "zone1-0000000003"] ∧
      List.Forall₂ (context.MovedAlong ⟨"zone1", 1⟩) pods report.pods ∧
      report.pods.map Pod.markers =
        [⟨true, true, true⟩, ⟨true, true, true⟩, ⟨true, false, false⟩, ⟨false, false, false⟩] := by
  intro pods cluster replies context report
  have admitted : context.Admitted ⟨"zone1", 1⟩ := ⟨rfl, rfl, rfl, rfl, by decide, rfl⟩
  have completes : context.Completes := by
    unfold Context.Completes
    decide
  have keepsNames : KeepsNames replies := by
    intro name pod returned
    by_cases same : name = "tablet-3" <;>
      simp [replies, Sample.refusing, same, UpdateReply.prompt] at returned
  have distinct : Sample.spec.Distinct pods := ⟨by decide, by decide⟩
  have noneAborted : ∀ pod ∈ pods, Sample.spec.inView pod = true → pod.markers.isAborted = false := by
    decide
  obtain ⟨keys, _, moved⟩ := moves_along admitted completes keepsNames distinct noneAborted
  exact ⟨admitted, completes, keepsNames, distinct, noneAborted, keys.trans (by decide),
    moved, by decide⟩

end TabletDrain.Pass
