import TabletDrain.Proofs.Pass.Stored

/-! What a live pass that gets its answers in time marks: the markers of each pod in view afterwards, and
from them the requests that are left once the finished pods are gone. -/
namespace TabletDrain.Pass.Context

variable {context : Context} {primary : Alias} {key : String} {listed : Pod} {state : DrainState}

theorem markers_moved (smooth : context.Smooth primary) (pod : Pod) (controlled : state ≠ .draining) :
    (context.moved pod state).markers = pod.markers.towards state := by
  obtain ⟨updated, moves⟩ := Pod.exists_setDrainState? pod context.stamp controlled
  unfold moved
  rw [moves]
  by_cases same : pod.markers.towards state = pod.markers
  · simp [same]
  · simp only [ne_eq, same, not_false_eq_true, decide_true, smooth.live, Bool.false_eq_true, if_false,
      sent, (smooth.inTime.updated _).1, (smooth.inTime.updated _).2, Option.getD_none]
    exact Pod.markers_of_setDrainState? moves

private theorem ne_draining_of_next (stepped : (context.next primary).get? key = some state) :
    state ≠ .draining := by
  rcases Drain.state_of_get?_advance stepped with same | same <;> rw [same] <;> decide

theorem markers_carried (smooth : context.Smooth primary) (pod : Pod) :
    (context.carried primary.text (context.next primary) key pod).markers =
      match (context.next primary).get? key with
      | none => pod.markers
      | some state =>
        if state = .finished ∧ key = primary.text then pod.markers
        else pod.markers.towards state := by
  unfold carried
  cases stepped : (context.next primary).get? key with
  | none => rfl
  | some state =>
    by_cases withheld : state = .finished ∧ key = primary.text
    · simp only [withheld, and_self, if_true]
    · simp only [withheld, if_false]
      exact markers_moved smooth pod (ne_draining_of_next stepped)

def remaining (context : Context) (primary : Alias) : Keyed Pod :=
  (context.held primary).filter fun _ pod => !pod.markers.finished

theorem get?_held (smooth : context.Smooth primary) (key : String) :
    (context.held primary).get? key = (context.view.get? key).map
      (context.carried primary.text (context.next primary) key) := by
  rw [held, loaded_pods_eq smooth.quiet, Keyed.get?_mapKeyed]

theorem get?_remaining (smooth : context.Smooth primary) {pod : Pod} :
    (context.remaining primary).get? key = some pod ↔
      ∃ listed, context.view.get? key = some listed ∧
        context.carried primary.text (context.next primary) key listed = pod ∧
          pod.markers.finished = false := by
  rw [remaining, Keyed.get?_filter, get?_held smooth, Option.filter_eq_some_iff,
    Option.map_eq_some_iff]
  simp only [Bool.not_eq_true']
  constructor
  · intro found
    obtain ⟨⟨listed, here, same⟩, unfinished⟩ := found
    exact ⟨listed, here, same, unfinished⟩
  · intro found
    obtain ⟨listed, here, same, unfinished⟩ := found
    exact ⟨⟨listed, here, same⟩, unfinished⟩

theorem exists_next (context : Context) (primary : Alias) {old : DrainState}
    (requested : (Drain.requests context.view).get? key = some old) :
    ∃ after, (context.next primary).get? key = some after :=
  Drain.exists_get?_advance requested (Drain.requests_ne_notDraining requested)

private theorem next_of_idle (found : context.view.get? key = some listed)
    (idle : listed.markers.started = false) : (context.next primary).get? key = none := by
  cases stepped : (context.next primary).get? key with
  | none => rfl
  | some state =>
    obtain ⟨pod, again, started⟩ := listed_of_next stepped
    cases Option.some.inj (again.symm.trans found)
    rw [idle] at started
    cases started

theorem carried_of_idle (found : context.view.get? key = some listed)
    (idle : listed.markers.started = false) :
    context.carried primary.text (context.next primary) key listed = listed := by
  rw [carried, next_of_idle found idle]

private theorem started_carried (smooth : context.Smooth primary) (pod : Pod) :
    (context.carried primary.text (context.next primary) key pod).markers.started =
      pod.markers.started := by
  rw [markers_carried smooth]
  split
  · rfl
  · split
    · rfl
    · rename_i state _ _
      cases state <;> rfl

theorem isAborting_remaining (smooth : context.Smooth primary) :
    isAborting (context.remaining primary) = false := by
  apply isAborting_eq_false_iff.mpr
  intro entry member
  obtain ⟨listed, found, same, _⟩ := (get?_remaining smooth).mp (Keyed.mem_entries_iff.mp member)
  rw [← same]
  cases started : listed.markers.started with
  | true => rw [Markers.isAborted, started_carried smooth, started]; rfl
  | false =>
    rw [carried_of_idle found started]
    exact isAborting_eq_false_iff.mp smooth.quiet _ (Keyed.mem_entries_iff.mpr found)

/-- All requests are in one state, and none is finished. -/
def AllIn (context : Context) (state : DrainState) : Prop :=
  state ≠ .finished ∧
    ∀ key old, (Drain.requests context.view).get? key = some old → old = state

private theorem markers_of_allIn (all : context.AllIn state)
    (found : context.view.get? key = some listed) (started : listed.markers.started = true) :
    (Drain.requests context.view).get? key = some state ∧ listed.markers.state = state ∧
      listed.markers.finished = false := by
  have requested : (Drain.requests context.view).get? key = some listed.markers.state :=
    Drain.get?_requests.mpr ⟨listed, found, started, rfl⟩
  have same := all.2 key _ requested
  refine ⟨same ▸ requested, same, ?_⟩
  cases finished : listed.markers.finished with
  | false => rfl
  | true =>
    have isFinished := (Markers.state_eq_finished_iff _).mpr ⟨started, finished⟩
    exact absurd (same.symm.trans isFinished) all.1

/-- What becomes of a request: it is acknowledged, or finished, unless it is the primary's. -/
theorem carried_cases (smooth : context.Smooth primary) (all : context.AllIn state)
    (found : context.view.get? key = some listed) (started : listed.markers.started = true) :
    let after := (context.carried primary.text (context.next primary) key listed).markers
    (context.next primary).get? key = some .acknowledged ∧ after.finished = false ∧
        after.state = .acknowledged ∨
      (context.next primary).get? key = some .finished ∧ key = primary.text ∧
        after.finished = false ∧ after.state = state ∨
      (context.next primary).get? key = some .finished ∧ key ≠ primary.text ∧
        after.finished = true := by
  obtain ⟨requested, same, unfinished⟩ := markers_of_allIn all found started
  obtain ⟨after, stepped⟩ := context.exists_next primary requested
  rw [markers_carried smooth, stepped]
  rcases Drain.state_of_get?_advance stepped with isAcknowledged | isFinished
  · subst isAcknowledged
    refine .inl ⟨rfl, unfinished, ?_⟩
    exact (Markers.state_eq_acknowledged_iff _).mpr ⟨started, rfl, unfinished⟩
  · subst isFinished
    by_cases isPrimary : key = primary.text
    · refine .inr (.inl ⟨rfl, isPrimary, ?_⟩)
      dsimp only
      rw [if_pos ⟨rfl, isPrimary⟩]
      exact ⟨unfinished, same⟩
    · refine .inr (.inr ⟨rfl, isPrimary, ?_⟩)
      dsimp only
      rw [if_neg fun withheld => isPrimary withheld.2]
      rfl

/-- The requests that are left: those that are acknowledged, and the primary's where its finish was
withheld. -/
theorem get?_requests_remaining (smooth : context.Smooth primary) (all : context.AllIn state)
    {after : DrainState} :
    (Drain.requests (context.remaining primary)).get? key = some after ↔
      (context.next primary).get? key = some .acknowledged ∧ after = .acknowledged ∨
      (context.next primary).get? key = some .finished ∧ key = primary.text ∧ after = state := by
  rw [Drain.get?_requests]
  constructor
  · intro left
    obtain ⟨pod, held, started, same⟩ := left
    obtain ⟨listed, found, carried, unfinished⟩ := (get?_remaining smooth).mp held
    subst carried
    rw [started_carried smooth] at started
    rcases carried_cases smooth all found started with
      ⟨stepped, _, now⟩ | ⟨stepped, isPrimary, _, now⟩ | ⟨_, _, finished⟩
    · exact .inl ⟨stepped, same.symm.trans now⟩
    · exact .inr ⟨stepped, isPrimary, same.symm.trans now⟩
    · rw [unfinished] at finished
      cases finished
  · intro stays
    have stepped : ∃ now, (context.next primary).get? key = some now := by
      rcases stays with ⟨stepped, _⟩ | ⟨stepped, _⟩ <;> exact ⟨_, stepped⟩
    obtain ⟨now, stepped⟩ := stepped
    obtain ⟨old, requested, _⟩ := Drain.exists_of_get?_advance stepped
    obtain ⟨listed, found, started, _⟩ := Drain.get?_requests.mp requested
    have now : (context.carried primary.text (context.next primary) key listed).markers.finished =
        false ∧ (context.carried primary.text (context.next primary) key listed).markers.state =
          after := by
      rcases carried_cases smooth all found started with
        ⟨waits, unfinished, now⟩ | ⟨isFinished, _, unfinished, now⟩ | ⟨isFinished, secondary, _⟩
      · rcases stays with ⟨_, same⟩ | ⟨isFinished, _⟩
        · exact ⟨unfinished, now.trans same.symm⟩
        · rw [waits] at isFinished
          cases isFinished
      · rcases stays with ⟨waits, _⟩ | ⟨_, _, same⟩
        · rw [isFinished] at waits
          cases waits
        · exact ⟨unfinished, now.trans same.symm⟩
      · rcases stays with ⟨waits, _⟩ | ⟨_, isPrimary, _⟩
        · rw [isFinished] at waits
          cases waits
        · exact absurd isPrimary secondary
    exact ⟨context.carried primary.text (context.next primary) key listed,
      (get?_remaining smooth).mpr ⟨listed, found, rfl, now.1⟩, (started_carried smooth _).trans started,
      now.2⟩

theorem finished_carried_iff (smooth : context.Smooth primary) (all : context.AllIn state)
    (found : context.view.get? key = some listed) :
    (context.carried primary.text (context.next primary) key listed).markers.finished = true ↔
      (context.next primary).get? key = some .finished ∧ key ≠ primary.text := by
  cases started : listed.markers.started with
  | false =>
    have unfinished := (unanswered_of_isAborting_eq_false smooth.quiet found started).2
    rw [carried_of_idle found started, next_of_idle found started, unfinished]
    simp
  | true =>
    rcases carried_cases smooth all found started with
      ⟨stepped, unfinished, _⟩ | ⟨stepped, isPrimary, unfinished, _⟩ | ⟨stepped, secondary, finished⟩
    · simp [stepped, unfinished]
    · simp [isPrimary, isPrimary ▸ unfinished]
    · simp [stepped, secondary, finished]

def turn (context : Context) (primary : Alias) : List String :=
  ((context.next primary).filter fun key state =>
    decide (state = .finished ∧ key ≠ primary.text)).keys

theorem mem_turn_iff :
    key ∈ context.turn primary ↔
      (context.next primary).get? key = some .finished ∧ key ≠ primary.text := by
  rw [turn, Keyed.mem_keys_iff]
  simp only [Keyed.get?_filter, Option.filter_eq_some_iff, decide_eq_true_eq]
  constructor
  · intro found
    obtain ⟨now, stepped, same, secondary⟩ := found
    exact ⟨same ▸ stepped, secondary⟩
  · intro found
    exact ⟨_, found.1, rfl, found.2⟩

theorem finished_held (smooth : context.Smooth primary) (all : context.AllIn state) :
    ((context.held primary).filter fun _ pod => pod.markers.finished).keys = context.turn primary := by
  apply Keyed.keys_eq_of_isSome_eq
  intro key
  rw [Keyed.get?_filter, Keyed.get?_filter, get?_held smooth, Bool.eq_iff_iff]
  simp only [Option.isSome_iff_exists, Option.filter_eq_some_iff, Option.map_eq_some_iff,
    decide_eq_true_eq]
  constructor
  · intro left
    obtain ⟨pod, ⟨listed, found, carried⟩, finished⟩ := left
    rw [← carried] at finished
    obtain ⟨stepped, secondary⟩ := (finished_carried_iff smooth all found).mp finished
    exact ⟨_, stepped, rfl, secondary⟩
  · intro stays
    obtain ⟨now, stepped, isFinished, secondary⟩ := stays
    subst isFinished
    obtain ⟨listed, found, _⟩ := listed_of_next stepped
    exact ⟨_, ⟨listed, found, rfl⟩, (finished_carried_iff smooth all found).mpr ⟨stepped, secondary⟩⟩

end TabletDrain.Pass.Context

namespace TabletDrain

def Call.marked? : Call → Option String
  | .updatePod sent => if sent.markers.finished then sent.key? else none
  | _ => none

namespace Pass.Context

variable {context : Context} {primary : Alias} {state : DrainState}

private theorem marked_write? (smooth : context.Smooth primary) (all : context.AllIn state)
    {entry : String × DrainState} (member : entry ∈ (context.next primary).entries) :
    ((context.write? primary.text entry).bind fun write => (Call.updatePod write.2).marked?) =
      if entry.2 = .finished ∧ entry.1 ≠ primary.text then some entry.1 else none := by
  obtain ⟨key, now⟩ := entry
  have stepped := Keyed.mem_entries_iff.mp member
  obtain ⟨listed, found, started⟩ := listed_of_next stepped
  have finished := finished_carried_iff smooth all found
  have carried := carried_eq smooth found
  rw [stepped, Option.bind_some] at carried
  rw [stepped, Option.some.injEq] at finished
  cases written : context.write? primary.text (key, now) with
  | none =>
    rw [written] at carried
    have unfinished := (markers_of_allIn all found started).2.2
    rw [carried, Option.map_none, Option.getD_none, unfinished] at finished
    rw [if_neg fun due => absurd (finished.mpr due) (by decide)]
    rfl
  | some write =>
    obtain ⟨name, stored⟩ := write
    rw [written, Option.map_some, Option.getD_some] at carried
    rw [carried] at finished
    obtain ⟨pod, again, _, same⟩ := of_write?_eq_some written
    have keyed : stored.key? = some key := by
      rw [same.key?]
      exact ((ShardSpec.get?_view smooth.distinct).mp again).2.2
    rw [Option.bind_some, Call.marked?, keyed]
    exact if_congr finished rfl rfl

theorem marked_writes (smooth : context.Smooth primary) (all : context.AllIn state) :
    (context.writes primary).filterMap (fun write => (Call.updatePod write.2).marked?) =
      context.turn primary := by
  have keys : context.turn primary = (context.next primary).entries.filterMap fun entry =>
      if entry.2 = .finished ∧ entry.1 ≠ primary.text then some entry.1 else none := by
    rw [turn, Keyed.keys, Keyed.filter, ← List.filterMap_eq_map, List.filterMap_filter]
    refine List.filterMap_congr fun entry _ => ?_
    by_cases due : entry.2 = .finished ∧ entry.1 ≠ primary.text <;> simp [due]
  rw [keys, writes, List.filterMap_filterMap]
  exact List.filterMap_congr fun entry member => marked_write? smooth all member

end Pass.Context

end TabletDrain
