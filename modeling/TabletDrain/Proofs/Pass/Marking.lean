import TabletDrain.Pass.Steps
import TabletDrain.Proofs.Drain.Advance
import TabletDrain.Proofs.Pass.Script
import TabletDrain.Proofs.Pod.View

/-! The marking parts of a pass as scripts: sending a pod, taking up the requests, and moving the
markers along. Which pods are sent, and what the pass holds afterwards, follows from the pods listed
and from the replies. -/
namespace TabletDrain.Pass.Context

variable (context : Context)

def warning (reason message : String) : Deed := .event .warning context.shard.ref reason message

def notice (reason message : String) : Deed := .event .normal context.shard.ref reason message

theorem warn_eq (reason message : String) :
    context.warn reason message = perform context.setting [context.warning reason message] := by
  rw [perform_singleton]
  rfl

theorem inform_eq (reason message : String) :
    context.inform reason message = perform context.setting [context.notice reason message] := by
  rw [perform_singleton]
  rfl

def sent (pod updated : Pod) : Pod :=
  let reply := context.replies.updatePod updated.shownName
  match reply.fault with
  | none => reply.returned.getD updated
  | some _ => pod

def sendDeeds (pod updated : Pod) : List Deed :=
  let reply := context.replies.updatePod updated.shownName
  [.call (.updatePod updated), .wait reply.delay] ++
    match reply.fault with
    | none => [.store updated.shownName (reply.returned.getD updated)]
    | some fault =>
      [context.warning "UpdateFailed"
        ("failed to update drain annotation on Pod " ++ pod.shownName ++ ": " ++ fault.message),
        .fail fault]

theorem sendPod_eq (pod updated : Pod) :
    context.sendPod pod updated =
      script context.setting (context.sendDeeds pod updated) (context.sent pod updated) := by
  unfold sendPod sendDeeds sent
  cases reply : (context.replies.updatePod updated.shownName).fault with
  | none =>
    simp only [reply, script, perform, Deed.perform, List.cons_append, List.nil_append, bind_assoc,
      pure_bind]
  | some fault =>
    simp only [reply, script, perform, Deed.perform, List.cons_append, List.nil_append, bind_assoc,
      pure_bind]
    rfl

def moved (pod : Pod) (state : DrainState) : Pod :=
  match pod.setDrainState? state context.stamp with
  | some (updated, true) =>
    if context.configuration.dryRun then updated else context.sent pod updated
  | _ => pod

def moveDeeds (pod : Pod) (state : DrainState) : List Deed :=
  match pod.setDrainState? state context.stamp with
  | some (updated, true) =>
    if context.configuration.dryRun then [] else context.sendDeeds pod updated
  | _ => []

theorem moveTowards_eq (pod : Pod) (state : DrainState) :
    context.moveTowards pod state =
      script context.setting (context.moveDeeds pod state) (context.moved pod state) := by
  unfold moveTowards moveDeeds moved
  cases pod.setDrainState? state context.stamp with
  | none => rfl
  | some result =>
    obtain ⟨updated, changed⟩ := result
    cases changed with
    | false => rfl
    | true =>
      by_cases dryRun : context.configuration.dryRun
      · simp only [dryRun, if_true]
        rfl
      · simp only [dryRun, Bool.false_eq_true, if_false]
        exact context.sendPod_eq pod updated

def requestDeeds (pod : Pod) : List Deed :=
  match pod.drainState with
  | .ok _ => []
  | .error invalid =>
    [context.warning "InvalidDrainState"
      ("Found a pod in an invalid drain state: " ++ pod.shownName ++ ", " ++ invalid.message)]

theorem requestedState_eq (pod : Pod) :
    context.requestedState pod =
      script context.setting (context.requestDeeds pod) pod.markers.state := by
  unfold requestedState requestDeeds
  rcases pod.drainState_ok_or_error with state | ⟨reason, state⟩
  · rw [state]
    rfl
  · rw [state]
    simp only [warn_eq]
    rfl

/-- The pod that the pass holds after looking for a request: what is left of a withdrawn one is
taken back. -/
def cleared (pod : Pod) : Pod :=
  if pod.markers.started then pod else context.moved pod .notDraining

def clearDeeds (pod : Pod) : List Deed :=
  if pod.markers.started then context.requestDeeds pod
  else
    (if pod.markers.isAborted then
      [context.warning "AbortingDrain"
        ("found a partially drained Pod that does not have a drain request: " ++ pod.shownName)]
    else []) ++ context.moveDeeds pod .notDraining

def loadStep (loaded : Loaded) (entry : String × Pod) : Loaded :=
  if entry.2.markers.started then
    { loaded with drains := loaded.drains.insert entry.1 entry.2.markers.state }
  else
    { loaded with
      pods := loaded.pods.insert entry.1 (context.moved entry.2 .notDraining)
      aborting := loaded.aborting || entry.2.markers.isAborted }

theorem loadPod_eq (loaded : Loaded) (entry : String × Pod) :
    context.loadPod loaded entry =
      script context.setting (context.clearDeeds entry.2) (context.loadStep loaded entry) := by
  obtain ⟨key, pod⟩ := entry
  unfold loadPod clearDeeds loadStep
  by_cases started : pod.markers.started
  · simp only [started, if_true, requestedState_eq]
    rw [script_bind]
    rfl
  · by_cases aborted : pod.markers.isAborted
    · simp only [started, aborted, Bool.false_eq_true, if_false, if_true, warn_eq, moveTowards_eq,
        script_bind, script_append]
      rfl
    · simp only [started, aborted, Bool.false_eq_true, if_false, moveTowards_eq, script_bind,
        List.nil_append]
      rfl

def isAborting (view : Keyed Pod) : Bool := view.values.any fun pod => pod.markers.isAborted

def loaded (view : Keyed Pod) : Loaded :=
  ⟨view.map context.cleared, Drain.requests view, isAborting view⟩

private theorem pods_foldl (entries : List (String × Pod)) (start : Loaded) :
    (entries.foldl context.loadStep start).pods =
      entries.foldl (fun pods entry =>
        if entry.2.markers.started then pods
        else pods.insert entry.1 (context.moved entry.2 .notDraining)) start.pods := by
  refine (List.foldl_hom Loaded.pods ?_).symm
  intro loaded entry
  unfold loadStep
  split <;> rfl

private theorem drains_foldl (entries : List (String × Pod)) (start : Loaded) :
    (entries.foldl context.loadStep start).drains =
      entries.foldl (fun drains entry =>
        if entry.2.markers.started then drains.insert entry.1 entry.2.markers.state
        else drains) start.drains := by
  refine (List.foldl_hom Loaded.drains ?_).symm
  intro loaded entry
  unfold loadStep
  split <;> rfl

private theorem aborting_foldl (entries : List (String × Pod)) (start : Loaded) :
    (entries.foldl context.loadStep start).aborting =
      (start.aborting || entries.any fun entry => entry.2.markers.isAborted) := by
  induction entries generalizing start with
  | nil => simp
  | cons entry rest ih =>
    rw [List.foldl_cons, ih, List.any_cons, ← Bool.or_assoc]
    congr 1
    unfold loadStep
    by_cases started : entry.2.markers.started <;> simp [started, Markers.isAborted]

private theorem loaded_pods (view : Keyed Pod) :
    (view.entries.foldl context.loadStep ⟨view, .empty, false⟩).pods = view.map context.cleared := by
  apply Keyed.ext_get?
  intro key
  rw [pods_foldl, Keyed.get?_map]
  rw [Keyed.get?_foldl fun _ pod held =>
    if pod.markers.started then held else some (context.moved pod .notDraining)]
  · cases found : view.get? key with
    | none => rfl
    | some pod => by_cases started : pod.markers.started <;> simp [cleared, started]
  · intro pods key pod
    by_cases started : pod.markers.started <;> simp [started, Keyed.get?_insert]
  · intro pods entry key other
    by_cases started : entry.2.markers.started <;> simp [started, Keyed.get?_insert, other]

private theorem loaded_drains (view : Keyed Pod) :
    (view.entries.foldl context.loadStep ⟨view, .empty, false⟩).drains = Drain.requests view := by
  apply Keyed.ext_get?
  intro key
  apply Option.ext
  intro state
  rw [drains_foldl, Drain.get?_requests]
  rw [Keyed.get?_foldl fun _ pod held =>
    if pod.markers.started then some pod.markers.state else held]
  · cases found : view.get? key with
    | none => simp
    | some pod => by_cases started : pod.markers.started <;> simp [started]
  · intro drains key pod
    by_cases started : pod.markers.started <;> simp [started, Keyed.get?_insert]
  · intro drains entry key other
    by_cases started : entry.2.markers.started <;> simp [started, Keyed.get?_insert, other]

section Quiet

variable {context : Context} {view : Keyed Pod} {pod : Pod} {key : String}

theorem isAborting_eq_false_iff :
    isAborting view = false ↔ ∀ entry ∈ view.entries, entry.2.markers.isAborted = false := by
  simp only [isAborting, Keyed.values, List.any_map, List.any_eq_false, Function.comp_apply,
    Bool.not_eq_true]

theorem unanswered_of_isAborting_eq_false (quiet : isAborting view = false) {key : String}
    {listed : Pod} (found : view.get? key = some listed) (idle : listed.markers.started = false) :
    listed.markers.acknowledged = false ∧ listed.markers.finished = false :=
  Markers.unanswered_of_idle
    (isAborting_eq_false_iff.mp quiet (key, listed) (Keyed.mem_entries_iff.mpr found)) idle

theorem cleared_eq_self (quiet : pod.markers.isAborted = false) : context.cleared pod = pod := by
  unfold cleared
  by_cases started : pod.markers.started
  · rw [if_pos started]
  · have unanswered := Markers.unanswered_of_idle quiet (Bool.eq_false_iff.mpr started)
    rw [if_neg started, moved, Pod.setDrainState?]
    simp only [unanswered.1, unanswered.2, Bool.or_self]

/-- Where no answer is left over, looking at the pods changes none. -/
theorem loaded_pods_eq (quiet : isAborting view = false) : (context.loaded view).pods = view := by
  apply Keyed.ext
  change view.entries.map (fun entry => (entry.1, context.cleared entry.2)) = view.entries
  have same : ∀ entry ∈ view.entries, (entry.1, context.cleared entry.2) = entry := by
    intro entry member
    rw [cleared_eq_self (isAborting_eq_false_iff.mp quiet entry member)]
  rw [List.map_congr_left same, List.map_id']

end Quiet

def loadDeeds (view : Keyed Pod) : List Deed := view.values.flatMap context.clearDeeds

theorem load_eq (view : Keyed Pod) :
    context.load view = script context.setting (context.loadDeeds view) (context.loaded view) := by
  unfold load
  rw [foldlM_eq_script (fun _ _ => True) (fun loaded entry _ _ => context.loadPod_eq loaded entry)
    (fun _ _ _ _ => trivial) trivial]
  congr 1
  · rw [loadDeeds, Keyed.values, List.flatMap_map]
  · have aborting := context.aborting_foldl view.entries ⟨view, .empty, false⟩
    have pods := context.loaded_pods view
    have drains := context.loaded_drains view
    generalize view.entries.foldl context.loadStep ⟨view, .empty, false⟩ = done at *
    obtain ⟨_, _, _⟩ := done
    simp only [Bool.false_or] at aborting
    simp only at pods drains
    rw [aborting, pods, drains, loaded, isAborting, Keyed.values, List.any_map]
    rfl

def carried (primary : String) (next : Keyed DrainState) (key : String) (pod : Pod) : Pod :=
  match next.get? key with
  | some state => if state = .finished ∧ key = primary then pod else context.moved pod state
  | none => pod

def carryDeeds (primary : String) (pods : Keyed Pod) (entry : String × DrainState) : List Deed :=
  if entry.2 = .finished ∧ entry.1 = primary then []
  else
    match pods.get? entry.1 with
    | some pod => context.moveDeeds pod entry.2
    | none => []

def carryStep (primary : String) (pods : Keyed Pod) (entry : String × DrainState) : Keyed Pod :=
  if entry.2 = .finished ∧ entry.1 = primary then pods
  else
    match pods.get? entry.1 with
    | some pod => pods.insert entry.1 (context.moved pod entry.2)
    | none => pods

theorem movePod_eq (primary : String) (pods : Keyed Pod) (entry : String × DrainState) :
    context.movePod primary pods entry =
      script context.setting (context.carryDeeds primary pods entry)
        (context.carryStep primary pods entry) := by
  obtain ⟨key, state⟩ := entry
  unfold movePod carryDeeds carryStep
  by_cases withheld : state = .finished ∧ key = primary
  · simp only [withheld, decide_true, Bool.and_self, if_true, and_self]
    rfl
  · have allowed : ¬(decide (state = .finished) && decide (key = primary)) = true := by
      simpa using withheld
    simp only [withheld, allowed, if_false]
    cases pods.get? key with
    | none => rfl
    | some pod =>
      simp only [moveTowards_eq, script_bind]
      rfl

private theorem get?_carryStep (primary : String) (pods : Keyed Pod) (entry : String × DrainState)
    {key : String} (other : entry.1 ≠ key) :
    (context.carryStep primary pods entry).get? key = pods.get? key := by
  unfold carryStep
  split
  · rfl
  · split
    · rw [Keyed.get?_insert, if_neg other]
    · rfl

def carryAll (primary : String) (pods : Keyed Pod) (next : Keyed DrainState) : List Deed :=
  next.entries.flatMap (context.carryDeeds primary pods)

theorem move_eq (primary : String) (pods : Keyed Pod) (next : Keyed DrainState) :
    context.move primary pods next =
      script context.setting (context.carryAll primary pods next)
        (pods.mapKeyed (context.carried primary next)) := by
  -- A pod keeps its place until its own entry comes, so its deeds follow from the first pods.
  let untouched (held : Keyed Pod) (rest : List (String × DrainState)) : Prop :=
    (rest.map Prod.fst).Nodup ∧ ∀ entry ∈ rest, held.get? entry.1 = pods.get? entry.1
  have each (held : Keyed Pod) (entry : String × DrainState) (rest : List (String × DrainState))
      (same : untouched held (entry :: rest)) :
      context.movePod primary held entry =
        script context.setting (context.carryDeeds primary pods entry)
          (context.carryStep primary held entry) := by
    rw [movePod_eq, carryDeeds, carryDeeds, same.2 entry (List.mem_cons_self)]
  have keeps (held : Keyed Pod) (entry : String × DrainState) (rest : List (String × DrainState))
      (same : untouched held (entry :: rest)) : untouched (context.carryStep primary held entry) rest := by
    have distinct := List.nodup_cons.mp same.1
    refine ⟨distinct.2, ?_⟩
    intro later member
    have other : entry.1 ≠ later.1 := fun equal =>
      distinct.1 (equal ▸ List.mem_map_of_mem member)
    rw [get?_carryStep _ _ _ _ other]
    exact same.2 later (List.mem_cons_of_mem _ member)
  unfold move
  rw [foldlM_eq_script untouched each keeps ⟨next.nodup_keys, fun _ _ => rfl⟩]
  congr 1
  apply Keyed.ext_get?
  intro key
  rw [Keyed.get?_mapKeyed, Keyed.get?_foldl fun key state held =>
    if state = .finished ∧ key = primary then held else held.map fun pod => context.moved pod state]
  · unfold carried
    cases next.get? key with
    | none => simp
    | some state =>
      by_cases withheld : state = .finished ∧ key = primary
      · simp [withheld]
      · simp only [withheld, if_false]
  · intro held key state
    by_cases withheld : state = .finished ∧ key = primary
    · simp [carryStep, withheld]
    · simp only [carryStep, withheld, if_false]
      cases found : held.get? key with
      | none => simp [found]
      | some pod => simp [Keyed.get?_insert]
  · intro held entry key other
    exact context.get?_carryStep primary held entry other

section Updates

variable {context : Context} {pod sent : Pod} {state : DrainState}

theorem serve_sendDeeds (pod updated : Pod) : Serve .update (context.sendDeeds pod updated) := by
  unfold sendDeeds
  refine .append (.cons (.inl rfl) (.cons (.inr rfl) .nil)) ?_
  split
  · exact .cons (.inl rfl) .nil
  · exact .cons (.inr rfl) (.cons (.inr rfl) .nil)

theorem serve_moveDeeds (pod : Pod) (state : DrainState) :
    Serve .update (context.moveDeeds pod state) := by
  unfold moveDeeds
  split
  · split
    · exact .nil
    · exact serve_sendDeeds _ _
  · exact .nil

theorem serve_loadDeeds (view : Keyed Pod) : Serve .update (context.loadDeeds view) := by
  refine .flatMap fun pod _ => ?_
  unfold clearDeeds
  split
  · unfold requestDeeds
    split
    · exact .nil
    · exact .cons (.inr rfl) .nil
  · refine .append ?_ (serve_moveDeeds _ _)
    split
    · exact .cons (.inr rfl) .nil
    · exact .nil

theorem serve_carryAll (primary : String) (pods : Keyed Pod) (next : Keyed DrainState) :
    Serve .update (context.carryAll primary pods next) := by
  refine .flatMap fun entry _ => ?_
  unfold carryDeeds
  split
  · exact .nil
  · split
    · exact serve_moveDeeds _ _
    · exact .nil

private theorem of_mem_moveDeeds {deed : Deed} (member : deed ∈ context.moveDeeds pod state) :
    context.configuration.dryRun = false ∧
      ∃ updated, pod.setDrainState? state context.stamp = some (updated, true) ∧
        deed ∈ context.sendDeeds pod updated := by
  unfold moveDeeds at member
  split at member
  · rename_i updated moves
    split at member
    · exact absurd member (List.not_mem_nil)
    · rename_i live
      exact ⟨by simpa using live, updated, moves, member⟩
  · exact absurd member (List.not_mem_nil)

/-- A pod is sent only where its move changes it, and not in a dry run. -/
theorem of_update_mem_moveDeeds
    (member : Deed.call (.updatePod sent) ∈ context.moveDeeds pod state) :
    context.configuration.dryRun = false ∧
      pod.setDrainState? state context.stamp = some (sent, true) := by
  obtain ⟨live, updated, moves, inside⟩ := of_mem_moveDeeds member
  refine ⟨live, ?_⟩
  dsimp only [sendDeeds] at inside
  rcases List.mem_append.mp inside with here | later
  · simp only [List.mem_cons, Deed.call.injEq, Call.updatePod.injEq, reduceCtorEq, List.not_mem_nil,
      or_false] at here
    rw [here, moves]
  · split at later <;> simp [warning] at later

end Updates

end TabletDrain.Pass.Context
