import TabletDrain.Pass.Steps
import TabletDrain.Proofs.Drain.Advance

/-! Which states a pass moves pods towards. A pod can be moved towards every state but `draining`,
which only the drainer may ask for. What would come of moving one there makes no difference to any
pass: one step of the drain states leaves none of them new. -/
namespace TabletDrain

theorem Pod.setDrainState?_eq_none_iff {pod : Pod} {state : DrainState} {stamp : String} :
    pod.setDrainState? state stamp = none ↔ state = .draining := by
  cases state <;> simp [setDrainState?]

theorem Run.foldlM_congr {α β : Type} {f g : α → β → Run α} {items : List β}
    (agree : ∀ value, ∀ item ∈ items, f value item = g value item) (start : α) :
    items.foldlM f start = items.foldlM g start := by
  induction items generalizing start with
  | nil => rfl
  | cons item rest ih =>
    obtain ⟨here, later⟩ : (∀ value, f value item = g value item) ∧
        ∀ value, ∀ other ∈ rest, f value other = g value other :=
      ⟨fun value => agree value item List.mem_cons_self,
        fun value other member => agree value other (List.mem_cons_of_mem _ member)⟩
    rw [List.foldlM_cons, List.foldlM_cons, here]
    exact congrArg (g start item >>= ·) (funext fun value => ih later value)

namespace Pass.Context

variable (context : Context)

section Moves

-- The parts of a pass that move pods, over the way in which that is done.
variable (moveTo : Pod → DrainState → Run Pod)

def loadPodBy (loaded : Loaded) (entry : String × Pod) : Run Loaded := do
  let (key, pod) := entry
  if pod.markers.started then
    let state ← context.requestedState pod
    return { loaded with drains := loaded.drains.insert key state }
  else
    if pod.markers.isAborted then
      context.warn "AbortingDrain"
        ("found a partially drained Pod that does not have a drain request: " ++ pod.shownName)
    let stored ← moveTo pod .notDraining
    return { loaded with
      pods := loaded.pods.insert key stored
      aborting := loaded.aborting || pod.markers.isAborted }

def loadBy (pods : Keyed Pod) : Run Loaded :=
  pods.entries.foldlM (context.loadPodBy moveTo) ⟨pods, .empty, false⟩

def movePodBy (primary : String) (pods : Keyed Pod) (entry : String × DrainState) :
    Run (Keyed Pod) := do
  let (key, state) := entry
  if state = .finished && key = primary then return pods
  else
    match pods.get? key with
    | some pod =>
      let stored ← moveTo pod state
      return pods.insert key stored
    | none => return pods

def moveBy (primary : String) (pods : Keyed Pod) (next : Keyed DrainState) : Run (Keyed Pod) :=
  next.entries.foldlM (movePodBy moveTo primary) pods

def actBy (primary : Alias) (loaded : Loaded) (tablets : Keyed Tablet) : Run Unit := do
  if loaded.drains.isEmpty then return ()
  else if loaded.aborting then
    context.warn "AbortingDrain" "detected that we are aborting drain"
  else
    let next := Drain.advance loaded.drains (some primary.text)
    let pods ← moveBy moveTo primary.text loaded.pods next
    if ← context.prepareUpgrade pods tablets then
      context.drainPrimary primary loaded.drains next pods tablets

def passBy : Run Unit := do
  match ← context.readState with
  | none => Run.requeueAfter context.timeouts.requeueDelay
  | some state =>
    match Shard.healthyPrimary context.shard.status context.cluster.record with
    | .error reason => context.warn "NotReconcilingDrain" reason.message
    | .ok primary =>
      let loaded ← context.loadBy moveTo state.pods
      context.actBy moveTo primary loaded state.tablets

end Moves

theorem passBy_moveTowards : context.passBy context.moveTowards = context.pass := rfl

section Agreement

variable {context} {moveTo other : Pod → DrainState → Run Pod}
  (agree : ∀ pod state, state ≠ .draining → moveTo pod state = other pod state)

include agree

theorem loadPodBy_congr (loaded : Loaded) (entry : String × Pod) :
    context.loadPodBy moveTo loaded entry = context.loadPodBy other loaded entry := by
  obtain ⟨key, pod⟩ := entry
  have taken := agree pod .notDraining (by decide)
  simp only [loadPodBy, taken]

theorem movePodBy_congr {entry : String × DrainState} (settable : entry.2 ≠ .draining)
    (primary : String) (pods : Keyed Pod) :
    movePodBy moveTo primary pods entry = movePodBy other primary pods entry := by
  unfold movePodBy
  simp only [agree _ _ settable]

/-- After a step of the drain states none is new, so no pod is moved towards a new one. -/
theorem moveBy_advance_congr (primary : String) (pods : Keyed Pod) (drains : Keyed DrainState)
    (leader : Option String) :
    moveBy moveTo primary pods (Drain.advance drains leader) =
      moveBy other primary pods (Drain.advance drains leader) := by
  refine Run.foldlM_congr (fun pods entry member => ?_) pods
  refine movePodBy_congr agree ?_ primary pods
  rcases Drain.state_of_get?_advance (Keyed.get?_of_mem member) with same | same <;>
    · rw [same]
      decide

theorem actBy_congr (primary : Alias) (loaded : Loaded) (tablets : Keyed Tablet) :
    context.actBy moveTo primary loaded tablets = context.actBy other primary loaded tablets := by
  unfold actBy
  simp only [moveBy_advance_congr agree]

theorem passBy_congr : context.passBy moveTo = context.passBy other := by
  have load (pods : Keyed Pod) : context.loadBy moveTo pods = context.loadBy other pods :=
    Run.foldlM_congr (fun loaded entry _ => loadPodBy_congr agree loaded entry) _
  unfold passBy
  simp only [load, actBy_congr agree]

end Agreement

/-- Moves a pod as a pass does, with `refused` for what comes of a state that cannot be set. -/
def moveTowardsElse (refused : Pod → Run Pod) (pod : Pod) (state : DrainState) : Run Pod :=
  match pod.setDrainState? state context.stamp with
  | some _ => context.moveTowards pod state
  | none => refused pod

def passElse (refused : Pod → Run Pod) : Run Unit := context.passBy (context.moveTowardsElse refused)

theorem moveTowardsElse_of_settable (refused : Pod → Run Pod) (pod : Pod) {state : DrainState}
    (settable : state ≠ .draining) :
    context.moveTowardsElse refused pod state = context.moveTowards pod state := by
  unfold moveTowardsElse
  cases set : pod.setDrainState? state context.stamp with
  | none => exact absurd (Pod.setDrainState?_eq_none_iff.mp set) settable
  | some _ => rfl

theorem passElse_eq (refused : Pod → Run Pod) : context.passElse refused = context.pass :=
  (passBy_congr fun pod _ => context.moveTowardsElse_of_settable refused pod).trans
    context.passBy_moveTowards

end Pass.Context

/-- One step of the drain states: what is left, and who is finished. Whatever came of moving a pod
towards a state that cannot be set, a pass would be the same. -/
theorem Pass.advances_exactly :
    (∀ (states : Keyed DrainState) (primary : Option String),
      let next := Drain.advance states primary
      (∀ key, key ∈ next.keys ↔
        ∃ state, states.get? key = some state ∧ state ≠ .notDraining) ∧
      (∀ key state, next.get? key = some state → state = .acknowledged ∨ state = .finished) ∧
      (∀ key, next.get? key = some .finished ↔
        Drain.LeadsFinished states key ∨ Drain.Promoted states primary key) ∧
      (∀ key other, next.get? key = some .finished → next.get? other = some .finished →
        key = other) ∧
      (∀ key, states.get? key = some .draining → next.get? key = some .acknowledged) ∧
      ∀ key, Drain.LeadsFinished states key → next.get? key = some .finished) ∧
    (∀ (pod : Pod) (state : DrainState) (stamp : String),
      pod.setDrainState? state stamp = none ↔ state = .draining) ∧
    ∀ (context : Context) (refused : Pod → Run Pod),
      context.passElse refused = context.pass := by
  refine ⟨fun states primary => ?_, fun _ _ _ => Pod.setDrainState?_eq_none_iff,
    Context.passElse_eq⟩
  intro next
  have finishes (key : String) : next.get? key = some .finished ↔
      Drain.LeadsFinished states key ∨ Drain.Promoted states primary key :=
    Drain.get?_advance_eq_finished_iff
  refine ⟨fun key => ?_, fun _ _ => Drain.state_of_get?_advance, finishes,
    fun _ _ => Drain.finished_unique, fun key isNew => ?_,
    fun key leads => (finishes key).mpr (.inl leads)⟩
  · rw [Keyed.mem_keys_iff]
    constructor
    · intro left
      obtain ⟨state, stepped⟩ := left
      exact Drain.exists_of_get?_advance stepped
    · intro requested
      obtain ⟨state, found, active⟩ := requested
      exact Drain.exists_get?_advance found active
  · refine Drain.get?_advance_eq_acknowledged_iff.mpr ⟨⟨_, isNew, by decide⟩, ?_, ?_⟩
    · intro leads
      cases isNew.symm.trans leads.1
    · intro promoted
      cases isNew.symm.trans promoted.2.1

end TabletDrain
