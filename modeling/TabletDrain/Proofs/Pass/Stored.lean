import TabletDrain.Proofs.Pass.Prompt
import TabletDrain.Proofs.Pass.Updates

/-! What a live pass that gets all its answers in time leaves stored: every pod in view as the pass holds
it in the end, and all other pods as they were. -/
namespace TabletDrain

namespace Pass.Context

/-- The reads succeed within the time for all of them, the updates succeed, and all that the pass does
takes no longer than a pass may. What the other calls answer is left open. -/
structure InTime (context : Context) : Prop where
  listed : context.replies.listPods.fault = none
  recorded : context.replies.getShard.fault = none
  inventoried : context.replies.getTablets.fault = none
  read : context.replies.listPods.delay + context.replies.getShard.delay
    + context.replies.getTablets.delay ≤ context.timeouts.read
  updated : ∀ name, (context.replies.updatePod name).Succeeds
  whole : context.time context.deeds ≤ context.timeouts.pass

theorem inTime_of_prompt {context : Context} (prompt : context.replies.Prompt) : context.InTime where
  listed := congrArg Reply.fault prompt.listPods
  recorded := congrArg Reply.fault prompt.getShard
  inventoried := congrArg Reply.fault prompt.getTablets
  read := by
    rw [prompt.listPods, prompt.getShard, prompt.getTablets]
    exact Nat.zero_le _
  updated name := by
    rw [prompt.updatePod]
    exact ⟨rfl, rfl⟩
  whole := (time_of_prompt prompt).trans_le (Nat.zero_le _)

/-- A live pass that gets its answers in time, over a healthy shard with distinct pods in view and
without withdrawn requests. -/
structure Smooth (context : Context) (primary : Alias) : Prop where
  live : context.configuration.dryRun = false
  inTime : context.InTime
  healthy : Shard.healthyPrimary context.shard.status context.cluster.record = .ok primary
  distinct : context.shard.spec.Distinct context.cluster.pods
  quiet : isAborting context.view = false

variable {context : Context} {primary : Alias}

theorem Smooth.served (smooth : context.Smooth primary) : context.served? = some primary := by
  have inTime := smooth.inTime
  exact served_iff.mpr ⟨isRead_readings_iff.mpr
    ⟨inTime.listed, inTime.recorded, inTime.inventoried, inTime.read⟩, smooth.healthy⟩

def write? (context : Context) (primary : String) (entry : String × DrainState) :
    Option (String × Pod) :=
  if entry.2 = .finished ∧ entry.1 = primary then none
  else
    (context.view.get? entry.1).bind fun listed =>
      match listed.setDrainState? entry.2 context.stamp with
      | some (updated, true) => some (listed.shownName, updated)
      | _ => none

def writes (context : Context) (primary : Alias) : List (String × Pod) :=
  (context.next primary).entries.filterMap (context.write? primary.text)

theorem carried_eq (smooth : context.Smooth primary) {key : String} {listed : Pod}
    (found : context.view.get? key = some listed) :
    context.carried primary.text (context.next primary) key listed =
      (((context.next primary).get? key).bind fun state =>
        (context.write? primary.text (key, state)).map Prod.snd).getD listed := by
  unfold carried write?
  cases (context.next primary).get? key with
  | none => rfl
  | some state =>
    by_cases withheld : state = .finished ∧ key = primary.text
    · simp [withheld]
    · simp only [withheld, if_false, Option.bind_some, found, moved, smooth.live,
        Bool.false_eq_true, sent, (smooth.inTime.updated _).1, (smooth.inTime.updated _).2,
        Option.getD_none]
      rcases listed.setDrainState? state context.stamp with _ | ⟨updated, _ | _⟩ <;> rfl

theorem of_write?_eq_some {entry : String × DrainState} {name : String} {stored : Pod}
    (written : context.write? primary.text entry = some (name, stored)) :
    ∃ listed, context.view.get? entry.1 = some listed ∧ name = listed.shownName ∧
      Pod.Reannotated listed stored := by
  unfold write? at written
  split at written
  · cases written
  · obtain ⟨listed, found, written⟩ := Option.bind_eq_some_iff.mp written
    split at written
    · rename_i updated moves
      cases written
      exact ⟨listed, found, rfl, Pod.reannotated_of_setDrainState? moves⟩
    · cases written

variable {name : String} {stored : Pod}

private theorem write?_eq_map (smooth : context.Smooth primary) (entry : String × DrainState) :
    context.write? primary.text entry = (context.advance? primary.text entry).map fun update =>
      (update.listed.shownName, update.sent) := by
  unfold write? advance?
  by_cases withheld : entry.2 = .finished ∧ entry.1 = primary.text
  · rw [if_pos withheld, if_pos withheld]
    rfl
  · rw [if_neg withheld, if_neg withheld, Option.map_bind]
    congr 1
    funext listed
    simp only [Function.comp_apply, update?, smooth.live, Bool.false_eq_true, if_false]
    rcases listed.setDrainState? entry.2 context.stamp with _ | ⟨updated, _ | _⟩ <;> rfl

private theorem writes_eq_map (smooth : context.Smooth primary) :
    context.writes primary = context.updates.map fun update =>
      (update.listed.shownName, update.sent) := by
  rw [updates_of_quiet smooth.served smooth.quiet, writes, List.map_filterMap]
  exact List.filterMap_congr fun entry _ => write?_eq_map smooth entry

private theorem shownName_of_write (smooth : context.Smooth primary)
    (member : (name, stored) ∈ context.writes primary) : stored.shownName = name := by
  rw [writes_eq_map smooth] at member
  obtain ⟨update, inside, same⟩ := List.mem_map.mp member
  cases same
  exact shownName_sent inside

private theorem writes_apart (smooth : context.Smooth primary) :
    ((context.writes primary).map Prod.fst).Nodup := by
  rw [writes_eq_map smooth, List.map_map]
  exact nodup_updates smooth.distinct.names

def left (context : Context) (primary : Alias) (pod : Pod) : Pod :=
  if context.shard.spec.inView pod then
    match pod.key? with
    | some key => context.carried primary.text (context.next primary) key pod
    | none => pod
  else pod

theorem reannotated_left (smooth : context.Smooth primary) (pod : Pod) :
    Pod.Reannotated pod (context.left primary pod) := by
  have faithful : Faithful context.replies := fun name => (smooth.inTime.updated name).2
  unfold left
  split
  · split
    · exact reannotated_carried faithful _ _
    · exact .refl pod
  · exact .refl pod

private theorem find_writes (smooth : context.Smooth primary) {pod : Pod}
    (member : pod ∈ context.cluster.pods) :
    (Keyed.find pod.shownName (context.writes primary)).getD pod = context.left primary pod := by
  unfold left
  by_cases inView : context.shard.spec.inView pod = true
  · obtain ⟨key, keyed⟩ := ShardSpec.exists_key_of_inView inView
    have found : context.view.get? key = some pod :=
      (ShardSpec.get?_view smooth.distinct).mpr ⟨member, inView, keyed⟩
    rw [if_pos inView, keyed]
    dsimp only
    rw [carried_eq smooth found]
    congr 1
    apply Option.ext
    intro stored
    rw [Keyed.find_eq_some_iff (writes_apart smooth), writes, List.mem_filterMap]
    constructor
    · intro written
      obtain ⟨⟨other, state⟩, stepped, written⟩ := written
      obtain ⟨listed, found', named, _⟩ := of_write?_eq_some written
      cases key_unique smooth.distinct.names found found' named
      rw [Keyed.mem_entries_iff.mp stepped]
      simp [written]
    · intro written
      obtain ⟨state, stepped, written⟩ := Option.bind_eq_some_iff.mp written
      obtain ⟨⟨name, other⟩, wrote, same⟩ := Option.map_eq_some_iff.mp written
      obtain ⟨listed, found', named, _⟩ := of_write?_eq_some wrote
      cases Option.some.inj (found.symm.trans found')
      cases same
      exact ⟨(key, state), Keyed.mem_entries_iff.mpr stepped, named ▸ wrote⟩
  · rw [if_neg inView]
    cases found : Keyed.find pod.shownName (context.writes primary) with
    | none => rfl
    | some stored =>
      obtain ⟨entry, _, written⟩ :=
        List.mem_filterMap.mp ((Keyed.find_eq_some_iff (writes_apart smooth)).mp found)
      obtain ⟨listed, found, named, _⟩ := of_write?_eq_some written
      obtain ⟨member', inView', _⟩ := (ShardSpec.get?_view smooth.distinct).mp found
      cases List.inj_on_of_nodup_map smooth.distinct.names member member' named
      exact absurd inView' inView

def writeDeeds (write : String × Pod) : List Deed :=
  [.call (.updatePod write.2), .store write.1 write.2]

theorem updates_of_smooth (smooth : context.Smooth primary) :
    partFor .update context.deeds = (context.writes primary).flatMap writeDeeds := by
  rw [partFor_update_deeds, writes_eq_map smooth, List.flatMap_map]
  refine List.flatMap_congr fun update _ => ?_
  rw [updateDeeds, stored?, reply, (smooth.inTime.updated _).1, (smooth.inTime.updated _).2]
  rfl

private theorem filterMap_writeDeeds (writes : List (String × Pod)) :
    (writes.flatMap writeDeeds).filterMap Deed.write? = writes ∧
      (writes.flatMap writeDeeds).filterMap Deed.call? =
        writes.map fun write => .updatePod write.2 := by
  induction writes with
  | nil => exact ⟨rfl, rfl⟩
  | cons write rest ih =>
    rw [List.flatMap_cons, List.filterMap_append, List.filterMap_append, ih.1, ih.2]
    exact ⟨rfl, rfl⟩

theorem storeAll_of_smooth (smooth : context.Smooth primary) :
    storeAll context.cluster.pods (context.deeds.filterMap Deed.write?) =
      context.cluster.pods.map (context.left primary) := by
  rw [← filterMap_write?, updates_of_smooth smooth, (filterMap_writeDeeds _).1,
    storeAll_eq_map smooth.distinct.names (writes_apart smooth)
      fun write member => shownName_of_write smooth member]
  exact List.map_congr_left fun pod member => find_writes smooth member

theorem updateCalls_of_smooth (smooth : context.Smooth primary) :
    ((context.deeds.filterMap Deed.call?).filter fun call => call.purpose = .update) =
      (context.writes primary).map fun write => .updatePod write.2 := by
  rw [filter_calls, updates_of_smooth smooth, (filterMap_writeDeeds _).2]

/-- The pods in view after the pass, as they are stored. -/
theorem get?_view_left (smooth : context.Smooth primary) (key : String) :
    (context.shard.spec.view (context.cluster.pods.map (context.left primary))).get? key =
      (context.held primary).get? key := by
  rw [ShardSpec.get?_view_map smooth.distinct fun pod _ => reannotated_left smooth pod, held,
    loaded_pods_eq smooth.quiet, Keyed.get?_mapKeyed]
  apply Option.map_congr
  intro pod found
  obtain ⟨_, inView, keyed⟩ := (ShardSpec.get?_view smooth.distinct).mp found
  rw [left, if_pos inView, keyed]

end Pass.Context

end TabletDrain
