import Mathlib.Data.List.Forall2
import TabletDrain.Proofs.Pass.Handover
import TabletDrain.Proofs.Pass.Timetable
import TabletDrain.Proofs.Pod.Tending

/-! The updates of a pass as one list: the pods that it sends, in their order, each beside the pod as it
was listed. A run sends a first part of them, and stores those that do not fail; so every stored pod
is the listed one, or what its own update made of it. -/
namespace TabletDrain

section Writes

variable {pods : List Pod} {name : String} {stored : Pod}

theorem replaceFirst_eq_map (distinct : (pods.map Pod.shownName).Nodup) :
    Cluster.replaceFirst name stored pods =
      pods.map fun pod => if pod.shownName = name then stored else pod := by
  induction pods with
  | nil => rfl
  | cons pod rest ih =>
    obtain ⟨fresh, later⟩ := List.nodup_cons.mp distinct
    unfold Cluster.replaceFirst
    rw [List.map_cons]
    by_cases named : pod.shownName = name
    · have same : rest.map (fun pod => if pod.shownName = name then stored else pod) = rest := by
        have others : ∀ other ∈ rest, (if other.shownName = name then stored else other) = other := by
          intro other member
          refine if_neg fun equal => fresh ?_
          rw [named, ← equal]
          exact List.mem_map_of_mem member
        rw [List.map_congr_left others, List.map_id']
      rw [if_pos named, if_pos named, same]
    · rw [if_neg named, if_neg named, ih later]

/-- Several writes over pods of distinct names, each to a name of its own. -/
theorem storeAll_eq_map {writes : List (String × Pod)} (distinct : (pods.map Pod.shownName).Nodup)
    (apart : (writes.map Prod.fst).Nodup) (named : ∀ write ∈ writes, write.2.shownName = write.1) :
    storeAll pods writes = pods.map fun pod => (Keyed.find pod.shownName writes).getD pod := by
  induction writes generalizing pods with
  | nil =>
    simp only [Keyed.find, Option.getD_none, List.map_id']
    rfl
  | cons write rest ih =>
    obtain ⟨name, stored⟩ := write
    obtain ⟨fresh, apart⟩ := List.nodup_cons.mp apart
    obtain ⟨here, named⟩ := List.forall_mem_cons.mp named
    have absent : Keyed.find name rest = none := by
      cases found : Keyed.find name rest with
      | none => rfl
      | some other =>
        have member := (Keyed.find_eq_some_iff apart).mp found
        exact absurd (List.mem_map_of_mem member) fresh
    let first (pod : Pod) : Pod := if pod.shownName = name then stored else pod
    have kept (pod : Pod) : (first pod).shownName = pod.shownName := by
      by_cases same : pod.shownName = name
      · rw [show first pod = stored from if_pos same, same]
        exact here
      · rw [show first pod = pod from if_neg same]
    have distinct' : ((pods.map first).map Pod.shownName).Nodup := by
      rw [List.map_map, show Pod.shownName ∘ first = Pod.shownName from funext kept]
      exact distinct
    change storeAll (Cluster.replaceFirst name stored pods) rest = _
    rw [replaceFirst_eq_map distinct, ih distinct' apart named, List.map_map]
    apply List.map_congr_left
    intro pod _
    change (Keyed.find (first pod).shownName rest).getD (first pod) = _
    rw [kept, Keyed.find]
    by_cases same : pod.shownName = name
    · rw [if_pos same.symm, same, absent]
      exact if_pos same
    · rw [if_neg (Ne.symm same), show first pod = pod from if_neg same]

/-- A pod to whose name nothing is written stays, whatever is written to the others. -/
theorem forall₂_storeAll_of_not_mem (pods : List Pod) (writes : List (String × Pod)) :
    List.Forall₂ (fun before after => before.shownName ∉ writes.map Prod.fst → after = before)
      pods (storeAll pods writes) := by
  have replaced (name : String) (stored : Pod) {listed held : List Pod}
      (same : List.Forall₂ (fun before after =>
        before.shownName ∉ writes.map Prod.fst → after = before) listed held)
      (written : name ∈ writes.map Prod.fst) :
      List.Forall₂ (fun before after => before.shownName ∉ writes.map Prod.fst → after = before)
        listed (Cluster.replaceFirst name stored held) := by
    induction same with
    | nil => exact .nil
    | @cons before after rest later here follow ih =>
      unfold Cluster.replaceFirst
      split
      · rename_i named
        refine .cons (fun unwritten => ?_) follow
        rw [here unwritten] at named
        exact absurd (named ▸ written) unwritten
      · exact .cons here ih
  have all (part : List (String × Pod)) (inside : part ⊆ writes) (held : List Pod)
      (same : List.Forall₂ (fun before after =>
        before.shownName ∉ writes.map Prod.fst → after = before) pods held) :
      List.Forall₂ (fun before after => before.shownName ∉ writes.map Prod.fst → after = before)
        pods (storeAll held part) := by
    induction part generalizing held with
    | nil => exact same
    | cons write rest ih =>
      obtain ⟨here, later⟩ := List.cons_subset.mp inside
      exact ih later _ (replaced write.1 write.2 same (List.mem_map_of_mem here))
  exact all writes (List.Subset.refl _) pods (List.forall₂_same.mpr fun _ _ _ => rfl)

end Writes

def Call.sent? : Call → Option Pod
  | .updatePod sent => some sent
  | _ => none

/-- The pod that is sent is stored. -/
def UpdateReply.Succeeds (reply : UpdateReply) : Prop := reply.fault = none ∧ reply.returned = none

namespace Pass

/-- Updates store the pods that are sent. -/
def Faithful (replies : Replies) : Prop := ∀ name, (replies.updatePod name).returned = none

/-- What is stored for an update has the name that it was sent under. -/
def KeepsNames (replies : Replies) : Prop :=
  ∀ name pod, (replies.updatePod name).returned = some pod → pod.shownName = name

theorem Faithful.keepsNames {replies : Replies} (faithful : Faithful replies) :
    KeepsNames replies := by
  intro name pod returned
  rw [faithful] at returned
  cases returned

/-- The pods that are sent, in their order. -/
def Report.sent (report : Report) : List Pod := report.calls.filterMap Call.sent?

structure Update where
  listed : Pod
  sent : Pod

namespace Context

variable (context : Context)

def reply (update : Update) : UpdateReply := context.replies.updatePod update.listed.shownName

/-- The pass is live, reads all in time, and finds the shard healthy under a primary. -/
structure Admitted (primary : Alias) : Prop where
  live : context.configuration.dryRun = false
  listed : context.replies.listPods.fault = none
  recorded : context.replies.getShard.fault = none
  inventoried : context.replies.getTablets.fault = none
  inTime : context.replies.listPods.delay + context.replies.getShard.delay
    + context.replies.getTablets.delay ≤ context.timeouts.read
  healthy : Shard.healthyPrimary context.shard.status context.cluster.record = .ok primary

variable {context} in
theorem Admitted.served {primary : Alias} (admitted : context.Admitted primary) :
    context.served? = some primary :=
  served_iff.mpr ⟨isRead_readings_iff.mpr
    ⟨admitted.listed, admitted.recorded, admitted.inventoried, admitted.inTime⟩, admitted.healthy⟩

/-- The update that moves a pod towards a state, if it changes the pod; a dry run sends nothing. -/
def update? (pod : Pod) (state : DrainState) : Option Update :=
  if context.configuration.dryRun then none
  else
    match pod.setDrainState? state context.stamp with
    | some (updated, true) => some ⟨pod, updated⟩
    | _ => none

def clearance? (pod : Pod) : Option Update :=
  if pod.markers.started then none else context.update? pod .notDraining

def advance? (primary : String) (entry : String × DrainState) : Option Update :=
  if entry.2 = .finished ∧ entry.1 = primary then none
  else (context.view.get? entry.1).bind fun listed => context.update? listed entry.2

/-- What the pass would send: where answers are left over, it takes them back, and else it moves the
requests along. -/
def updates : List Update :=
  match context.served? with
  | none => []
  | some primary =>
    if isAborting context.view then context.view.values.filterMap context.clearance?
    else (context.next primary).entries.filterMap (context.advance? primary.text)

def stored? (update : Update) : Option (String × Pod) :=
  match (context.reply update).fault with
  | none => some (update.listed.shownName, (context.reply update).returned.getD update.sent)
  | some _ => none

def updateDeeds (update : Update) : List Deed :=
  .call (.updatePod update.sent) ::
    match context.stored? update with
    | some (name, stored) => [.store name stored]
    | none => []

/-- The stored pod once some updates are done. -/
def landing (done : List Update) (pod : Pod) : Pod :=
  (Keyed.find pod.shownName (done.filterMap context.stored?)).getD pod

variable {context : Context} {update other : Update} {pod : Pod} {state : DrainState}
  {primary : Alias}

theorem update?_eq_some_iff :
    context.update? pod state = some update ↔ context.configuration.dryRun = false ∧
      update.listed = pod ∧ pod.setDrainState? state context.stamp = some (update.sent, true) := by
  obtain ⟨listed, sent⟩ := update
  unfold update?
  by_cases dryRun : context.configuration.dryRun = true
  · simp [dryRun]
  · rw [if_neg dryRun]
    rcases pod.setDrainState? state context.stamp with _ | ⟨updated, _ | _⟩ <;>
      simp [dryRun, eq_comm]

/-- After its move a pod is held as it was, or as it was sent. -/
theorem moved_cases (faithful : Faithful context.replies) (pod : Pod) (state : DrainState) :
    context.moved pod state = pod ∨
      pod.setDrainState? state context.stamp = some (context.moved pod state, true) := by
  unfold moved
  split
  · rename_i updated moves
    split
    · exact .inr moves
    · unfold sent
      dsimp only
      split
      · rw [faithful, Option.getD_none]
        exact .inr moves
      · exact .inl rfl
  · exact .inl rfl

theorem reannotated_moved (faithful : Faithful context.replies) (pod : Pod) (state : DrainState) :
    Pod.Reannotated pod (context.moved pod state) := by
  rcases moved_cases faithful pod state with same | moves
  · rw [same]
    exact .refl pod
  · exact Pod.reannotated_of_setDrainState? moves

theorem reannotated_carried (faithful : Faithful context.replies) (key : String) (pod : Pod) :
    Pod.Reannotated pod (context.carried primary.text (context.next primary) key pod) := by
  unfold carried
  split
  · split
    · exact .refl pod
    · exact reannotated_moved faithful _ _
  · exact .refl pod

theorem moveDeeds_eq (pod : Pod) (state : DrainState) :
    context.moveDeeds pod state = (context.update? pod state).toList.flatMap fun update =>
      context.sendDeeds update.listed update.sent := by
  unfold moveDeeds update?
  by_cases dryRun : context.configuration.dryRun = true
  · rw [if_pos dryRun]
    split
    · rw [if_pos dryRun]
      rfl
    · rfl
  · rw [if_neg dryRun]
    rcases pod.setDrainState? state context.stamp with _ | ⟨updated, _ | _⟩
    · rfl
    · rfl
    · simp [dryRun]

private theorem partFor_moveDeeds (pod : Pod) (state : DrainState) :
    partFor .update (context.moveDeeds pod state) =
      (context.update? pod state).toList.flatMap context.updateDeeds := by
  rw [moveDeeds_eq]
  cases moves : context.update? pod state with
  | none => rfl
  | some update =>
    obtain ⟨_, listed, set⟩ := update?_eq_some_iff.mp moves
    have named := (Pod.reannotated_of_setDrainState? set).shownName
    simp only [Option.toList_some, List.flatMap_singleton, sendDeeds, updateDeeds, stored?, reply,
      named, listed]
    cases (context.replies.updatePod pod.shownName).fault <;> rfl

private theorem partFor_clearDeeds (pod : Pod) :
    partFor .update (context.clearDeeds pod) =
      (context.clearance? pod).toList.flatMap context.updateDeeds := by
  unfold clearDeeds clearance?
  by_cases started : pod.markers.started = true
  · rw [if_pos started, if_pos started]
    unfold requestDeeds
    split <;> rfl
  · rw [if_neg started, if_neg started, partFor_append, partFor_moveDeeds]
    split <;> rfl

private theorem partFor_carryDeeds (entry : String × DrainState) :
    partFor .update (context.carryDeeds primary.text context.view entry) =
      (context.advance? primary.text entry).toList.flatMap context.updateDeeds := by
  unfold carryDeeds advance?
  by_cases withheld : entry.2 = .finished ∧ entry.1 = primary.text
  · rw [if_pos withheld, if_pos withheld]
    rfl
  · rw [if_neg withheld, if_neg withheld]
    cases context.view.get? entry.1 with
    | none => rfl
    | some listed => exact partFor_moveDeeds listed entry.2

private theorem partFor_flatMap {α : Type} {deeds : α → List Deed} {updates : α → Option Update}
    {items : List α}
    (each : ∀ item, partFor .update (deeds item) =
      (updates item).toList.flatMap context.updateDeeds) :
    partFor .update (items.flatMap deeds) =
      (items.filterMap updates).flatMap context.updateDeeds := by
  rw [partFor, List.filter_flatMap, List.filterMap_eq_flatMap_toList, List.flatMap_assoc]
  exact List.flatMap_congr fun item _ => each item

theorem clearances_of_quiet (quiet : isAborting context.view = false) :
    context.view.values.filterMap context.clearance? = [] := by
  apply List.filterMap_eq_nil_iff.mpr
  intro pod member
  obtain ⟨entry, inView, same⟩ := List.mem_map.mp member
  have settled := isAborting_eq_false_iff.mp quiet entry inView
  rw [same] at settled
  unfold clearance?
  split
  · rfl
  · rename_i idle
    have unanswered := Markers.unanswered_of_idle settled (Bool.eq_false_iff.mpr idle)
    rw [update?, Pod.setDrainState?]
    simp only [unanswered.1, unanswered.2, Bool.or_self, ite_self]

theorem next_of_no_requests (none : (Drain.requests context.view).isEmpty = true) :
    (context.next primary).entries = [] := by
  apply List.eq_nil_iff_forall_not_mem.mpr
  intro entry member
  obtain ⟨old, found, _⟩ := Drain.exists_of_get?_advance (Keyed.mem_entries_iff.mp member)
  rw [Keyed.isEmpty_iff.mp none] at found
  cases found

/-- All that a pass does to pods comes of its updates. -/
theorem partFor_update_deeds (context : Context) :
    partFor .update context.deeds = context.updates.flatMap context.updateDeeds := by
  rw [updates_deeds, updates]
  cases context.served? with
  | none => rfl
  | some primary =>
    have loading : partFor .update (context.loadDeeds context.view) =
        (context.view.values.filterMap context.clearance?).flatMap context.updateDeeds :=
      partFor_flatMap partFor_clearDeeds
    dsimp only
    rw [loading]
    by_cases aborting : isAborting context.view = true
    · have idle : ¬context.isActing = true := by simp [isActing, aborting]
      rw [if_neg idle, if_pos aborting, List.append_nil]
    · have quiet := Bool.eq_false_iff.mpr aborting
      rw [clearances_of_quiet quiet, if_neg aborting]
      by_cases acting : context.isActing = true
      · rw [if_pos acting, markDeeds_of_isActing acting]
        exact partFor_flatMap partFor_carryDeeds
      · have none : (Drain.requests context.view).isEmpty = true := by
          simpa [isActing, quiet] using acting
        rw [if_neg acting, next_of_no_requests none]
        rfl

theorem of_clearance? (cleared : context.clearance? pod = some update) :
    context.configuration.dryRun = false ∧ update.listed = pod ∧ pod.markers.started = false ∧
      pod.setDrainState? .notDraining context.stamp = some (update.sent, true) := by
  unfold clearance? at cleared
  split at cleared
  · cases cleared
  · rename_i idle
    obtain ⟨live, same, moves⟩ := update?_eq_some_iff.mp cleared
    exact ⟨live, same, Bool.eq_false_iff.mpr idle, moves⟩

theorem advance?_eq_some_iff {entry : String × DrainState} :
    context.advance? primary.text entry = some update ↔
      ¬(entry.2 = .finished ∧ entry.1 = primary.text) ∧
        context.configuration.dryRun = false ∧ context.view.get? entry.1 = some update.listed ∧
          update.listed.setDrainState? entry.2 context.stamp = some (update.sent, true) := by
  unfold advance?
  by_cases withheld : entry.2 = .finished ∧ entry.1 = primary.text
  · simp [withheld]
  · simp only [withheld, if_false, not_false_eq_true, true_and, Option.bind_eq_some_iff,
      update?_eq_some_iff]
    constructor
    · intro advanced
      obtain ⟨listed, found, live, rfl, moves⟩ := advanced
      exact ⟨live, found, moves⟩
    · intro advanced
      obtain ⟨live, found, moves⟩ := advanced
      exact ⟨_, found, live, rfl, moves⟩

theorem updates_of_quiet (served : context.served? = some primary)
    (quiet : isAborting context.view = false) :
    context.updates = (context.next primary).entries.filterMap (context.advance? primary.text) := by
  rw [updates, served]
  dsimp only
  rw [quiet, if_neg Bool.false_ne_true]

/-- An update takes answers back, in a pass that finds some left over, or moves a request along. -/
theorem of_mem_updates (member : update ∈ context.updates) :
    ∃ primary, context.served? = some primary ∧
      (isAborting context.view = true ∧
          (∃ key, context.view.get? key = some update.listed ∧
            context.clearance? update.listed = some update) ∨
        isAborting context.view = false ∧
          ∃ entry ∈ (context.next primary).entries,
            context.advance? primary.text entry = some update) := by
  unfold updates at member
  cases served : context.served? with
  | none =>
    rw [served] at member
    cases member
  | some primary =>
    rw [served] at member
    dsimp only at member
    refine ⟨primary, rfl, ?_⟩
    split at member
    · rename_i aborting
      obtain ⟨pod, inView, cleared⟩ := List.mem_filterMap.mp member
      obtain ⟨entry, inside, same⟩ := List.mem_map.mp inView
      have listed := (of_clearance? cleared).2.1
      rw [← listed] at cleared same
      exact .inl ⟨aborting, entry.1, same ▸ Keyed.get?_of_mem inside, cleared⟩
    · rename_i quiet
      exact .inr ⟨Bool.eq_false_iff.mpr quiet, List.mem_filterMap.mp member⟩

theorem exists_key_of_mem_updates (member : update ∈ context.updates) :
    ∃ key, context.view.get? key = some update.listed := by
  obtain ⟨primary, _, ⟨_, key, found, _⟩ | ⟨_, entry, _, advanced⟩⟩ := of_mem_updates member
  · exact ⟨key, found⟩
  · exact ⟨entry.1, (advance?_eq_some_iff.mp advanced).2.2.1⟩

theorem mem_pods_of_mem_updates (member : update ∈ context.updates) :
    update.listed ∈ context.cluster.pods := by
  obtain ⟨key, found⟩ := exists_key_of_mem_updates member
  exact (ShardSpec.of_mem_view (Keyed.mem_entries_iff.mpr found)).1

theorem carries_of_mem_updates (member : update ∈ context.updates) :
    update.listed.carries context.shard.spec.podLabels = true := by
  obtain ⟨key, found⟩ := exists_key_of_mem_updates member
  obtain ⟨_, inView, _⟩ := ShardSpec.of_mem_view (Keyed.mem_entries_iff.mpr found)
  exact (Bool.and_eq_true_iff.mp inView).1

theorem listed_of_next {key : String} (stepped : (context.next primary).get? key = some state) :
    ∃ listed, context.view.get? key = some listed ∧ listed.markers.started = true := by
  obtain ⟨old, requested, _⟩ := Drain.exists_of_get?_advance stepped
  obtain ⟨listed, found, started, _⟩ := Drain.get?_requests.mp requested
  exact ⟨listed, found, started⟩

theorem amended_of_mem_updates (member : update ∈ context.updates) :
    Pod.Amended context.stamp update.listed update.sent := by
  obtain ⟨primary, _, ⟨_, key, _, cleared⟩ | ⟨_, ⟨key, state⟩, inside, advanced⟩⟩ :=
    of_mem_updates member
  · obtain ⟨_, _, idle, moves⟩ := of_clearance? cleared
    exact .inr (Pod.cleared_of_clear idle moves)
  · obtain ⟨_, _, found, moves⟩ := advance?_eq_some_iff.mp advanced
    have stepped := Keyed.mem_entries_iff.mp inside
    obtain ⟨listed, again, started⟩ := listed_of_next stepped
    cases Option.some.inj (again.symm.trans found)
    rcases Drain.state_of_get?_advance stepped with same | same
    · subst same
      exact .inl (Pod.answered_of_acknowledge started moves)
    · subst same
      exact .inl (Pod.answered_of_finish started moves)

theorem shownName_sent (member : update ∈ context.updates) :
    update.sent.shownName = update.listed.shownName :=
  (amended_of_mem_updates member).tended.reannotated.shownName

theorem key?_updates (context : Context) :
    (context.updates.map Update.sent).map Pod.key? =
      context.updates.map fun update => update.listed.key? := by
  rw [List.map_map]
  exact List.map_congr_left fun update inside =>
    (amended_of_mem_updates inside).tended.reannotated.key?

theorem name_of_stored? {write : String × Pod} (stores : context.stored? update = some write) :
    write.1 = update.listed.shownName := by
  unfold stored? at stores
  split at stores
  · cases stores
    rfl
  · cases stores

/-- The updates go through the pods in view in the order of their keys. -/
theorem updates_inOrder (context : Context) :
    context.updates.Pairwise fun update update' => ∃ key key',
      context.view.get? key = some update.listed ∧ context.view.get? key' = some update'.listed ∧
        key < key' := by
  unfold updates
  cases context.served? with
  | none => exact .nil
  | some primary =>
    dsimp only
    split
    · rw [Keyed.values, List.filterMap_map, List.pairwise_filterMap]
      refine (List.pairwise_map.mp context.view.ascending).imp_of_mem
        fun {entry entry'} inside inside' before update cleared update' cleared' => ?_
      rw [(of_clearance? cleared).2.1, (of_clearance? cleared').2.1]
      exact ⟨entry.1, entry'.1, Keyed.get?_of_mem inside, Keyed.get?_of_mem inside', before⟩
    · rw [List.pairwise_filterMap]
      refine (List.pairwise_map.mp (context.next primary).ascending).imp
        fun {entry entry'} before update advanced update' advanced' => ?_
      exact ⟨entry.1, entry'.1, (advance?_eq_some_iff.mp advanced).2.2.1,
        (advance?_eq_some_iff.mp advanced').2.2.1, before⟩

section Names

variable (names : (context.cluster.pods.map Pod.shownName).Nodup)

include names

theorem key_unique {key key' : String} {pod pod' : Pod} (found : context.view.get? key = some pod)
    (found' : context.view.get? key' = some pod') (named : pod.shownName = pod'.shownName) :
    key = key' := by
  obtain ⟨member, _, keyed⟩ := ShardSpec.of_mem_view (Keyed.mem_entries_iff.mpr found)
  obtain ⟨member', _, keyed'⟩ := ShardSpec.of_mem_view (Keyed.mem_entries_iff.mpr found')
  have same := List.inj_on_of_nodup_map names member member' named
  rw [same, keyed'] at keyed
  exact (Option.some.inj keyed).symm

/-- No pod is sent twice. -/
theorem nodup_updates : (context.updates.map fun update => update.listed.shownName).Nodup := by
  rw [List.Nodup, List.pairwise_map]
  refine (updates_inOrder context).imp fun {update update'} inOrder same => ?_
  obtain ⟨key, key', found, found', before⟩ := inOrder
  rw [key_unique names found found' same] at before
  exact String.lt_irrefl key' before

variable {done : List Update} (part : done <+: context.updates)

include part

private theorem nodup_stored : ((done.filterMap context.stored?).map Prod.fst).Nodup := by
  have apart := (nodup_updates names).sublist (part.sublist.map _)
  rw [List.Nodup, List.pairwise_map] at apart ⊢
  rw [List.pairwise_filterMap]
  refine apart.imp fun {update update'} differ write stored write' stored' same => differ ?_
  unfold stored? at stored stored'
  split at stored <;> cases stored
  split at stored' <;> cases stored'
  exact same

private theorem find_stored {name : String} {pod : Pod} :
    Keyed.find name (done.filterMap context.stored?) = some pod ↔
      ∃ update ∈ done, context.stored? update = some (name, pod) := by
  rw [Keyed.find_eq_some_iff (nodup_stored names part), List.mem_filterMap]

/-- A pod that no update is for stays. -/
theorem landing_of_not_mem (member : pod ∈ context.cluster.pods)
    (untouched : ∀ update ∈ done, update.listed = pod → (context.reply update).fault ≠ none) :
    context.landing done pod = pod := by
  unfold landing
  cases found : Keyed.find pod.shownName (done.filterMap context.stored?) with
  | none => rfl
  | some stored =>
    obtain ⟨update, inside, stores⟩ := (find_stored names part).mp found
    unfold stored? at stores
    split at stores
    · rename_i succeeded
      have named := (Prod.mk.inj (Option.some.inj stores)).1
      have listed := mem_pods_of_mem_updates (part.subset inside)
      exact absurd succeeded
        (untouched update inside (List.inj_on_of_nodup_map names listed member named))
    · cases stores

theorem landing_of_mem (inside : update ∈ done) (succeeded : (context.reply update).Succeeds) :
    context.landing done update.listed = update.sent := by
  have found : Keyed.find update.listed.shownName (done.filterMap context.stored?) =
      some update.sent := by
    refine (find_stored names part).mpr ⟨update, inside, ?_⟩
    rw [stored?, succeeded.1, succeeded.2]
    rfl
  rw [landing, found, Option.getD_some]

variable (context) in
theorem storeAll_eq_landing_of_named
    (named : ∀ update ∈ done, ∀ pod, (context.reply update).fault = none →
      (context.reply update).returned = some pod → pod.shownName = update.listed.shownName) :
    storeAll context.cluster.pods (done.filterMap context.stored?) =
      context.cluster.pods.map (context.landing done) := by
  apply storeAll_eq_map names (nodup_stored names part)
  intro write written
  obtain ⟨update, inside, stores⟩ := List.mem_filterMap.mp written
  unfold stored? at stores
  split at stores
  · rename_i succeeded
    cases stores
    cases returned : (context.reply update).returned with
    | none => exact shownName_sent (part.subset inside)
    | some pod => exact named update inside pod succeeded returned
  · cases stores

variable (context) in
theorem storeAll_eq_landing (keepsNames : KeepsNames context.replies) :
    storeAll context.cluster.pods (done.filterMap context.stored?) =
      context.cluster.pods.map (context.landing done) :=
  context.storeAll_eq_landing_of_named names part fun _ _ pod _ returned => keepsNames _ pod returned

end Names

theorem calls_updates (updates : List Update) :
    (updates.flatMap context.updateDeeds).filterMap Deed.call? =
      updates.map fun update => .updatePod update.sent := by
  induction updates with
  | nil => rfl
  | cons update rest ih =>
    rw [List.flatMap_cons, List.filterMap_append, ih, updateDeeds]
    cases context.stored? update <;> rfl

theorem writes_updates (updates : List Update) :
    (updates.flatMap context.updateDeeds).filterMap Deed.write? =
      updates.filterMap context.stored? := by
  induction updates with
  | nil => rfl
  | cons update rest ih =>
    rw [List.flatMap_cons, List.filterMap_append, ih, List.filterMap_cons, updateDeeds]
    cases context.stored? update <;> rfl

/-- What a pass would store comes of its updates. -/
theorem writes_deeds (context : Context) :
    context.deeds.filterMap Deed.write? = context.updates.filterMap context.stored? := by
  rw [← filterMap_write?, partFor_update_deeds, writes_updates]

end Context

section Runs

variable (configuration : Configuration) (replies : Replies) (stamp : String) (shard : Shard)
  (cluster : Cluster)

private theorem sent?_eq (call : Call) :
    call.sent? = if call.purpose = .update then call.sent? else none := by
  cases call <;> rfl

theorem filterMap_sent? (deeds : List Deed) :
    (deeds.filterMap Deed.call?).filterMap Call.sent? =
      ((partFor .update deeds).filterMap Deed.call?).filterMap Call.sent? := by
  rw [← filter_calls, List.filterMap_filter]
  refine List.filterMap_congr fun call _ => ?_
  by_cases update : call.purpose = .update
  · simp [update]
  · rw [sent?_eq, if_neg update]
    simp [update]

/-- A run sends a first part of the updates, and stores what comes of them; all of them, unless it is
abandoned. -/
theorem run_does_updates :
    let context := contextOf configuration replies stamp shard cluster
    let report := run configuration replies stamp shard cluster
    report.sent <+: context.updates.map Update.sent ∧
      ∃ done, done <+: context.updates ∧
        report.history = storesAfter cluster.pods (done.filterMap context.stored?) ∧
        report.pods = storeAll cluster.pods (done.filterMap context.stored?) ∧
        (context.Completes → report.sent = context.updates.map Update.sent ∧ done = context.updates) := by
  intro context report
  obtain ⟨made, isPrefix, performed, whole⟩ :=
    perform_prefix context.setting context.deeds (.start cluster.pods)
  have reported : report = reportOf configuration.timeouts.pass _ :=
    run_eq configuration replies stamp shard cluster
  have sentAll : (context.deeds.filterMap Deed.call?).filterMap Call.sent? =
      context.updates.map Update.sent := by
    rw [filterMap_sent?, context.partFor_update_deeds, Context.calls_updates, List.filterMap_map]
    change List.filterMap (some ∘ Update.sent) context.updates = _
    rw [List.filterMap_eq_map]
  have wroteAll := context.writes_deeds
  have calls : report.calls = made.filterMap Deed.call? := by
    rw [reported]
    exact performed.calls
  have sent : report.sent = (made.filterMap Deed.call?).filterMap Call.sent? := by
    rw [Report.sent, calls]
  have written : made.filterMap Deed.write? <+: context.updates.filterMap context.stored? :=
    wroteAll ▸ isPrefix.filterMap _
  have pods : report.history = storesAfter cluster.pods (made.filterMap Deed.write?) ∧
      report.pods = storeAll cluster.pods (made.filterMap Deed.write?) := by
    rw [reported]
    exact ⟨performed.history, performed.pods⟩
  -- A run may be abandoned between a call and its store, so the two have first parts of their own.
  refine ⟨?_, ?_⟩
  · rw [sent, ← sentAll]
    exact (isPrefix.filterMap _).filterMap _
  · by_cases complete : context.Completes
    · unfold Context.Completes at complete
      rw [context.pass_at] at complete
      rw [whole complete] at sent pods
      rw [wroteAll] at pods
      exact ⟨context.updates, List.prefix_refl _, pods.1, pods.2, fun _ => ⟨sent.trans sentAll, rfl⟩⟩
    · obtain ⟨done, isPart, same⟩ := List.prefix_filterMap_iff.mp written
      rw [same] at pods
      exact ⟨done, isPart, pods.1, pods.2, fun complete' => absurd complete' complete⟩

variable {configuration replies stamp shard cluster}
  (completes : (contextOf configuration replies stamp shard cluster).Completes)

include completes

theorem sent_of_completes :
    (run configuration replies stamp shard cluster).sent =
      (contextOf configuration replies stamp shard cluster).updates.map Update.sent := by
  obtain ⟨_, _, _, _, _, whole⟩ := run_does_updates configuration replies stamp shard cluster
  exact (whole completes).1

theorem pods_of_completes (keepsNames : KeepsNames replies)
    (names : (cluster.pods.map Pod.shownName).Nodup) :
    let context := contextOf configuration replies stamp shard cluster
    (run configuration replies stamp shard cluster).pods =
      cluster.pods.map (context.landing context.updates) := by
  intro context
  obtain ⟨_, done, _, _, pods, whole⟩ :=
    run_does_updates configuration replies stamp shard cluster
  rw [pods, (whole completes).2]
  exact context.storeAll_eq_landing names (List.prefix_refl _) keepsNames

/-- A pass that is not abandoned does all that it would do. -/
private theorem performed_of_completes :
    ∃ reached, run configuration replies stamp shard cluster =
        reportOf configuration.timeouts.pass (some (), reached) ∧
      Performed (contextOf configuration replies stamp shard cluster).deeds
        (.start cluster.pods) reached := by
  let context := contextOf configuration replies stamp shard cluster
  obtain ⟨made, _, performed, whole⟩ :=
    perform_prefix context.setting context.deeds (.start cluster.pods)
  have complete : (perform context.setting context.deeds (.start cluster.pods)).1 = some () :=
    (congrArg Prod.fst context.pass_at).symm.trans completes
  rw [whole complete] at performed
  have ends : perform context.setting context.deeds (.start cluster.pods) =
      (some (), (perform context.setting context.deeds (.start cluster.pods)).2) :=
    Prod.ext complete rfl
  refine ⟨_, ?_, performed⟩
  rw [run_eq, show perform _ _ (.start cluster.pods) = _ from ends]

theorem calls_of_completes :
    (run configuration replies stamp shard cluster).calls =
      (contextOf configuration replies stamp shard cluster).deeds.filterMap Deed.call? := by
  obtain ⟨reached, reported, performed⟩ := performed_of_completes completes
  rw [reported]
  exact performed.calls

theorem stores_of_completes :
    (run configuration replies stamp shard cluster).pods = storeAll cluster.pods
      ((contextOf configuration replies stamp shard cluster).deeds.filterMap Deed.write?) := by
  obtain ⟨reached, reported, performed⟩ := performed_of_completes completes
  rw [reported]
  exact performed.pods

/-- The result of a pass that is not abandoned follows from what it notes. -/
theorem result_of_completes :
    (run configuration replies stamp shard cluster).result =
      ((contextOf configuration replies stamp shard cluster).deeds.foldl Deed.note .empty).result := by
  obtain ⟨reached, reported, performed⟩ := performed_of_completes completes
  rw [reported]
  exact congrArg Results.result performed.results

end Runs

end Pass

end TabletDrain
