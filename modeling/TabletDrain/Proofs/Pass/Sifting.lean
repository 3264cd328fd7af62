import TabletDrain.Proofs.Pass.Reasons
import TabletDrain.Proofs.Pass.Updates

/-! Sifting the deeds of a pass. What is sifted out are updates with the events about them, notes, and
the event that there is nobody to hand over to; all else is passed over. Then a pass comes down to three
parts: its updates, the failure that ends its preparations, and how it closes. -/
namespace TabletDrain

/-- All else is passed over. -/
structure Sifts {β : Type} (sift : Deed → Option β) : Prop where
  calls : ∀ call : Call, call.purpose ≠ .update → call.reason? = none → sift (.call call) = none
  waits : ∀ delay, sift (.wait delay) = none
  waitsUpTo : ∀ time delay, sift (.waitUpTo time delay) = none
  tells : ∀ severity object reason message, reason ≠ "UpdateFailed" → reason ≠ "DrainBlocked" →
    sift (.event severity object reason message) = none

namespace Pass.Context

section Closing

variable (context : Context)

instance (primary : Alias) : Decidable (context.movesAway primary) :=
  inferInstanceAs (Decidable ((Drain.requests context.view).get? primary.text = some .finished ∨
    acknowledgedNow (Drain.requests context.view) (context.next primary) = false ∧
      (context.next primary).get? primary.text = some .finished))

/-- What the pass fails with when it prepares databases to be moved, if it comes to that. -/
def unprepared? : Option Fault :=
  context.served?.bind fun primary =>
    if context.isActing && !context.configuration.dryRun then
      match Upgrade.outcomeFrom context.setting context.tablets context.desiredImage
        (context.held primary).entries with
      | .ok () => none
      | .error fault => some fault
    else none

/-- The primary that there is nobody to take over from, if the pass comes to choose. -/
def blocked? : Option Alias :=
  context.served?.filter fun primary =>
    context.isActing && context.isPrepared (context.held primary) context.tablets &&
      context.movesAway primary && (context.eligible (context.held primary) context.tablets).isEmpty

def blockedDeeds (primary : Alias) : List Deed :=
  [context.warning "DrainBlocked"
    ("unable to drain primary tablet " ++ primary.text
      ++ ": no other tablet is a suitable primary candidate"),
    .requeueAfter context.timeouts.requeueDelay]

def closingDeeds : List Deed :=
  if context.isRead context.timeouts.read context.readings then
    context.blocked?.toList.flatMap context.blockedDeeds
  else [.requeueAfter context.timeouts.requeueDelay]

end Closing

section Sift

variable {β : Type} {sift : Deed → Option β} (sifts : Sifts sift) {context : Context} {primary : Alias}

include sifts

private theorem sift_warning {reason message : String} (other : reason ≠ "UpdateFailed")
    (other' : reason ≠ "DrainBlocked") : sift (context.warning reason message) = none :=
  sifts.tells _ _ _ _ other other'

private theorem sift_notice {reason message : String} (other : reason ≠ "UpdateFailed")
    (other' : reason ≠ "DrainBlocked") : sift (context.notice reason message) = none :=
  sifts.tells _ _ _ _ other other'

theorem sift_readingDeeds (left : Nat) :
    (context.readingDeeds left context.readings).filterMap sift = [] := by
  have plain : ∀ reading ∈ context.readings, reading.call.purpose ≠ .update ∧
      reading.call.reason? = none ∧ reading.reason ≠ "UpdateFailed" ∧
        reading.reason ≠ "DrainBlocked" := by
    simp [readings, podReading, recordReading, tabletReading, Call.purpose, Call.reason?]
  refine List.filterMap_eq_nil_iff.mpr (forall_mem_readingDeeds (fun reading member => ?_)
    (fun _ _ _ => sifts.waitsUpTo _ _) (fun reading member message => ?_) left)
  · obtain ⟨reads, untold, _⟩ := plain reading member
    exact sifts.calls _ reads untold
  · obtain ⟨_, _, other, other'⟩ := plain reading member
    exact sifts.tells _ _ _ _ other other'

omit sifts in
theorem sift_moveDeeds (pod : Pod) (state : DrainState) :
    (context.moveDeeds pod state).filterMap sift =
      (context.update? pod state).toList.flatMap fun update =>
        (context.sendDeeds update.listed update.sent).filterMap sift := by
  rw [moveDeeds_eq, List.filterMap_flatMap]

theorem sift_clearDeeds (pod : Pod) :
    (context.clearDeeds pod).filterMap sift =
      (context.clearance? pod).toList.flatMap fun update =>
        (context.sendDeeds update.listed update.sent).filterMap sift := by
  unfold clearDeeds clearance?
  split
  · unfold requestDeeds
    split
    · rfl
    · exact List.filterMap_cons_none (sift_warning sifts (by decide) (by decide))
  · rw [List.filterMap_append, sift_moveDeeds]
    split
    · rw [List.filterMap_cons_none (sift_warning sifts (by decide) (by decide))]
      rfl
    · rfl

omit sifts in
theorem sift_carryDeeds (entry : String × DrainState) :
    (context.carryDeeds primary.text context.view entry).filterMap sift =
      (context.advance? primary.text entry).toList.flatMap fun update =>
        (context.sendDeeds update.listed update.sent).filterMap sift := by
  unfold carryDeeds advance?
  split
  · rfl
  · cases context.view.get? entry.1 with
    | none => rfl
    | some listed => exact sift_moveDeeds listed entry.2

omit sifts in
private theorem sift_flatMap {α : Type} {deeds : α → List Deed} {updates : α → Option Update}
    {items : List α}
    (each : ∀ item, (deeds item).filterMap sift =
      (updates item).toList.flatMap fun update =>
        (context.sendDeeds update.listed update.sent).filterMap sift) :
    (items.flatMap deeds).filterMap sift =
      (items.filterMap updates).flatMap fun update =>
        (context.sendDeeds update.listed update.sent).filterMap sift := by
  rw [List.filterMap_flatMap, List.filterMap_eq_flatMap_toList, List.flatMap_assoc]
  exact List.flatMap_congr fun item _ => each item

theorem sift_loadDeeds (view : Keyed Pod) :
    (context.loadDeeds view).filterMap sift =
      (view.values.filterMap context.clearance?).flatMap fun update =>
        (context.sendDeeds update.listed update.sent).filterMap sift :=
  sift_flatMap (sift_clearDeeds sifts)

omit sifts in
theorem sift_markDeeds (acting : context.isActing = true) :
    (context.markDeeds primary).filterMap sift =
      ((context.next primary).entries.filterMap (context.advance? primary.text)).flatMap
        fun update => (context.sendDeeds update.listed update.sent).filterMap sift := by
  rw [markDeeds_of_isActing acting]
  exact sift_flatMap sift_carryDeeds

theorem sift_prepareDeeds (served : context.served? = some primary)
    (acting : context.isActing = true) :
    (context.prepareDeeds (context.held primary) context.tablets).filterMap sift =
      context.unprepared?.toList.filterMap fun fault => sift (.fail fault) := by
  have prepares : (Upgrade.deedsFrom context.setting context.tablets context.desiredImage
      (context.held primary).entries).filterMap sift = [] :=
    List.filterMap_eq_nil_iff.mpr (Upgrade.forall_mem_deedsFrom
      (fun _ => sifts.calls _ (by simp [Call.purpose]) rfl) (fun _ => sifts.waits _)
      (fun _ _ => sifts.tells _ _ _ _ (by decide) (by decide)) _ _)
  rw [prepareDeeds, unprepared?, served, Option.bind_some, acting, Bool.true_and]
  cases context.configuration.dryRun with
  | true => rfl
  | false =>
    simp only [Bool.false_eq_true, if_false, Bool.not_false, if_true]
    rw [List.filterMap_append, prepares, List.nil_append]
    cases Upgrade.outcomeFrom context.setting context.tablets context.desiredImage
      (context.held primary).entries with
    | ok _ => rfl
    | error fault => exact List.filterMap_cons_none (sift_warning sifts (by decide) (by decide))

theorem sift_chooseDeeds (pods : Keyed Pod) (tablets : Keyed Tablet) :
    (context.chooseDeeds pods tablets).filterMap sift = [] := by
  refine List.filterMap_eq_nil_iff.mpr (List.forall_mem_append.mpr ⟨?_, ?_⟩)
  · exact List.forall_mem_map.mpr fun tablet _ => sifts.calls _ (by simp [Call.purpose]) rfl
  · split
    · exact List.forall_mem_nil _
    · exact List.forall_mem_singleton.mpr (sifts.waits _)

theorem sift_handoverDeeds (oldPrimary newPrimary : Alias) :
    (context.handoverDeeds oldPrimary newPrimary).filterMap sift = [] := by
  have called (call : Call) (handsOver : call.purpose = .handOver) : sift (.call call) = none :=
    sifts.calls call (by simp [handsOver]) (by cases call <;> first | rfl | cases handsOver)
  unfold handoverDeeds
  split
  · unfold externalDeeds
    rw [List.filterMap_append, List.filterMap_cons_none (called _ rfl),
      List.filterMap_cons_none (sifts.waits _)]
    split
    · rfl
    · rw [List.filterMap_cons_none (called _ rfl), List.filterMap_cons_none (sifts.waits _)]
      rfl
  · unfold plannedDeeds
    rw [List.filterMap_cons_none (called _ rfl), List.filterMap_cons_none (sifts.waitsUpTo _ _)]
    rfl

theorem sift_tellDeeds (oldPrimary newPrimary : Alias) :
    (context.tellDeeds oldPrimary newPrimary).filterMap sift = [] := by
  have counted (labels : ShardLabels) (outcome : ReparentOutcome) :
      sift (.call (.metric labels outcome)) = none := sifts.calls _ (by simp [Call.purpose]) rfl
  unfold tellDeeds
  cases context.handoverOutcome with
  | ok _ =>
    rw [List.filterMap_cons_none (sift_notice sifts (by decide) (by decide)),
      List.filterMap_cons_none (counted _ _)]
    rfl
  | error fault =>
    rw [List.filterMap_cons_none (sift_warning sifts (by decide) (by decide)),
      List.filterMap_cons_none (counted _ _)]
    rfl

/-- Of moving the primary role away, only that there is nobody to take over is not passed over. -/
theorem sift_awayDeeds (pods : Keyed Pod) (tablets : Keyed Tablet) :
    (context.awayDeeds primary pods tablets).filterMap sift =
      if (context.eligible pods tablets).isEmpty then
        (context.blockedDeeds primary).filterMap sift
      else [] := by
  rw [awayDeeds, List.filterMap_append, sift_chooseDeeds sifts, List.nil_append]
  by_cases nobody : (context.eligible pods tablets).isEmpty
  · have none : context.candidate pods tablets = none := by
      unfold candidate
      rw [List.isEmpty_iff.mp nobody]
      rfl
    rw [none, if_pos nobody]
    rfl
  · obtain ⟨tablet, chosen⟩ := context.isSome_candidate (mt List.isEmpty_iff.mpr nobody)
    rw [chosen, if_neg nobody]
    dsimp only
    split
    · rfl
    · rw [List.filterMap_append, sift_handoverDeeds sifts, sift_tellDeeds sifts, List.nil_append]

theorem sift_lastDeeds (served : context.served? = some primary) (acting : context.isActing = true) :
    (if context.isPrepared (context.held primary) context.tablets then
      (context.lastDeeds primary (Drain.requests context.view) (context.next primary)
        (context.held primary) context.tablets).filterMap sift
    else []) = (context.blocked?.toList.flatMap context.blockedDeeds).filterMap sift := by
  have last : (context.lastDeeds primary (Drain.requests context.view) (context.next primary)
      (context.held primary) context.tablets).filterMap sift =
        if context.movesAway primary ∧
            (context.eligible (context.held primary) context.tablets).isEmpty then
          (context.blockedDeeds primary).filterMap sift
        else [] := by
    by_cases moves : context.movesAway primary
    · simp only [lastDeeds_of_movesAway moves, sift_awayDeeds sifts, moves, true_and]
    · obtain ⟨message, stays⟩ := lastDeeds_of_stays moves (context.held primary) context.tablets
      rw [stays, if_neg fun both => moves both.1]
      exact List.filterMap_cons_none (sift_notice sifts (by decide) (by decide))
  rw [last, blocked?, served, acting]
  by_cases prepared : context.isPrepared (context.held primary) context.tablets <;>
    by_cases moves : context.movesAway primary <;>
      by_cases nobody : (context.eligible (context.held primary) context.tablets).isEmpty <;>
        simp [Option.filter, prepared, moves, nobody]

omit sifts in
theorem sift_actDeeds (acting : context.isActing = true) :
    (context.actDeeds primary).filterMap sift =
      ((context.next primary).entries.filterMap (context.advance? primary.text)).flatMap
        (fun update => (context.sendDeeds update.listed update.sent).filterMap sift) ++
      (context.prepareDeeds (context.held primary) context.tablets).filterMap sift ++
      if context.isPrepared (context.held primary) context.tablets then
        (context.lastDeeds primary (Drain.requests context.view) (context.next primary)
          (context.held primary) context.tablets).filterMap sift
      else [] := by
  rw [← sift_markDeeds acting]
  simp only [isActing, Bool.and_eq_true, Bool.not_eq_true'] at acting
  rw [actDeeds, if_neg (by simp [acting.1]), if_neg (by simp [acting.2])]
  simp only [List.filterMap_append]
  split <;> rfl

theorem sift_actDeeds_of_idle (idle : context.isActing = false) :
    (context.actDeeds primary).filterMap sift = [] := by
  unfold actDeeds
  split
  · rfl
  · split
    · exact List.filterMap_cons_none (sift_warning sifts (by decide) (by decide))
    · rename_i some quiet
      simp [isActing, some, quiet] at idle

omit sifts in
theorem sift_closingDeeds_eq_nil (untold : ∀ message, sift (context.warning "DrainBlocked" message) = none)
    (unasked : ∀ delay, sift (.requeueAfter delay) = none) :
    context.closingDeeds.filterMap sift = [] := by
  have asked := unasked context.timeouts.requeueDelay
  unfold closingDeeds
  split
  · cases context.blocked? with
    | none => rfl
    | some primary =>
      rw [Option.toList_some, List.flatMap_singleton, blockedDeeds, List.filterMap_cons_none (untold _)]
      exact List.filterMap_cons_none asked
  · exact List.filterMap_cons_none asked

/-- What of a pass is not passed over. -/
theorem sift_deeds :
    context.deeds.filterMap sift =
      (context.updates.flatMap fun update =>
        (context.sendDeeds update.listed update.sent).filterMap sift) ++
      (context.unprepared?.toList.filterMap fun fault => sift (.fail fault)) ++
      context.closingDeeds.filterMap sift := by
  rw [deeds, List.filterMap_append, sift_readingDeeds sifts, List.nil_append, closingDeeds]
  cases read : context.isRead context.timeouts.read context.readings with
  | false =>
    have served : context.served? = none := by rw [served?, if_neg (by simp [read])]
    rw [updates, unprepared?, served]
    rfl
  | true =>
    rw [if_pos rfl, if_pos rfl]
    cases healthy : Shard.healthyPrimary context.shard.status context.cluster.record with
    | error reason =>
      have served : context.served? = none := by
        rw [served?, if_pos read, healthy]
        rfl
      rw [updates, unprepared?, blocked?, served]
      exact List.filterMap_cons_none (sift_warning sifts (by decide) (by decide))
    | ok primary =>
      have served := served_iff.mpr ⟨read, healthy⟩
      rw [List.filterMap_append, sift_loadDeeds sifts]
      cases acting : context.isActing with
      | true =>
        have quiet := isAborting_eq_false_iff.mpr (isAborted_of_isActing acting)
        rw [sift_actDeeds acting, clearances_of_quiet quiet, updates_of_quiet served quiet,
          sift_prepareDeeds sifts served acting, sift_lastDeeds sifts served acting]
        rfl
      | false =>
        have unprepared : context.unprepared? = none := by
          rw [unprepared?, served, acting]
          rfl
        have unblocked : context.blocked? = none := by
          rw [blocked?, served, acting]
          rfl
        -- Answers that are left over are taken back; without any there are no requests at all.
        rw [sift_actDeeds_of_idle sifts acting, updates, served, unprepared, unblocked]
        dsimp only
        split
        · simp
        · rename_i quiet
          have none : (Drain.requests context.view).isEmpty = true := by
            simpa [isActing, quiet] using acting
          rw [clearances_of_quiet (Bool.eq_false_iff.mpr quiet), next_of_no_requests none]
          rfl

end Sift

end Pass.Context

end TabletDrain
