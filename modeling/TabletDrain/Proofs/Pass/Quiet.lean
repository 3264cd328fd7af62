import TabletDrain.Proofs.Pass.Sifting

/-! The parts of a pass up to preparing upgrades reach no tablet. What a pass notes is the failures of its
updates, then the one that ends its preparations, and in the end the delay before another pass; so its
result follows from these three. -/
namespace TabletDrain

/-- The call neither reaches a tablet nor counts a hand-over. -/
def Call.isQuiet : Call → Bool
  | .execute .. | .replicationStatus _ | .plannedReparent _ | .externallyReparented _
  | .changeTabletType .. | .metric .. => false
  | _ => true

namespace Deed

/-- The deed makes no other than quiet calls, and does not ask for another pass. -/
def IsQuiet : Deed → Prop
  | .call made => made.isQuiet = true
  | .requeueAfter _ => False
  | _ => True

def fault? : Deed → Option Fault
  | .fail fault => some fault
  | _ => none

theorem sifts_fault? : Sifts fault? where
  calls _ _ _ := rfl
  waits _ := rfl
  waitsUpTo _ _ := rfl
  tells _ _ _ _ _ _ := rfl

theorem fault_foldl_note (deeds : List Deed) (results : Results) :
    (deeds.foldl note results).fault = results.fault.or (deeds.filterMap fault?).head? := by
  induction deeds generalizing results with
  | nil => simp
  | cons deed rest ih =>
    rw [List.foldl_cons, ih]
    cases deed with
    | fail fault => simp [note, Results.fail, fault?]
    | _ => rfl

def delay? : Deed → Option Nat
  | .requeueAfter delay => some delay
  | _ => none

theorem sifts_delay? : Sifts delay? where
  calls _ _ _ := rfl
  waits _ := rfl
  waitsUpTo _ _ := rfl
  tells _ _ _ _ _ _ := rfl

theorem requeue_foldl_note_of_silent {deeds : List Deed} (silent : deeds.filterMap delay? = [])
    (results : Results) : (deeds.foldl note results).requeue = results.requeue := by
  induction deeds generalizing results with
  | nil => rfl
  | cons deed rest ih =>
    cases deed with
    | requeueAfter delay => cases silent
    | _ => exact ih silent _

/-- Of a single delay that is asked for, nothing else is kept. -/
theorem requeue_foldl_note_of_toList {deeds : List Deed} {delay : Option Nat} {results : Results}
    (asks : deeds.filterMap delay? = delay.toList) (fresh : results.requeue = none) :
    (deeds.foldl note results).requeue = delay := by
  induction deeds generalizing results with
  | nil =>
    cases delay with
    | none => exact fresh
    | some _ => cases asks
  | cons deed rest ih =>
    cases deed with
    | requeueAfter time =>
      cases delay with
      | none => cases asks
      | some _ =>
        obtain ⟨rfl, silent⟩ := List.cons.inj asks
        rw [List.foldl_cons, requeue_foldl_note_of_silent silent, note, Results.requeueAfter, fresh]
    | _ => exact ih asks fresh

theorem IsQuiet.call {deed : Deed} {made : Call} (quiet : deed.IsQuiet)
    (called : deed.call? = some made) : made.isQuiet = true := by
  cases deed <;> cases called
  · exact quiet
  · rfl

end Deed

namespace Pass.Context

variable {context : Context}

section Quiet

theorem quiet_readingDeeds (left : Nat) :
    ∀ deed ∈ context.readingDeeds left context.readings, deed.IsQuiet := by
  have quiet : ∀ reading ∈ context.readings, reading.call.isQuiet = true := by
    simp [readings, podReading, recordReading, tabletReading, Call.isQuiet]
  exact forall_mem_readingDeeds quiet (fun _ _ _ => trivial) (fun _ _ _ => trivial) left

theorem quiet_moveDeeds (pod : Pod) (state : DrainState) :
    ∀ deed ∈ context.moveDeeds pod state, deed.IsQuiet := by
  rw [moveDeeds_eq]
  refine List.forall_mem_flatMap.mpr fun update _ => ?_
  unfold sendDeeds
  refine List.forall_mem_append.mpr ⟨by simp [Deed.IsQuiet, Call.isQuiet], ?_⟩
  split <;> simp [Deed.IsQuiet, warning]

theorem quiet_loadDeeds (view : Keyed Pod) : ∀ deed ∈ context.loadDeeds view, deed.IsQuiet := by
  refine List.forall_mem_flatMap.mpr fun pod _ => ?_
  unfold clearDeeds
  split
  · unfold requestDeeds
    split <;> simp [Deed.IsQuiet, warning]
  · refine List.forall_mem_append.mpr ⟨?_, quiet_moveDeeds _ _⟩
    split <;> simp [Deed.IsQuiet, warning]

theorem quiet_markDeeds (primary : Alias) :
    ∀ deed ∈ context.markDeeds primary, deed.IsQuiet := by
  refine List.forall_mem_flatMap.mpr fun entry _ => ?_
  unfold carryDeeds
  split
  · exact fun deed member => absurd member List.not_mem_nil
  · split
    · exact quiet_moveDeeds _ _
    · exact fun deed member => absurd member List.not_mem_nil

end Quiet

section Faults

theorem faults_sendDeeds (pod updated : Pod) :
    (context.sendDeeds pod updated).filterMap Deed.fault? =
      (context.replies.updatePod updated.shownName).fault.toList := by
  rw [sendDeeds]
  cases (context.replies.updatePod updated.shownName).fault <;> rfl

theorem faults_updates (updates : List Update) :
    (updates.flatMap fun update =>
        (context.sendDeeds update.listed update.sent).filterMap Deed.fault?) =
      updates.filterMap fun update => (context.replies.updatePod update.sent.shownName).fault := by
  rw [List.filterMap_eq_flatMap_toList]
  exact List.flatMap_congr fun update _ => faults_sendDeeds update.listed update.sent

end Faults

section Result

/-- How long after the pass another one is due: always where a reading was cut short, otherwise only
while something is still in the way. -/
def delay? (context : Context) : Option Nat :=
  if context.isRead context.timeouts.read context.readings then
    context.blocked?.map fun _ => context.timeouts.requeueDelay
  else some context.timeouts.requeueDelay

/-- What the pass comes back with where `refusal?` is the first failure of its updates. -/
def ending (context : Context) (refusal? : Option Fault) : Except Fault (Option Nat) :=
  match refusal?.or context.unprepared? with
  | some fault => .error fault
  | none => .ok context.delay?

/-- The updates are over before anything else can fail, so the first of their failures counts. -/
theorem result_eq_ending (context : Context) :
    (context.deeds.foldl Deed.note .empty).result =
      context.ending ((context.updates.map Update.sent).findSome? fun sent =>
        (context.replies.updatePod sent.shownName).fault) := by
  have faults : (context.deeds.foldl Deed.note .empty).fault =
      ((context.updates.map Update.sent).findSome? fun sent =>
        (context.replies.updatePod sent.shownName).fault).or context.unprepared? := by
    have closes : context.closingDeeds.filterMap Deed.fault? = [] :=
      sift_closingDeeds_eq_nil (fun _ => rfl) fun _ => rfl
    rw [Deed.fault_foldl_note, sift_deeds Deed.sifts_fault?, faults_updates, closes, List.append_nil,
      List.head?_append, ← List.head?_filterMap, List.filterMap_map]
    cases context.unprepared? <;> rfl
  have delays : (context.deeds.foldl Deed.note .empty).requeue = context.delay? := by
    have sends : (context.updates.flatMap fun update =>
        (context.sendDeeds update.listed update.sent).filterMap Deed.delay?) = [] := by
      refine List.flatMap_eq_nil_iff.mpr fun update _ => ?_
      rw [sendDeeds]
      cases (context.replies.updatePod update.sent.shownName).fault <;> rfl
    have fails : (context.unprepared?.toList.filterMap fun fault => Deed.delay? (.fail fault)) = [] :=
      List.filterMap_eq_nil_iff.mpr fun _ _ => rfl
    have closes : context.closingDeeds.filterMap Deed.delay? = context.delay?.toList := by
      unfold closingDeeds delay?
      split
      · cases context.blocked? <;> rfl
      · rfl
    refine Deed.requeue_foldl_note_of_toList ?_ rfl
    rw [sift_deeds Deed.sifts_delay?, sends, fails, closes]
    rfl
  rw [Results.result, faults, delays]
  rfl

end Result

end Pass.Context

end TabletDrain
