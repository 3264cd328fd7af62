import TabletDrain.Proofs.Pass.Anatomy

/-! The reasons of the events that a pass publishes. Each part of a pass has reasons of its own, so that an
event tells which part it comes from. -/
namespace TabletDrain

def Call.reason? : Call → Option String
  | .event _ _ reason _ => some reason
  | _ => none

def Deed.reason? (deed : Deed) : Option String := deed.call?.bind Call.reason?

/-- The events of the deeds are published for no other reasons. -/
def Tells (reasons : List String) (deeds : List Deed) : Prop :=
  ∀ deed ∈ deeds, ∀ reason, deed.reason? = some reason → reason ∈ reasons

namespace Tells

variable {reasons fewer : List String} {first second deeds : List Deed} {deed : Deed}

theorem nil : Tells reasons [] := fun _ member => absurd member List.not_mem_nil

theorem silent (untold : deed.reason? = none) (rest : Tells reasons deeds) :
    Tells reasons (deed :: deeds) := by
  refine List.forall_mem_cons.mpr ⟨fun reason told => ?_, rest⟩
  rw [untold] at told
  cases told

theorem cons {reason : String} (told : deed.reason? = some reason) (known : reason ∈ reasons)
    (rest : Tells reasons deeds) : Tells reasons (deed :: deeds) := by
  refine List.forall_mem_cons.mpr ⟨fun other tells => ?_, rest⟩
  cases Option.some.inj (told.symm.trans tells)
  exact known

theorem append (before : Tells reasons first) (after : Tells reasons second) :
    Tells reasons (first ++ second) := List.forall_mem_append.mpr ⟨before, after⟩

theorem flatMap {α : Type} {items : List α} {parts : α → List Deed}
    (each : ∀ item ∈ items, Tells reasons (parts item)) : Tells reasons (items.flatMap parts) := by
  intro deed member
  obtain ⟨item, inside, made⟩ := List.mem_flatMap.mp member
  exact each item inside deed made

theorem mono (tells : Tells fewer deeds) (among : fewer ⊆ reasons) : Tells reasons deeds :=
  fun deed member reason told => among (tells deed member reason told)

/-- No call of the deeds has another reason. -/
theorem reason?_ne (tells : Tells reasons deeds) {reason : String} (foreign : reason ∉ reasons) :
    ∀ call ∈ deeds.filterMap Deed.call?, call.reason? ≠ some reason := by
  intro call member told
  obtain ⟨deed, inside, called⟩ := List.mem_filterMap.mp member
  refine foreign (tells deed inside reason ?_)
  rw [Deed.reason?, called, Option.bind_some, told]

end Tells

theorem Upgrade.tells_deedsFrom (setting : Setting) (tablets : Keyed Tablet) (desired : String)
    (pods : List (String × Pod)) :
    Tells ["MySQL_Upgrade"] (deedsFrom setting tablets desired pods) := by
  refine forall_mem_deedsFrom (fun _ _ told => nomatch told) (fun _ _ told => nomatch told)
    (fun _ _ _ told => ?_) tablets pods
  cases told
  exact List.mem_cons_self

namespace Pass.Context

variable {context : Context}

theorem known_of_mem_readings : ∀ reading ∈ context.readings,
    reading.call.reason? = none ∧ reading.reason ∈ ["ListFailed", "TopoGetFailed"] := by
  simp [readings, podReading, recordReading, tabletReading, Call.reason?]

theorem tells_readingDeeds (left : Nat) :
    Tells ["ListFailed", "TopoGetFailed"] (context.readingDeeds left context.readings) := by
  refine forall_mem_readingDeeds (fun reading member reason told => ?_) (fun _ _ _ _ told => ?_)
    (fun reading member _ reason told => ?_) left
  · rw [show Deed.reason? (.call reading.call) = none from (known_of_mem_readings reading member).1]
      at told
    cases told
  · cases told
  · cases told
    exact (known_of_mem_readings reading member).2

theorem tells_moveDeeds (pod : Pod) (state : DrainState) :
    Tells ["UpdateFailed"] (context.moveDeeds pod state) := by
  unfold moveDeeds sendDeeds
  split
  · split
    · exact .nil
    · refine .append (.silent rfl (.silent rfl .nil)) ?_
      split
      · exact .silent rfl .nil
      · exact .cons rfl List.mem_cons_self (.silent rfl .nil)
  · exact .nil

theorem tells_loadDeeds (view : Keyed Pod) :
    Tells ["InvalidDrainState", "AbortingDrain", "UpdateFailed"] (context.loadDeeds view) := by
  refine .flatMap fun pod _ => ?_
  unfold clearDeeds requestDeeds
  split
  · split
    · exact .nil
    · exact .cons rfl (by simp) .nil
  · refine .append ?_ ((tells_moveDeeds _ _).mono (by simp))
    split
    · exact .cons rfl (by simp) .nil
    · exact .nil

theorem tells_markDeeds (primary : Alias) :
    Tells ["UpdateFailed"] (context.markDeeds primary) := by
  refine .flatMap fun entry _ => ?_
  unfold carryDeeds
  split
  · exact .nil
  · split
    · exact tells_moveDeeds _ _
    · exact .nil

theorem tells_awayDeeds (primary : Alias) (pods : Keyed Pod) (tablets : Keyed Tablet) :
    Tells ["DrainBlocked", "PlannedReparent", "PlannedReparentFailed"]
      (context.awayDeeds primary pods tablets) := by
  have asks : Tells ["DrainBlocked", "PlannedReparent", "PlannedReparentFailed"]
      (context.chooseDeeds pods tablets) := by
    refine .append ?_ ?_
    · intro deed member
      obtain ⟨tablet, _, same⟩ := List.mem_map.mp member
      exact same ▸ fun _ told => nomatch told
    · split
      · exact .nil
      · exact .silent rfl .nil
  unfold awayDeeds
  refine .append asks ?_
  split
  · exact .cons rfl (by simp) (.silent rfl .nil)
  · split
    · exact .nil
    · refine .append ?_ ?_
      · unfold handoverDeeds externalDeeds
        split
        · refine .append (.silent rfl (.silent rfl .nil)) ?_
          split
          · exact .nil
          · exact .silent rfl (.silent rfl .nil)
        · exact .silent rfl (.silent rfl .nil)
      · unfold tellDeeds
        split
        · exact .cons rfl (by simp) (.silent rfl .nil)
        · exact .cons rfl (by simp) (.silent rfl .nil)

theorem tells_lastDeeds (primary : Alias) (drains next : Keyed DrainState) (pods : Keyed Pod)
    (tablets : Keyed Tablet) :
    Tells ["NotReparentingPrimary", "DrainBlocked", "PlannedReparent", "PlannedReparentFailed"]
      (context.lastDeeds primary drains next pods tablets) := by
  unfold lastDeeds
  dsimp only
  split
  · exact .cons rfl List.mem_cons_self .nil
  · split
    · exact .cons rfl List.mem_cons_self .nil
    · exact (tells_awayDeeds _ _ _).mono (List.subset_cons_self _ _)

theorem tells_prepareDeeds (pods : Keyed Pod) (tablets : Keyed Tablet) :
    Tells ["MySQL_Upgrade", "MysqldSafeUpgradeFailed"] (context.prepareDeeds pods tablets) := by
  unfold prepareDeeds
  split
  · exact .nil
  · refine .append ((Upgrade.tells_deedsFrom _ _ _ _).mono (by simp)) ?_
    split
    · exact .nil
    · exact .cons rfl (by simp) (.silent rfl .nil)

/-- Nothing that a pass does about drains tells that it does nothing about them. -/
theorem tells_actDeeds (primary : Alias) :
    Tells ["AbortingDrain", "UpdateFailed", "MySQL_Upgrade", "MysqldSafeUpgradeFailed",
      "NotReparentingPrimary", "DrainBlocked", "PlannedReparent", "PlannedReparentFailed"]
      (context.actDeeds primary) := by
  unfold actDeeds
  split
  · exact .nil
  · split
    · exact .cons rfl List.mem_cons_self .nil
    · refine .append (.append ((tells_markDeeds _).mono (by simp))
        ((tells_prepareDeeds _ _).mono (by simp))) ?_
      split
      · exact (tells_lastDeeds _ _ _ _ _).mono (by simp)
      · exact .nil

end Pass.Context

end TabletDrain
