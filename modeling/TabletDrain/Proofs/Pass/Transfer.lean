import TabletDrain.Proofs.Pass.Marking

/-! The later parts of a pass as scripts: preparing upgrades, choosing a new primary, and handing the
role over. -/
namespace TabletDrain

namespace Upgrade

variable (setting : Setting)

def tabletOutcome (key : String) (pod : Pod) (tablet : Tablet) (desired : String) :
    Except Fault Unit :=
  match imagesNeedSlowShutdown ((pod.image? databaseContainer).getD "") desired with
  | .error fault => .error fault
  | .ok false => .ok ()
  | .ok true =>
    match (setting.replies.execute tablet.name).fault with
    | some fault => .error (statementFailed key fault)
    | none => .ok ()

def tabletDeeds (pod : Pod) (tablet : Tablet) (desired : String) : List Deed :=
  match imagesNeedSlowShutdown ((pod.image? databaseContainer).getD "") desired with
  | .error _ => []
  | .ok false => []
  | .ok true =>
    let reply := setting.replies.execute tablet.name
    [.call (.execute tablet.name slowShutdown), .wait reply.delay] ++
      match reply.fault with
      | some _ => []
      | none =>
        [.event .normal pod.ref "MySQL_Upgrade" "innodb_fast_shutdown = 0 to prepare MySQL upgrade"]

theorem prepareTablet_eq (key : String) (pod : Pod) (tablet : Tablet) (desired : String) :
    prepareTablet setting key pod tablet desired =
      script setting (tabletDeeds setting pod tablet desired)
        (tabletOutcome setting key pod tablet desired) := by
  unfold prepareTablet tabletDeeds tabletOutcome
  cases imagesNeedSlowShutdown ((pod.image? databaseContainer).getD "") desired with
  | error fault => rfl
  | ok needed =>
    cases needed with
    | false => rfl
    | true =>
      cases reply : (setting.replies.execute tablet.name).fault with
      | none =>
        simp only [reply, Setting.call_eq, script_bind, Reply.outcome, script_append]
        simp only [script, perform, Deed.perform, bind_assoc, pure_bind]
      | some fault =>
        simp only [reply, Setting.call_eq, script_bind, Reply.outcome, script_append]
        rfl

def outcomeFrom (tablets : Keyed Tablet) (desired : String) :
    List (String × Pod) → Except Fault Unit
  | [] => .ok ()
  | (key, pod) :: rest =>
    match tablets.get? key with
    | none => outcomeFrom tablets desired rest
    | some tablet =>
      match tabletOutcome setting key pod tablet desired with
      | .error fault => .error fault
      | .ok () => outcomeFrom tablets desired rest

def deedsFrom (tablets : Keyed Tablet) (desired : String) : List (String × Pod) → List Deed
  | [] => []
  | (key, pod) :: rest =>
    match tablets.get? key with
    | none => deedsFrom tablets desired rest
    | some tablet =>
      tabletDeeds setting pod tablet desired ++
        match tabletOutcome setting key pod tablet desired with
        | .error _ => []
        | .ok () => deedsFrom tablets desired rest

theorem prepareFrom_eq (tablets : Keyed Tablet) (desired : String) (pods : List (String × Pod)) :
    prepareFrom setting tablets desired pods =
      script setting (deedsFrom setting tablets desired pods)
        (outcomeFrom setting tablets desired pods) := by
  induction pods with
  | nil => rfl
  | cons entry rest ih =>
    obtain ⟨key, pod⟩ := entry
    unfold prepareFrom deedsFrom outcomeFrom
    cases tablets.get? key with
    | none => exact ih
    | some tablet =>
      simp only [prepareTablet_eq]
      cases tabletOutcome setting key pod tablet desired with
      | error fault => exact script_bind_eq rfl
      | ok _ => exact script_bind_eq ih

variable {setting}

theorem outcomeFrom_eq_ok_iff {tablets : Keyed Tablet} {desired : String}
    {pods : List (String × Pod)} :
    outcomeFrom setting tablets desired pods = .ok () ↔
      ∀ key pod tablet, (key, pod) ∈ pods → tablets.get? key = some tablet →
        tabletOutcome setting key pod tablet desired = .ok () := by
  induction pods with
  | nil => simp [outcomeFrom]
  | cons entry rest ih =>
    obtain ⟨first, held⟩ := entry
    unfold outcomeFrom
    have split : (∀ key pod tablet, (key, pod) ∈ (first, held) :: rest →
        tablets.get? key = some tablet → tabletOutcome setting key pod tablet desired = .ok ()) ↔
        (∀ tablet, tablets.get? first = some tablet →
          tabletOutcome setting first held tablet desired = .ok ()) ∧
        outcomeFrom setting tablets desired rest = .ok () := by
      rw [ih]
      constructor
      · intro all
        exact ⟨fun tablet => all first held tablet (List.mem_cons_self),
          fun key pod tablet inside => all key pod tablet (List.mem_cons_of_mem _ inside)⟩
      · intro both key pod tablet member
        rcases List.mem_cons.mp member with same | inside
        · cases same
          exact both.1 tablet
        · exact both.2 key pod tablet inside
    rw [split]
    cases tablets.get? first with
    | none => simp
    | some tablet =>
      cases outcome : tabletOutcome setting first held tablet desired with
      | error fault => simp [outcome]
      | ok _ => simp [outcome]

theorem tabletOutcome_eq_ok_iff {key : String} {pod : Pod} {tablet : Tablet} {desired : String} :
    tabletOutcome setting key pod tablet desired = .ok () ↔
      imagesNeedSlowShutdown ((pod.image? databaseContainer).getD "") desired = .ok false ∨
      imagesNeedSlowShutdown ((pod.image? databaseContainer).getD "") desired = .ok true ∧
        (setting.replies.execute tablet.name).fault = none := by
  unfold tabletOutcome
  cases imagesNeedSlowShutdown ((pod.image? databaseContainer).getD "") desired with
  | error fault => simp
  | ok needed =>
    cases needed with
    | false => simp
    | true => cases (setting.replies.execute tablet.name).fault <;> simp

/-- What holds of every statement that is sent, of the waits for them and of what is told of them. -/
theorem forall_mem_deedsFrom {P : Deed → Prop} {desired : String}
    (calls : ∀ tablet : Tablet, P (.call (.execute tablet.name slowShutdown)))
    (waits : ∀ tablet : Tablet, P (.wait (setting.replies.execute tablet.name).delay))
    (tells : ∀ (pod : Pod) (message : String), P (.event .normal pod.ref "MySQL_Upgrade" message))
    (tablets : Keyed Tablet) (pods : List (String × Pod)) :
    ∀ deed ∈ deedsFrom setting tablets desired pods, P deed := by
  have each (pod : Pod) (tablet : Tablet) :
      ∀ deed ∈ tabletDeeds setting pod tablet desired, P deed := by
    unfold tabletDeeds
    split
    · exact fun deed member => absurd member List.not_mem_nil
    · exact fun deed member => absurd member List.not_mem_nil
    · refine List.forall_mem_append.mpr ⟨?_, ?_⟩
      · exact List.forall_mem_cons.mpr ⟨calls tablet, List.forall_mem_singleton.mpr (waits tablet)⟩
      · split
        · exact fun deed member => absurd member List.not_mem_nil
        · exact List.forall_mem_singleton.mpr (tells pod _)
  induction pods with
  | nil => exact fun deed member => absurd member List.not_mem_nil
  | cons entry rest ih =>
    unfold deedsFrom
    split
    · exact ih
    · refine List.forall_mem_append.mpr ⟨each _ _, ?_⟩
      split
      · exact fun deed member => absurd member List.not_mem_nil
      · exact ih

theorem serve_deedsFrom (tablets : Keyed Tablet) (desired : String) (pods : List (String × Pod)) :
    Serve .prepare (deedsFrom setting tablets desired pods) :=
  forall_mem_deedsFrom (fun _ => .inl rfl) (fun _ => .inr rfl) (fun _ _ => .inr rfl) tablets pods

end Upgrade

namespace Succession

theorem canBePromoted_iff {external : Bool} {tablet : Tablet} {pod : Pod} :
    canBePromoted external tablet pod = true ↔
      if external = true then
        pod.label? poolLabel = some externalPool ∧ (tablet.role = .spare ∨ tablet.role = .primary)
      else tablet.role = .replica := by
  unfold canBePromoted
  split <;> simp

theorem isEligible_iff {record : ShardRecord} {external : Bool} {tablet : Tablet} {pod : Pod} :
    isEligible record external tablet pod = true ↔
      record.primary ≠ some tablet.name ∧ canBePromoted external tablet pod = true ∧
        pod.isReady = true ∧ pod.markers.any = false := by
  simp only [isEligible, Bool.and_eq_true, decide_eq_true_eq, Bool.not_eq_true', and_assoc]

theorem mem_eligible {record : ShardRecord} {external : Bool} {tablets : Keyed Tablet}
    {pods : Keyed Pod} {tablet : Tablet} :
    tablet ∈ eligible record tablets pods external ↔
      ∃ key pod, tablets.get? key = some tablet ∧ pods.get? key = some pod ∧
        isEligible record external tablet pod = true := by
  rw [eligible, List.mem_filterMap]
  constructor
  · rintro ⟨⟨key, other⟩, inside, chosen⟩
    dsimp only at chosen
    split at chosen
    · rename_i pod found
      split at chosen
      · rename_i fit
        cases chosen
        exact ⟨key, pod, Keyed.get?_of_mem inside, found, fit⟩
      · cases chosen
    · cases chosen
  · rintro ⟨key, pod, recorded, found, fit⟩
    refine ⟨(key, tablet), Keyed.mem_entries_iff.mpr recorded, ?_⟩
    simp only [found]
    exact if_pos fit

def askDeeds (tablets : List Tablet) : List Deed :=
  tablets.map fun tablet => .call (.replicationStatus tablet.name)

theorem ask_eq (setting : Setting) (tablets : List Tablet) :
    ask tablets = perform setting (askDeeds tablets) := by
  induction tablets with
  | nil => rfl
  | cons tablet rest ih =>
    rw [ask, ih]
    rfl

theorem perform_askDeeds (setting : Setting) (tablets : List Tablet) (before : Progress) :
    perform setting (askDeeds tablets) before =
      (some (), { before with
        log := before.log ++ tablets.map fun tablet => ⟨before.now, .replicationStatus tablet.name⟩ }) := by
  induction tablets generalizing before with
  | nil => simp [askDeeds, perform]
  | cons tablet rest ih =>
    have logged : Deed.perform setting (.call (.replicationStatus tablet.name)) before =
        (some (), { before with log := before.log ++ [⟨before.now, .replicationStatus tablet.name⟩] }) :=
      rfl
    refine (Run.bind_of_some _ logged).trans ((ih _).trans ?_)
    simp [List.append_assoc]

private theorem tablet_answer (timeout : Nat) (reply : Alias → ProbeReply) (tablet : Tablet) :
    (answer timeout reply tablet).tablet = tablet := by
  unfold answer
  dsimp only
  split <;> rfl

theorem time_answer (timeout : Nat) (reply : Alias → ProbeReply) (tablet : Tablet) :
    (answer timeout reply tablet).time = min (reply tablet.name).delay timeout := by
  unfold answer
  dsimp only
  split
  · rename_i early
    exact (Nat.min_eq_left early).symm
  · rename_i late
    exact (Nat.min_eq_right (Nat.le_of_not_le late)).symm

theorem duration_le_iff {answers : List Answer} {bound : Nat} :
    duration answers ≤ bound ↔ ∀ answer ∈ answers, answer.time ≤ bound := by
  have all (start : Nat) : answers.foldl (fun time answer => max time answer.time) start ≤ bound ↔
      start ≤ bound ∧ ∀ answer ∈ answers, answer.time ≤ bound := by
    induction answers generalizing start with
    | nil => simp
    | cons answer rest ih => rw [List.foldl_cons, ih, Nat.max_le, List.forall_mem_cons, and_assoc]
  exact (all 0).trans (and_iff_right (Nat.zero_le _))

theorem duration_answers_le_iff {timeout : Nat} {reply : Alias → ProbeReply} {tablets : List Tablet}
    {bound : Nat} :
    duration (answers timeout reply tablets) ≤ bound ↔
      ∀ tablet ∈ tablets, min (reply tablet.name).delay timeout ≤ bound := by
  simp only [duration_le_iff, answers, List.mem_mergeSort, List.forall_mem_map, time_answer]

private theorem tablet_of_foldl {answers : List Answer} {lead : Lead} {tablet : Tablet}
    (leads : (answers.foldl Lead.next lead).tablet = some tablet) :
    lead.tablet = some tablet ∨ ∃ answer ∈ answers, answer.tablet = tablet := by
  induction answers generalizing lead with
  | nil => exact .inl leads
  | cons answer rest ih =>
    rcases ih leads with here | ⟨other, inside, same⟩
    · unfold Lead.next at here
      split at here
      · split at here
        · exact .inr ⟨answer, List.mem_cons_self, Option.some.inj here⟩
        · exact .inl here
      · exact .inl here
    · exact .inr ⟨other, List.mem_cons_of_mem _ inside, same⟩

theorem choose_mem (timeout : Nat) (reply : Alias → ProbeReply) (first : Tablet)
    (rest : List Tablet) :
    choose first (answers timeout reply (first :: rest)) ∈ first :: rest := by
  unfold choose
  cases found : furthest (answers timeout reply (first :: rest)) with
  | none => exact List.mem_cons_self
  | some tablet =>
    rcases tablet_of_foldl found with start | ⟨answer, inside, same⟩
    · cases start
    · rw [answers, List.mem_mergeSort] at inside
      obtain ⟨asked, member, equal⟩ := List.mem_map.mp inside
      rw [Option.getD_some, ← same, ← equal, tablet_answer]
      exact member

end Succession

namespace Pass.Context

variable (context : Context)

def isPrepared (pods : Keyed Pod) (tablets : Keyed Tablet) : Bool :=
  context.configuration.dryRun ||
    (Upgrade.outcomeFrom context.setting tablets context.desiredImage pods.entries).isOk

def prepareDeeds (pods : Keyed Pod) (tablets : Keyed Tablet) : List Deed :=
  if context.configuration.dryRun then []
  else
    Upgrade.deedsFrom context.setting tablets context.desiredImage pods.entries ++
      match Upgrade.outcomeFrom context.setting tablets context.desiredImage pods.entries with
      | .ok () => []
      | .error fault =>
        [context.warning "MysqldSafeUpgradeFailed"
          ("failed to disable fast shutdown: " ++ fault.message), .fail fault]

theorem prepareUpgrade_eq (pods : Keyed Pod) (tablets : Keyed Tablet) :
    context.prepareUpgrade pods tablets =
      script context.setting (context.prepareDeeds pods tablets)
        (context.isPrepared pods tablets) := by
  unfold prepareUpgrade prepareDeeds isPrepared Upgrade.prepare
  by_cases dryRun : context.configuration.dryRun
  · simp only [dryRun, if_true, Bool.true_or]
    rfl
  · simp only [dryRun, Bool.false_eq_true, if_false, Bool.false_or, Upgrade.prepareFrom_eq]
    cases Upgrade.outcomeFrom context.setting tablets context.desiredImage pods.entries with
    | ok _ => exact script_bind_eq rfl
    | error fault =>
      apply script_bind_eq
      simp only [warn_eq, script, perform, Deed.perform, bind_assoc, pure_bind]
      rfl

def eligible (pods : Keyed Pod) (tablets : Keyed Tablet) : List Tablet :=
  Succession.eligible context.cluster.record tablets pods context.shard.spec.usesExternalDatastore

theorem primary_ne_of_eligible {context : Context} {pods : Keyed Pod} {tablets : Keyed Tablet}
    {tablet : Tablet} (eligible : tablet ∈ context.eligible pods tablets) :
    context.cluster.record.primary ≠ some tablet.name := by
  obtain ⟨_, _, _, _, isEligible⟩ := Succession.mem_eligible.mp eligible
  exact (Succession.isEligible_iff.mp isEligible).1

def answers (pods : Keyed Pod) (tablets : Keyed Tablet) : List Succession.Answer :=
  Succession.answers context.timeouts.candidate context.replies.replicationStatus
    (context.eligible pods tablets)

def candidate (pods : Keyed Pod) (tablets : Keyed Tablet) : Option Tablet :=
  (context.eligible pods tablets).head?.map fun first =>
    Succession.choose first (context.answers pods tablets)

theorem candidate_mem {pods : Keyed Pod} {tablets : Keyed Tablet} {tablet : Tablet}
    (chosen : context.candidate pods tablets = some tablet) :
    tablet ∈ context.eligible pods tablets := by
  unfold candidate answers at chosen
  cases asked : context.eligible pods tablets with
  | nil =>
    rw [asked] at chosen
    cases chosen
  | cons first rest =>
    rw [asked, List.head?_cons, Option.map_some, Option.some.injEq] at chosen
    rw [← chosen]
    exact Succession.choose_mem _ _ first rest

theorem isSome_candidate {pods : Keyed Pod} {tablets : Keyed Tablet}
    (nonempty : context.eligible pods tablets ≠ []) :
    ∃ tablet, context.candidate pods tablets = some tablet := by
  unfold candidate
  cases asked : context.eligible pods tablets with
  | nil => exact absurd asked nonempty
  | cons first rest => exact ⟨_, rfl⟩

def chooseDeeds (pods : Keyed Pod) (tablets : Keyed Tablet) : List Deed :=
  Succession.askDeeds (context.eligible pods tablets) ++
    if (context.eligible pods tablets).isEmpty then []
    else [.wait (Succession.duration (context.answers pods tablets))]

theorem newPrimary_eq (pods : Keyed Pod) (tablets : Keyed Tablet) :
    Succession.newPrimary context.setting context.cluster.record tablets pods
        context.shard.spec.usesExternalDatastore context.timeouts.candidate =
      script context.setting (context.chooseDeeds pods tablets) (context.candidate pods tablets) := by
  unfold Succession.newPrimary chooseDeeds candidate answers
  rw [show Succession.eligible context.cluster.record tablets pods
    context.shard.spec.usesExternalDatastore = context.eligible pods tablets from rfl]
  cases context.eligible pods tablets with
  | nil => rfl
  | cons first rest =>
    simp only [Succession.ask_eq context.setting, script_append]
    simp only [List.isEmpty_cons, Bool.false_eq_true, if_false, script, perform, bind_pure_unit,
      Deed.perform]
    rfl

def externalOutcome : Except Fault Unit :=
  match context.replies.externallyReparented.outcome with
  | .error fault => .error fault
  | .ok () => context.replies.changeTabletType.outcome

def externalDeeds (newPrimary oldPrimary : Alias) : List Deed :=
  [.call (.externallyReparented newPrimary), .wait context.replies.externallyReparented.delay] ++
    match context.replies.externallyReparented.outcome with
    | .error _ => []
    | .ok () =>
      [.call (.changeTabletType oldPrimary .spare), .wait context.replies.changeTabletType.delay]

theorem externalHandover_eq (newPrimary oldPrimary : Alias) :
    context.externalHandover newPrimary oldPrimary =
      script context.setting (context.externalDeeds newPrimary oldPrimary)
        context.externalOutcome := by
  unfold externalHandover externalDeeds externalOutcome
  simp only [Setting.call_eq]
  cases context.replies.externallyReparented.outcome with
  | error fault => exact script_bind_eq rfl
  | ok _ => exact script_bind_eq rfl

def reparent (newPrimary : Alias) : Reparent :=
  ⟨context.cluster.record.keyspace, context.cluster.record.name, newPrimary, none,
    context.timeouts.reparent, context.timeouts.tolerableLag⟩

def plannedOutcome : Except Fault Unit :=
  Setting.answered "planned reparent" context.timeouts.reparent context.timeouts.reparent
    context.replies.plannedReparent

def plannedDeeds (newPrimary : Alias) : List Deed :=
  [.call (.plannedReparent (context.reparent newPrimary)),
    .waitUpTo context.timeouts.reparent context.replies.plannedReparent.delay]

theorem plannedHandover_eq (newPrimary : Alias) :
    context.plannedHandover newPrimary =
      script context.setting (context.plannedDeeds newPrimary) context.plannedOutcome := by
  funext before
  exact Setting.callWithin_at rfl _ _ _ _

def handoverOutcome : Except Fault Unit :=
  if context.shard.spec.usesExternalDatastore then context.externalOutcome
  else context.plannedOutcome

def handoverDeeds (oldPrimary newPrimary : Alias) : List Deed :=
  if context.shard.spec.usesExternalDatastore then context.externalDeeds newPrimary oldPrimary
  else context.plannedDeeds newPrimary

def reparentOutcome : ReparentOutcome :=
  match context.handoverOutcome with
  | .ok () => .success
  | .error _ => .failure

def tellDeeds (oldPrimary newPrimary : Alias) : List Deed :=
  [match context.handoverOutcome with
    | .ok () =>
      context.notice "PlannedReparent"
        ("planned reparent from old primary " ++ oldPrimary.text ++ " to new primary "
          ++ newPrimary.text ++ " succeeded")
    | .error fault =>
      context.warning "PlannedReparentFailed"
        ("planned reparent from current primary " ++ oldPrimary.text ++ " to candidate primary "
          ++ newPrimary.text ++ " failed: " ++ fault.message),
    .call (.metric context.shard.spec.metricLabels context.reparentOutcome)]

private theorem tell_eq (oldPrimary newPrimary : Alias) :
    (do
      let outcome ← context.tellHandover oldPrimary newPrimary context.handoverOutcome
      Run.log (.metric context.shard.spec.metricLabels outcome)) =
    perform context.setting (context.tellDeeds oldPrimary newPrimary) := by
  unfold tellHandover tellDeeds reparentOutcome
  cases context.handoverOutcome with
  | ok _ =>
    simp only [inform_eq, perform, bind_assoc, pure_bind]
    rfl
  | error fault =>
    simp only [warn_eq, perform, bind_assoc, pure_bind]
    rfl

theorem handOver_eq (oldPrimary newPrimary : Alias) :
    context.handOver oldPrimary newPrimary =
      perform context.setting (context.handoverDeeds oldPrimary newPrimary ++
        context.tellDeeds oldPrimary newPrimary) := by
  rw [perform_append, ← tell_eq]
  unfold handOver handoverDeeds handoverOutcome
  by_cases external : context.shard.spec.usesExternalDatastore
  · simp only [external, if_true, externalHandover_eq]
    exact script_bind _ _ _
  · simp only [external, Bool.false_eq_true, if_false, plannedHandover_eq]
    exact script_bind _ _ _

section Serving

variable {context : Context}

theorem serve_prepareDeeds (pods : Keyed Pod) (tablets : Keyed Tablet) :
    Serve .prepare (context.prepareDeeds pods tablets) := by
  unfold prepareDeeds
  split
  · exact .nil
  · refine .append (Upgrade.serve_deedsFrom _ _ _) ?_
    split
    · exact .nil
    · exact .cons (.inr rfl) (.cons (.inr rfl) .nil)

theorem serve_chooseDeeds (pods : Keyed Pod) (tablets : Keyed Tablet) :
    Serve .ask (context.chooseDeeds pods tablets) := by
  unfold chooseDeeds
  refine .append ?_ ?_
  · intro deed member
    obtain ⟨tablet, _, same⟩ := List.mem_map.mp member
    exact same ▸ .inl rfl
  · split
    · exact .nil
    · exact .cons (.inr rfl) .nil

theorem serve_handoverDeeds (oldPrimary newPrimary : Alias) :
    Serve .handOver (context.handoverDeeds oldPrimary newPrimary) := by
  unfold handoverDeeds
  split
  · unfold externalDeeds
    refine .append (.cons (.inl rfl) (.cons (.inr rfl) .nil)) ?_
    split
    · exact .nil
    · exact .cons (.inl rfl) (.cons (.inr rfl) .nil)
  · exact .cons (.inl rfl) (.cons (.inr rfl) .nil)

theorem serve_tellDeeds (purpose : Purpose) (oldPrimary newPrimary : Alias) :
    Serve purpose (context.tellDeeds oldPrimary newPrimary) := by
  unfold tellDeeds
  refine .cons (.inr ?_) (.cons (.inr rfl) .nil)
  split <;> rfl

end Serving

end Pass.Context

end TabletDrain
