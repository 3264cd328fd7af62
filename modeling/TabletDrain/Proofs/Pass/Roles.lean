import TabletDrain.Proofs.Pass.Prompt
import TabletDrain.Proofs.Pass.Updates

/-! What the recorded roles of the tablets have to do with the markers. Which tablet is primary stands
in the shard record, and again in the tablets' own records, and a hand-over that stops half way leaves
the two at odds. A pass moves markers by the shard record alone. So a former primary that was never
demoted is finished in its turn, and no later pass demotes it. -/
namespace TabletDrain

/-- Deeds without updates add nothing to what was sent and stored before them. -/
theorem perform_append_of_no_updates (setting : Setting) (front : List Deed) {back : List Deed}
    (quiet : partFor .update back = []) (before : Progress) :
    let whole := (perform setting (front ++ back) before).2
    let first := (perform setting front before).2
    whole.calls.filterMap Call.sent? = first.calls.filterMap Call.sent? ∧
      whole.history = first.history ∧ whole.pods = first.pods := by
  rw [perform_append]
  cases begun : perform setting front before with
  | mk value middle =>
    cases value with
    | none =>
      rw [Run.bind_of_none _ begun]
      exact ⟨rfl, rfl, rfl⟩
    | some _ =>
      rw [Run.bind_of_some _ begun]
      obtain ⟨made, isPrefix, performed, _⟩ := perform_prefix setting back middle
      have none : partFor .update made = [] := by
        have part : partFor .update made <+: partFor .update back := isPrefix.filter _
        rw [quiet] at part
        exact List.prefix_nil.mp part
      have unsent : (made.filterMap Deed.call?).filterMap Call.sent? = [] := by
        rw [Pass.filterMap_sent?, none]
        rfl
      have unwritten : made.filterMap Deed.write? = [] := by
        rw [← filterMap_write?, none]
        rfl
      refine ⟨?_, ?_, ?_⟩
      · rw [performed.calls, List.filterMap_append, unsent, List.append_nil]
      · rw [performed.history, unwritten]
        exact List.append_nil _
      · rw [performed.pods, unwritten]
        rfl

namespace Pass

namespace Context

variable (context : Context)

/-- The same pass over tablets of which other records are kept. -/
def recording (others : Keyed Tablet) : Context :=
  { context with cluster := { context.cluster with tablets := others } }

/-- What a pass does up to the last update. -/
def markingDeeds : List Deed :=
  context.readingDeeds context.timeouts.read context.readings ++
    match context.served? with
    | none => []
    | some primary =>
      context.loadDeeds context.view ++ if context.isActing then context.markDeeds primary else []

variable {context} {primary : Alias}

theorem markingDeeds_recording (others : Keyed Tablet) :
    (context.recording others).markingDeeds = context.markingDeeds := by
  have served : (context.recording others).served? = context.served? := by
    unfold served?
    rw [@isRead_congr context _ rfl]
    rfl
  unfold markingDeeds
  rw [@readingDeeds_congr context _ rfl rfl, served]
  rfl

theorem partFor_update_markingDeeds :
    partFor .update context.markingDeeds = partFor .update context.deeds := by
  unfold markingDeeds
  rw [updates_deeds, partFor_append,
    partFor_eq_nil (serve_readingDeeds _) (by decide) (by decide), List.nil_append]
  cases context.served? with
  | none => rfl
  | some primary =>
    dsimp only
    rw [partFor_append]
    split <;> rfl

theorem markingDeeds_isPrefix : context.markingDeeds <+: context.deeds := by
  unfold markingDeeds deeds served?
  refine (List.prefix_append_right_inj _).mpr ?_
  by_cases read : context.isRead context.timeouts.read context.readings = true
  · rw [if_pos read, if_pos read]
    cases Shard.healthyPrimary context.shard.status context.cluster.record with
    | error reason => exact List.nil_prefix
    | ok primary =>
      refine (List.prefix_append_right_inj _).mpr ?_
      split
      · rename_i acting
        simp only [isActing, Bool.and_eq_true, Bool.not_eq_true'] at acting
        unfold actDeeds
        rw [if_neg (by simp [acting.1]), if_neg (by simp [acting.2]), List.append_assoc]
        exact List.prefix_append _ _
      · exact List.nil_prefix
  · rw [if_neg read, if_neg read]
    exact List.nil_prefix

/-- After the markers are moved, a pass sends and stores no more pods. -/
theorem exists_deeds_eq :
    ∃ rest, context.deeds = context.markingDeeds ++ rest ∧ partFor .update rest = [] := by
  obtain ⟨rest, same⟩ := @markingDeeds_isPrefix context
  refine ⟨rest, same.symm, ?_⟩
  have parts := @partFor_update_markingDeeds context
  rw [← same, partFor_append] at parts
  exact List.self_eq_append_right.mp parts

/-- Which pods a pass sends and stores does not depend on the records of the tablets. -/
theorem updates_recording (others : Keyed Tablet) (before : Progress) :
    let first := (perform context.setting context.deeds before).2
    let second := (perform context.setting (context.recording others).deeds before).2
    second.calls.filterMap Call.sent? = first.calls.filterMap Call.sent? ∧
      second.history = first.history ∧ second.pods = first.pods := by
  obtain ⟨rest, split, quiet⟩ := @exists_deeds_eq context
  obtain ⟨rest', split', quiet'⟩ := @exists_deeds_eq (context.recording others)
  rw [markingDeeds_recording] at split'
  rw [split, split']
  obtain ⟨sent, history, pods⟩ := perform_append_of_no_updates context.setting context.markingDeeds
    quiet before
  obtain ⟨sent', history', pods'⟩ := perform_append_of_no_updates context.setting
    context.markingDeeds quiet' before
  exact ⟨sent'.trans sent.symm, history'.trans history.symm, pods'.trans pods.symm⟩

end Context

section Runs

variable {configuration : Configuration} {replies : Replies} {stamp : String} {shard : Shard}
  {cluster : Cluster}

/-- A pod that a run finishes was listed under a key of its own, and is not the primary's. -/
theorem mayFinish_of_mem_sent {sent : Pod}
    (member : sent ∈ (run configuration replies stamp shard cluster).sent)
    (finishing : finishes (shard.spec.view cluster.pods) (.updatePod sent) = true) :
    ∃ primary key listed, sent.key? = some key ∧
      MayFinish configuration shard cluster primary key listed := by
  let context := contextOf configuration replies stamp shard cluster
  obtain ⟨made, isPrefix, calls, _⟩ := run_does_prefix configuration replies stamp shard cluster
  rw [Report.sent, calls, List.filterMap_filterMap] at member
  obtain ⟨deed, inside, same⟩ := List.mem_filterMap.mp member
  have called : deed = .call (.updatePod sent) := by
    cases deed with
    | call call =>
      cases call with
      | updatePod other =>
        cases same
        rfl
      | _ => cases same
    | _ => cases same
  rw [called] at inside
  obtain ⟨primary, key, listed, keyed, _, may⟩ :=
    context.mayFinish_of_mem_deeds (isPrefix.subset inside) finishing
  exact ⟨primary, key, listed, keyed, may⟩

/-- A run demotes no tablet but the one that the shard record names. -/
theorem demoted_of_mem_calls {tablet : Alias} {role : Role}
    (member : .changeTabletType tablet role ∈ (run configuration replies stamp shard cluster).calls) :
    cluster.record.primary = some tablet ∧ role = .spare := by
  have inside : .changeTabletType tablet role ∈
      (run configuration replies stamp shard cluster).handovers :=
    List.mem_filter.mpr ⟨member, rfl⟩
  obtain ⟨primary, due, handsOver⟩ := handsOver_of_handovers (List.ne_nil_of_mem inside)
  have led : cluster.record.primary = some primary := due.led
  generalize (run configuration replies stamp shard cluster).handovers = calls at inside handsOver
  cases handsOver with
  | planned => simp at inside
  | told => simp at inside
  | demoted other =>
    simp only [List.mem_cons, Call.changeTabletType.injEq, List.not_mem_nil, or_false, reduceCtorEq,
      false_or] at inside
    exact ⟨inside.1 ▸ led, inside.2⟩

end Runs

/-- A pass that finishes a pod goes by the shard record alone. Where the only tablet recorded as
primary is the one that the shard record names, no pod of a tablet with that role is finished. But the
pods that are sent and stored are the same whatever is recorded of the tablets; and no tablet is ever
demoted but the one that the shard record names, so that what a failed demotion has left behind is
neither seen nor made good. -/
theorem roles_overlooked (configuration : Configuration) (replies : Replies) (stamp : String)
    (shard : Shard) (cluster : Cluster) :
    let report := run configuration replies stamp shard cluster
    let tablets := cluster.tabletsIn shard.spec.cells
    ((∀ key tablet, tablets.get? key = some tablet → tablet.role = .primary →
        cluster.record.primary.map Alias.text = some key) →
      ∀ sent ∈ report.sent, finishes (shard.spec.view cluster.pods) (.updatePod sent) = true →
        ∀ key tablet, sent.key? = some key → tablets.get? key = some tablet →
          tablet.role ≠ .primary) ∧
    (∀ others, let beside := run configuration replies stamp shard { cluster with tablets := others }
      beside.sent = report.sent ∧ beside.history = report.history ∧ beside.pods = report.pods) ∧
    ∀ tablet role, .changeTabletType tablet role ∈ report.calls →
      cluster.record.primary = some tablet ∧ role = .spare := by
  intro report tablets
  refine ⟨fun agree sent member finishing key tablet keyed found isPrimary => ?_, fun others => ?_,
    fun tablet role => demoted_of_mem_calls⟩
  · obtain ⟨primary, other, listed, keyed', may⟩ := mayFinish_of_mem_sent member finishing
    cases Option.some.inj (keyed.symm.trans keyed')
    have named := agree key tablet found isPrimary
    rw [may.led] at named
    exact may.secondary (Option.some.inj named).symm
  · let context := contextOf configuration replies stamp shard cluster
    obtain ⟨sent, history, pods⟩ := context.updates_recording others (.start cluster.pods)
    have here : report = reportOf configuration.timeouts.pass _ := run_eq _ _ _ _ _
    rw [here, run_eq]
    exact ⟨sent, history, pods⟩

theorem roles_overlooked_sample :
    let cluster := { Sample.cluster with
      pods := [Sample.pod "1" [], Sample.pod "2" [(startedMarker, ""), (acknowledgedMarker, "")]] }
    let report := run Sample.configuration .atOnce "now" Sample.shard cluster
    let tablets := cluster.tabletsIn Sample.spec.cells
    (∀ key tablet, tablets.get? key = some tablet → tablet.role = .primary →
        cluster.record.primary.map Alias.text = some key) ∧
      (∃ sent ∈ report.sent,
        finishes (Sample.spec.view cluster.pods) (.updatePod sent) = true ∧
          sent.key? = some "zone1-0000000002") ∧
      ∀ sent ∈ report.sent, finishes (Sample.spec.view cluster.pods) (.updatePod sent) = true →
        ∀ key tablet, sent.key? = some key → tablets.get? key = some tablet →
          tablet.role ≠ .primary := by
  intro cluster report tablets
  have agree : ∀ entry ∈ tablets.entries, entry.2.role = .primary →
      cluster.record.primary.map Alias.text = some entry.1 := by decide
  have named : ∀ key tablet, tablets.get? key = some tablet → tablet.role = .primary →
      cluster.record.primary.map Alias.text = some key := fun key tablet found =>
    agree (key, tablet) (Keyed.mem_entries_iff.mpr found)
  exact ⟨named, by decide +kernel,
    (roles_overlooked Sample.configuration .atOnce "now" Sample.shard cluster).1 named⟩

/-- A hand-over of which the demotion fails, and the next pass after the topology has followed it: the
former primary is finished while it is still recorded as primary, and is not demoted any more. -/
theorem former_primary_finished :
    let failing := { Replies.atOnce with changeTabletType := ⟨0, some (.rpc "connection refused")⟩ }
    let first := run Sample.configuration failing "now" Sample.externalShard Sample.externalCluster
    let followed := { Sample.externalCluster with pods := first.pods }.setPrimary (some ⟨"zone1", 2⟩)
    let second := run Sample.configuration .atOnce "later" Sample.externalShard followed
    first.handovers =
        [.externallyReparented ⟨"zone1", 2⟩, .changeTabletType ⟨"zone1", 1⟩ .spare] ∧
      (followed.tabletsIn Sample.externalShard.spec.cells).get? "zone1-0000000001" =
        some (Sample.tablet 1 .primary) ∧
      (∃ sent ∈ second.sent, sent.key? = some "zone1-0000000001" ∧
        finishes (Sample.externalShard.spec.view followed.pods) (.updatePod sent) = true) ∧
      second.handovers = [] := by
  decide +kernel

end Pass

end TabletDrain
