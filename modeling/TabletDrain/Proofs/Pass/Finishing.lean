import TabletDrain.Proofs.Pass.Anatomy

/-! When a pass finishes a pod: at most once, and only a pod that was acknowledged before the pass,
not the primary, and first in turn among pods none of which was new, finished or withdrawn. -/
namespace TabletDrain

theorem Shard.healthyPrimary_eq_ok_iff {status : Option ShardStatus} {record : ShardRecord}
    {primary : Alias} :
    healthyPrimary status record = .ok primary ↔
      (∀ known, status = some known → ∀ entry ∈ known.tablets.entries, entry.2.available = .true) ∧
        record.primary = some primary := by
  have available : unavailable? status = none ↔
      ∀ known, status = some known → ∀ entry ∈ known.tablets.entries, entry.2.available = .true := by
    cases status with
    | none => simp [unavailable?]
    | some known => simp [unavailable?]
  rw [← available]
  unfold healthyPrimary
  cases unavailable? status with
  | some tablet => simp
  | none => cases record.primary <;> simp

namespace Pass

namespace Context

variable {context : Context} {primary : Alias} {sent : Pod}

theorem isAborted_of_isActing (acting : context.isActing = true) :
    ∀ entry ∈ context.view.entries, entry.2.markers.isAborted = false := by
  simp only [isActing, Bool.and_eq_true, Bool.not_eq_true'] at acting
  exact isAborting_eq_false_iff.mp acting.2

theorem loaded_pods_of_isActing (acting : context.isActing = true) :
    (context.loaded context.view).pods = context.view := by
  simp only [isActing, Bool.and_eq_true, Bool.not_eq_true'] at acting
  exact loaded_pods_eq acting.2

theorem of_update_mem_carryDeeds {entry : String × DrainState}
    (member : Deed.call (.updatePod sent) ∈ context.carryDeeds primary.text context.view entry) :
    context.configuration.dryRun = false ∧ ¬(entry.2 = .finished ∧ entry.1 = primary.text) ∧
      ∃ listed, context.view.get? entry.1 = some listed ∧
        listed.setDrainState? entry.2 context.stamp = some (sent, true) := by
  unfold carryDeeds at member
  split at member
  · exact absurd member (List.not_mem_nil)
  · rename_i allowed
    split at member
    · rename_i listed found
      obtain ⟨live, moves⟩ := of_update_mem_moveDeeds member
      exact ⟨live, allowed, listed, found, moves⟩
    · exact absurd member (List.not_mem_nil)

theorem markDeeds_of_isActing (acting : context.isActing = true) :
    context.markDeeds primary =
      (context.next primary).entries.flatMap (context.carryDeeds primary.text context.view) := by
  rw [markDeeds, carryAll, loaded_pods_of_isActing acting]

theorem finished_of_update_mem_loadDeeds
    (member : Deed.call (.updatePod sent) ∈ context.loadDeeds context.view) :
    sent.markers.finished = false := by
  obtain ⟨pod, _, made⟩ := List.mem_flatMap.mp member
  unfold clearDeeds at made
  split at made
  · unfold requestDeeds at made
    split at made <;> simp [warning] at made
  · rcases List.mem_append.mp made with here | there
    · split at here <;> simp [warning] at here
    · rw [Pod.markers_of_setDrainState? (of_update_mem_moveDeeds there).2]
      rfl

end Context

/-- The call sends a pod finished whose tablet's pod was not so when it was listed. -/
def finishes (view : Keyed Pod) : Call → Bool
  | .updatePod sent =>
    sent.markers.finished &&
      !(sent.key?.bind view.get?).any fun listed => listed.markers.finished
  | _ => false

/-- What has to hold for a pass to finish the pod listed under a key. -/
structure MayFinish (configuration : Configuration) (shard : Shard) (cluster : Cluster)
    (primary : Alias) (key : String) (listed : Pod) : Prop where
  live : configuration.dryRun = false
  available : ∀ status, shard.status = some status →
    ∀ entry ∈ status.tablets.entries, entry.2.available = .true
  led : cluster.record.primary = some primary
  inView : (shard.spec.view cluster.pods).get? key = some listed
  secondary : key ≠ primary.text
  started : listed.markers.started = true
  acknowledged : listed.markers.acknowledged = true
  noneNew : ∀ entry ∈ (shard.spec.view cluster.pods).entries,
    entry.2.markers.started = true → entry.2.markers.acknowledged = true
  noneFinished : ∀ entry ∈ (shard.spec.view cluster.pods).entries, entry.2.markers.finished = false
  noneWithdrawn : ∀ entry ∈ (shard.spec.view cluster.pods).entries,
    entry.2.markers.acknowledged = true → entry.2.markers.started = true
  first : ∀ entry ∈ (shard.spec.view cluster.pods).entries,
    entry.2.markers.started = true → entry.1 ≠ primary.text → key ≤ entry.1

namespace Context

variable {context : Context} {primary : Alias} {sent listed : Pod} {key : String}

/-- What is known of the requests when one is promoted that is not the primary. -/
theorem acknowledged_of_promoted
    (promoted : Drain.Promoted (Drain.requests context.view) (some primary.text) key) :
    ∀ entry ∈ context.view.entries, entry.2.markers.started = true →
      entry.2.markers.state = .acknowledged := by
  intro entry member started
  have found : (Drain.requests context.view).get? entry.1 = some entry.2.markers.state :=
    Drain.get?_requests.mpr ⟨entry.2, Keyed.get?_of_mem member, started, rfl⟩
  cases state : entry.2.markers.state with
  | notDraining => exact absurd state (Drain.requests_ne_notDraining found)
  | draining => exact absurd ⟨entry.1, .inr (state ▸ found)⟩ promoted.1
  | acknowledged => rfl
  | finished => exact absurd ⟨entry.1, .inl (state ▸ found)⟩ promoted.1

theorem healthy_of_served (served : context.served? = some primary) :
    Shard.healthyPrimary context.shard.status context.cluster.record = .ok primary := by
  unfold served? at served
  split at served
  · cases healthy : Shard.healthyPrimary context.shard.status context.cluster.record with
    | error reason =>
      rw [healthy] at served
      cases served
    | ok other =>
      rw [healthy] at served
      cases served
      rfl
  · cases served

theorem mayFinish_of_promoted (served : context.served? = some primary)
    (acting : context.isActing = true) (live : context.configuration.dryRun = false)
    (found : context.view.get? key = some listed) (secondary : key ≠ primary.text)
    (promoted : Drain.Promoted (Drain.requests context.view) (some primary.text) key) :
    MayFinish context.configuration context.shard context.cluster primary key listed := by
  have healthy := Shard.healthyPrimary_eq_ok_iff.mp (healthy_of_served served)
  have requested := acknowledged_of_promoted promoted
  have settled := isAborted_of_isActing acting
  obtain ⟨_, turnFound, turn⟩ := promoted
  obtain ⟨pod, again, started, state⟩ := Drain.get?_requests.mp turnFound
  cases Option.some.inj (again.symm.trans found)
  have acknowledged (entry : String × Pod) (member : entry ∈ context.view.entries)
      (started : entry.2.markers.started = true) :=
    (Markers.state_eq_acknowledged_iff _).mp (requested entry member started)
  have answered (entry : String × Pod) (member : entry ∈ context.view.entries)
      (idle : entry.2.markers.started = false) :
      entry.2.markers.acknowledged = false ∧ entry.2.markers.finished = false :=
    Markers.unanswered_of_idle (settled entry member) idle
  refine {
    live := live
    available := healthy.1
    led := healthy.2
    inView := found
    secondary := secondary
    started := started
    acknowledged := ((Markers.state_eq_acknowledged_iff _).mp state).2.1
    noneNew := fun entry member started => (acknowledged entry member started).2.1
    noneFinished := ?_
    noneWithdrawn := ?_
    first := ?_ }
  · intro entry member
    cases started : entry.2.markers.started with
    | true => exact (acknowledged entry member started).2.2
    | false => exact (answered entry member started).2
  · intro entry member isAcknowledged
    cases started : entry.2.markers.started with
    | true => rfl
    | false =>
      rw [(answered entry member started).1] at isAcknowledged
      cases isAcknowledged
  · intro entry member started other
    have waits : (Drain.requests context.view).get? entry.1 = some .acknowledged :=
      Drain.get?_requests.mpr
        ⟨entry.2, Keyed.get?_of_mem member, started, requested entry member started⟩
    rcases turn with ⟨_, least⟩ | ⟨isPrimary, _⟩
    · exact least entry.1 waits (by simpa using other)
    · exact absurd (Option.some.inj isPrimary) secondary

/-- A marked pod that was not finished when it was listed moves to finished, and had its turn. -/
theorem of_finishing_mem_carryDeeds {entry : String × DrainState}
    (stepped : entry ∈ (context.next primary).entries)
    (member : Deed.call (.updatePod sent) ∈ context.carryDeeds primary.text context.view entry)
    (finishing : finishes context.view (.updatePod sent) = true) :
    entry.2 = .finished ∧ entry.1 ≠ primary.text ∧ sent.key? = some entry.1 ∧
      context.configuration.dryRun = false ∧
      Drain.Promoted (Drain.requests context.view) (some primary.text) entry.1 ∧
        ∃ listed, context.view.get? entry.1 = some listed ∧
          listed.setDrainState? .finished context.stamp = some (sent, true) := by
  obtain ⟨live, allowed, listed, found, moves⟩ := of_update_mem_carryDeeds member
  obtain ⟨key, state⟩ := entry
  have keyed : sent.key? = some key := by
    rw [(Pod.reannotated_of_setDrainState? moves).key?]
    exact (ShardSpec.of_mem_view (Keyed.mem_entries_iff.mpr found)).2.2
  simp only [finishes, keyed, found, Pod.markers_of_setDrainState? moves, Option.bind_some,
    Option.any_some, Bool.and_eq_true, Bool.not_eq_true'] at finishing
  have stepped := Keyed.mem_entries_iff.mp stepped
  rcases Drain.state_of_get?_advance stepped with isAcknowledged | isFinished
  · subst isAcknowledged
    rw [Markers.towards] at finishing
    exact absurd (finishing.1.symm.trans finishing.2) (by decide)
  · subst isFinished
    refine ⟨rfl, fun same => allowed ⟨rfl, same⟩, keyed, live, ?_, listed, found, moves⟩
    rcases Drain.get?_advance_eq_finished_iff.mp stepped with leads | promoted
    · obtain ⟨pod, again, _, state⟩ := Drain.get?_requests.mp leads.1
      cases Option.some.inj (again.symm.trans found)
      have already := ((Markers.state_eq_finished_iff _).mp state).2
      exact absurd (already.symm.trans finishing.2) (by decide)
    · exact promoted

def isFinishing (view : Keyed Pod) (deed : Deed) : Bool := deed.call?.any (finishes view)

private theorem update_of_isFinishing {view : Keyed Pod} {deed : Deed}
    (finishing : isFinishing view deed = true) :
    ∃ sent, deed = .call (.updatePod sent) ∧ finishes view (.updatePod sent) = true := by
  unfold isFinishing at finishing
  cases deed with
  | call made =>
    cases made with
    | updatePod sent => exact ⟨sent, rfl, by simpa [Deed.call?] using finishing⟩
    | _ => simp [Deed.call?, finishes] at finishing
  | _ => simp [Deed.call?, finishes] at finishing

private theorem countP_flatMap_le_one {α β : Type} {test : β → Bool} {parts : α → List β}
    {items : List α} (distinct : items.Nodup) (each : ∀ item ∈ items, (parts item).countP test ≤ 1)
    (only : ∀ item ∈ items, ∀ other ∈ items, (parts item).countP test ≠ 0 →
      (parts other).countP test ≠ 0 → item = other) :
    (items.flatMap parts).countP test ≤ 1 := by
  induction items with
  | nil => simp
  | cons item rest ih =>
    rw [List.flatMap_cons, List.countP_append]
    obtain ⟨fresh, distinct⟩ := List.nodup_cons.mp distinct
    by_cases none : (parts item).countP test = 0
    · rw [none, Nat.zero_add]
      exact ih distinct (fun other inside => each other (List.mem_cons_of_mem _ inside))
        fun other inside another later =>
          only other (List.mem_cons_of_mem _ inside) another (List.mem_cons_of_mem _ later)
    · have others : (rest.flatMap parts).countP test = 0 := by
        apply List.countP_eq_zero.mpr
        intro found member passes
        obtain ⟨other, inside, part⟩ := List.mem_flatMap.mp member
        have some := (List.countP_pos_iff.mpr ⟨found, part, passes⟩).ne'
        have equal := only item (List.mem_cons_self) other (List.mem_cons_of_mem _ inside) none some
        exact fresh (equal ▸ inside)
      have here := each item (List.mem_cons_self)
      omega

private theorem countP_sendDeeds (view : Keyed Pod) (pod updated : Pod) :
    (context.sendDeeds pod updated).countP (isFinishing view) ≤ 1 := by
  dsimp only [sendDeeds]
  rw [List.countP_append]
  have sends (delay : Nat) :
      [Deed.call (.updatePod updated), .wait delay].countP (isFinishing view) ≤ 1 := by
    rw [List.countP_cons, List.countP_singleton]
    change 0 + _ ≤ 1
    split <;> simp
  split
  · exact sends _
  · exact sends _

private theorem countP_moveDeeds (view : Keyed Pod) (pod : Pod) (state : DrainState) :
    (context.moveDeeds pod state).countP (isFinishing view) ≤ 1 := by
  unfold moveDeeds
  split
  · split
    · simp
    · exact countP_sendDeeds view _ _
  · simp

theorem countP_markDeeds (acting : context.isActing = true) :
    (context.markDeeds primary).countP (isFinishing context.view) ≤ 1 := by
  rw [markDeeds_of_isActing acting]
  apply countP_flatMap_le_one (context.next primary).nodup_entries
  · intro entry _
    unfold carryDeeds
    split
    · simp
    · split
      · exact countP_moveDeeds _ _ _
      · simp
  · have finished (entry : String × DrainState) (member : entry ∈ (context.next primary).entries)
        (some : (context.carryDeeds primary.text context.view entry).countP
          (isFinishing context.view) ≠ 0) : entry = (entry.1, .finished) := by
      obtain ⟨deed, inside, finishing⟩ := List.countP_pos_iff.mp (Nat.pos_of_ne_zero some)
      obtain ⟨sent, same, finishing⟩ := update_of_isFinishing finishing
      subst same
      exact Prod.ext rfl (of_finishing_mem_carryDeeds member inside finishing).1
    intro entry member other inside some another
    have first := finished entry member some
    have second := finished other inside another
    rw [first] at member ⊢
    rw [second] at inside ⊢
    have same : entry.1 = other.1 := Drain.finished_unique (Keyed.mem_entries_iff.mp member)
      (Keyed.mem_entries_iff.mp inside)
    rw [same]

private theorem purpose_of_isFinishing {view : Keyed Pod} {deed : Deed}
    (finishing : isFinishing view deed = true) : deed.purpose = .update := by
  obtain ⟨sent, same, _⟩ := update_of_isFinishing finishing
  rw [same]
  rfl

private theorem countP_partFor (view : Keyed Pod) (deeds : List Deed) :
    (partFor .update deeds).countP (isFinishing view) = deeds.countP (isFinishing view) := by
  rw [partFor, List.countP_filter]
  congr 1
  funext deed
  by_cases finishing : isFinishing view deed
  · simp [finishing, purpose_of_isFinishing finishing]
  · simp [finishing]

private theorem countP_loadDeeds :
    (context.loadDeeds context.view).countP (isFinishing context.view) = 0 := by
  apply List.countP_eq_zero.mpr
  intro deed member counts
  obtain ⟨sent, same, finishing⟩ := update_of_isFinishing counts
  subst same
  simp [finishes, finished_of_update_mem_loadDeeds member] at finishing

theorem countP_deeds (context : Context) : context.deeds.countP (isFinishing context.view) ≤ 1 := by
  rw [← countP_partFor, updates_deeds]
  cases context.served? with
  | none => simp
  | some primary =>
    dsimp only
    rw [List.countP_append, countP_partFor, countP_loadDeeds, Nat.zero_add]
    by_cases acting : context.isActing = true
    · rw [if_pos acting, countP_partFor]
      exact countP_markDeeds acting
    · rw [if_neg acting]
      simp

theorem mayFinish_of_mem_deeds (context : Context)
    (member : Deed.call (.updatePod sent) ∈ context.deeds)
    (finishing : finishes context.view (.updatePod sent) = true) :
    ∃ primary key listed, sent.key? = some key ∧
      listed.setDrainState? .finished context.stamp = some (sent, true) ∧
        MayFinish context.configuration context.shard context.cluster primary key listed := by
  rcases mem_deeds_of_update rfl member with loads | ⟨primary, served, acting, marks⟩
  · simp [finishes, finished_of_update_mem_loadDeeds loads] at finishing
  · rw [markDeeds_of_isActing acting] at marks
    obtain ⟨entry, stepped, made⟩ := List.mem_flatMap.mp marks
    obtain ⟨_, secondary, keyed, live, promoted, listed, found, moves⟩ :=
      of_finishing_mem_carryDeeds stepped made finishing
    exact ⟨primary, entry.1, listed, keyed, moves,
      mayFinish_of_promoted served acting live found secondary promoted⟩

end Context

/-- Of all calls of a pass at most one finishes a pod, and that pod had its turn: the pass was live,
the shard healthy, the pod acknowledged and not the primary's, and it was first among the pods with a
request, none of which was new or finished and none withdrawn. -/
theorem finishing_guarded (configuration : Configuration) (replies : Replies) (stamp : String)
    (shard : Shard) (cluster : Cluster) :
    let report := run configuration replies stamp shard cluster
    let view := shard.spec.view cluster.pods
    report.log.countP (fun entry => finishes view entry.call) ≤ 1 ∧
      ∀ entry ∈ report.log, ∀ sent, entry.call = .updatePod sent →
        finishes view (.updatePod sent) = true →
          sent.tablet? ≠ cluster.record.primary ∧
          ∃ primary key listed, sent.key? = some key ∧
            listed.setDrainState? .finished stamp = some (sent, true) ∧
            listed.markers.state = .acknowledged ∧
              MayFinish configuration shard cluster primary key listed := by
  intro report view
  let context := contextOf configuration replies stamp shard cluster
  obtain ⟨made, isPrefix, calls, _⟩ := run_does_prefix configuration replies stamp shard cluster
  constructor
  · have counted : report.log.countP (fun entry => finishes view entry.call) =
        made.countP (Context.isFinishing view) := by
      have calls := congrArg (List.countP (finishes view)) calls
      rw [Report.calls, List.countP_map, List.countP_filterMap] at calls
      refine calls.trans (List.countP_congr fun deed _ => ?_)
      unfold Context.isFinishing
      cases deed.call? <;> rfl
    rw [counted]
    exact (isPrefix.sublist.countP_le).trans (context.countP_deeds)
  · intro entry member sent sends finishing
    have inside : Call.updatePod sent ∈ made.filterMap Deed.call? := by
      rw [← calls, ← sends]
      exact List.mem_map_of_mem member
    obtain ⟨deed, inside, called⟩ := List.mem_filterMap.mp inside
    have same : deed = .call (.updatePod sent) := by
      cases deed <;> simp_all [Deed.call?]
    rw [same] at inside
    obtain ⟨primary, key, listed, keyed, moves, may⟩ :=
      context.mayFinish_of_mem_deeds (isPrefix.subset inside) finishing
    refine ⟨?_, primary, key, listed, keyed, moves, ?_, may⟩
    · intro same
      change sent.tablet? = context.cluster.record.primary at same
      rw [may.led] at same
      rw [Pod.key?, same] at keyed
      exact may.secondary (Option.some.inj keyed).symm
    · have inView := Keyed.mem_entries_iff.mpr may.inView
      exact (Markers.state_eq_acknowledged_iff _).mpr
        ⟨may.started, may.acknowledged, may.noneFinished _ inView⟩

end Pass

end TabletDrain
