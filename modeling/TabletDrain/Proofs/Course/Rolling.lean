import TabletDrain.Proofs.Course.Stages

/-! Rolling drains, pass after pass, while the environment deletes the finished pods and follows the
hand-over: the pods are finished one at a time in the order of their keys, and the primary's last,
after a hand-over. -/
namespace TabletDrain

def rollout (shard : Shard) : Cluster → List Occasion → List Pass.Report
  | _, [] => []
  | cluster, occasion :: rest =>
    let report := occasion.run shard cluster
    report :: rollout shard (cluster.afterPass report) rest

/-- Each pass of a rollout gets its answers in time. -/
def AllInTime (shard : Shard) : Cluster → List Occasion → Prop
  | _, [] => True
  | cluster, occasion :: rest =>
    occasion.InTime shard cluster ∧
      AllInTime shard (cluster.afterPass (occasion.run shard cluster)) rest

theorem allInTime_of_prompt {occasions : List Occasion} (prompt : ∀ occasion ∈ occasions, occasion.Prompt)
    (shard : Shard) (cluster : Cluster) : AllInTime shard cluster occasions := by
  induction occasions generalizing cluster with
  | nil => trivial
  | cons occasion rest ih =>
    obtain ⟨here, later⟩ := List.forall_mem_cons.mp prompt
    exact ⟨here.inTime shard cluster, ih later _⟩

/-- The stages until the others are finished and, behind a hand-over, the last one. -/
def stagesFor (others : List String) : Option String → List Stage
  | none => others.map .finish
  | some last => others.map .finish ++ [.handOver, .finish last]

/-- Nothing stands in the way of the stages: the others are in order, and only the primary comes
last, for which there is a spare pod. -/
structure Clear (shard : Shard) (cluster : Cluster) (primary : Alias) (others : List String)
    (last : Option String) : Prop where
  ascending : others.Pairwise (· < ·)
  secondary : primary.text ∉ others
  waits : ∀ key, last = some key → key = primary.text
  spare : ∀ key, last = some key →
    ∃ name pod tablet, shard.spec.Spare cluster primary name pod tablet

/-- A rolling drain with the stages that are left. -/
inductive Rolling (shard : Shard) (cluster : Cluster) : List Stage → Prop where
  | asked (primary : Alias) (others : List String) (last : Option String)
      (underway : Underway shard cluster primary .draining (others ++ last.toList))
      (clear : Clear shard cluster primary others last) :
      Rolling shard cluster (.idle :: stagesFor others last)
  | acknowledged (primary : Alias) (others : List String) (last : Option String)
      (underway : Underway shard cluster primary .acknowledged (others ++ last.toList))
      (clear : Clear shard cluster primary others last) :
      Rolling shard cluster (stagesFor others last)

section Run

variable {shard : Shard} {cluster : Cluster} {primary : Alias} {others : List String}
  {last : Option String} {stages : List Stage}

theorem Clear.afterPass {occasion : Occasion} {state : DrainState} {todo rest : List String}
    (clear : Clear shard cluster primary others last)
    (underway : Underway shard cluster primary state todo) (inTime : occasion.InTime shard cluster)
    (unmoved : (occasion.run shard cluster).handovers = []) (later : rest.Sublist others) :
    Clear shard (cluster.afterPass (occasion.run shard cluster)) primary rest last where
  ascending := clear.ascending.sublist later
  secondary := fun member => clear.secondary (later.subset member)
  waits := clear.waits
  spare := by
    intro key same
    obtain ⟨name, pod, tablet, spare⟩ := clear.spare key same
    exact ⟨name, pod, tablet, underway.spare_afterPass inTime unmoved spare⟩

theorem Rolling.step (rolling : Rolling shard cluster stages)
    (own : shard.spec.usesExternalDatastore = false)
    (imageless : shard.spec.databaseImage.getD "" = "") {occasion : Occasion}
    (inTime : occasion.InTime shard cluster) :
    (occasion.run shard cluster).Does shard.spec (stages.headD .idle) ∧
      Rolling shard (cluster.afterPass (occasion.run shard cluster)) stages.tail := by
  cases rolling with
  | asked primary others last underway clear =>
    obtain ⟨does, unmoved, after⟩ := underway.acknowledges inTime
    exact ⟨does, .acknowledged primary others last after
      (clear.afterPass underway inTime unmoved (.refl _))⟩
  | acknowledged primary others last underway clear =>
    cases others with
    | cons first rest =>
      have secondary : first ≠ primary.text := fun same =>
        clear.secondary (same ▸ List.mem_cons_self)
      obtain ⟨before, _⟩ := List.pairwise_cons.mp clear.ascending
      have behind (key : String) (member : key ∈ rest ++ last.toList)
          (differs : key ≠ primary.text) : first < key := by
        rcases List.mem_append.mp member with other | isLast
        · exact before key other
        · exact absurd (clear.waits key (Option.mem_toList.mp isLast)) differs
      have once : first ∉ rest ++ last.toList := fun member =>
        String.lt_irrefl _ (behind first member secondary)
      obtain ⟨does, unmoved, after⟩ := underway.finishes inTime secondary once
        fun key member differs => Std.le_of_lt (behind key member differs)
      have rest := Rolling.acknowledged primary rest last after
        (clear.afterPass underway inTime unmoved (List.sublist_cons_self _ _))
      cases last with
      | none => exact ⟨does, rest⟩
      | some key => exact ⟨does, rest⟩
    | nil =>
      cases last with
      | none =>
        obtain ⟨does, unmoved, after⟩ := underway.rests inTime
        exact ⟨does, .acknowledged primary [] none after
          (clear.afterPass underway inTime unmoved (.refl _))⟩
      | some key =>
        cases clear.waits key rfl
        obtain ⟨name, pod, tablet, spare⟩ := clear.spare _ rfl
        have due := underway.handoverDue inTime own imageless spare
        obtain ⟨name, differs, does, after⟩ := underway.hands_over inTime own due
        -- Under the new primary, the pod of the old one is the last of the others.
        refine ⟨does, .acknowledged name [primary.text] none after ?_⟩
        exact {
          ascending := List.pairwise_singleton _ _
          secondary := by simpa using differs
          waits := nofun
          spare := nofun }

/-- Passes do the stages in their order. -/
theorem Rolling.run (own : shard.spec.usesExternalDatastore = false)
    (imageless : shard.spec.databaseImage.getD "" = "") {occasions : List Occasion}
    (inTime : AllInTime shard cluster occasions) (rolling : Rolling shard cluster stages) :
    (∀ report ∈ rollout shard cluster occasions, report.marks.length ≤ 1 ∧
      ((shard.spec.view report.pods).filter fun _ pod => pod.markers.finished).keys
        = report.marks) ∧
    (rollout shard cluster occasions).flatMap Pass.Report.marks =
      (stages.take occasions.length).flatMap Stage.marks ∧
    ((rollout shard cluster occasions).flatMap Pass.Report.handovers).length =
      (stages.take occasions.length).count .handOver := by
  induction occasions generalizing cluster stages with
  | nil =>
    refine ⟨?_, ?_, ?_⟩
    · intro report member
      cases member
    · rfl
    · rfl
  | cons occasion rest ih =>
    obtain ⟨now, later⟩ := inTime
    obtain ⟨does, after⟩ := rolling.step own imageless now
    obtain ⟨each, marks, handovers⟩ := ih later after
    refine ⟨?_, ?_, ?_⟩
    · refine List.forall_mem_cons.mpr ⟨⟨?_, does.finished.trans does.marks.symm⟩, each⟩
      rw [does.marks]
      cases stages.headD .idle <;> simp [Stage.marks]
    · rw [rollout, List.flatMap_cons, marks, does.marks]
      cases stages <;> simp [Stage.marks]
    · rw [rollout, List.flatMap_cons, List.length_append, handovers, does.handovers]
      cases stages with
      | nil => simp
      | cons stage left => exact (List.count_append ..).symm

end Run

section Stages

variable {others : List String} {last : Option String} {stages : List Stage} {n : Nat}

theorem flatMap_marks_stagesFor :
    (stagesFor others last).flatMap Stage.marks = others ++ last.toList := by
  have each : (others.map Stage.finish).flatMap Stage.marks = others := by
    rw [List.flatMap_map]
    exact List.flatMap_singleton' others
  cases last with
  | none => simp [stagesFor, each]
  | some key => simp [stagesFor, each, Stage.marks]

theorem length_stagesFor :
    (stagesFor others last).length = others.length + if last.isSome then 2 else 0 := by
  cases last <;> simp [stagesFor]

theorem flatMap_marks_take_prefix :
    (stages.take n).flatMap Stage.marks <+: stages.flatMap Stage.marks := by
  refine ⟨(stages.drop n).flatMap Stage.marks, ?_⟩
  rw [← List.flatMap_append, List.take_append_drop]

/-- Stages that end with a finish have finished all pods only when they are all done. -/
theorem flatMap_marks_take_eq_iff {key : String} (ends : stages.getLast? = some (.finish key)) :
    (stages.take n).flatMap Stage.marks = stages.flatMap Stage.marks ↔ stages.length ≤ n := by
  constructor
  · intro same
    by_contra early
    -- The last finish is among the stages left out, so that its pod is missing.
    have member : Stage.finish key ∈ stages.drop n := by
      apply List.mem_of_getLast?
      rw [List.getLast?_drop, if_neg early, ends]
    have marked : key ∈ (stages.drop n).flatMap Stage.marks :=
      List.mem_flatMap.mpr ⟨_, member, List.mem_singleton_self key⟩
    have whole : (stages.take n).flatMap Stage.marks ++ (stages.drop n).flatMap Stage.marks =
        stages.flatMap Stage.marks := by
      rw [← List.flatMap_append, List.take_append_drop]
    rw [same, List.append_right_eq_self] at whole
    rw [whole] at marked
    exact List.not_mem_nil marked
  · intro late
    rw [List.take_of_length_le late]

theorem getLast?_stagesFor (nonempty : others ++ last.toList ≠ []) :
    ∃ key, (Stage.idle :: stagesFor others last).getLast? = some (.finish key) := by
  cases last with
  | some key => exact ⟨key, by simp [stagesFor, List.getLast?_cons]⟩
  | none =>
    simp only [Option.toList_none, List.append_nil] at nonempty
    refine ⟨others.getLast nonempty, ?_⟩
    rw [stagesFor, List.getLast?_cons, List.getLast?_map,
      List.getLast?_eq_some_getLast nonempty]
    rfl

theorem count_handOver_take :
    ((Stage.idle :: stagesFor others last).take n).count .handOver =
      if last.isSome ∧ others.length + 2 ≤ n then 1 else 0 := by
  have before (m : Nat) : ((Stage.idle :: others.map .finish).take m).count .handOver = 0 := by
    apply List.count_eq_zero_of_not_mem
    intro member
    simpa using List.mem_of_mem_take member
  cases last with
  | none => simpa [stagesFor] using before n
  | some key =>
    rw [stagesFor, ← List.cons_append, List.take_append, List.count_append, before]
    simp only [List.length_cons, List.length_map, Nat.zero_add, Option.isSome_some, true_and]
    by_cases early : n ≤ others.length + 1
    · rw [if_neg (by omega), Nat.sub_eq_zero_of_le early]
      rfl
    · obtain ⟨m, late⟩ : ∃ m, n - (others.length + 1) = m + 1 :=
        ⟨n - (others.length + 2), by omega⟩
      rw [if_pos (by omega), late]
      cases m <;> simp

end Stages

/-- The start of a rolling drain: over a healthy shard that manages itself and wants no database
image, with new requests only, and a spare pod. -/
structure RollingStart (shard : Shard) (cluster : Cluster) (primary : Alias) : Prop where
  healthy : Shard.healthyPrimary shard.status cluster.record = .ok primary
  own : shard.spec.usesExternalDatastore = false
  imageless : shard.spec.databaseImage.getD "" = ""
  distinct : shard.spec.Distinct cluster.pods
  unanswered : ∀ entry ∈ (shard.spec.view cluster.pods).entries,
    entry.2.markers.acknowledged = false ∧ entry.2.markers.finished = false
  requested : (Drain.requests (shard.spec.view cluster.pods)).keys ≠ []
  spare : ∃ name pod tablet, shard.spec.Spare cluster primary name pod tablet

section Start

variable {shard : Shard} {cluster : Cluster} {primary : Alias}

def lastOf (requested : List String) (primary : Alias) : Option String :=
  if primary.text ∈ requested then some primary.text else none

theorem toList_lastOf (requested : List String) (primary : Alias) :
    (lastOf requested primary).toList =
      if primary.text ∈ requested then [primary.text] else [] := by
  unfold lastOf
  split <;> rfl

theorem isSome_lastOf (requested : List String) (primary : Alias) :
    (lastOf requested primary).isSome = true ↔ primary.text ∈ requested := by
  unfold lastOf
  split <;> simp_all

theorem perm_order {requested : List String} (distinct : requested.Nodup) (primary : Alias) :
    (requested.filter (· ≠ primary.text) ++ (lastOf requested primary).toList).Perm requested := by
  have ordered : (requested.filter (· ≠ primary.text) ++ (lastOf requested primary).toList).Nodup := by
    rw [toList_lastOf]
    split
    · refine List.nodup_append.mpr ⟨distinct.filter _, List.nodup_singleton _, ?_⟩
      intro key other isPrimary last
      rw [List.mem_singleton.mp last]
      simpa using (List.mem_filter.mp other).2
    · rw [List.append_nil]
      exact distinct.filter _
  rw [List.perm_ext_iff_of_nodup ordered distinct]
  intro key
  rw [toList_lastOf, List.mem_append, List.mem_filter]
  by_cases same : key = primary.text
  · subst same
    by_cases member : primary.text ∈ requested <;> simp [member]
  · by_cases member : primary.text ∈ requested <;> simp [member, same]

private theorem RollingStart.underway (start : RollingStart shard cluster primary)
    {todo : List String}
    (listed : todo.Perm (Drain.requests (shard.spec.view cluster.pods)).keys) :
    Underway shard cluster primary .draining todo where
  healthy := start.healthy
  distinct := start.distinct
  quiet := by
    apply Pass.Context.isAborting_eq_false_iff.mpr
    intro entry member
    obtain ⟨unacknowledged, unfinished⟩ := start.unanswered entry member
    simp [Markers.isAborted, unacknowledged, unfinished]
  unfinished := by decide
  requests := by
    have isNew (key : String) (old : DrainState)
        (found : (Drain.requests (shard.spec.view cluster.pods)).get? key = some old) :
        old = .draining := by
      obtain ⟨pod, inView, started, same⟩ := Drain.get?_requests.mp found
      have unanswered := start.unanswered (key, pod) (Keyed.mem_entries_iff.mpr inView)
      rw [← same]
      exact (Markers.state_eq_draining_iff _).mpr ⟨started, unanswered⟩
    intro key old
    rw [listed.mem_iff, Keyed.mem_keys_iff]
    constructor
    · intro found
      exact ⟨⟨old, found⟩, isNew key old found⟩
    · intro waits
      obtain ⟨⟨state, found⟩, same⟩ := waits
      rw [same, ← isNew key state found]
      exact found

theorem RollingStart.rolling (start : RollingStart shard cluster primary) :
    let requested := (Drain.requests (shard.spec.view cluster.pods)).keys
    Rolling shard cluster
      (.idle :: stagesFor (requested.filter (· ≠ primary.text)) (lastOf requested primary)) := by
  intro requested
  have distinct : requested.Nodup := Keyed.nodup_keys _
  refine .asked primary _ _ (start.underway (perm_order distinct primary)) ?_
  exact {
    ascending := (Drain.requests (shard.spec.view cluster.pods)).ascending.filter _
    secondary := by simp
    waits := by
      intro key same
      unfold lastOf at same
      split at same
      · exact (Option.some.inj same).symm
      · cases same
    spare := fun _ _ => start.spare }

/-- A rolling drain finishes the requested pods one at a time, in the order of their keys but the
primary's last, each once; it is complete after one pass more than there are requests, and after two
more with the primary among them, for which alone it hands over, and once. -/
theorem rolling_drain_completes (start : RollingStart shard cluster primary)
    {occasions : List Occasion} (inTime : AllInTime shard cluster occasions) :
    let reports := rollout shard cluster occasions
    let requested := (Drain.requests (shard.spec.view cluster.pods)).keys
    let order := requested.filter (· ≠ primary.text) ++
      if primary.text ∈ requested then [primary.text] else []
    requested.Pairwise (· < ·) ∧ order.Perm requested ∧
    (∀ report ∈ reports, report.marks.length ≤ 1 ∧
      ((shard.spec.view report.pods).filter fun _ pod => pod.markers.finished).keys
        = report.marks) ∧
    reports.flatMap Pass.Report.marks <+: order ∧
    (reports.flatMap Pass.Report.marks = order ↔
      requested.length + (if primary.text ∈ requested then 2 else 1) ≤ occasions.length) ∧
    (reports.flatMap Pass.Report.handovers).length =
      if primary.text ∈ requested ∧ requested.length + 1 ≤ occasions.length then 1 else 0 := by
  intro reports requested order
  have ascending : requested.Pairwise (· < ·) :=
    (Drain.requests (shard.spec.view cluster.pods)).ascending
  have listed : order = requested.filter (· ≠ primary.text) ++
      (lastOf requested primary).toList := by
    rw [toList_lastOf]
  have permuted : order.Perm requested := listed ▸ perm_order (Keyed.nodup_keys _) primary
  obtain ⟨each, marks, handovers⟩ := start.rolling.run start.own start.imageless inTime
  have whole : order = (Stage.idle :: stagesFor (requested.filter (· ≠ primary.text))
      (lastOf requested primary)).flatMap Stage.marks := by
    rw [List.flatMap_cons, flatMap_marks_stagesFor, listed]
    rfl
  have size : requested.length =
      (requested.filter (· ≠ primary.text)).length + if primary.text ∈ requested then 1 else 0 := by
    rw [← permuted.length_eq, List.length_append]
    split <;> rfl
  refine ⟨ascending, permuted, each, ?_, ?_, ?_⟩
  · rw [marks, whole]
    exact flatMap_marks_take_prefix
  · have nonempty : order ≠ [] := by
      intro isEmpty
      rw [isEmpty, List.nil_perm] at permuted
      exact start.requested permuted
    obtain ⟨key, ends⟩ := getLast?_stagesFor (listed ▸ nonempty)
    rw [marks, whole, flatMap_marks_take_eq_iff ends, List.length_cons, length_stagesFor, size]
    simp only [isSome_lastOf]
    split <;> omega
  · rw [handovers, count_handOver_take]
    refine if_congr ((and_congr_left' (isSome_lastOf _ _)).trans ?_) rfl rfl
    refine and_congr_right fun member => ?_
    rw [size, if_pos member]

/-- With the primary and one other requested, four passes are enough, be the answers given at once or
after some time. -/
theorem rolling_drain_of_sample :
    let occasions (replies : Replies) : List Occasion :=
      List.replicate 4 ⟨Sample.configuration, replies, "now"⟩
    RollingStart Sample.shard Sample.cluster ⟨"zone1", 1⟩ ∧
      ∀ replies ∈ [Replies.atOnce, Sample.slow],
        let reports := rollout Sample.shard Sample.cluster (occasions replies)
        AllInTime Sample.shard Sample.cluster (occasions replies) ∧
          reports.flatMap Pass.Report.marks = ["zone1-0000000002", "zone1-0000000001"] ∧
          (reports.flatMap Pass.Report.handovers).length = 1 := by
  intro occasions
  have start : RollingStart Sample.shard Sample.cluster ⟨"zone1", 1⟩ := {
    healthy := rfl
    own := by decide
    imageless := rfl
    distinct := ⟨by decide, by decide⟩
    unanswered := by decide
    requested := by decide
    spare := by
      refine ⟨⟨"zone1", 3⟩, Sample.pod "3" [], Sample.tablet 3 .replica, ?_⟩
      exact {
        inView := by decide
        idle := by decide
        ready := by decide
        secondary := by decide
        recorded := by decide
        named := rfl
        replica := rfl
        served := by decide } }
  have requested : (Drain.requests (Sample.shard.spec.view Sample.cluster.pods)).keys =
      ["zone1-0000000001", "zone1-0000000002"] := by decide
  have enough : ["zone1-0000000001", "zone1-0000000002"].length +
      (if Alias.text ⟨"zone1", 1⟩ ∈ ["zone1-0000000001", "zone1-0000000002"] then 2 else 1) ≤ 4 := by
    decide
  have whole (replies : Replies)
      (inTime : AllInTime Sample.shard Sample.cluster (occasions replies)) :
      let reports := rollout Sample.shard Sample.cluster (occasions replies)
      AllInTime Sample.shard Sample.cluster (occasions replies) ∧
        reports.flatMap Pass.Report.marks = ["zone1-0000000002", "zone1-0000000001"] ∧
        (reports.flatMap Pass.Report.handovers).length = 1 := by
    obtain ⟨_, _, _, _, marks, handovers⟩ := rolling_drain_completes start inTime
    rw [requested] at marks handovers
    exact ⟨inTime, marks.mpr enough, handovers⟩
  have prompt : ∀ occasion ∈ occasions .atOnce, occasion.Prompt := by
    intro occasion member
    exact (List.eq_of_mem_replicate member) ▸ ⟨rfl, Replies.prompt_atOnce⟩
  let late : Occasion := ⟨Sample.configuration, Sample.slow, "now"⟩
  have slow (cluster : Cluster) (early : (late.context Sample.shard cluster).time
      (late.context Sample.shard cluster).deeds ≤ 60000) : late.InTime Sample.shard cluster :=
    ⟨rfl, ⟨rfl, rfl, rfl, show 200 + 300 + 400 ≤ 1000 by decide, fun _ => ⟨rfl, rfl⟩, early⟩, rfl,
      show 900 ≤ 1000 by decide⟩
  refine ⟨start, List.forall_mem_cons.mpr ⟨?_, List.forall_mem_singleton.mpr ?_⟩⟩
  · exact whole _ (allInTime_of_prompt prompt _ _)
  · exact whole _ ⟨slow _ (by decide +kernel), slow _ (by decide +kernel), slow _ (by decide +kernel),
      slow _ (by decide +kernel), trivial⟩

end Start

end TabletDrain
