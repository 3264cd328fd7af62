import TabletDrain.Proofs.Pass.Prompt
import TabletDrain.Proofs.Pass.Writing

/-! Of the pods in view at most one is finished, through any course of passes and drainers' edits.
Every pass may meet other records, tablets, time limits and replies, and may be cut short. -/
namespace TabletDrain

/-- What a drainer does to the stored pods between passes. -/
inductive Edit : List Pod → List Pod → Prop where
  | request (before after : List Pod) (pod : Pod) (value : String) :
      Edit (before ++ pod :: after) (before ++ pod.annotate startedMarker value :: after)
  | withdraw (before after : List Pod) (pod : Pod) :
      Edit (before ++ pod :: after) (before ++ pod.unmark startedMarker :: after)
  | delete (before after : List Pod) (pod : Pod) : Edit (before ++ pod :: after) (before ++ after)
  | create (before after : List Pod) (pod : Pod) (unacknowledged : pod.markers.acknowledged = false)
      (unfinished : pod.markers.finished = false) : Edit (before ++ after) (before ++ pod :: after)

/-- A course of passes over a shard's pods and of edits, with the stored pods after each write. -/
inductive Course (spec : ShardSpec) : List Pod → List (List Pod) → Prop where
  | done (pods : List Pod) : Course spec pods []
  | pass (configuration : Configuration) (replies : Replies) (stamp : String) (shard : Shard)
      (cluster : Cluster) {stores : List (List Pod)} (same : shard.spec = spec)
      (faithful : Pass.Faithful replies)
      (rest : Course spec (Pass.run configuration replies stamp shard cluster).pods stores) :
      Course spec cluster.pods
        ((Pass.run configuration replies stamp shard cluster).history ++ stores)
  | edit {pods edited : List Pod} {stores : List (List Pod)} (edit : Edit pods edited)
      (distinct : spec.Distinct edited) (rest : Course spec edited stores) :
      Course spec pods (edited :: stores)

namespace ShardSpec

def isFinishedIn (spec : ShardSpec) (pod : Pod) : Bool := spec.inView pod && pod.markers.finished

/-- At most one pod in view is finished. -/
def SingleFinished (spec : ShardSpec) (pods : List Pod) : Prop := pods.countP spec.isFinishedIn ≤ 1

instance (spec : ShardSpec) (pods : List Pod) : Decidable (spec.SingleFinished pods) :=
  inferInstanceAs (Decidable (_ ≤ _))

end ShardSpec

namespace Pod

variable (pod : Pod) (value : String)

theorem finished_request : (pod.annotate startedMarker value).markers.finished = pod.markers.finished := by
  simp [markers, annotation?_annotate, startedMarker, finishedMarker]

theorem finished_withdraw : (pod.unmark startedMarker).markers.finished = pod.markers.finished := by
  simp [markers, annotation?_unmark, startedMarker, finishedMarker]

end Pod

variable {spec : ShardSpec} {pods edited : List Pod}

theorem countP_of_edit (edit : Edit pods edited) :
    edited.countP spec.isFinishedIn ≤ pods.countP spec.isFinishedIn := by
  cases edit with
  | request before after pod value =>
    have same : spec.isFinishedIn (pod.annotate startedMarker value) = spec.isFinishedIn pod := by
      rw [ShardSpec.isFinishedIn, ShardSpec.isFinishedIn, pod.finished_request,
        (Pod.reannotated_annotate pod _ _).inView]
    simp [List.countP_append, List.countP_cons, same]
  | withdraw before after pod =>
    have same : spec.isFinishedIn (pod.unmark startedMarker) = spec.isFinishedIn pod := by
      rw [ShardSpec.isFinishedIn, ShardSpec.isFinishedIn, pod.finished_withdraw,
        (Pod.reannotated_unmark pod _).inView]
    simp [List.countP_append, List.countP_cons, same]
  | delete before after pod =>
    simp only [List.countP_append, List.countP_cons]
    omega
  | create before after pod unacknowledged unfinished =>
    simp [List.countP_append, ShardSpec.isFinishedIn, unfinished]

namespace Pass

variable {context : Context} {listed stored : List Pod}

private theorem map_shownName (follows : List.Forall₂ context.Follows listed stored) :
    stored.map Pod.shownName = listed.map Pod.shownName := by
  induction follows with
  | nil => rfl
  | cons here _ ih => rw [List.map_cons, List.map_cons, ih, here.1.shownName]

private theorem map_tablet? (follows : List.Forall₂ context.Follows listed stored)
    (spec : ShardSpec) :
    (stored.filter spec.inView).map Pod.tablet? = (listed.filter spec.inView).map Pod.tablet? := by
  induction follows with
  | nil => rfl
  | cons here _ ih =>
    rw [List.filter_cons, List.filter_cons, here.1.inView]
    split
    · rw [List.map_cons, List.map_cons, ih, here.1.tablet?]
    · exact ih

theorem distinct_of_follows (follows : List.Forall₂ context.Follows listed stored)
    (distinct : spec.Distinct listed) : spec.Distinct stored where
  names := by
    rw [map_shownName follows]
    exact distinct.names
  tablets := by
    rw [map_tablet? follows]
    exact distinct.tablets

private theorem countP_forall₂ {first second : Pod → Bool}
    (follows : List.Forall₂ context.Follows listed stored)
    (each : ∀ before after, before ∈ listed → context.Follows before after → second after = true →
      first before = true) : stored.countP second ≤ listed.countP first := by
  induction follows with
  | nil => exact Nat.le_refl _
  | @cons before after rest later here _ ih =>
    have tail := ih fun before after inside => each before after (List.mem_cons_of_mem _ inside)
    have head := each before after (List.mem_cons_self) here
    rw [List.countP_cons, List.countP_cons]
    by_cases passes : second after = true
    · rw [if_pos passes, if_pos (head passes)]
      omega
    · rw [if_neg passes]
      omega

theorem countP_le_one {α : Type} {test : α → Bool} {items : List α} (distinct : items.Nodup)
    (unique : ∀ item ∈ items, ∀ other ∈ items, test item = true → test other = true → item = other) :
    items.countP test ≤ 1 := by
  induction items with
  | nil => exact Nat.zero_le 1
  | cons item rest ih =>
    obtain ⟨fresh, distinct⟩ := List.nodup_cons.mp distinct
    rw [List.countP_cons]
    by_cases passes : test item = true
    · have others : rest.countP test = 0 := by
        apply List.countP_eq_zero.mpr
        intro other inside another
        have same := unique item (List.mem_cons_self) other (List.mem_cons_of_mem _ inside) passes another
        exact fresh (same ▸ inside)
      rw [others, if_pos passes]
    · rw [if_neg passes]
      exact ih distinct fun other inside another later =>
        unique other (List.mem_cons_of_mem _ inside) another (List.mem_cons_of_mem _ later)

private theorem hasTurn_unique {pod other : Pod} (turn : context.HasTurn pod)
    (another : context.HasTurn other) : pod = other := by
  obtain ⟨primary, key, may⟩ := turn
  obtain ⟨primary', key', may'⟩ := another
  cases Option.some.inj (may.led.symm.trans may'.led)
  have below := may.first (key', other) (Keyed.mem_entries_iff.mpr may'.inView) may'.started
    may'.secondary
  have above := may'.first (key, pod) (Keyed.mem_entries_iff.mpr may.inView) may.started
    may.secondary
  cases String.le_antisymm below above
  exact Option.some.inj (may.inView.symm.trans may'.inView)

/-- A write of a pass leaves at most one pod in view finished. -/
theorem Context.singleFinished_of_follows (context : Context)
    (distinct : context.shard.spec.Distinct context.cluster.pods)
    (single : context.shard.spec.SingleFinished context.cluster.pods)
    (follows : List.Forall₂ context.Follows context.cluster.pods stored) :
    context.shard.spec.SingleFinished stored := by
  classical
  have parts (before after : Pod) (follow : context.Follows before after)
      (finished : context.shard.spec.isFinishedIn after = true) :
      context.shard.spec.inView before = true ∧
        (before.markers.finished = true ∨ context.HasTurn before) := by
    rw [ShardSpec.isFinishedIn, Bool.and_eq_true, follow.1.inView] at finished
    exact ⟨finished.1, follow.2 finished.2⟩
  by_cases turn : ∃ pod, context.HasTurn pod
  · -- Then no listed pod is finished, and the one that has its turn is the only one to become so.
    obtain ⟨pod, primary, key, may⟩ := turn
    have unfinished (before : Pod) (member : before ∈ context.cluster.pods)
        (inView : context.shard.spec.inView before = true) : before.markers.finished = false := by
      obtain ⟨key, keyed⟩ := ShardSpec.exists_key_of_inView inView
      exact may.noneFinished (key, before) ((ShardSpec.mem_view distinct).mpr ⟨member, inView, keyed⟩)
    have counted : stored.countP context.shard.spec.isFinishedIn ≤
        context.cluster.pods.countP fun pod => decide (context.HasTurn pod) := by
      refine countP_forall₂ follows fun before after member follow finished => ?_
      obtain ⟨inView, already | turn⟩ := parts before after follow finished
      · rw [unfinished before member inView] at already
        cases already
      · exact decide_eq_true turn
    refine counted.trans (countP_le_one distinct.names.of_map fun pod _ other _ turn another => ?_)
    exact hasTurn_unique (of_decide_eq_true turn) (of_decide_eq_true another)
  · have counted : stored.countP context.shard.spec.isFinishedIn ≤
        context.cluster.pods.countP context.shard.spec.isFinishedIn := by
      refine countP_forall₂ follows fun before after _ follow finished => ?_
      obtain ⟨inView, already | ⟨primary, key, may⟩⟩ := parts before after follow finished
      · rw [ShardSpec.isFinishedIn, inView, already]
        rfl
      · exact absurd ⟨before, primary, key, may⟩ turn
    exact counted.trans single

theorem run_singleFinished {replies : Replies} {shard : Shard} {cluster : Cluster}
    (faithful : Faithful replies) (distinct : shard.spec.Distinct cluster.pods)
    (single : shard.spec.SingleFinished cluster.pods) (configuration : Configuration)
    (stamp : String) :
    let report := run configuration replies stamp shard cluster
    (∀ stored ∈ report.history, shard.spec.SingleFinished stored) ∧
      shard.spec.SingleFinished report.pods ∧ shard.spec.Distinct report.pods := by
  let context := contextOf configuration replies stamp shard cluster
  obtain ⟨after, last⟩ := run_follows faithful distinct.names configuration stamp shard
  exact ⟨fun stored member => context.singleFinished_of_follows distinct single (after stored member),
    context.singleFinished_of_follows distinct single last, distinct_of_follows last distinct⟩

end Pass

/-- At most one pod in view is finished after every write of a course that begins so. -/
theorem singleFinished_of_course {stores : List (List Pod)} (course : Course spec pods stores)
    (distinct : spec.Distinct pods) (single : spec.SingleFinished pods) :
    ∀ stored ∈ stores, spec.SingleFinished stored := by
  induction course with
  | done _ => exact fun stored member => absurd member (List.not_mem_nil)
  | pass configuration replies stamp shard cluster same faithful rest ih =>
    subst same
    obtain ⟨after, last, kept⟩ := Pass.run_singleFinished faithful distinct single configuration stamp
    intro stored member
    rcases List.mem_append.mp member with inside | later
    · exact after stored inside
    · exact ih kept last stored later
  | edit edit distinct' rest ih =>
    have kept : spec.SingleFinished _ := (countP_of_edit edit).trans single
    intro stored member
    rcases List.mem_cons.mp member with same | later
    · exact same ▸ kept
    · exact ih distinct' kept stored later

/-- Two passes with an edit in between, and the pod that the second one finishes. -/
theorem singleFinished_of_sample :
    let run (pods : List Pod) := Pass.run Sample.configuration .atOnce "now" Sample.shard
      { Sample.cluster with pods := pods }
    let edited := (run Sample.cluster.pods).pods.take 2
    let stores := (run Sample.cluster.pods).history ++ edited :: ((run edited).history ++ [])
    Course Sample.spec Sample.cluster.pods stores ∧ Sample.spec.Distinct Sample.cluster.pods ∧
      Sample.spec.SingleFinished Sample.cluster.pods ∧ (run edited).pods ∈ stores ∧
      Sample.spec.SingleFinished (run edited).pods ∧
      (run edited).pods.countP Sample.spec.isFinishedIn = 1 := by
  intro run edited stores
  have distinct : Sample.spec.Distinct Sample.cluster.pods := ⟨by decide, by decide⟩
  have single : Sample.spec.SingleFinished Sample.cluster.pods := by decide
  have deleted : Edit (run Sample.cluster.pods).pods edited := by
    have whole : edited ++ [Sample.pod "3" []] = (run Sample.cluster.pods).pods := by decide
    have deletes := Edit.delete edited [] (Sample.pod "3" [])
    rw [List.append_nil, whole] at deletes
    exact deletes
  have course : Course Sample.spec Sample.cluster.pods stores :=
    .pass _ _ _ _ Sample.cluster rfl (fun _ => rfl) (.edit deleted ⟨by decide, by decide⟩
      (.pass _ _ _ _ { Sample.cluster with pods := edited } rfl (fun _ => rfl) (.done _)))
  have last : (run edited).pods ∈ stores := by decide
  exact ⟨course, distinct, single, last, singleFinished_of_course course distinct single _ last,
    by decide⟩

end TabletDrain
