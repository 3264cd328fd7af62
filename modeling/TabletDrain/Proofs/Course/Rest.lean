import TabletDrain.Proofs.Course.SingleFinished
import TabletDrain.Proofs.Course.Underway
import TabletDrain.Proofs.Pass.Round

/-! Passes over a shard that nobody else touches. Each makes a round of the markers of the pods in view,
so that a few of them come to a store that no later one changes. -/
namespace TabletDrain

namespace ShardSpec

variable {spec : ShardSpec} {pods : List Pod} {key : String} {pod : Pod}

/-- The pod is in view, with a request, and finished. -/
def isReleasedIn (spec : ShardSpec) (pod : Pod) : Bool :=
  spec.inView pod && pod.markers.started && pod.markers.finished

theorem get?_asked_marks_eq_finished_iff (distinct : spec.Distinct pods) :
    (Drain.asked (spec.marks pods)).get? key = some .finished ↔
      ∃ pod ∈ pods, spec.isReleasedIn pod = true ∧ pod.key? = some key := by
  simp only [Drain.get?_asked, get?_marks distinct, isReleasedIn, Bool.and_eq_true,
    Markers.state_eq_finished_iff]
  constructor
  · intro found
    obtain ⟨_, ⟨pod, member, inView, keyed, rfl⟩, started, _, finished⟩ := found
    exact ⟨pod, member, ⟨⟨inView, started⟩, finished⟩, keyed⟩
  · intro found
    obtain ⟨pod, member, ⟨⟨inView, started⟩, finished⟩, keyed⟩ := found
    exact ⟨_, ⟨pod, member, inView, keyed, rfl⟩, started, started, finished⟩

/-- A pod other than that of the tablet asks for a drain. -/
def AsksBeside (spec : ShardSpec) (primary : Alias) (pods : List Pod) : Prop :=
  ∃ pod ∈ pods, spec.inView pod = true ∧ pod.markers.started = true ∧ pod.tablet? ≠ some primary

/-- What the stored pods are like once no pass changes them any more. -/
structure AtRest (spec : ShardSpec) (primary : Alias) (pods : List Pod) : Prop where
  unanswered : ∀ pod ∈ pods, spec.inView pod = true → pod.markers.started = false →
    pod.markers.acknowledged = false ∧ pod.markers.finished = false
  acknowledged : ∀ pod ∈ pods, spec.inView pod = true → pod.markers.started = true →
    pod.tablet? ≠ some primary → pod.markers.acknowledged = true
  released : spec.AsksBeside primary pods → ∃ pod ∈ pods, spec.isReleasedIn pod = true

/-- How many passes may still send pods: one more where answers are left over from a withdrawn
request. -/
def unrest (spec : ShardSpec) (pods : List Pod) : Nat :=
  if pods.any fun pod => spec.inView pod && pod.markers.isAborted then 3 else 2

theorem ne_primary_of_tablet? {primary : Alias} (keyed : pod.key? = some key)
    (secondary : pod.tablet? ≠ some primary) : key ≠ primary.text := by
  intro same
  obtain ⟨name, named, text⟩ := Option.map_eq_some_iff.mp keyed
  exact secondary (named.trans (congrArg some (Alias.text_injective (text.trans same))))

theorem atRest_of_rests {primary : Alias} (distinct : spec.Distinct pods)
    (rests : Drain.Rests primary.text (spec.marks pods)) : spec.AtRest primary pods where
  unanswered pod member inView idle := by
    obtain ⟨key, keyed⟩ := exists_key_of_inView inView
    exact Markers.unanswered_of_idle
      (rests.unaborted ((get?_marks distinct).mpr ⟨pod, member, inView, keyed, rfl⟩)) idle
  acknowledged pod member inView started secondary := by
    obtain ⟨key, keyed⟩ := exists_key_of_inView inView
    exact rests.acknowledged ((get?_marks distinct).mpr ⟨pod, member, inView, keyed, rfl⟩) started
      (ne_primary_of_tablet? keyed secondary)
  released asks := by
    obtain ⟨pod, member, inView, started, secondary⟩ := asks
    obtain ⟨key, keyed⟩ := exists_key_of_inView inView
    have found := (get?_marks distinct).mpr ⟨pod, member, inView, keyed, rfl⟩
    obtain ⟨other, isFinished⟩ := rests.exists_finished
      (Drain.get?_asked.mpr ⟨_, found, started, rfl⟩) (ne_primary_of_tablet? keyed secondary)
    obtain ⟨pod, member, released, _⟩ := (get?_asked_marks_eq_finished_iff distinct).mp isFinished
    exact ⟨pod, member, released⟩

theorem rounds_marks (distinct : spec.Distinct pods) :
    Drain.rounds (spec.marks pods) = spec.unrest pods := by
  have same : Drain.anyAborted (spec.marks pods) =
      pods.any fun pod => spec.inView pod && pod.markers.isAborted := by
    rw [Bool.eq_iff_iff, ← not_iff_not, Bool.not_eq_true, Bool.not_eq_true,
      Drain.anyAborted_eq_false_iff, List.any_eq_false]
    constructor
    · intro quiet pod member aborted
      rw [Bool.and_eq_true] at aborted
      obtain ⟨key, keyed⟩ := exists_key_of_inView aborted.1
      have settled := quiet key _ ((get?_marks distinct).mpr ⟨pod, member, aborted.1, keyed, rfl⟩)
      rw [aborted.2] at settled
      cases settled
    · intro quiet key markers found
      obtain ⟨pod, member, inView, _, rfl⟩ := (get?_marks distinct).mp found
      have settled := quiet pod member
      rw [inView, Bool.true_and] at settled
      exact Bool.eq_false_iff.mpr settled
  rw [Drain.rounds, same, unrest]

end ShardSpec

/-- A live pass that reads all in time, whose updates succeed, and that is not abandoned. -/
structure Occasion.Undisturbed (occasion : Occasion) (shard : Shard) (cluster : Cluster)
    (primary : Alias) : Prop where
  admitted : (occasion.context shard cluster).Admitted primary
  completes : (occasion.context shard cluster).Completes
  faithful : Pass.Faithful occasion.replies
  updated : ∀ sent ∈ (occasion.run shard cluster).sent,
    (occasion.replies.updatePod sent.shownName).fault = none

theorem Occasion.InTime.undisturbed {occasion : Occasion} {shard : Shard} {cluster : Cluster}
    {primary : Alias} (inTime : occasion.InTime shard cluster)
    (healthy : Shard.healthyPrimary shard.status cluster.record = .ok primary) :
    occasion.Undisturbed shard cluster primary where
  admitted := ⟨inTime.live, inTime.answered.listed, inTime.answered.recorded,
    inTime.answered.inventoried, inTime.answered.read, healthy⟩
  completes := inTime.completes
  faithful name := (inTime.answered.updated name).2
  updated _ _ := (inTime.answered.updated _).1

def Cluster.after (cluster : Cluster) (report : Pass.Report) : Cluster :=
  { cluster with pods := report.pods }

/-- Passes one after the other, with nothing else in between: their reports, and where they lead. -/
inductive Repeated (shard : Shard) (primary : Alias) :
    Cluster → List Pass.Report → Cluster → Prop where
  | done (cluster : Cluster) : Repeated shard primary cluster [] cluster
  | pass (occasion : Occasion) {cluster last : Cluster} {reports : List Pass.Report}
      (undisturbed : occasion.Undisturbed shard cluster primary)
      (rest : Repeated shard primary (cluster.after (occasion.run shard cluster)) reports last) :
      Repeated shard primary cluster (occasion.run shard cluster :: reports) last

variable {shard : Shard} {cluster last : Cluster} {primary : Alias} {occasion : Occasion}
  {reports : List Pass.Report}

namespace Occasion.Undisturbed

variable (undisturbed : occasion.Undisturbed shard cluster primary)
  (distinct : shard.spec.Distinct cluster.pods)

include undisturbed

theorem sent_run : (occasion.run shard cluster).sent =
    (occasion.context shard cluster).updates.map Pass.Update.sent :=
  Pass.sent_of_completes undisturbed.completes

theorem succeeds {update : Pass.Update}
    (member : update ∈ (occasion.context shard cluster).updates) :
    ((occasion.context shard cluster).reply update).Succeeds := by
  have inside : update.sent ∈ (occasion.run shard cluster).sent := by
    rw [undisturbed.sent_run]
    exact List.mem_map_of_mem member
  have accepted := undisturbed.updated _ inside
  rw [Pass.Context.shownName_sent member] at accepted
  exact ⟨accepted, undisturbed.faithful _⟩

include distinct

theorem pods_run : (occasion.run shard cluster).pods =
    cluster.pods.map ((occasion.context shard cluster).landing
      (occasion.context shard cluster).updates) :=
  Pass.pods_of_completes undisturbed.completes undisturbed.faithful.keepsNames distinct.names

private theorem reannotated_landing : ∀ pod ∈ cluster.pods, Pod.Reannotated pod
    ((occasion.context shard cluster).landing (occasion.context shard cluster).updates pod) := by
  intro pod member
  have faithful : Pass.Faithful (occasion.context shard cluster).replies := undisturbed.faithful
  exact (Pass.Context.tended_landing distinct.names faithful List.nil_prefix
    (List.prefix_refl _) member).reannotated

theorem distinct_after :
    shard.spec.Distinct (cluster.after (occasion.run shard cluster)).pods := by
  rw [Cluster.after, undisturbed.pods_run distinct]
  exact distinct.map (undisturbed.reannotated_landing distinct)

/-- A pass makes one round of the markers. -/
theorem marks_after : shard.spec.marks (cluster.after (occasion.run shard cluster)).pods =
    Drain.round primary.text (shard.spec.marks cluster.pods) := by
  let context := occasion.context shard cluster
  have landed (key : String) (pod : Pod) (found : (shard.spec.view cluster.pods).get? key = some pod) :
      (context.landing context.updates pod).markers =
        if Pass.Context.isAborting context.view then pod.markers.cleared
        else context.aim primary key pod :=
    Pass.Context.markers_landing undisturbed.admitted distinct (fun _ => undisturbed.succeeds) found
  have quiet : Drain.anyAborted (shard.spec.marks cluster.pods) =
      Pass.Context.isAborting context.view := context.anyAborted_marks
  apply Keyed.ext_get?
  intro key
  rw [Cluster.after, undisturbed.pods_run distinct, ShardSpec.marks, Keyed.get?_map,
    ShardSpec.get?_view_map distinct (undisturbed.reannotated_landing distinct), Option.map_map,
    Drain.round, quiet]
  by_cases aborting : Pass.Context.isAborting context.view = true
  · rw [if_pos aborting, ShardSpec.marks, Keyed.get?_map, Keyed.get?_map, Option.map_map]
    exact Option.map_congr fun pod found => (landed key pod found).trans (if_pos aborting)
  · rw [if_neg aborting, Drain.get?_answeredAll]
    conv_rhs => rw [ShardSpec.marks, Keyed.get?_map, Option.map_map]
    refine Option.map_congr fun pod found => (landed key pod found).trans ?_
    rw [if_neg aborting, context.aim_eq_answered]
    rfl

theorem of_rests (rests : Drain.Rests primary.text (shard.spec.marks cluster.pods)) :
    (occasion.run shard cluster).sent = [] ∧
      (occasion.run shard cluster).pods = cluster.pods := by
  have none : (occasion.context shard cluster).updates = [] :=
    Pass.Context.updates_of_rests undisturbed.admitted rests
  rw [undisturbed.sent_run, undisturbed.pods_run distinct, none]
  exact ⟨rfl, List.map_id' _⟩

end Occasion.Undisturbed

namespace Repeated

/-- So many passes make so many rounds. -/
theorem marks_eq (repeated : Repeated shard primary cluster reports last)
    (distinct : shard.spec.Distinct cluster.pods) :
    shard.spec.Distinct last.pods ∧ shard.spec.marks last.pods =
      (Drain.round primary.text)^[reports.length] (shard.spec.marks cluster.pods) := by
  induction repeated with
  | done cluster => exact ⟨distinct, rfl⟩
  | pass occasion undisturbed rest ih =>
    rw [List.length_cons, Function.iterate_succ_apply, ← undisturbed.marks_after distinct]
    exact ih (undisturbed.distinct_after distinct)

/-- Once a round changes nothing, no pass sends or stores anything. -/
theorem of_rests (repeated : Repeated shard primary cluster reports last)
    (distinct : shard.spec.Distinct cluster.pods)
    (rests : Drain.Rests primary.text (shard.spec.marks cluster.pods)) :
    ∀ report ∈ reports, report.sent = [] ∧ report.pods = cluster.pods := by
  induction repeated with
  | done cluster => exact fun report member => absurd member List.not_mem_nil
  | @pass occasion cluster last reports undisturbed rest ih =>
    obtain ⟨sent, pods⟩ := undisturbed.of_rests distinct rests
    have same : cluster.after (occasion.run shard cluster) = cluster := by
      rw [Cluster.after, pods]
    rw [same] at ih
    exact List.forall_mem_cons.mpr ⟨⟨sent, pods⟩, ih distinct rests⟩

end Repeated

theorem eq_of_countP_le_one {α : Type} {test : α → Bool} {items : List α} {item other : α}
    (single : items.countP test ≤ 1) (member : item ∈ items) (member' : other ∈ items)
    (passes : test item = true) (passes' : test other = true) : item = other := by
  have inside := List.mem_filter.mpr ⟨member, passes⟩
  have inside' := List.mem_filter.mpr ⟨member', passes'⟩
  rw [List.countP_eq_length_filter] at single
  match found : items.filter test with
  | [] => exact absurd (found ▸ inside) List.not_mem_nil
  | [only] =>
    rw [found, List.mem_singleton] at inside inside'
    exact inside.trans inside'.symm
  | _ :: _ :: _ => exact absurd (found ▸ single) (by simp)

namespace ShardSpec

variable {spec : ShardSpec} {pods : List Pod}

theorem atMostOneFinished_iff (distinct : spec.Distinct pods) :
    Drain.AtMostOneFinished (Drain.asked (spec.marks pods)) ↔ pods.countP spec.isReleasedIn ≤ 1 := by
  have inView {pod : Pod} (released : spec.isReleasedIn pod = true) : spec.inView pod = true := by
    rw [isReleasedIn, Bool.and_assoc, Bool.and_eq_true] at released
    exact released.1
  constructor
  · intro single
    refine Pass.countP_le_one distinct.names.of_map fun pod member other member' released released' => ?_
    obtain ⟨key, keyed⟩ := exists_key_of_inView (inView released)
    obtain ⟨key', keyed'⟩ := exists_key_of_inView (inView released')
    have same := single key key'
      ((get?_asked_marks_eq_finished_iff distinct).mpr ⟨pod, member, released, keyed⟩)
      ((get?_asked_marks_eq_finished_iff distinct).mpr ⟨other, member', released', keyed'⟩)
    have found := (get?_view distinct).mpr ⟨member, inView released, keyed⟩
    have found' := (get?_view distinct).mpr ⟨member', inView released', keyed'⟩
    rw [same, found'] at found
    exact (Option.some.inj found).symm
  · intro single key key' found found'
    obtain ⟨pod, member, released, keyed⟩ := (get?_asked_marks_eq_finished_iff distinct).mp found
    obtain ⟨other, member', released', keyed'⟩ := (get?_asked_marks_eq_finished_iff distinct).mp found'
    cases eq_of_countP_le_one single member member' released released'
    exact Option.some.inj (keyed.symm.trans keyed')

end ShardSpec

/-- Repeated passes come to rest. After three of them, or two where no pod in view had answers left over
at the start, no later one sends a pod or changes what is stored. Then no answer is left without a
request, every request but the primary's is acknowledged, and if there is one, a pod is finished; only
one is, if no more were at the start. -/
theorem passes_come_to_rest {shard : Shard} {primary : Alias} {start middle last : Cluster}
    {reports later : List Pass.Report} (distinct : shard.spec.Distinct start.pods)
    (passes : Repeated shard primary start reports middle)
    (enough : shard.spec.unrest start.pods ≤ reports.length)
    (others : Repeated shard primary middle later last) :
    (∀ report ∈ later, report.sent = [] ∧ report.pods = middle.pods) ∧
      shard.spec.AtRest primary middle.pods ∧
      (shard.spec.AsksBeside primary middle.pods → start.pods.countP shard.spec.isReleasedIn ≤ 1 →
        middle.pods.countP shard.spec.isReleasedIn = 1) := by
  obtain ⟨distinct', marks⟩ := passes.marks_eq distinct
  have rests : Drain.Rests primary.text (shard.spec.marks middle.pods) := by
    obtain ⟨more, length⟩ := Nat.exists_eq_add_of_le' enough
    have stays := Drain.round_rounds primary.text (shard.spec.marks start.pods)
    rw [ShardSpec.rounds_marks distinct] at stays
    rw [Drain.Rests, marks, length, Function.iterate_add_apply, Function.iterate_fixed stays]
    exact stays
  have atRest := ShardSpec.atRest_of_rests distinct' rests
  refine ⟨others.of_rests distinct' rests, atRest, fun asks single => ?_⟩
  have single' : middle.pods.countP shard.spec.isReleasedIn ≤ 1 := by
    rw [← ShardSpec.atMostOneFinished_iff distinct', marks]
    exact Drain.atMostOneFinished_rounds ((ShardSpec.atMostOneFinished_iff distinct).mpr single) _
  obtain ⟨pod, member, released⟩ := atRest.released asks
  have some : 0 < middle.pods.countP shard.spec.isReleasedIn :=
    List.countP_pos_iff.mpr ⟨pod, member, released⟩
  omega

/-- The answer without a request is cleared first, then the requests are acknowledged, then one is
finished; the fourth pass finds nothing to do. -/
theorem passes_come_to_rest_in_sample :
    let occasion : Occasion := ⟨Sample.configuration, .atOnce, "now"⟩
    let run (cluster : Cluster) := occasion.run Sample.shard cluster
    let next (cluster : Cluster) := cluster.after (run cluster)
    let start := { Sample.cluster with
      pods := [Sample.pod "1" [(startedMarker, "")], Sample.pod "2" [(startedMarker, "")],
        Sample.pod "3" [(acknowledgedMarker, "")]] }
    let middle := next (next (next start))
    let reports := [run start, run (next start), run (next (next start))]
    Sample.spec.Distinct start.pods ∧ Repeated Sample.shard ⟨"zone1", 1⟩ start reports middle ∧
      Sample.spec.unrest start.pods = reports.length ∧
      Repeated Sample.shard ⟨"zone1", 1⟩ middle [run middle] (next middle) ∧
      (run middle).sent = [] ∧ (run middle).pods = middle.pods ∧
      Sample.spec.AtRest ⟨"zone1", 1⟩ middle.pods ∧
      middle.pods.countP Sample.spec.isReleasedIn = 1 ∧
      reports.map (fun report => report.sent.length) = [1, 2, 1] := by
  intro occasion run next start middle reports
  have prompt : occasion.Prompt := ⟨rfl, Replies.prompt_atOnce⟩
  have undisturbed (cluster : Cluster)
      (healthy : Shard.healthyPrimary Sample.shard.status cluster.record = .ok ⟨"zone1", 1⟩) :
      occasion.Undisturbed Sample.shard cluster ⟨"zone1", 1⟩ :=
    (prompt.inTime Sample.shard cluster).undisturbed healthy
  have distinct : Sample.spec.Distinct start.pods := ⟨by decide, by decide⟩
  have passes : Repeated Sample.shard ⟨"zone1", 1⟩ start reports middle :=
    .pass occasion (undisturbed _ rfl) (.pass occasion (undisturbed _ rfl)
      (.pass occasion (undisturbed _ rfl) (.done _)))
  have others : Repeated Sample.shard ⟨"zone1", 1⟩ middle [run middle] (next middle) :=
    .pass occasion (undisturbed _ rfl) (.done _)
  have enough : Sample.spec.unrest start.pods = reports.length := by decide
  have asks : Sample.spec.AsksBeside ⟨"zone1", 1⟩ middle.pods := by
    unfold ShardSpec.AsksBeside
    decide
  obtain ⟨quiet, atRest, single⟩ := passes_come_to_rest distinct passes (Nat.le_of_eq enough) others
  obtain ⟨sent, pods⟩ := quiet _ List.mem_cons_self
  exact ⟨distinct, passes, enough, others, sent, pods, atRest, single asks (by decide), by decide⟩

end TabletDrain
