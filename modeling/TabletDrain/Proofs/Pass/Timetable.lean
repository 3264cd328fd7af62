import TabletDrain.Proofs.Pass.Anatomy

/-! When a script makes its calls. Every deed takes a time that is known beforehand; that of publishing an
event goes by how many calls were made before it. So each call of a script has its time in a timetable. A
run under a time limit makes just the calls whose time comes by then, and is abandoned just when the script
would take longer. -/
namespace TabletDrain

/-- The time that a deed takes, behind so many calls. -/
def Deed.span (publish : Nat → Nat) (calls : Nat) : Deed → Nat
  | .event .. => publish calls
  | .wait delay => delay
  | .waitUpTo time delay => min delay time
  | _ => 0

def Deed.entry? (now : Nat) (deed : Deed) : Option LogEntry := deed.call?.map fun call => ⟨now, call⟩

def Deed.count (deed : Deed) : Nat := deed.call?.toList.length

def span (publish : Nat → Nat) : Nat → List Deed → Nat
  | _, [] => 0
  | calls, deed :: rest => deed.span publish calls + span publish (calls + deed.count) rest

/-- The calls of a script that starts at a time, behind so many calls, with the times that they are made
at. -/
def timetable (publish : Nat → Nat) (now calls : Nat) : List Deed → List LogEntry
  | [] => []
  | deed :: rest =>
    (deed.entry? now).toList ++
      timetable publish (now + deed.span publish calls) (calls + deed.count) rest

section Times

variable {publish : Nat → Nat} {now calls limit : Nat} {deeds : List Deed}

theorem calls_timetable (publish : Nat → Nat) (now calls : Nat) (deeds : List Deed) :
    (timetable publish now calls deeds).map LogEntry.call = deeds.filterMap Deed.call? := by
  induction deeds generalizing now calls with
  | nil => rfl
  | cons deed rest ih =>
    rw [timetable, List.map_append, ih, List.filterMap_cons, Deed.entry?]
    cases deed.call? <;> rfl

def callCount (deeds : List Deed) : Nat := (deeds.filterMap Deed.call?).length

theorem callCount_cons (deed : Deed) (rest : List Deed) :
    callCount (deed :: rest) = deed.count + callCount rest := by
  rw [callCount, List.filterMap_cons, Deed.count]
  cases deed.call? with
  | none => exact (Nat.zero_add _).symm
  | some call => exact Nat.add_comm _ 1

theorem span_append (publish : Nat → Nat) (calls : Nat) (first second : List Deed) :
    span publish calls (first ++ second) =
      span publish calls first + span publish (calls + callCount first) second := by
  induction first generalizing calls with
  | nil => exact (Nat.zero_add _).symm
  | cons deed rest ih =>
    rw [List.cons_append, span, span, ih, callCount_cons, Nat.add_assoc, Nat.add_assoc]

theorem timetable_append (publish : Nat → Nat) (now calls : Nat) (first second : List Deed) :
    timetable publish now calls (first ++ second) = timetable publish now calls first ++
      timetable publish (now + span publish calls first) (calls + callCount first) second := by
  induction first generalizing now calls with
  | nil => rfl
  | cons deed rest ih =>
    rw [List.cons_append, timetable, timetable, ih, span, callCount_cons, Nat.add_assoc, Nat.add_assoc,
      List.append_assoc]

/-- A script that publishes nothing takes its time wherever it starts. -/
theorem span_of_untold (untold : ∀ deed ∈ deeds, ∀ severity object reason message,
    deed ≠ .event severity object reason message) (publish publish' : Nat → Nat) (calls calls' : Nat) :
    span publish calls deeds = span publish' calls' deeds := by
  induction deeds generalizing calls calls' with
  | nil => rfl
  | cons deed rest ih =>
    obtain ⟨here, later⟩ := List.forall_mem_cons.mp untold
    have same : deed.span publish calls = deed.span publish' calls' := by
      cases deed with
      | event severity object reason message => exact absurd rfl (here _ _ _ _)
      | _ => rfl
    rw [span, span, same, ih later]

theorem time_of_mem_timetable {entry : LogEntry} (member : entry ∈ timetable publish now calls deeds) :
    now ≤ entry.time ∧ entry.time ≤ now + span publish calls deeds := by
  induction deeds generalizing now calls with
  | nil => exact absurd member List.not_mem_nil
  | cons deed rest ih =>
    rw [span]
    rcases List.mem_append.mp member with here | later
    · obtain ⟨call, _, same⟩ := Option.map_eq_some_iff.mp (Option.mem_toList.mp here)
      subst same
      exact ⟨Nat.le_refl _, Nat.le_add_right _ _⟩
    · have bounds := ih later
      omega

theorem purpose_ne_of_mem_timetable {purpose : Purpose} (none : partFor purpose deeds = []) :
    ∀ entry ∈ timetable publish now calls deeds, entry.call.purpose ≠ purpose := by
  intro entry member same
  have called : entry.call ∈ (deeds.filterMap Deed.call?).filter fun call => call.purpose = purpose := by
    rw [← calls_timetable publish now calls]
    exact List.mem_filter.mpr ⟨List.mem_map_of_mem member, by simpa using same⟩
  rw [filter_calls, none] at called
  exact List.not_mem_nil called

theorem filter_timetable (inTime : now + span publish calls deeds ≤ limit) :
    (timetable publish now calls deeds).filter (·.time ≤ limit) = timetable publish now calls deeds := by
  refine List.filter_eq_self.mpr fun entry member => decide_eq_true ?_
  exact (time_of_mem_timetable member).2.trans inTime

theorem filter_timetable_late (late : limit < now) :
    (timetable publish now calls deeds).filter (·.time ≤ limit) = [] := by
  refine List.filter_eq_nil_iff.mpr fun entry member => ?_
  rw [decide_eq_true_eq, Nat.not_le]
  exact late.trans_le (time_of_mem_timetable member).1

end Times

section Limited

variable {limit : Nat} {before : Progress}

private theorem wait_timed (early : before.now ≤ limit) (delay : Nat) :
    Run.wait (some limit) delay before = (if before.now + delay ≤ limit then some () else none,
      { before with now := min (before.now + delay) limit }) := by
  unfold Run.wait
  simp only [Run.isBy, Run.notBefore, decide_eq_true_eq]
  by_cases none : delay = 0
  · subst none
    simp only [if_true, Nat.add_zero, if_pos early, Nat.min_eq_left early]
  · rw [if_neg none]
    by_cases inTime : before.now + delay ≤ limit
    · rw [if_pos inTime, if_pos inTime, Nat.min_eq_left inTime]
    · rw [if_neg inTime, if_neg inTime, Nat.max_eq_right early,
        Nat.min_eq_right (Nat.le_of_not_le inTime)]

private theorem waitWithin_timed (early : before.now ≤ limit) (time delay : Nat) :
    ∃ inTime : Bool, Run.waitWithin (some limit) (before.now + time) delay before =
      (if before.now + min delay time ≤ limit then some inTime else none,
        { before with now := min (before.now + min delay time) limit }) := by
  refine ⟨delay ≤ time, ?_⟩
  unfold Run.waitWithin
  simp only [Run.isBy, Run.notBefore, Bool.and_eq_true, decide_eq_true_eq]
  by_cases none : delay = 0
  · subst none
    simp only [if_true, Nat.zero_min, Nat.add_zero, if_pos early, Nat.min_eq_left early,
      Nat.zero_le, decide_true]
  · rw [if_neg none]
    by_cases answered : delay ≤ time
    · rw [Nat.min_eq_left answered]
      by_cases inTime : before.now + delay ≤ limit
      · rw [if_pos (by omega), if_pos inTime, Nat.min_eq_left inTime, decide_eq_true answered]
      · rw [if_neg (by omega), if_neg (by omega), if_neg inTime, Nat.max_eq_right early,
          Nat.min_eq_right (Nat.le_of_not_le inTime)]
    · rw [Nat.min_eq_right (Nat.le_of_not_le answered), if_neg (by omega)]
      by_cases inTime : before.now + time ≤ limit
      · rw [if_pos inTime, if_pos inTime, Nat.min_eq_left inTime,
          Nat.max_eq_right (Nat.le_add_right _ _), decide_eq_false answered]
      · rw [if_neg inTime, if_neg inTime, Nat.max_eq_right early,
          Nat.min_eq_right (Nat.le_of_not_le inTime)]

variable {setting : Setting} (cut : setting.cutoff = some limit) (early : before.now ≤ limit)

include cut early

/-- A deed is carried out if its time is over by the limit, and else it is abandoned in its wait. -/
private theorem perform_deed_timed (deed : Deed) :
    let span := deed.span setting.replies.publishAfter before.log.length
    ∃ after, deed.perform setting before =
        (if before.now + span ≤ limit then some () else none, after) ∧
      after.log = before.log ++ (deed.entry? before.now).toList ∧
      after.now = min (before.now + span) limit := by
  intro span
  have prompt {after : Progress} (none : span = 0)
      (done : deed.perform setting before = (some (), after))
      (log : after.log = before.log ++ (deed.entry? before.now).toList)
      (now : after.now = before.now) : ∃ after, deed.perform setting before =
        (if before.now + span ≤ limit then some () else .none, after) ∧
      after.log = before.log ++ (deed.entry? before.now).toList ∧
      after.now = min (before.now + span) limit := by
    rw [none, Nat.add_zero, if_pos early, Nat.min_eq_left early]
    exact ⟨after, done, log, now⟩
  cases deed with
  | call made => exact prompt rfl rfl rfl rfl
  | event severity object reason message =>
    let logged : Progress := { before with
      log := before.log ++ [⟨before.now, .event severity object reason message⟩] }
    have soon : logged.now ≤ limit := early
    refine ⟨{ logged with now := min (logged.now + span) limit }, ?_, rfl, rfl⟩
    exact (congrArg (Run.wait · span logged) cut).trans (wait_timed soon span)
  | wait delay =>
    exact ⟨_, (congrArg (Run.wait · delay before) cut).trans (wait_timed early delay),
      (List.append_nil _).symm, rfl⟩
  | waitUpTo time delay =>
    obtain ⟨inTime, waited⟩ := waitWithin_timed early time delay
    refine ⟨{ before with now := min (before.now + min delay time) limit }, ?_,
      (List.append_nil _).symm, rfl⟩
    change Run.bind (Run.waitWithin setting.cutoff (before.now + time) delay) _ before = _
    unfold Run.bind
    rw [cut, waited]
    change _ = (if before.now + min delay time ≤ limit then some () else none, _)
    by_cases passed : before.now + min delay time ≤ limit
    · rw [if_pos passed, if_pos passed]
      rfl
    · rw [if_neg passed, if_neg passed]
  | store name pod => exact prompt rfl rfl (List.append_nil _).symm rfl
  | fail fault => exact prompt rfl rfl (List.append_nil _).symm rfl
  | requeueAfter delay => exact prompt rfl rfl (List.append_nil _).symm rfl

theorem perform_timed (deeds : List Deed) :
    let publish := setting.replies.publishAfter
    let done := before.now + span publish before.log.length deeds
    ∃ after, perform setting deeds before = (if done ≤ limit then some () else none, after) ∧
      after.log = before.log ++
        (timetable publish before.now before.log.length deeds).filter (·.time ≤ limit) ∧
      after.now = min done limit := by
  induction deeds generalizing before with
  | nil =>
    refine ⟨before, ?_, (List.append_nil _).symm, (Nat.min_eq_left early).symm⟩
    exact congrArg (·, before) (if_pos early).symm
  | cons deed rest ih =>
    intro publish done
    obtain ⟨middle, first, log, now⟩ := perform_deed_timed cut early deed
    have entered : ((deed.entry? before.now).toList).filter (·.time ≤ limit) =
        (deed.entry? before.now).toList := by
      refine List.filter_eq_self.mpr fun entry member => ?_
      obtain ⟨call, _, same⟩ := Option.map_eq_some_iff.mp (Option.mem_toList.mp member)
      subst same
      exact decide_eq_true early
    have counted : middle.log.length = before.log.length + deed.count := by
      rw [log, List.length_append, Deed.entry?, Deed.count]
      cases deed.call? <;> rfl
    have whole : done = before.now + deed.span publish before.log.length +
        span publish middle.log.length rest := by rw [counted, Nat.add_assoc]; rfl
    rw [whole, timetable, List.filter_append, entered, ← counted]
    by_cases inTime : before.now + deed.span publish before.log.length ≤ limit
    · rw [if_pos inTime] at first
      rw [Nat.min_eq_left inTime] at now
      obtain ⟨after, ended, log', now'⟩ := ih (now ▸ inTime)
      rw [now] at ended log' now'
      refine ⟨after, ?_, ?_, now'⟩
      · rw [perform, Run.bind_of_some _ first, ended]
      · rw [log', log, List.append_assoc]
    · rw [if_neg inTime] at first
      rw [Nat.min_eq_right (Nat.le_of_not_le inTime)] at now
      refine ⟨middle, ?_, ?_, ?_⟩
      · rw [perform, Run.bind_of_none _ first, if_neg (by omega)]
      · rw [log, filter_timetable_late (Nat.not_le.mp inTime), List.append_nil]
      · rw [now]
        omega

end Limited

namespace Pass

namespace Context

variable (context : Context)

/-- The pass is not abandoned. -/
def Completes : Prop := (context.pass (.start context.cluster.pods)).1 = some ()

/-- How long the deeds take from the start of a pass. -/
def time (deeds : List Deed) : Nat := span context.replies.publishAfter 0 deeds

end Context

/-- A pass goes by its timetable, as far as its time limit reaches. -/
theorem run_timed (configuration : Configuration) (replies : Replies) (stamp : String) (shard : Shard)
    (cluster : Cluster) :
    let context := contextOf configuration replies stamp shard cluster
    let report := run configuration replies stamp shard cluster
    let limit := configuration.timeouts.pass
    (context.Completes ↔ context.time context.deeds ≤ limit) ∧
      report.log = (timetable replies.publishAfter 0 0 context.deeds).filter (·.time ≤ limit) ∧
      report.elapsed = min (context.time context.deeds) limit ∧
      (limit < context.time context.deeds →
        report.result = .error (.timeout "drain pass" (.ofMilliseconds limit))) := by
  intro context report limit
  have cut : context.setting.cutoff = some limit := rfl
  have early : (Progress.start cluster.pods).now ≤ limit := Nat.zero_le _
  obtain ⟨after, whole, log, now⟩ := perform_timed cut early context.deeds
  have begin : (Progress.start cluster.pods).now + span context.setting.replies.publishAfter
      (Progress.start cluster.pods).log.length context.deeds = context.time context.deeds :=
    Nat.zero_add _
  rw [begin] at whole now
  have reported : report = reportOf limit
      (if context.time context.deeds ≤ limit then some () else none, after) := by
    rw [← whole]
    exact run_eq configuration replies stamp shard cluster
  refine ⟨?_, ?_, ?_, fun late => ?_⟩
  · unfold Context.Completes
    rw [context.pass_at, show perform _ _ (.start context.cluster.pods) = _ from whole]
    simp
  · rw [reported]
    exact log
  · rw [reported]
    exact now
  · rw [reported, reportOf, if_neg (Nat.not_le.mpr late)]

end Pass

end TabletDrain
