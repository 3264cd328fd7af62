import TabletDrain.Proofs.Keyed
import TabletDrain.Proofs.Pass.Prompt
import TabletDrain.Proofs.Stepwise

/-! Preparing databases to be moved, one after another in the order of their keys. Each pod that there
is a tablet for goes one of four ways, two of which are failures; the first failure is the last thing
that happens. -/
namespace TabletDrain.Upgrade

structure Pair where
  key : String
  pod : Pod
  tablet : Tablet

/-- What is called for a pair, and why it cannot be moved. -/
inductive Pair.Goes (replies : Replies) (desired : String) (pair : Pair) :
    List Call → Option Fault → Prop
  | refused {refusal : Fault} :
      imagesNeedSlowShutdown ((pair.pod.image? databaseContainer).getD "") desired = .error refusal →
        pair.Goes replies desired [] (some refusal)
  | unneeded :
      imagesNeedSlowShutdown ((pair.pod.image? databaseContainer).getD "") desired = .ok false →
        pair.Goes replies desired [] none
  | failed {fault : Fault} :
      imagesNeedSlowShutdown ((pair.pod.image? databaseContainer).getD "") desired = .ok true →
      (replies.execute pair.tablet.name).fault = some fault →
        pair.Goes replies desired [.execute pair.tablet.name slowShutdown]
          (some (.rpc ("failed to disable fast shutdown for tablet " ++ pair.key ++ ": " ++
            fault.message)))
  | told :
      imagesNeedSlowShutdown ((pair.pod.image? databaseContainer).getD "") desired = .ok true →
      (replies.execute pair.tablet.name).fault = none →
        pair.Goes replies desired [.execute pair.tablet.name slowShutdown,
          .event .normal pair.pod.ref "MySQL_Upgrade"
            "innodb_fast_shutdown = 0 to prepare MySQL upgrade"] none

/-- What is called for all pairs, and what comes of it. -/
inductive Goes (replies : Replies) (desired : String) : List Pair → List Call → Except Fault Unit → Prop
  | through {pairs : List Pair} {parts : List (List Call)} :
      List.Forall₂ (fun pair calls => pair.Goes replies desired calls none) pairs parts →
        Goes replies desired pairs parts.flatten (.ok ())
  | stops {before after : List Pair} {parts : List (List Call)} {pair : Pair} {calls : List Call}
      {fault : Fault} :
      List.Forall₂ (fun pair calls => pair.Goes replies desired calls none) before parts →
      pair.Goes replies desired calls (some fault) →
        Goes replies desired (before ++ pair :: after) (parts.flatten ++ calls) (.error fault)

/-- How long a call for a pair takes, behind so many calls. -/
def callTime (replies : Replies) (logged : Nat) : Call → Nat
  | .execute tablet _ => (replies.execute tablet).delay
  | .event .. => replies.publishAfter logged
  | _ => 0

/-- How long calls take in turn, the first of them behind so many. -/
def callsTime (replies : Replies) : Nat → List Call → Nat
  | _, [] => 0
  | logged, call :: rest => callTime replies logged call + callsTime replies (logged + 1) rest

theorem callsTime_append (replies : Replies) (logged : Nat) (first second : List Call) :
    callsTime replies logged (first ++ second) =
      callsTime replies logged first + callsTime replies (logged + first.length) second := by
  induction first generalizing logged with
  | nil => exact (Nat.zero_add _).symm
  | cons call rest ih =>
    rw [List.cons_append, callsTime, callsTime, ih, List.length_cons, Nat.add_comm rest.length 1,
      ← Nat.add_assoc, ← Nat.add_assoc]

section Pairs

variable {replies : Replies} {desired : String} {pair : Pair} {pairs rest : List Pair}
  {calls later : List Call} {outcome : Except Fault Unit}

theorem Pair.Goes.not_fails (goes : pair.Goes replies desired calls none) (own : List Call)
    (fault : Fault) : ¬pair.Goes replies desired own (some fault) := by
  intro fails
  cases goes with
  | unneeded safe =>
    cases fails with
    | refused refusal => cases safe.symm.trans refusal
    | failed needed _ => cases safe.symm.trans needed
  | told needed succeeds =>
    cases fails with
    | refused refusal => cases needed.symm.trans refusal
    | failed _ fails => cases succeeds.symm.trans fails

theorem Goes.cons (here : pair.Goes replies desired calls none)
    (goes : Goes replies desired rest later outcome) :
    Goes replies desired (pair :: rest) (calls ++ later) outcome := by
  rcases goes with through | ⟨through, fails⟩
  · exact .through (.cons here through)
  · rw [← List.append_assoc]
    exact .stops (.cons here through) fails

theorem Goes.first {fault : Fault} (fails : pair.Goes replies desired calls (some fault)) :
    Goes replies desired (pair :: rest) calls (.error fault) :=
  @Goes.stops replies desired [] rest [] pair calls fault .nil fails

theorem Goes.ok_iff (goes : Goes replies desired pairs calls outcome) :
    outcome = .ok () ↔
      ∀ pair ∈ pairs, ∀ own fault, ¬pair.Goes replies desired own (some fault) := by
  rcases goes with through | ⟨through, fails⟩
  · refine iff_of_true rfl fun pair member => ?_
    obtain ⟨_, _, goes⟩ := exists_of_mem_left through member
    exact goes.not_fails
  · refine iff_of_false nofun fun none_fails => ?_
    exact none_fails _ (List.mem_append_right _ List.mem_cons_self) _ _ fails

end Pairs

section Tablets

variable {setting : Setting} {tablets : Keyed Tablet} {desired : String}

def pairsFrom (tablets : Keyed Tablet) (pods : List (String × Pod)) : List Pair :=
  pods.filterMap fun entry => (tablets.get? entry.1).map fun tablet => ⟨entry.1, entry.2, tablet⟩

theorem mem_pairsFrom {pods : Keyed Pod} {pair : Pair} :
    pair ∈ pairsFrom tablets pods.entries ↔
      pods.get? pair.key = some pair.pod ∧ tablets.get? pair.key = some pair.tablet := by
  obtain ⟨key, pod, tablet⟩ := pair
  rw [pairsFrom, List.mem_filterMap]
  simp only [Option.map_eq_some_iff, Pair.mk.injEq]
  constructor
  · rintro ⟨_, member, _, found, rfl, rfl, rfl⟩
    exact ⟨Keyed.get?_of_mem member, found⟩
  · rintro ⟨listed, found⟩
    exact ⟨(key, pod), Keyed.mem_entries_iff.mpr listed, tablet, found, rfl, rfl, rfl⟩

theorem ascending_pairsFrom (pods : Keyed Pod) :
    ((pairsFrom tablets pods.entries).map Pair.key).Pairwise (· < ·) := by
  have ascending := List.pairwise_map.mp pods.ascending
  rw [List.pairwise_map, pairsFrom, List.pairwise_filterMap]
  refine ascending.imp fun {a b} earlier pair first pair' second => ?_
  obtain ⟨_, _, rfl⟩ := Option.map_eq_some_iff.mp first
  obtain ⟨_, _, rfl⟩ := Option.map_eq_some_iff.mp second
  exact earlier

theorem goes_tablet (key : String) (pod : Pod) (tablet : Tablet) :
    match tabletOutcome setting key pod tablet desired with
    | .ok () => Pair.Goes setting.replies desired ⟨key, pod, tablet⟩
        ((tabletDeeds setting pod tablet desired).filterMap Deed.call?) none
    | .error fault => Pair.Goes setting.replies desired ⟨key, pod, tablet⟩
        ((tabletDeeds setting pod tablet desired).filterMap Deed.call?) (some fault) := by
  unfold tabletOutcome tabletDeeds
  cases verdict : imagesNeedSlowShutdown ((pod.image? databaseContainer).getD "") desired with
  | error refusal => exact .refused verdict
  | ok needed =>
    cases needed with
    | false => exact .unneeded verdict
    | true =>
      cases reply : (setting.replies.execute tablet.name).fault with
      | none => simp only [reply]; exact .told verdict reply
      | some fault => simp only [reply]; exact .failed verdict reply

/-- One tablet after another, each as it goes on its own. -/
theorem goes_from (pods : List (String × Pod)) :
    Goes setting.replies desired (pairsFrom tablets pods)
      ((deedsFrom setting tablets desired pods).filterMap Deed.call?)
      (outcomeFrom setting tablets desired pods) := by
  induction pods with
  | nil => exact .through .nil
  | cons entry rest ih =>
    obtain ⟨key, pod⟩ := entry
    cases found : tablets.get? key with
    | none =>
      have listed : pairsFrom tablets ((key, pod) :: rest) = pairsFrom tablets rest :=
        List.filterMap_cons_none (by simp [found])
      rw [listed, deedsFrom, outcomeFrom, found]
      exact ih
    | some tablet =>
      have listed : pairsFrom tablets ((key, pod) :: rest) =
          ⟨key, pod, tablet⟩ :: pairsFrom tablets rest :=
        List.filterMap_cons_some (by simp [found])
      have here := @goes_tablet setting desired key pod tablet
      rw [listed, deedsFrom, outcomeFrom, found]
      dsimp only
      cases outcome : tabletOutcome setting key pod tablet desired with
      | error fault =>
        rw [outcome] at here
        rw [List.append_nil]
        exact .first here
      | ok _ =>
        rw [outcome] at here
        rw [List.filterMap_append]
        exact .cons here ih

private theorem span_tabletDeeds (logged : Nat) (pod : Pod) (tablet : Tablet) :
    span setting.replies.publishAfter logged (tabletDeeds setting pod tablet desired) =
      callsTime setting.replies logged
        ((tabletDeeds setting pod tablet desired).filterMap Deed.call?) := by
  unfold tabletDeeds
  cases imagesNeedSlowShutdown ((pod.image? databaseContainer).getD "") desired with
  | error refusal => rfl
  | ok needed =>
    cases needed with
    | false => rfl
    | true =>
      dsimp only
      cases (setting.replies.execute tablet.name).fault with
      | none => exact Nat.zero_add _
      | some fault => exact Nat.zero_add _

/-- What is done for the pairs takes the time of its calls. -/
theorem span_deedsFrom (logged : Nat) (pods : List (String × Pod)) :
    span setting.replies.publishAfter logged (deedsFrom setting tablets desired pods) =
      callsTime setting.replies logged
        ((deedsFrom setting tablets desired pods).filterMap Deed.call?) := by
  induction pods generalizing logged with
  | nil => rfl
  | cons entry rest ih =>
    obtain ⟨key, pod⟩ := entry
    rw [deedsFrom]
    cases tablets.get? key with
    | none => exact ih logged
    | some tablet =>
      dsimp only
      rw [span_append, List.filterMap_append, callsTime_append, span_tabletDeeds]
      cases tabletOutcome setting key pod tablet desired with
      | error fault => rfl
      | ok _ => exact congrArg _ (ih _)

theorem prepare_at (pods : Keyed Pod) (before : Progress) :
    let deeds := deedsFrom setting tablets desired pods.entries
    prepare setting pods tablets desired before =
      ((perform setting deeds before).1.map fun _ => outcomeFrom setting tablets desired pods.entries,
        (perform setting deeds before).2) := by
  intro deeds
  rw [prepare, prepareFrom_eq, script]
  cases reached : perform setting deeds before with
  | mk value after =>
    cases value with
    | none => exact Run.bind_of_none _ reached
    | some _ => exact Run.bind_of_some _ reached

/-- The preparation is not abandoned just when its calls are over by the cutoff. -/
theorem perform_deedsFrom_eq_some_iff {limit : Nat} {pods : List (String × Pod)} {before : Progress}
    (cut : setting.cutoff = some limit) (early : before.now ≤ limit) :
    (perform setting (deedsFrom setting tablets desired pods) before).1 = some () ↔
      before.now + callsTime setting.replies before.log.length
        ((deedsFrom setting tablets desired pods).filterMap Deed.call?) ≤ limit := by
  obtain ⟨after, done, _⟩ := perform_timed cut early (deedsFrom setting tablets desired pods)
  rw [done, span_deedsFrom]
  simp

end Tablets

/-- A preparation that comes to its end has made exactly the calls for the pairs up to the first failure,
and one that is abandoned, since they take too long, a first part of them. It succeeds just if no pair
fails. -/
theorem prepares_up_to_first_failure (setting : Setting) (pods : Keyed Pod) (tablets : Keyed Tablet)
    (desired : String) (before : Progress) :
    ∃ pairs calls outcome made,
      (∀ pair : Pair, pair ∈ pairs ↔
        pods.get? pair.key = some pair.pod ∧ tablets.get? pair.key = some pair.tablet) ∧
      (pairs.map Pair.key).Pairwise (· < ·) ∧
      Goes setting.replies desired pairs calls outcome ∧
      (outcome = .ok () ↔
        ∀ pair ∈ pairs, ∀ own fault, ¬pair.Goes setting.replies desired own (some fault)) ∧
      let done := prepare setting pods tablets desired before
      let stop := before.now + callsTime setting.replies before.log.length calls
      done.2.calls = before.calls ++ made ∧
        (done.1 = some outcome ∧ made = calls ∨
          done.1 = none ∧ made <+: calls ∧ ∃ limit, setting.cutoff = some limit ∧ limit < stop) ∧
        ∀ limit, setting.cutoff = some limit → before.now ≤ limit →
          (done.1 = some outcome ↔ stop ≤ limit) := by
  have goes := @goes_from setting tablets desired pods.entries
  obtain ⟨made, isPrefix, performed, whole⟩ :=
    perform_prefix setting (deedsFrom setting tablets desired pods.entries) before
  refine ⟨_, _, _, made.filterMap Deed.call?, fun pair => mem_pairsFrom, ascending_pairsFrom pods, goes,
    goes.ok_iff, ?_⟩
  intro done stop
  have ends : done = _ := prepare_at pods before
  rw [ends]
  refine ⟨performed.calls, ?_, fun limit cut early => ?_⟩
  · cases value : (perform setting (deedsFrom setting tablets desired pods.entries) before).1 with
    | some _ => exact .inl ⟨rfl, congrArg _ (whole value)⟩
    | none =>
      refine .inr ⟨rfl, isPrefix.filterMap Deed.call?, ?_⟩
      cases cut : setting.cutoff with
      | none => cases value.symm.trans (perform_of_uncut cut _ before)
      | some limit =>
        refine ⟨limit, rfl, Nat.lt_of_not_le fun inTime => ?_⟩
        have early : before.now ≤ limit := (Nat.le_add_right _ _).trans inTime
        cases value.symm.trans ((perform_deedsFrom_eq_some_iff cut early).mpr inTime)
  · refine Iff.trans ?_ (perform_deedsFrom_eq_some_iff cut early)
    cases (perform setting (deedsFrom setting tablets desired pods.entries) before).1 <;> simp

/-- The second of three tablets fails, so that the third is not prepared; and with a cutoff the
preparation is abandoned while the second takes its time. -/
theorem prepares_up_to_first_failure_sample :
    let pod (uid : String) : Pod :=
      { Sample.pod uid [] with containers := some [⟨databaseContainer, some "mysql:8.0.30"⟩] }
    let pods : Keyed Pod := .ofList
      [("zone1-0000000001", pod "1"), ("zone1-0000000002", pod "2"), ("zone1-0000000003", pod "3")]
    let tablets := Sample.cluster.tablets
    let replies := { Sample.slow with execute := fun tablet =>
      ⟨600, if tablet = ⟨"zone1", 2⟩ then some Sample.refusal else none⟩ }
    let failing : Pair := ⟨"zone1-0000000002", pod "2", Sample.tablet 2 .replica⟩
    let failed : Fault := .rpc ("failed to disable fast shutdown for tablet zone1-0000000002: " ++
      "Kubernetes API error: connection refused")
    let whole := prepare ⟨replies, none⟩ pods tablets "mysql:8.0.31" (.start [])
    let cut := prepare ⟨replies, some 1249⟩ pods tablets "mysql:8.0.31" (.start [])
    failing.Goes replies "mysql:8.0.31" [.execute ⟨"zone1", 2⟩ slowShutdown] (some failed) ∧
      whole.1 = some (.error failed) ∧
      whole.2.calls = [.execute ⟨"zone1", 1⟩ slowShutdown,
        .event .normal (pod "1").ref "MySQL_Upgrade" "innodb_fast_shutdown = 0 to prepare MySQL upgrade",
        .execute ⟨"zone1", 2⟩ slowShutdown] ∧
      (∃ pairs, failing ∈ pairs ∧ Goes replies "mysql:8.0.31" pairs whole.2.calls (.error failed)) ∧
      cut.1 = none ∧ ∃ calls, cut.2.calls <+: calls ∧ 1249 < callsTime replies 0 calls := by
  intro pod pods tablets replies failing failed whole cut
  have needed : imagesNeedSlowShutdown ((failing.pod.image? databaseContainer).getD "") "mysql:8.0.31" =
      .ok true := by decide
  have unsent : (replies.execute failing.tablet.name).fault = some Sample.refusal := rfl
  have fails : failing.Goes replies "mysql:8.0.31" [.execute ⟨"zone1", 2⟩ slowShutdown] (some failed) :=
    .failed needed unsent
  have result : whole.1 = some (.error failed) := by decide +kernel
  have abandoned : cut.1 = none := by decide +kernel
  refine ⟨fails, result, by decide +kernel, ?_, abandoned, ?_⟩
  · obtain ⟨pairs, calls, outcome, made, members, _, goes, _, logged, ends, _⟩ :=
      prepares_up_to_first_failure ⟨replies, none⟩ pods tablets "mysql:8.0.31" (.start [])
    refine ⟨pairs, (members failing).mpr ⟨by decide, by decide⟩, ?_⟩
    rcases ends with ⟨ended, same⟩ | ⟨ended, _⟩
    · cases Option.some.inj (ended.symm.trans result)
      rw [show whole.2.calls = [] ++ made from logged, List.nil_append, same]
      exact goes
    · cases ended.symm.trans result
  · obtain ⟨_, calls, _, made, _, _, _, _, logged, ends, _⟩ :=
      prepares_up_to_first_failure ⟨replies, some 1249⟩ pods tablets "mysql:8.0.31" (.start [])
    rcases ends with ⟨ended, _⟩ | ⟨_, isPrefix, limit, same, late⟩
    · cases ended.symm.trans abandoned
    · cases same
      refine ⟨calls, ?_, late.trans_eq (Nat.zero_add _)⟩
      rw [show cut.2.calls = [] ++ made from logged, List.nil_append]
      exact isPrefix

end TabletDrain.Upgrade
