import TabletDrain.Drain.States
import TabletDrain.Proofs.Keyed

/-! One step of the drain states of a shard, key by key: which keys are left, that each is
acknowledged or finished, and exactly when it is finished. -/
namespace TabletDrain.Drain

open DrainState

def allAcknowledged (entries : List (String × DrainState)) : List (String × DrainState) :=
  (entries.filter fun entry => entry.2 ≠ notDraining).map fun entry => (entry.1, acknowledged)

private theorem mem_allAcknowledged {entries : List (String × DrainState)} {key : String}
    {state : DrainState} :
    (key, state) ∈ allAcknowledged entries ↔
      state = acknowledged ∧ ∃ old, (key, old) ∈ entries ∧ old ≠ notDraining := by
  constructor
  · intro member
    obtain ⟨⟨k, old⟩, inside, same⟩ := List.mem_map.mp member
    simp only [List.mem_filter, decide_eq_true_eq] at inside
    cases same
    exact ⟨rfl, old, inside.1, inside.2⟩
  · intro both
    obtain ⟨rfl, old, inside, requested⟩ := both
    exact List.mem_map.mpr ⟨(key, old), List.mem_filter.mpr ⟨inside, by simpa using requested⟩, rfl⟩

private theorem settle_append {first : List (String × DrainState)}
    (unfinished : ∀ entry ∈ first, entry.2 ≠ finished) (haveFinished : Bool)
    (rest : List (String × DrainState)) :
    settle haveFinished (first ++ rest) = allAcknowledged first ++ settle haveFinished rest := by
  induction first with
  | nil => rfl
  | cons entry first ih =>
    obtain ⟨key, state⟩ := entry
    have tail := ih fun entry member => unfinished entry (List.mem_cons_of_mem _ member)
    have here := unfinished (key, state) (List.mem_cons_self)
    cases state with
    | notDraining => simpa [settle, allAcknowledged] using tail
    | draining => simpa [settle, allAcknowledged] using tail
    | acknowledged => simpa [settle, allAcknowledged] using tail
    | finished => exact absurd rfl here

private theorem settle_true (entries : List (String × DrainState)) :
    settle true entries = allAcknowledged entries := by
  induction entries with
  | nil => rfl
  | cons entry rest ih =>
    obtain ⟨key, state⟩ := entry
    cases state <;> simpa [settle, allAcknowledged] using ih

/-- Either nothing is finished, or the entries split at the first that is. -/
private theorem settle_false (entries : List (String × DrainState)) :
    (∀ entry ∈ entries, entry.2 ≠ finished) ∧ settle false entries = allAcknowledged entries ∨
      ∃ before key after, entries = before ++ (key, finished) :: after ∧
        (∀ entry ∈ before, entry.2 ≠ finished) ∧
        settle false entries = allAcknowledged before ++ (key, finished) :: allAcknowledged after := by
  cases found : entries.find? (fun entry => entry.2 = finished) with
  | none =>
    have unfinished : ∀ entry ∈ entries, entry.2 ≠ finished := by simpa using found
    refine .inl ⟨unfinished, ?_⟩
    simpa [settle] using settle_append unfinished false []
  | some entry =>
    obtain ⟨isFinished, before, after, split, unfinished⟩ := List.find?_eq_some_iff_append.mp found
    obtain ⟨key, state⟩ := entry
    have state_eq : state = finished := by simpa using isFinished
    subst state_eq
    have unfinished : ∀ entry ∈ before, entry.2 ≠ finished := by simpa using unfinished
    refine .inr ⟨before, key, after, split, unfinished, ?_⟩
    rw [split, settle_append unfinished]
    simp [settle, settle_true]

variable {states : Keyed DrainState} {primary : Option String} {key : String}

def LeadsFinished (states : Keyed DrainState) (key : String) : Prop :=
  states.get? key = some finished ∧ ∀ other, states.get? other = some finished → key ≤ other

/-- Some pod has a request that is settled neither way: it is new, or finished already. -/
def Busy (states : Keyed DrainState) : Prop :=
  ∃ key, states.get? key = some finished ∨ states.get? key = some draining

theorem holds_iff {state : DrainState} :
    holds states state = true ↔ ∃ key, states.get? key = some state := by
  simp only [holds, Keyed.values, List.any_map, List.any_eq_true, Function.comp_apply,
    decide_eq_true_eq]
  constructor
  · intro both
    obtain ⟨⟨key, old⟩, member, rfl⟩ := both
    exact ⟨key, Keyed.get?_of_mem member⟩
  · intro both
    obtain ⟨key, found⟩ := both
    exact ⟨(key, state), Keyed.mem_entries_iff.mpr found, rfl⟩

theorem busy_iff : Busy states ↔ (holds states finished || holds states draining) = true := by
  simp only [Busy, Bool.or_eq_true, holds_iff, exists_or]

private theorem leadsFinished_of_split {before after : List (String × DrainState)} {first : String}
    (split : states.entries = before ++ (first, finished) :: after)
    (unfinished : ∀ entry ∈ before, entry.2 ≠ finished) :
    LeadsFinished states key ↔ key = first := by
  have ascending := List.pairwise_map.mp states.ascending
  rw [split, List.pairwise_append, List.pairwise_cons] at ascending
  have least : ∀ other, (other, finished) ∈ states.entries → first ≤ other := by
    intro other member
    rw [split, List.mem_append, List.mem_cons] at member
    rcases member with inside | same | inside
    · exact absurd rfl (unfinished _ inside)
    · cases same
      exact String.le_refl _
    · exact Std.le_of_lt (ascending.2.1.1 _ inside)
  have here : (first, finished) ∈ states.entries := by simp [split]
  constructor
  · intro both
    obtain ⟨isFinished, leads⟩ := both
    have below := leads first (Keyed.mem_entries_iff.mp here)
    have above := least key (Keyed.mem_entries_iff.mpr isFinished)
    exact String.le_antisymm below above
  · intro same
    subst same
    exact ⟨Keyed.mem_entries_iff.mp here,
      fun other found => least other (Keyed.mem_entries_iff.mpr found)⟩

private theorem mem_settled {state : DrainState} :
    (key, state) ∈ (settled states).entries ↔
      (state = finished ∧ LeadsFinished states key) ∨
      (state = acknowledged ∧ ¬LeadsFinished states key ∧
        ∃ old, states.get? key = some old ∧ old ≠ notDraining) := by
  rcases settle_false states.entries with ⟨unfinished, equal⟩ | ⟨before, first, after, split, unfinished, equal⟩
  · have leaderless : ¬LeadsFinished states key := fun leads =>
      unfinished _ (Keyed.mem_entries_iff.mpr leads.1) rfl
    change (key, state) ∈ settle false states.entries ↔ _
    rw [equal, mem_allAcknowledged]
    simp [leaderless, Keyed.mem_entries_iff]
  · have leads : LeadsFinished states key ↔ key = first := leadsFinished_of_split split unfinished
    change (key, state) ∈ settle false states.entries ↔ _
    rw [equal, List.mem_append, List.mem_cons, mem_allAcknowledged, mem_allAcknowledged, leads]
    have nodup := states.nodup_keys
    rw [split, List.map_append, List.map_cons, List.nodup_append] at nodup
    simp only [← Keyed.mem_entries_iff, split, List.mem_append, List.mem_cons]
    by_cases same : key = first
    · subst same
      have absentBefore : ∀ old, (key, old) ∉ before := by
        intro old member
        exact nodup.2.2 key (List.mem_map_of_mem member) key (List.mem_cons_self) rfl
      have absentAfter : ∀ old, (key, old) ∉ after := by
        intro old member
        exact (List.nodup_cons.mp nodup.2.1).1 (List.mem_map.mpr ⟨_, member, rfl⟩)
      simp [absentBefore, absentAfter]
    · simp only [Prod.mk.injEq, same, false_and, false_or, and_false, not_false_eq_true, true_and]
      rw [← and_or_left]
      constructor
      · intro both
        obtain ⟨isAcknowledged, ⟨old, inside⟩ | ⟨old, inside⟩⟩ := both
        · exact ⟨isAcknowledged, old, .inl inside.1, inside.2⟩
        · exact ⟨isAcknowledged, old, .inr inside.1, inside.2⟩
      · intro both
        obtain ⟨isAcknowledged, old, inside | inside, requested⟩ := both
        · exact ⟨isAcknowledged, .inl ⟨old, inside, requested⟩⟩
        · exact ⟨isAcknowledged, .inr ⟨old, inside, requested⟩⟩

private theorem find_eq_some_iff {keys : List String} (ascending : keys.Pairwise (· < ·)) :
    keys.find? (fun key => some key ≠ primary) = some key ↔
      key ∈ keys ∧ some key ≠ primary ∧ ∀ other ∈ keys, some other ≠ primary → key ≤ other := by
  rw [List.find?_eq_some_iff_append]
  constructor
  · intro both
    obtain ⟨allowed, before, after, rfl, primaries⟩ := both
    refine ⟨by simp, by simpa using allowed, ?_⟩
    intro other member secondary
    rw [List.pairwise_append, List.pairwise_cons] at ascending
    rcases List.mem_append.mp member with inside | inside
    · exact absurd (by simpa using primaries other inside) secondary
    · rcases List.mem_cons.mp inside with rfl | inside
      · exact String.le_refl _
      · exact Std.le_of_lt (ascending.2.1.1 other inside)
  · intro both
    obtain ⟨member, secondary, least⟩ := both
    obtain ⟨before, after, rfl⟩ := List.append_of_mem member
    refine ⟨by simpa using secondary, before, after, rfl, ?_⟩
    intro other inside
    rw [List.pairwise_append] at ascending
    have less := ascending.2.2 other inside key (List.mem_cons_self)
    by_contra notPrimary
    have least := least other (by simp [inside]) (by simpa using notPrimary)
    exact absurd less (Std.not_lt.mpr least)

/-- The first that is not the primary is picked; the primary only where it is alone. -/
theorem pick_eq_some_iff {keys : List String} (ascending : keys.Pairwise (· < ·)) :
    pick primary keys = some key ↔
      (key ∈ keys ∧ some key ≠ primary ∧ ∀ other ∈ keys, some other ≠ primary → key ≤ other) ∨
      (some key = primary ∧ keys = [key]) := by
  rw [← find_eq_some_iff ascending, pick]
  cases found : keys.find? (fun key => some key ≠ primary) with
  | some first =>
    have inside := List.mem_of_find?_eq_some found
    have secondary : some first ≠ primary := by simpa using List.find?_some found
    simp only [Option.some_or, Option.some.injEq]
    constructor
    · exact .inl
    · intro either
      rcases either with same | ⟨isPrimary, rfl⟩
      · exact same
      · exact absurd (List.mem_singleton.mp inside ▸ isPrimary) secondary
  | none =>
    have primaries : ∀ other ∈ keys, some other = primary := by simpa using found
    simp only [Option.none_or, reduceCtorEq, false_or]
    cases keys with
    | nil => simp
    | cons first rest =>
      have isPrimary := primaries first (List.mem_cons_self)
      have alone : rest = [] := by
        apply List.eq_nil_iff_forall_not_mem.mpr
        intro other inside
        have same : first = other := Option.some.inj
          (isPrimary.trans (primaries other (List.mem_cons_of_mem _ inside)).symm)
        exact String.lt_irrefl _ (same ▸ (List.pairwise_cons.mp ascending).1 other inside)
      subst alone
      simp only [List.head?_cons, Option.some.injEq, List.cons.injEq, and_true]
      constructor
      · intro same
        subst same
        exact ⟨isPrimary, rfl⟩
      · exact And.right

theorem mem_waiting {next : Keyed DrainState} :
    key ∈ waiting next ↔ next.get? key = some acknowledged := by
  rw [← Keyed.mem_entries_iff]
  simp only [waiting, List.mem_map, List.mem_filter, decide_eq_true_eq]
  constructor
  · intro both
    obtain ⟨⟨k, state⟩, ⟨member, rfl⟩, rfl⟩ := both
    exact member
  · intro member
    exact ⟨(key, acknowledged), ⟨member, rfl⟩, rfl⟩

theorem waiting_ascending (next : Keyed DrainState) : (waiting next).Pairwise (· < ·) :=
  next.ascending.sublist (List.filter_sublist.map Prod.fst)

private theorem get?_settled_quiet (quiet : ¬Busy states) :
    (settled states).get? key = some acknowledged ↔ states.get? key = some acknowledged := by
  rw [← Keyed.mem_entries_iff, mem_settled]
  have leaderless : ¬LeadsFinished states key := fun leads => quiet ⟨key, .inl leads.1⟩
  simp only [reduceCtorEq, false_and, leaderless, not_false_eq_true, true_and, false_or]
  constructor
  · intro both
    obtain ⟨old, found, requested⟩ := both
    cases old with
    | notDraining => exact absurd rfl requested
    | draining => exact absurd ⟨key, .inr found⟩ quiet
    | acknowledged => exact found
    | finished => exact absurd ⟨key, .inl found⟩ quiet
  · intro found
    exact ⟨acknowledged, found, by decide⟩

/-- The key is next to be promoted: nothing is new or finished, and it is the first acknowledged one
that is not the primary, or the primary when that alone is acknowledged. -/
def Promoted (states : Keyed DrainState) (primary : Option String) (key : String) : Prop :=
  ¬Busy states ∧ states.get? key = some acknowledged ∧
    ((some key ≠ primary ∧
        ∀ other, states.get? other = some acknowledged → some other ≠ primary → key ≤ other) ∨
      (some key = primary ∧ ∀ other, states.get? other = some acknowledged → other = key))

theorem pick_waiting_eq_some_iff (quiet : ¬Busy states) :
    pick primary (waiting (settled states)) = some key ↔ Promoted states primary key := by
  rw [pick_eq_some_iff (waiting_ascending _)]
  simp only [mem_waiting, get?_settled_quiet quiet, Promoted, quiet, not_false_eq_true, true_and]
  have alone : waiting (settled states) = [key] ↔ states.get? key = some acknowledged ∧
      ∀ other, states.get? other = some acknowledged → other = key := by
    have member (other : String) :
        other ∈ waiting (settled states) ↔ states.get? other = some acknowledged :=
      mem_waiting.trans (get?_settled_quiet quiet)
    have nodup : (waiting (settled states)).Nodup := by
      apply (waiting_ascending _).imp
      intro a b before same
      exact String.lt_irrefl b (same ▸ before)
    rw [← List.perm_singleton, List.perm_ext_iff_of_nodup nodup (List.nodup_singleton key)]
    simp only [member, List.mem_singleton]
    exact ⟨fun same => ⟨(same key).mpr rfl, fun other => (same other).mp⟩,
      fun ⟨found, only⟩ other => ⟨only other, fun same => same ▸ found⟩⟩
  rw [alone]
  constructor
  · intro either
    rcases either with ⟨found, secondary, least⟩ | ⟨isPrimary, found, alone⟩
    · exact ⟨found, .inl ⟨secondary, least⟩⟩
    · exact ⟨found, .inr ⟨isPrimary, alone⟩⟩
  · intro both
    obtain ⟨found, ⟨secondary, least⟩ | ⟨isPrimary, alone⟩⟩ := both
    · exact .inl ⟨found, secondary, least⟩
    · exact .inr ⟨isPrimary, found, alone⟩

theorem exists_promoted (quiet : ¬Busy states) (waits : states.get? key = some acknowledged)
    (secondary : some key ≠ primary) :
    ∃ first, Promoted states primary first ∧ some first ≠ primary := by
  have inside : key ∈ waiting (settled states) :=
    mem_waiting.mpr ((get?_settled_quiet quiet).mpr waits)
  cases found : (waiting (settled states)).find? (fun key => some key ≠ primary) with
  | none => exact absurd secondary (by simpa using List.find?_eq_none.mp found key inside)
  | some first =>
    refine ⟨first, (pick_waiting_eq_some_iff quiet).mp ?_, by simpa using List.find?_some found⟩
    rw [pick, found, Option.some_or]

theorem exists_promoted_of_waits (quiet : ¬Busy states) (waits : states.get? key = some acknowledged)
    (primary : Option String) : ∃ first, Promoted states primary first := by
  have inside : key ∈ waiting (settled states) :=
    mem_waiting.mpr ((get?_settled_quiet quiet).mpr waits)
  cases found : pick primary (waiting (settled states)) with
  | none =>
    have empty : waiting (settled states) = [] :=
      List.head?_eq_none_iff.mp (Option.or_eq_none_iff.mp found).2
    rw [empty] at inside
    cases inside
  | some first => exact ⟨first, (pick_waiting_eq_some_iff quiet).mp found⟩

/-- Exactly which pod is finished after a step. -/
theorem get?_advance_eq_finished_iff :
    (advance states primary).get? key = some finished ↔
      LeadsFinished states key ∨ Promoted states primary key := by
  unfold advance
  by_cases busy : Busy states
  · have promoted : ¬Promoted states primary key := fun promoted => promoted.1 busy
    rw [if_pos (busy_iff.mp busy), ← Keyed.mem_entries_iff, mem_settled]
    simp [promoted]
  · have leaderless (key : String) : ¬LeadsFinished states key := fun leads => busy ⟨key, .inl leads.1⟩
    rw [if_neg (mt busy_iff.mpr busy), ← pick_waiting_eq_some_iff busy]
    have unfinished : (settled states).get? key ≠ some finished := by
      rw [Ne, ← Keyed.mem_entries_iff, mem_settled]
      simp [leaderless]
    cases pick primary (waiting (settled states)) with
    | none => simp [unfinished, leaderless]
    | some picked =>
      by_cases same : picked = key <;> simp [Keyed.get?_insert, same, unfinished, leaderless]

theorem get?_advance_eq_acknowledged_iff :
    (advance states primary).get? key = some acknowledged ↔
      (∃ old, states.get? key = some old ∧ old ≠ notDraining) ∧
        ¬LeadsFinished states key ∧ ¬Promoted states primary key := by
  have settledKey : (settled states).get? key = some acknowledged ↔
      (∃ old, states.get? key = some old ∧ old ≠ notDraining) ∧ ¬LeadsFinished states key := by
    rw [← Keyed.mem_entries_iff, mem_settled]
    simp [and_comm]
  rw [← and_assoc, ← settledKey]
  unfold advance
  by_cases busy : Busy states
  · have promoted : ¬Promoted states primary key := fun promoted => promoted.1 busy
    simp [busy_iff.mp busy, promoted]
  · rw [if_neg (mt busy_iff.mpr busy), ← pick_waiting_eq_some_iff busy]
    cases pick primary (waiting (settled states)) with
    | none => simp
    | some picked => by_cases same : picked = key <;> simp [Keyed.get?_insert, same]

theorem state_of_get?_advance {state : DrainState}
    (found : (advance states primary).get? key = some state) :
    state = acknowledged ∨ state = finished := by
  have settledState {state : DrainState} (found : (settled states).get? key = some state) :
      state = acknowledged ∨ state = finished := by
    rcases mem_settled.mp (Keyed.mem_entries_iff.mpr found) with ⟨same, _⟩ | ⟨same, _⟩
    · exact .inr same
    · exact .inl same
  unfold advance at found
  split at found
  · exact settledState found
  · dsimp only at found
    split at found
    · rw [Keyed.get?_insert] at found
      split at found
      · exact .inr (Option.some.inj found).symm
      · exact settledState found
    · exact settledState found

theorem exists_of_get?_advance {state : DrainState}
    (found : (advance states primary).get? key = some state) :
    ∃ old, states.get? key = some old ∧ old ≠ notDraining := by
  rcases state_of_get?_advance found with same | same
  · rw [same] at found
    exact (get?_advance_eq_acknowledged_iff.mp found).1
  · rw [same] at found
    rcases get?_advance_eq_finished_iff.mp found with leads | promoted
    · exact ⟨finished, leads.1, by decide⟩
    · exact ⟨acknowledged, promoted.2.1, by decide⟩

theorem exists_get?_advance {old : DrainState} (found : states.get? key = some old)
    (requested : old ≠ notDraining) : ∃ state, (advance states primary).get? key = some state := by
  by_cases done : LeadsFinished states key ∨ Promoted states primary key
  · exact ⟨_, get?_advance_eq_finished_iff.mpr done⟩
  · obtain ⟨behind, waits⟩ := not_or.mp done
    exact ⟨_, get?_advance_eq_acknowledged_iff.mpr ⟨⟨old, found, requested⟩, behind, waits⟩⟩

theorem finished_unique {other : String}
    (first : (advance states primary).get? key = some finished)
    (second : (advance states primary).get? other = some finished) : key = other := by
  rcases get?_advance_eq_finished_iff.mp first with leads | ⟨quiet, found, turn⟩ <;>
    rcases get?_advance_eq_finished_iff.mp second with leads' | ⟨quiet', found', turn'⟩
  · exact String.le_antisymm (leads.2 other leads'.1) (leads'.2 key leads.1)
  · exact absurd ⟨key, .inl leads.1⟩ quiet'
  · exact absurd ⟨other, .inl leads'.1⟩ quiet
  · rcases turn with ⟨secondary, least⟩ | ⟨isPrimary, only⟩
    · rcases turn' with ⟨secondary', least'⟩ | ⟨isPrimary', only'⟩
      · exact String.le_antisymm (least other found' secondary') (least' key found secondary)
      · exact only' key found
    · exact (only other found').symm

/-- Where every request is acknowledged, one is promoted and the others stay. -/
theorem get?_advance_of_promoted {first : String} {state : DrainState}
    (promoted : Promoted states primary first)
    (all : ∀ key old, states.get? key = some old → old = acknowledged) :
    (advance states primary).get? key = some state ↔
      key = first ∧ state = finished ∨
        key ≠ first ∧ states.get? key = some acknowledged ∧ state = acknowledged := by
  have chosen : (advance states primary).get? first = some finished :=
    get?_advance_eq_finished_iff.mpr (.inr promoted)
  by_cases same : key = first
  · subst same
    rw [chosen]
    simp [eq_comm]
  · simp only [same, false_and, false_or, ne_eq, not_false_eq_true, true_and]
    constructor
    · intro stepped
      obtain ⟨old, found, _⟩ := exists_of_get?_advance stepped
      have isAcknowledged := all key old found
      subst isAcknowledged
      refine ⟨found, ?_⟩
      rcases state_of_get?_advance stepped with same | isFinished
      · exact same
      · subst isFinished
        exact absurd (finished_unique stepped chosen) same
    · intro waits
      obtain ⟨found, isAcknowledged⟩ := waits
      subst isAcknowledged
      refine get?_advance_eq_acknowledged_iff.mpr ⟨⟨_, found, by decide⟩, ?_, ?_⟩
      · exact fun leads => absurd (all key _ leads.1) (by decide)
      · exact fun other => same (finished_unique (get?_advance_eq_finished_iff.mpr (.inr other)) chosen)

/-- Where every request is new, all are acknowledged and none is promoted. -/
theorem get?_advance_of_draining {state : DrainState}
    (all : ∀ key old, states.get? key = some old → old = draining) :
    (advance states primary).get? key = some state ↔
      states.get? key = some draining ∧ state = acknowledged := by
  have leaderless (key : String) : ¬LeadsFinished states key := fun leads =>
    absurd (all key _ leads.1) (by decide)
  have unpromoted (key : String) : ¬Promoted states primary key := fun promoted =>
    absurd (all key _ promoted.2.1) (by decide)
  constructor
  · intro stepped
    obtain ⟨old, found, _⟩ := exists_of_get?_advance stepped
    refine ⟨all key old found ▸ found, ?_⟩
    rcases state_of_get?_advance stepped with same | isFinished
    · exact same
    · subst isFinished
      rcases get?_advance_eq_finished_iff.mp stepped with leads | promoted
      · exact absurd leads (leaderless key)
      · exact absurd promoted (unpromoted key)
  · intro found
    obtain ⟨found, isAcknowledged⟩ := found
    subst isAcknowledged
    exact get?_advance_eq_acknowledged_iff.mpr
      ⟨⟨_, found, by decide⟩, leaderless key, unpromoted key⟩

end TabletDrain.Drain
