import TabletDrain.Proofs.Pass.Transfer
import TabletDrain.Proofs.Position.Order

/-! The choice of a new primary as a race. Of the tablets that could take over, those that tell a position
in time respond, one after another; the lead passes from one response to the next, and whoever leads
after the last one is chosen. -/
namespace TabletDrain.Succession

/-- What a choice is made from. -/
structure Race where
  setting : Setting
  record : ShardRecord
  tablets : Keyed Tablet
  pods : Keyed Pod
  external : Bool
  timeout : Nat

structure Response where
  key : String
  tablet : Tablet
  time : Nat
  position : Position
  deriving DecidableEq

namespace Response

/-- Responses are looked at as they come in, and those of one instant in the order of their keys. -/
def Before (a b : Response) : Prop := a.time < b.time ∨ a.time = b.time ∧ a.key < b.key

def answer (response : Response) : Answer := ⟨response.tablet, response.time, some response.position⟩

def lead (response : Response) : Lead := ⟨some response.tablet, response.position⟩

end Response

/-- Who leads after some responses. -/
def leader (responses : List Response) : Lead :=
  responses.foldl (fun lead response => lead.next response.answer) .start

theorem leader_concat (responses : List Response) (response : Response) :
    leader (responses ++ [response]) = (leader responses).next response.answer :=
  List.foldl_concat _ _ _ _

/-- A response takes the lead, unless a position that is not zero includes its own. -/
theorem next_answer (lead : Lead) (response : Response) :
    lead.next response.answer =
      if lead.position.isZero = true ∨ ¬lead.position.atLeast response.position = true then
        response.lead
      else lead := by
  unfold Lead.next Response.answer
  simp only [Bool.or_eq_true, Bool.not_eq_true', Bool.not_eq_true]
  rfl

/-- Sorting keeps the order among those that the comparison takes for equal. -/
theorem pairwise_mergeSort_of_pairwise {α : Type} (le : α → α → Bool) {R : α → α → Prop}
    (trans : ∀ a b c, le a b = true → le b c = true → le a c = true)
    (total : ∀ a b, (le a b || le b a) = true) {items : List α} (ordered : items.Pairwise R) :
    (items.mergeSort le).Pairwise fun a b => le a b = true ∧ (le b a = true → R a b) := by
  induction items with
  | nil => simp
  | cons item rest ih =>
    obtain ⟨ahead, ordered⟩ := List.pairwise_cons.mp ordered
    obtain ⟨before, after, sorted, sorted', less⟩ := List.mergeSort_cons trans total item rest
    have sound := ih ordered
    rw [sorted', List.pairwise_append] at sound
    have follow : ∀ other ∈ after, other ∈ rest := fun other member =>
      List.mem_mergeSort.mp (sorted' ▸ List.mem_append_right before member)
    have whole := List.pairwise_mergeSort trans total (item :: rest)
    rw [sorted, List.pairwise_append, List.pairwise_cons] at whole
    rw [sorted, List.pairwise_append, List.pairwise_cons]
    refine ⟨sound.1, ⟨fun other member => ?_, sound.2.1⟩, fun first member other member' => ?_⟩
    · exact ⟨whole.2.1.1 other member, fun _ => ahead other (follow other member)⟩
    · rcases List.mem_cons.mp member' with rfl | inside
      · have earlier : ¬le other first = true := by simpa using less first member
        exact ⟨whole.2.2 first member other List.mem_cons_self, fun later => absurd later earlier⟩
      · exact sound.2.2 first member other inside

namespace Race

variable (race : Race)

def eligible : List Tablet :=
  Succession.eligible race.record race.tablets race.pods race.external

/-- The tablets that are asked, under their keys. -/
def asked : List (String × Tablet) :=
  race.tablets.entries.filter fun entry =>
    match race.pods.get? entry.1 with
    | some pod => isEligible race.record race.external entry.2 pod
    | none => false

def heard (entry : String × Tablet) : Answer :=
  answer race.timeout race.setting.replies.replicationStatus entry.2

def response? (entry : String × Tablet) : Option Response :=
  let reply := race.setting.replies.replicationStatus entry.2.name
  if reply.delay ≤ race.timeout then
    (decoded? (reply.outcome entry.2.name)).map fun position => ⟨entry.1, entry.2, reply.delay, position⟩
  else none

def responses : List Response :=
  (race.asked.mergeSort fun a b => (race.heard a).time ≤ (race.heard b).time).filterMap race.response?

/-- A tablet that could take over tells in time how far it has got. -/
structure Tells (response : Response) : Prop where
  recorded : race.tablets.get? response.key = some response.tablet
  eligible : ∃ pod, race.pods.get? response.key = some pod ∧
    isEligible race.record race.external response.tablet pod = true
  time : (race.setting.replies.replicationStatus response.tablet.name).delay = response.time
  inTime : response.time ≤ race.timeout
  position : decoded? ((race.setting.replies.replicationStatus response.tablet.name).outcome
    response.tablet.name) = some response.position

/-- These are all the responses, in the order in which they come in. -/
structure Hears (responses : List Response) : Prop where
  mem_iff : ∀ response, response ∈ responses ↔ race.Tells response
  inOrder : responses.Pairwise Response.Before

/-- The tablet is chosen, unless the choice is abandoned before the time for answers is over. -/
def Chooses (tablet : Tablet) : Prop :=
  ∀ before : Progress,
    let outcome := (newPrimary race.setting race.record race.tablets race.pods race.external
      race.timeout before).1
    outcome = some (some tablet) ∨
      outcome = none ∧ ∃ limit, race.setting.cutoff = some limit ∧ limit < before.now + race.timeout

variable {race}

theorem mem_asked {entry : String × Tablet} :
    entry ∈ race.asked ↔ race.tablets.get? entry.1 = some entry.2 ∧
      ∃ pod, race.pods.get? entry.1 = some pod ∧
        isEligible race.record race.external entry.2 pod = true := by
  rw [asked, List.mem_filter, ← Keyed.mem_entries_iff]
  cases race.pods.get? entry.1 <;> simp

variable (race) in
theorem eligible_eq : race.eligible = race.asked.map Prod.snd := by
  rw [eligible, Succession.eligible, asked, ← List.filterMap_eq_filter, List.map_filterMap]
  refine List.filterMap_congr fun entry _ => ?_
  cases found : race.pods.get? entry.1 with
  | none => simp [Option.guard, found]
  | some pod =>
    by_cases fit : isEligible race.record race.external entry.2 pod = true <;>
      simp [Option.guard, found, fit]

theorem response?_eq_some_iff {entry : String × Tablet} {response : Response} :
    race.response? entry = some response ↔
      entry = (response.key, response.tablet) ∧
        (race.setting.replies.replicationStatus response.tablet.name).delay = response.time ∧
        response.time ≤ race.timeout ∧
        decoded? ((race.setting.replies.replicationStatus response.tablet.name).outcome
          response.tablet.name) = some response.position := by
  obtain ⟨key, tablet⟩ := entry
  obtain ⟨key', tablet', time, position⟩ := response
  unfold response?
  dsimp only
  split
  · rename_i early
    simp only [Option.map_eq_some_iff, Response.mk.injEq, Prod.mk.injEq]
    constructor
    · rintro ⟨_, told, rfl, rfl, rfl, rfl⟩
      exact ⟨⟨rfl, rfl⟩, rfl, early, told⟩
    · rintro ⟨⟨rfl, rfl⟩, rfl, _, told⟩
      exact ⟨position, told, rfl, rfl, rfl, rfl⟩
  · rename_i late
    simp only [reduceCtorEq, Prod.mk.injEq, false_iff]
    rintro ⟨⟨rfl, rfl⟩, rfl, early, _⟩
    exact late early

theorem time_heard {entry : String × Tablet} {response : Response}
    (responds : race.response? entry = some response) : (race.heard entry).time = response.time := by
  obtain ⟨rfl, time, early, _⟩ := response?_eq_some_iff.mp responds
  rw [← time] at early ⊢
  simp only [heard, Succession.answer, early, if_true]

theorem mem_responses {response : Response} : response ∈ race.responses ↔ race.Tells response := by
  rw [responses, List.mem_filterMap]
  constructor
  · rintro ⟨entry, member, responds⟩
    obtain ⟨rfl, time, early, position⟩ := response?_eq_some_iff.mp responds
    obtain ⟨recorded, eligible⟩ := mem_asked.mp (List.mem_mergeSort.mp member)
    exact ⟨recorded, eligible, time, early, position⟩
  · intro tells
    refine ⟨(response.key, response.tablet), List.mem_mergeSort.mpr ?_, ?_⟩
    · exact mem_asked.mpr ⟨tells.recorded, tells.eligible⟩
    · exact response?_eq_some_iff.mpr ⟨rfl, tells.time, tells.inTime, tells.position⟩

variable (race) in
theorem responses_inOrder : race.responses.Pairwise Response.Before := by
  have keys : race.asked.Pairwise fun a b => a.1 < b.1 :=
    (List.pairwise_map.mp race.tablets.ascending).filter _
  have sorted := pairwise_mergeSort_of_pairwise
    (fun a b => decide ((race.heard a).time ≤ (race.heard b).time))
    (by simpa using fun _ _ _ _ _ _ => Nat.le_trans) (by simpa using fun _ _ _ _ => Nat.le_total _ _)
    keys
  rw [responses, List.pairwise_filterMap]
  refine sorted.imp fun {first second} order a responds b responds' => ?_
  simp only [decide_eq_true_eq, time_heard responds, time_heard responds'] at order
  obtain ⟨rfl, _⟩ := response?_eq_some_iff.mp responds
  obtain ⟨rfl, _⟩ := response?_eq_some_iff.mp responds'
  rcases Nat.lt_or_eq_of_le order.1 with earlier | together
  · exact .inl earlier
  · exact .inr ⟨together, order.2 together.ge⟩

theorem hears_iff {responses : List Response} : race.Hears responses ↔ responses = race.responses := by
  constructor
  · intro hears
    have irrefl (a : Response) : ¬a.Before a := fun before =>
      before.elim (Nat.lt_irrefl _) fun same => String.lt_irrefl _ same.2
    have nodup {list : List Response} (ordered : list.Pairwise Response.Before) : list.Nodup := by
      refine ordered.imp ?_
      rintro a _ before rfl
      exact irrefl a before
    have permuted : responses.Perm race.responses := by
      rw [List.perm_ext_iff_of_nodup (nodup hears.inOrder) (nodup race.responses_inOrder)]
      exact fun response => (hears.mem_iff response).trans mem_responses.symm
    refine permuted.eq_of_pairwise (fun a b _ _ before after => ?_) hears.inOrder
      race.responses_inOrder
    rcases before with earlier | ⟨together, less⟩
    · rcases after with later | ⟨together, _⟩
      · exact absurd (Nat.lt_trans earlier later) (Nat.lt_irrefl _)
      · exact absurd earlier (together ▸ Nat.lt_irrefl _)
    · rcases after with later | ⟨_, greater⟩
      · exact absurd later (together ▸ Nat.lt_irrefl _)
      · exact absurd (String.lt_trans less greater) (String.lt_irrefl _)
  · rintro rfl
    exact ⟨fun response => mem_responses, race.responses_inOrder⟩

variable (race) in
/-- Answers that tell no position change nothing. -/
theorem next_heard (lead : Lead) (entry : String × Tablet) :
    lead.next (race.heard entry) =
      match race.response? entry with
      | some response => lead.next response.answer
      | none => lead := by
  unfold heard response? Succession.answer
  dsimp only
  split
  · cases decoded? _ <;> rfl
  · rfl

variable (race) in
theorem furthest_answers :
    furthest (answers race.timeout race.setting.replies.replicationStatus race.eligible) =
      (leader race.responses).tablet := by
  have inTurn : answers race.timeout race.setting.replies.replicationStatus race.eligible =
      (race.asked.mergeSort fun a b => (race.heard a).time ≤ (race.heard b).time).map race.heard := by
    rw [answers, eligible_eq, List.map_map]
    exact (List.map_mergeSort (f := race.heard) fun _ _ _ _ => rfl).symm
  rw [furthest, inTurn, leader, responses, List.foldl_map, List.foldl_filterMap]
  congr 2
  funext lead entry
  refine (race.next_heard lead entry).trans ?_
  cases race.response? entry <;> rfl

theorem wait_cases (cutoff : Option Nat) (delay : Nat) (before : Progress) :
    Run.wait cutoff delay before = (some (), { before with now := before.now + delay }) ∨
      ∃ limit, cutoff = some limit ∧ limit < before.now + delay ∧
        Run.wait cutoff delay before = (none, { before with now := max before.now limit }) := by
  unfold Run.wait
  dsimp only
  split
  · rename_i none
    subst none
    exact .inl rfl
  · split
    · exact .inl rfl
    · rename_i late
      cases cutoff with
      | none => exact absurd rfl late
      | some limit => exact .inr ⟨limit, rfl, by simpa [Run.isBy] using late, rfl⟩

/-- How far a run has got once it has asked some tablets. -/
def asking (tablets : List Tablet) (before : Progress) : Progress :=
  { before with
    log := before.log ++ tablets.map fun tablet => ⟨before.now, .replicationStatus tablet.name⟩ }

variable (race) in
def outcome (before : Progress) : Option (Option Tablet) × Progress :=
  newPrimary race.setting race.record race.tablets race.pods race.external race.timeout before

variable (race) in
/-- How long it takes until every tablet has answered, or has had its time. -/
def duration : Nat :=
  Succession.duration (answers race.timeout race.setting.replies.replicationStatus race.eligible)

/-- A tablet is chosen once the last answer is in, unless the choice is abandoned before that. -/
theorem outcome_cases {first : Tablet} {rest : List Tablet}
    (asked : race.eligible = first :: rest) (before : Progress) :
    race.outcome before =
        (some (some ((leader race.responses).tablet.getD first)),
          { asking race.eligible before with now := before.now + race.duration }) ∨
      ∃ limit, race.setting.cutoff = some limit ∧ limit < before.now + race.duration ∧
        race.outcome before =
          (none, { asking race.eligible before with now := max before.now limit }) := by
  have chosen := race.furthest_answers
  unfold outcome newPrimary duration
  rw [← eligible]
  rw [asked] at chosen ⊢
  dsimp only
  have asks : ask (first :: rest) before = (some (), asking (first :: rest) before) :=
    (congrFun (ask_eq race.setting _) before).trans (perform_askDeeds race.setting _ before)
  rw [Run.bind_of_some _ asks]
  rcases wait_cases race.setting.cutoff (Succession.duration (answers race.timeout
    race.setting.replies.replicationStatus (first :: rest))) (asking (first :: rest) before) with
    waits | ⟨limit, cut, late, waits⟩
  · rw [Run.bind_of_some _ waits, Run.pure_apply, choose, chosen]
    exact .inl rfl
  · rw [Run.bind_of_none _ waits]
    exact .inr ⟨limit, cut, late, rfl⟩

/-- Whoever leads in the end is chosen. -/
theorem chooses_of_leader {tablet : Tablet} (leads : (leader race.responses).tablet = some tablet) :
    race.Chooses tablet := by
  intro before
  change (race.outcome before).1 = _ ∨ (race.outcome before).1 = _ ∧ _
  cases asked : race.eligible with
  | nil =>
    rw [← furthest_answers, asked] at leads
    simp [answers, furthest, Lead.start] at leads
  | cons first rest =>
    have bounded : race.duration ≤ race.timeout :=
      duration_answers_le_iff.mpr fun _ _ => Nat.min_le_right _ _
    rcases outcome_cases asked before with chosen | ⟨limit, cut, late, abandoned⟩
    · rw [chosen, leads]
      exact .inl rfl
    · rw [abandoned]
      exact .inr ⟨rfl, limit, cut, lt_of_lt_of_le late (Nat.add_le_add_left bounded _)⟩

end Race

end TabletDrain.Succession
