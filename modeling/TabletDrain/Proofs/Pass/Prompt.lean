import TabletDrain.Proofs.Pass.Timetable

/-! Passes whose calls all answer at once and succeed: nothing that they do takes time. -/
namespace TabletDrain

/-- Every call answers at once, and succeeds. -/
structure Replies.Prompt (replies : Replies) : Prop where
  listPods : replies.listPods = .prompt
  getShard : replies.getShard = .prompt
  getTablets : replies.getTablets = .prompt
  updatePod : ∀ name, replies.updatePod name = .prompt
  replicationStatus : ∀ tablet,
    (replies.replicationStatus tablet).delay = 0 ∧ (replies.replicationStatus tablet).fault = none
  execute : ∀ tablet, replies.execute tablet = .prompt
  plannedReparent : replies.plannedReparent = .prompt
  externallyReparented : replies.externallyReparented = .prompt
  changeTabletType : replies.changeTabletType = .prompt
  publishAfter : ∀ calls, replies.publishAfter calls = 0

/-- All calls answer at once and succeed; no tablet tells a position. -/
def Replies.atOnce : Replies where
  listPods := .prompt
  getShard := .prompt
  getTablets := .prompt
  updatePod _ := .prompt
  replicationStatus _ := ⟨0, none, none⟩
  execute _ := .prompt
  plannedReparent := .prompt
  externallyReparented := .prompt
  changeTabletType := .prompt
  publish := 0

theorem Replies.prompt_atOnce : atOnce.Prompt where
  listPods := rfl
  getShard := rfl
  getTablets := rfl
  updatePod _ := rfl
  replicationStatus _ := ⟨rfl, rfl⟩
  execute _ := rfl
  plannedReparent := rfl
  externallyReparented := rfl
  changeTabletType := rfl
  publishAfter _ := rfl

def Deed.IsInstant (replies : Replies) : Deed → Prop
  | .event .. => ∀ calls, replies.publishAfter calls = 0
  | .wait delay => delay = 0
  | .waitUpTo _ delay => delay = 0
  | _ => True

theorem span_of_instant {replies : Replies} {deeds : List Deed}
    (instant : ∀ deed ∈ deeds, deed.IsInstant replies) (calls : Nat) :
    span replies.publishAfter calls deeds = 0 := by
  induction deeds generalizing calls with
  | nil => rfl
  | cons deed rest ih =>
    obtain ⟨here, later⟩ := List.forall_mem_cons.mp instant
    rw [span, ih later, Nat.add_zero]
    cases deed with
    | event severity object reason message => exact here calls
    | wait delay => exact here
    | waitUpTo time delay => exact Nat.min_eq_left (here.trans_le (Nat.zero_le time)) |>.trans here
    | _ => rfl

namespace Succession

variable {timeout : Nat} {reply : Alias → ProbeReply}

theorem duration_of_prompt (prompt : ∀ tablet, (reply tablet).delay = 0) (tablets : List Tablet) :
    duration (answers timeout reply tablets) = 0 := by
  refine Nat.le_zero.mp (duration_answers_le_iff.mpr fun tablet _ => ?_)
  rw [prompt tablet.name]
  exact (Nat.zero_min _).le

end Succession

namespace Upgrade

theorem instant_deedsFrom (setting : Setting) (prompt : setting.replies.Prompt) (tablets : Keyed Tablet)
    (desired : String) (pods : List (String × Pod)) :
    ∀ deed ∈ deedsFrom setting tablets desired pods, deed.IsInstant setting.replies :=
  forall_mem_deedsFrom (fun _ => trivial)
    (fun tablet => congrArg Reply.delay (prompt.execute tablet.name)) (fun _ _ => prompt.publishAfter)
    tablets pods

end Upgrade

namespace Pass.Context

variable {context : Context}

private theorem instant_readingDeeds (prompt : context.replies.Prompt) (left : Nat) :
    ∀ deed ∈ context.readingDeeds left context.readings, deed.IsInstant context.replies := by
  have each : ∀ reading ∈ context.readings, reading.reply.delay = 0 := by
    simp [readings, podReading, recordReading, tabletReading, prompt.listPods, prompt.getShard,
      prompt.getTablets, Reply.prompt]
  exact forall_mem_readingDeeds (fun _ _ => trivial) (fun reading member _ => each reading member)
    (fun _ _ _ => prompt.publishAfter) left

private theorem instant_moveDeeds (prompt : context.replies.Prompt) (pod : Pod)
    (state : DrainState) : ∀ deed ∈ context.moveDeeds pod state, deed.IsInstant context.replies := by
  unfold moveDeeds
  split
  · split
    · simp
    · unfold sendDeeds
      rw [prompt.updatePod]
      simp [UpdateReply.prompt, Deed.IsInstant]
  · simp

private theorem instant_loadDeeds (prompt : context.replies.Prompt) (view : Keyed Pod) :
    ∀ deed ∈ context.loadDeeds view, deed.IsInstant context.replies := by
  refine List.forall_mem_flatMap.mpr fun pod _ => ?_
  unfold clearDeeds
  split
  · unfold requestDeeds
    split
    · simp
    · simpa [Deed.IsInstant, warning] using prompt.publishAfter
  · refine List.forall_mem_append.mpr ⟨?_, instant_moveDeeds prompt _ _⟩
    split
    · simpa [Deed.IsInstant, warning] using prompt.publishAfter
    · simp

private theorem instant_carryAll (prompt : context.replies.Prompt) (primary : String)
    (pods : Keyed Pod) (next : Keyed DrainState) :
    ∀ deed ∈ context.carryAll primary pods next, deed.IsInstant context.replies := by
  refine List.forall_mem_flatMap.mpr fun entry _ => ?_
  unfold carryDeeds
  split
  · simp
  · split
    · exact instant_moveDeeds prompt _ _
    · simp

private theorem instant_awayDeeds (prompt : context.replies.Prompt) (primary : Alias)
    (pods : Keyed Pod) (tablets : Keyed Tablet) :
    ∀ deed ∈ context.awayDeeds primary pods tablets, deed.IsInstant context.replies := by
  unfold awayDeeds
  refine List.forall_mem_append.mpr ⟨List.forall_mem_append.mpr ⟨?_, ?_⟩, ?_⟩
  · simp [Succession.askDeeds, Deed.IsInstant]
  · split
    · simp
    · simpa [Deed.IsInstant, answers] using
        Succession.duration_of_prompt (fun tablet => (prompt.replicationStatus tablet).1) _
  · split
    · simpa [Deed.IsInstant, warning] using prompt.publishAfter
    · split
      · simp
      · refine List.forall_mem_append.mpr ⟨?_, ?_⟩
        · unfold handoverDeeds externalDeeds plannedDeeds
          rw [prompt.externallyReparented, prompt.changeTabletType, prompt.plannedReparent]
          split <;> simp [Deed.IsInstant, Reply.prompt, Reply.outcome]
        · unfold tellDeeds
          split <;> simpa [Deed.IsInstant, notice, warning] using prompt.publishAfter

/-- Nothing that a pass does takes time when all calls are prompt. -/
theorem instant_deeds (prompt : context.replies.Prompt) :
    ∀ deed ∈ context.deeds, deed.IsInstant context.replies := by
  have told (reason message : String) :
      ∀ deed ∈ [context.warning reason message], deed.IsInstant context.replies := by
    simpa [Deed.IsInstant, warning] using prompt.publishAfter
  have noticed (reason message : String) :
      ∀ deed ∈ [context.notice reason message], deed.IsInstant context.replies := by
    simpa [Deed.IsInstant, notice] using prompt.publishAfter
  unfold deeds
  refine List.forall_mem_append.mpr ⟨instant_readingDeeds prompt _, ?_⟩
  · split
    · split
      · exact told _ _
      · refine List.forall_mem_append.mpr ⟨instant_loadDeeds prompt _, ?_⟩
        unfold actDeeds
        split
        · simp
        · split
          · exact told _ _
          · refine List.forall_mem_append.mpr ⟨List.forall_mem_append.mpr
              ⟨instant_carryAll prompt _ _ _, ?_⟩, ?_⟩
            · unfold prepareDeeds
              split
              · simp
              · refine List.forall_mem_append.mpr
                  ⟨Upgrade.instant_deedsFrom context.setting prompt _ _ _, ?_⟩
                split
                · simp
                · simpa [Deed.IsInstant, warning] using prompt.publishAfter
            · split
              · unfold lastDeeds
                dsimp only
                split
                · exact noticed _ _
                · split
                  · exact noticed _ _
                  · exact instant_awayDeeds prompt _ _ _
              · simp
    · simp [Deed.IsInstant]

theorem time_of_prompt (prompt : context.replies.Prompt) : context.time context.deeds = 0 :=
  span_of_instant (instant_deeds prompt) 0

end Pass.Context

/-! A shard of three tablets in one cell. The pods of the first, which is primary, and of the second
have new requests. -/
namespace Sample

def spec : ShardSpec := ⟨"prod", "main", "0", .full, [⟨"zone1", .replica, 3, false⟩], none⟩

def shard : Shard := ⟨"main-0", none, spec, none⟩

def pod (uid : String) (annotations : List (String × String)) : Pod where
  name := some ("tablet-" ++ uid)
  generateName := none
  namespaceName := none
  labels := some (.ofList ((cellLabel, "zone1") :: (uidLabel, uid) :: spec.podLabels.entries))
  annotations := some (.ofList annotations)
  containers := none
  conditions := some [⟨"Ready", "True"⟩]

def tablet (uid : Nat) (role : Role) : Tablet := ⟨⟨"zone1", uid⟩, role, "main", "0", ""⟩

def cluster : Cluster where
  pods := [pod "1" [(startedMarker, "")], pod "2" [(startedMarker, "")], pod "3" []]
  record := ⟨"main", "0", some ⟨"zone1", 1⟩⟩
  tablets := Tablet.index [tablet 1 .primary, tablet 2 .replica, tablet 3 .replica]

/-- The shard with its data kept outside of it, in the pool of two tablets. -/
def externalShard : Shard := { shard with spec := { spec with pools := [⟨"zone1", .external, 2, true⟩] } }

def externalPod (uid : String) (annotations : List (String × String)) : Pod :=
  { pod uid annotations with
    labels := (pod uid annotations).labels.map fun labels => labels.insert poolLabel externalPool }

/-- The primary is the only tablet with a request, which was acknowledged. -/
def externalCluster : Cluster where
  pods := [externalPod "1" [(startedMarker, ""), (acknowledgedMarker, "")], externalPod "2" []]
  record := cluster.record
  tablets := Tablet.index [tablet 1 .primary, tablet 2 .spare]

def configuration : Configuration := ⟨⟨60000, 1000, 1000, 1000, 1000, 1000⟩, false⟩

/-- All calls succeed, each after some time. -/
def slow : Replies where
  listPods := ⟨200, none⟩
  getShard := ⟨300, none⟩
  getTablets := ⟨400, none⟩
  updatePod _ := ⟨100, none, none⟩
  replicationStatus _ := ⟨500, none, none⟩
  execute _ := ⟨600, none⟩
  plannedReparent := ⟨900, none⟩
  externallyReparented := ⟨700, none⟩
  changeTabletType := ⟨800, none⟩
  publish := 50

def refusal : Fault := .kubernetes "connection refused"

/-- All calls answer at once, and succeed but for the updates of one pod. -/
def refusing (name : String) : Replies :=
  { Replies.atOnce with
    updatePod := fun other => if other = name then ⟨0, some refusal, none⟩ else .prompt }

end Sample

end TabletDrain
