import TabletDrain.Proofs.Lease.Swaps

/-! The attempts that a replica's program makes one after another. A run is a course of them: each begins
a pause after the one before it, as long as the time is not up, and so many are made that it is. -/
namespace TabletDrain.Elector

/-- An attempt, the time taken when it began, and what it came to. -/
structure Turn where
  time : Instant
  attempt : Attempt
  outcome : Outcome

variable {elector : Elector} {server : Nat → Api.Response} {clock : Nat → Instant} {stop fuel : Nat}
  {before final : Progress} {turns : List Turn}

/-- What a program has done after a turn, if it makes the attempt. -/
def Turn.follow (elector : Elector) (before : Progress) (turn : Turn) : Progress :=
  (before.send (turn.attempt.requests elector turn.time)).next turn.outcome

def afterTurns (elector : Elector) (before : Progress) (turns : List Turn) : Progress :=
  turns.foldl (Turn.follow elector) before

/-- The answers and the times that a program gets are those of the turns, and none begins too late. -/
def Takes (elector : Elector) (server : Nat → Api.Response) (clock : Nat → Instant) (stop : Nat) :
    Progress → List Turn → Prop
  | _, [] => True
  | before, turn :: rest =>
    before.now < stop ∧ turn.time = clock before.now ∧
      turn.attempt.Hears elector turn.time server before ∧
      turn.attempt.outcome? elector turn.time = some turn.outcome ∧
      Takes elector server clock stop (turn.follow elector before) rest

theorem attempts_of_takes (takes : Takes elector server clock stop before turns) (fuel : Nat) :
    elector.attempts server clock stop (fuel + turns.length) before =
      elector.attempts server clock stop fuel (afterTurns elector before turns) := by
  induction turns generalizing before with
  | nil => rfl
  | cons turn rest ih =>
    obtain ⟨early, time, hears, comes, later⟩ := takes
    have made := (attempt_eq_ok_iff hears).mpr ⟨comes, rfl⟩
    rw [List.length_cons, ← Nat.add_assoc, attempts, if_pos early, ← time, made]
    exact ih later

/-- Every course of attempts is made of turns. It ends when the fuel is used up or the time. -/
theorem exists_takes (runs : elector.attempts server clock stop fuel before = .ok final) :
    ∃ turns, Takes elector server clock stop before turns ∧ final = afterTurns elector before turns ∧
      (turns.length = fuel ∨ stop ≤ final.now) := by
  induction fuel generalizing before with
  | zero =>
    cases runs
    exact ⟨[], trivial, rfl, .inl rfl⟩
  | succ fuel ih =>
    rw [attempts] at runs
    split at runs
    · rename_i early
      obtain ⟨⟨outcome, after⟩, made, runs⟩ := exists_of_bind_eq_ok runs
      obtain ⟨attempt, hears⟩ := exists_hears elector (clock before.now) server before
      obtain ⟨comes, rfl⟩ := (attempt_eq_ok_iff hears).mp made
      obtain ⟨rest, later, ends, done⟩ := ih runs
      refine ⟨⟨_, attempt, outcome⟩ :: rest, ⟨early, rfl, hears, comes, later⟩, ends, ?_⟩
      rw [List.length_cons]
      exact done.imp (congrArg (· + 1)) id
    · rename_i late
      cases runs
      exact ⟨[], trivial, rfl, .inr (Nat.le_of_not_lt late)⟩

theorem now_le_afterTurns (elector : Elector) (before : Progress) (turns : List Turn) :
    before.now + turns.length ≤ (afterTurns elector before turns).now := by
  induction turns generalizing before with
  | nil => exact Nat.le_refl _
  | cons turn rest ih =>
    have later := ih (turn.follow elector before)
    have now : (turn.follow elector before).now = before.now + turn.outcome.pause := rfl
    have pause := turn.outcome.pause_pos
    rw [List.length_cons]
    change _ ≤ (afterTurns elector (turn.follow elector before) rest).now
    omega

theorem length_le_of_takes (takes : Takes elector server clock stop before turns) :
    turns.length ≤ stop - before.now := by
  induction turns generalizing before with
  | nil => exact Nat.zero_le _
  | cons turn rest ih =>
    obtain ⟨early, _, _, _, later⟩ := takes
    have shorter := ih later
    have now : (turn.follow elector before).now = before.now + turn.outcome.pause := rfl
    have pause := turn.outcome.pause_pos
    rw [List.length_cons]
    omega

/-- Up to when attempts begin. A replica that cannot ask makes one in any case. -/
def deadline (elector : Elector) (stop : Nat) : Nat := if elector.canAsk then stop else max 1 stop

/-- A run is a course of attempts that goes on until the time is up. -/
theorem run_eq_ok_iff {leads : Bool} :
    elector.run server clock stop leads = .ok final ↔
      ∃ turns, Takes elector server clock (elector.deadline stop) ⟨0, leads, []⟩ turns ∧
        final = afterTurns elector ⟨0, leads, []⟩ turns ∧ elector.deadline stop ≤ final.now := by
  change elector.attempts server clock (elector.deadline stop) (elector.deadline stop) _ = _ ↔ _
  constructor
  · intro runs
    obtain ⟨turns, takes, rfl, done⟩ := exists_takes runs
    refine ⟨turns, takes, rfl, done.elim (fun all => ?_) id⟩
    have late := now_le_afterTurns elector ⟨0, leads, []⟩ turns
    rwa [Nat.zero_add, all] at late
  · rintro ⟨turns, takes, rfl, late⟩
    have enough : elector.deadline stop - turns.length + turns.length = elector.deadline stop :=
      Nat.sub_add_cancel (length_le_of_takes takes)
    have goesOn := attempts_of_takes takes (elector.deadline stop - turns.length)
    rw [enough] at goesOn
    rw [goesOn]
    cases elector.deadline stop - turns.length with
    | zero => rfl
    | succ fuel => rw [attempts, if_neg (Nat.not_lt.mpr late)]

end TabletDrain.Elector
