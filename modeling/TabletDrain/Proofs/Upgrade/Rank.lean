import TabletDrain.Proofs.Text.Numeral
import TabletDrain.Upgrade.Version
import Mathlib.Data.List.TakeDrop
import Mathlib.Data.List.TakeWhile
import Mathlib.Data.Prod.Lex

/-! Versions have a rank, and a move between two of them is judged by their ranks alone: a move up needs
a slow shutdown, a move down is refused, and a move within a rank needs nothing. The verdicts thus form
a total preorder. -/
namespace TabletDrain

namespace Version

attribute [ext] Version

/-- A run of ASCII digits for a number that fits into a part of a version. -/
def IsPart (run : List Char) (n : Nat) : Prop := Text.IsDecimal run n ∧ n < partBound

/-- The text begins with the version: three runs of digits, none of which goes on, a point after each
of the first two. -/
def Opens (version : Version) (text : List Char) : Prop :=
  ∃ major minor patch rest, text = major ++ '.' :: (minor ++ '.' :: (patch ++ rest)) ∧
    IsPart major version.major ∧ IsPart minor version.minor ∧ IsPart patch version.patch ∧
    ∀ c ∈ rest.head?, Text.isDecimalDigit c = false

/-- Within the 8.0 series patches count up to 34; in no other series do they count. -/
def level (version : Version) : Nat :=
  if version.major = 8 ∧ version.minor = 0 then min version.patch 34 else 0

def rank (version : Version) : ℕ ×ₗ ℕ ×ₗ ℕ :=
  toLex (version.major, toLex (version.minor, version.level))

theorem rank_eq_iff {a b : Version} :
    a.rank = b.rank ↔ a.major = b.major ∧ a.minor = b.minor ∧ a.level = b.level := by
  simp [rank]

theorem rank_lt_iff {a b : Version} : a.rank < b.rank ↔
    a.major < b.major ∨ a.major = b.major ∧
      (a.minor < b.minor ∨ a.minor = b.minor ∧ a.level < b.level) := by
  simp [rank, Prod.Lex.toLex_lt_toLex]

theorem inPatchSeries_iff {version : Version} :
    version.inPatchSeries = true ↔ version.major = 8 ∧ version.minor = 0 := by
  simp only [inPatchSeries, Bool.and_eq_true, decide_eq_true_eq]

theorem level_of_inPatchSeries {version : Version} (series : version.inPatchSeries = true) :
    version.level = min version.patch 34 := if_pos (inPatchSeries_iff.mp series)

theorem level_congr {a b : Version} (major : a.major = b.major) (minor : a.minor = b.minor)
    (series : ¬(a.inPatchSeries && b.inPatchSeries) = true) : a.level = b.level := by
  rw [Bool.and_eq_true, inPatchSeries_iff, inPatchSeries_iff, major, minor, and_self] at series
  rw [level, level, major, minor, if_neg series, if_neg series]

theorem onlyMends_iff {version : Version} :
    version.onlyMends = true ↔ version.inPatchSeries = true ∧ 34 ≤ version.patch := by
  rw [onlyMends, Bool.and_eq_true, decide_eq_true_eq, firstMendingPatch]

section Reading

variable {text run rest : List Char} {version : Version} {n : Nat}

theorem isDecimalDigit_of_isDigit {c : Char} (digit : c.isDigit = true) :
    Text.isDecimalDigit c = true := by
  have small : c.toNat < 0x80 := by
    simp only [Char.isDigit, Bool.and_eq_true, decide_eq_true_eq, UInt32.le_iff_toNat_le] at digit
    have upper : c.toNat ≤ 57 := digit.2
    omega
  rw [Text.isDecimalDigit, if_pos small, digit]

/-- One decimal digit or more, of any script. -/
structure IsRun (run : List Char) : Prop where
  ne_nil : run ≠ []
  isDigit : ∀ c ∈ run, Text.isDecimalDigit c = true

theorem digitRun_eq_iff : digitRun text = (run, rest) ↔
    text = run ++ rest ∧ (∀ c ∈ run, Text.isDecimalDigit c = true) ∧
      ∀ c ∈ rest.head?, Text.isDecimalDigit c = false := by
  rw [digitRun, List.span_eq_takeWhile_dropWhile, Prod.mk.injEq]
  constructor
  · rintro ⟨rfl, rfl⟩
    refine ⟨List.takeWhile_append_dropWhile.symm, fun c => List.mem_takeWhile_imp, fun c first => ?_⟩
    have stops := List.head?_dropWhile_not Text.isDecimalDigit text
    rwa [Option.mem_def.mp first] at stops
  · rintro ⟨rfl, digits, stops⟩
    rw [List.takeWhile_append_of_pos digits, List.dropWhile_append_of_pos digits]
    cases rest with
    | nil => simp
    | cons c rest => simp [stops c rfl]

theorem digitRun_append {c : Char} (digits : ∀ c ∈ run, Text.isDecimalDigit c = true)
    (stop : Text.isDecimalDigit c = false) : digitRun (run ++ c :: rest) = (run, c :: rest) :=
  digitRun_eq_iff.mpr ⟨rfl, digits, by simpa using stop⟩

theorem runs?_eq_some_iff {major minor patch : List Char} : runs? text = some (major, minor, patch) ↔
    ∃ rest, text = major ++ '.' :: (minor ++ '.' :: (patch ++ rest)) ∧
      IsRun major ∧ IsRun minor ∧ IsRun patch ∧ ∀ c ∈ rest.head?, Text.isDecimalDigit c = false := by
  constructor
  · intro runs
    unfold runs? at runs
    split at runs
    · rename_i first second firstRun
      split at runs
      · rename_i middle last secondRun
        dsimp only at runs
        split at runs
        · cases runs
        · rename_i some
          simp only [Bool.or_eq_true, List.isEmpty_iff, not_or] at some
          obtain ⟨rfl, digits, _⟩ := digitRun_eq_iff.mp firstRun
          obtain ⟨rfl, digits', _⟩ := digitRun_eq_iff.mp secondRun
          obtain ⟨lastText, digits'', stops⟩ := digitRun_eq_iff.mp (Prod.mk.eta (p := digitRun last)).symm
          cases runs
          exact ⟨(digitRun last).2, by rw [← lastText], ⟨some.1.1, digits⟩, ⟨some.1.2, digits'⟩,
            ⟨some.2, digits''⟩, stops⟩
      · cases runs
    · cases runs
  · rintro ⟨rest, rfl, first, second, third, stops⟩
    have point : Text.isDecimalDigit '.' = false := by decide
    have lastRun := digitRun_eq_iff.mpr ⟨rfl, third.isDigit, stops⟩
    simp [runs?, digitRun_append first.isDigit point, digitRun_append second.isDigit point, lastRun,
      first.ne_nil, second.ne_nil, third.ne_nil]

theorem part?_eq_some_iff (isRun : IsRun run) : part? run = some n ↔ IsPart run n := by
  have read : part? run = some n ↔ Text.readNumeral partBound run = .ok n := by
    unfold part?
    cases Text.readNumeral partBound run <;> simp
  rw [read, Text.readNumeral_eq_ok_iff (by decide), IsPart]
  refine and_congr_left fun _ => ⟨fun numeral => ?_, .plain⟩
  cases numeral with
  | plain decimal => exact decimal
  | signed decimal => exact absurd (isRun.isDigit '+' List.mem_cons_self) (by decide)

theorem IsPart.isRun (part : IsPart run n) : IsRun run :=
  ⟨part.1.ne_nil, fun c member => isDecimalDigit_of_isDigit (part.1.isDigit c member)⟩

theorem parse?_eq_some_iff {text : String} : parse? text = some version ↔ version.Opens text.toList := by
  constructor
  · intro parsed
    simp only [parse?, Option.bind_eq_bind, Option.pure_def, Option.bind_eq_some_iff,
      Option.some.injEq, Prod.exists] at parsed
    obtain ⟨major, minor, patch, runs, a, first, b, second, c, third, rfl⟩ := parsed
    obtain ⟨rest, split, isRun, isRun', isRun'', stops⟩ := runs?_eq_some_iff.mp runs
    exact ⟨major, minor, patch, rest, split, (part?_eq_some_iff isRun).mp first,
      (part?_eq_some_iff isRun').mp second, (part?_eq_some_iff isRun'').mp third, stops⟩
  · rintro ⟨major, minor, patch, rest, split, first, second, third, stops⟩
    have runs : runs? text.toList = some (major, minor, patch) :=
      runs?_eq_some_iff.mpr ⟨rest, split, first.isRun, second.isRun, third.isRun, stops⟩
    simp [parse?, runs, (part?_eq_some_iff first.isRun).mpr first,
      (part?_eq_some_iff second.isRun).mpr second, (part?_eq_some_iff third.isRun).mpr third]

end Reading

end Version

namespace Upgrade

/-- The move is refused. -/
def Refused (current desired : String) : Prop :=
  ∃ message, needsSlowShutdown current desired = .error (.downgrade message)

theorem versions_cases (source target : Version) (current desired : String) :
    (source.rank = target.rank ∧
        versionsNeedSlowShutdown source target current desired = .ok false) ∨
      (source.rank < target.rank ∧
        versionsNeedSlowShutdown source target current desired = .ok true) ∨
      target.rank < source.rank ∧
        ∃ message, versionsNeedSlowShutdown source target current desired = .error (.downgrade message) := by
  simp only [Version.rank_eq_iff, Version.rank_lt_iff]
  by_cases same : source = target
  · subst same
    exact .inl ⟨⟨rfl, rfl, rfl⟩, if_pos rfl⟩
  rw [versionsNeedSlowShutdown, if_neg same]
  split
  · rename_i lower
    exact .inr (.inr ⟨.inl lower, _, rfl⟩)
  rename_i majors
  split
  · rename_i lower
    simp only [Bool.and_eq_true, decide_eq_true_eq] at lower
    exact .inr (.inr ⟨.inr ⟨lower.1, .inl lower.2⟩, _, rfl⟩)
  rename_i minors
  simp only [Bool.and_eq_true, decide_eq_true_eq, not_and] at minors
  split
  · rename_i series
    rw [Bool.and_eq_true] at series
    have level := Version.level_of_inPatchSeries series.1
    have level' := Version.level_of_inPatchSeries series.2
    have major : source.major = target.major := (Version.inPatchSeries_iff.mp series.1).1.trans
      (Version.inPatchSeries_iff.mp series.2).1.symm
    have minor : source.minor = target.minor := (Version.inPatchSeries_iff.mp series.1).2.trans
      (Version.inPatchSeries_iff.mp series.2).2.symm
    have patch : source.patch ≠ target.patch := mt (Version.ext major minor) same
    simp only [Version.onlyMends_iff, series, true_and, Bool.and_eq_true]
    rw [level, level', major, minor]
    split
    · exact .inl ⟨⟨rfl, rfl, by omega⟩, rfl⟩
    split
    · exact .inr (.inr ⟨.inr ⟨rfl, .inr ⟨rfl, by omega⟩⟩, _, rfl⟩)
    · exact .inr (.inl ⟨.inr ⟨rfl, .inr ⟨rfl, by omega⟩⟩, by simp [patch.symm]⟩)
  · rename_i series
    by_cases equal : source.major = target.major ∧ source.minor = target.minor
    · have level : source.level = target.level := Version.level_congr equal.1 equal.2 series
      exact .inl ⟨⟨equal.1, equal.2, level⟩, by simp [equal.1, equal.2]⟩
    · refine .inr (.inl ⟨by omega, ?_⟩)
      simp only [Except.ok.injEq, Bool.or_eq_true, decide_eq_true_eq]
      omega

section Verdicts

variable {current desired : String} {source target : Version}

theorem needsSlowShutdown_of_opens (opens : source.Opens current.toList)
    (opens' : target.Opens desired.toList) : needsSlowShutdown current desired =
      versionsNeedSlowShutdown source target current desired := by
  rw [needsSlowShutdown, Version.parse?_eq_some_iff.mpr opens, Version.parse?_eq_some_iff.mpr opens']

theorem verdict_of_opens (opens : source.Opens current.toList) (opens' : target.Opens desired.toList) :
    (needsSlowShutdown current desired = .ok false ↔ source.rank = target.rank) ∧
      (needsSlowShutdown current desired = .ok true ↔ source.rank < target.rank) ∧
      (Refused current desired ↔ target.rank < source.rank) := by
  rw [Refused, needsSlowShutdown_of_opens opens opens']
  rcases versions_cases source target current desired with
    ⟨same, verdict⟩ | ⟨up, verdict⟩ | ⟨down, message, verdict⟩
  · simp [verdict, same]
  · simp [verdict, up, up.ne, up.not_gt]
  · simp [verdict, down, down.ne', down.not_gt]

theorem needsSlowShutdown_of_no_version
    (none : (∀ source : Version, ¬source.Opens current.toList) ∨
      ∀ target : Version, ¬target.Opens desired.toList) :
    needsSlowShutdown current desired = .ok true := by
  have unread {text : String} (no : ∀ version : Version, ¬version.Opens text.toList) :
      Version.parse? text = Option.none :=
    Option.eq_none_iff_forall_not_mem.mpr fun version read =>
      no version (Version.parse?_eq_some_iff.mp read)
  unfold needsSlowShutdown
  rcases none with first | second
  · rw [unread first]
  · rw [unread second]
    cases Version.parse? current <;> rfl

end Verdicts

/-- A text that begins with a version. -/
abbrev Versioned : Type := { text : String // ∃ version : Version, version.Opens text.toList }

/-- One move after another, none of them refused, and whether any of them needs a slow shutdown. -/
inductive Moves : Versioned → Versioned → Bool → Prop
  | stay (text : Versioned) : Moves text text false
  | move {first second third : Versioned} {slow slow' : Bool} : Moves first second slow →
      needsSlowShutdown second.1 third.1 = .ok slow' → Moves first third (slow || slow')

namespace Versioned

variable {first second third : Versioned} {slow slow' : Bool}

noncomputable def rank (text : Versioned) : ℕ ×ₗ ℕ ×ₗ ℕ := text.2.choose.rank

theorem verdict (current desired : Versioned) :
    (needsSlowShutdown current.1 desired.1 = .ok false ↔ current.rank = desired.rank) ∧
      (needsSlowShutdown current.1 desired.1 = .ok true ↔ current.rank < desired.rank) ∧
      (Refused current.1 desired.1 ↔ desired.rank < current.rank) :=
  verdict_of_opens current.2.choose_spec desired.2.choose_spec

theorem needs_of_needs (needs : needsSlowShutdown first.1 second.1 = .ok slow)
    (needs' : needsSlowShutdown second.1 third.1 = .ok slow') :
    needsSlowShutdown first.1 third.1 = .ok (slow || slow') := by
  cases slow with
  | false =>
    have same := (verdict first second).1.mp needs
    cases slow' with
    | false => exact (verdict first third).1.mpr (same.trans ((verdict second third).1.mp needs'))
    | true => exact (verdict first third).2.1.mpr (same.trans_lt ((verdict second third).2.1.mp needs'))
  | true =>
    have up := (verdict first second).2.1.mp needs
    cases slow' with
    | false => exact (verdict first third).2.1.mpr (up.trans_eq ((verdict second third).1.mp needs'))
    | true => exact (verdict first third).2.1.mpr (up.trans ((verdict second third).2.1.mp needs'))

theorem needs_of_moves (moves : Moves first second slow) :
    needsSlowShutdown first.1 second.1 = .ok slow := by
  induction moves with
  | stay => exact (verdict _ _).1.mpr rfl
  | move _ needs ih => exact needs_of_needs ih needs

theorem refused_iff : Refused first.1 second.1 ↔ needsSlowShutdown second.1 first.1 = .ok true :=
  (verdict first second).2.2.trans (verdict second first).2.1.symm

end Versioned

/-- The verdict on a move follows from the ranks of its two versions; where a text begins with none, a
slow shutdown is needed. So a refused move is one whose way back needs a slow shutdown, needing nothing
is an equivalence, and a chain of moves needs what its first and last version need. -/
theorem verdict_follows_rank :
    (∀ (current desired : String) (source target : Version),
      source.Opens current.toList → target.Opens desired.toList →
        (needsSlowShutdown current desired = .ok false ↔ source.rank = target.rank) ∧
        (needsSlowShutdown current desired = .ok true ↔ source.rank < target.rank) ∧
        (Refused current desired ↔ target.rank < source.rank)) ∧
    (∀ current desired : String,
      ((∀ source : Version, ¬source.Opens current.toList) ∨
          ∀ target : Version, ¬target.Opens desired.toList) →
        needsSlowShutdown current desired = .ok true) ∧
    (∀ first second : Versioned,
      Refused first.1 second.1 ↔ needsSlowShutdown second.1 first.1 = .ok true) ∧
    Equivalence (fun first second : Versioned => needsSlowShutdown first.1 second.1 = .ok false) ∧
    (∀ (first last : Versioned) (slow : Bool),
      Moves first last slow → needsSlowShutdown first.1 last.1 = .ok slow) ∧
    ∀ first second third : Versioned, Refused first.1 second.1 →
      needsSlowShutdown second.1 third.1 ≠ .ok true → Refused first.1 third.1 := by
  refine ⟨fun _ _ _ _ => verdict_of_opens, fun _ _ => needsSlowShutdown_of_no_version,
    fun _ _ => Versioned.refused_iff, ⟨fun text => ?_, fun nothing => ?_, fun nothing nothing' => ?_⟩,
    fun _ _ _ => Versioned.needs_of_moves, fun first second third refused notUp => ?_⟩
  · exact (Versioned.verdict text text).1.mpr rfl
  · exact (Versioned.verdict _ _).1.mpr ((Versioned.verdict _ _).1.mp nothing).symm
  · exact Versioned.needs_of_needs nothing nothing'
  · have down := (Versioned.verdict first second).2.2.mp refused
    have level := not_lt.mp (mt (Versioned.verdict second third).2.1.mpr notUp)
    exact (Versioned.verdict first third).2.2.mpr (level.trans_lt down)

/-- A vendor's build up to the first release that only mends, from there to a later one, and back. -/
theorem verdict_follows_rank_sample :
    let built : Version := ⟨8, 0, 33⟩
    let mending : Version := ⟨8, 0, 36⟩
    built.Opens "8.0.33-25.1".toList ∧ mending.Opens "8.0.36".toList ∧
      needsSlowShutdown "8.0.33-25.1" "8.0.36" = .ok true ∧ Refused "8.0.36" "8.0.33-25.1" ∧
      ∃ first second third : Versioned, first.1 = "8.0.33-25.1" ∧ second.1 = "8.0.36" ∧
        third.1 = "8.0.34" ∧ Moves first third true ∧
        needsSlowShutdown first.1 third.1 = .ok true := by
  intro built mending
  have opens : built.Opens "8.0.33-25.1".toList := Version.parse?_eq_some_iff.mp (by decide +kernel)
  have opens' : mending.Opens "8.0.36".toList := Version.parse?_eq_some_iff.mp (by decide +kernel)
  have opens'' : (⟨8, 0, 34⟩ : Version).Opens "8.0.34".toList :=
    Version.parse?_eq_some_iff.mp (by decide +kernel)
  obtain ⟨byRank, _, reversed, _, chained, _⟩ := verdict_follows_rank
  have up := (byRank _ _ _ _ opens opens').2.1.mpr (Version.rank_lt_iff.mpr (by decide))
  have within := (byRank _ _ _ _ opens' opens'').1.mpr (Version.rank_eq_iff.mpr (by decide))
  let first : Versioned := ⟨_, built, opens⟩
  let second : Versioned := ⟨_, mending, opens'⟩
  let third : Versioned := ⟨_, _, opens''⟩
  have firstMove : needsSlowShutdown first.1 second.1 = .ok true := up
  have secondMove : needsSlowShutdown second.1 third.1 = .ok false := within
  have moves : Moves first third true := Moves.move (Moves.move (.stay first) firstMove) secondMove
  exact ⟨opens, opens', up, (reversed second first).mpr up, first, second, third, rfl, rfl, rfl, moves,
    chained first third true moves⟩

end Upgrade

end TabletDrain
