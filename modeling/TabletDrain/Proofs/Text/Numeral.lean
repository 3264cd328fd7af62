import Mathlib.Algebra.Group.Nat.Defs
import TabletDrain.Text.Numeral

/-! What is read as a number: digits, or digits after a plus sign, as long as the number that they
denote stays below the bound. -/
namespace TabletDrain.Text

/-- One ASCII digit or more, with the number that they denote. -/
structure IsDecimal (digits : List Char) (n : Nat) : Prop where
  ne_nil : digits ≠ []
  isDigit : ∀ c ∈ digits, c.isDigit = true
  value : Nat.ofDigitChars 10 digits 0 = n

/-- Digits that may follow a plus sign. -/
inductive IsNumeral : List Char → Nat → Prop
  | plain {digits : List Char} {n : Nat} : IsDecimal digits n → IsNumeral digits n
  | signed {digits : List Char} {n : Nat} : IsDecimal digits n → IsNumeral ('+' :: digits) n

theorem IsNumeral.not_mem {text : List Char} {n : Nat} {c : Char} (numeral : IsNumeral text n)
    (noDigit : c.isDigit = false) (noPlus : c ≠ '+') : c ∉ text := by
  intro member
  cases numeral with
  | plain decimal => simp [decimal.isDigit c member] at noDigit
  | signed decimal =>
    rcases List.mem_cons.mp member with plus | inside
    · exact noPlus plus
    · simp [decimal.isDigit c inside] at noDigit

theorem IsNumeral.unique {text : List Char} {n m : Nat} (numeral : IsNumeral text n)
    (numeral' : IsNumeral text m) : n = m := by
  have unsigned {digits : List Char} {k : Nat} : ¬IsDecimal ('+' :: digits) k := fun decimal => by
    simpa using decimal.isDigit '+' List.mem_cons_self
  cases numeral with
  | plain decimal =>
    cases numeral' with
    | plain decimal' => exact decimal.value.symm.trans decimal'.value
    | signed _ => exact absurd decimal unsigned
  | signed decimal =>
    cases numeral' with
    | plain decimal' => exact absurd decimal' unsigned
    | signed decimal' => exact decimal.value.symm.trans decimal'.value

/-- A number is denoted by its own digits. -/
theorem isNumeral_digits (n : Nat) : IsNumeral (digits n) n :=
  .plain ⟨Nat.toDigits_ne_nil, fun _ => Nat.isDigit_of_mem_toDigits (by decide) (by decide),
    Nat.ofDigitChars_ten_toDigits⟩

theorem le_ofDigitChars (digits : List Char) (start : Nat) :
    start ≤ Nat.ofDigitChars 10 digits start := by
  induction digits generalizing start with
  | nil => simp
  | cons c rest ih =>
    rw [Nat.ofDigitChars_cons]
    have further := ih (10 * start + (c.toNat - '0'.toNat))
    omega

theorem toNat_of_isDigit {c : Char} (digit : c.isDigit = true) : 48 ≤ c.toNat ∧ c.toNat ≤ 57 := by
  simp only [Char.isDigit, Bool.and_eq_true, decide_eq_true_eq, UInt32.le_iff_toNat_le] at digit
  exact digit

/-- The first digit counts as often as there are numbers of as many digits as follow it. -/
theorem ofDigitChars_cons_eq (c : Char) (rest : List Char) :
    Nat.ofDigitChars 10 (c :: rest) 0 =
      10 ^ rest.length * (c.toNat - '0'.toNat) + Nat.ofDigitChars 10 rest 0 := by
  rw [Nat.ofDigitChars_cons, Nat.ofDigitChars_eq_ofDigitChars_zero, Nat.mul_zero, Nat.zero_add]

theorem ofDigitChars_lt {digits : List Char} (all : ∀ c ∈ digits, c.isDigit = true) :
    Nat.ofDigitChars 10 digits 0 < 10 ^ digits.length := by
  induction digits with
  | nil => simp
  | cons c rest ih =>
    obtain ⟨digit, all⟩ := List.forall_mem_cons.mp all
    have value := toNat_of_isDigit digit
    have first : c.toNat - '0'.toNat ≤ 9 := by
      change c.toNat - 48 ≤ 9
      omega
    have scaled := Nat.mul_le_mul_left (10 ^ rest.length) first
    have tail := ih all
    rw [ofDigitChars_cons_eq, List.length_cons, Nat.pow_succ]
    omega

/-- Numbers are compared by their first part, and where that is the same by the rest. -/
theorem mul_add_lt_iff {unit first other rest rest' : Nat} (small : rest < unit)
    (small' : rest' < unit) :
    unit * first + rest < unit * other + rest' ↔ first < other ∨ first = other ∧ rest < rest' := by
  rcases Nat.lt_trichotomy first other with less | rfl | more
  · have scaled := Nat.mul_le_mul_left unit less
    rw [Nat.mul_succ] at scaled
    omega
  · omega
  · have scaled := Nat.mul_le_mul_left unit more
    rw [Nat.mul_succ] at scaled
    omega

/-- Of as many digits, the texts are ordered as the numbers that they denote. -/
theorem lt_iff_ofDigitChars_lt {first second : List Char} (length : first.length = second.length)
    (all : ∀ c ∈ first, c.isDigit = true) (all' : ∀ c ∈ second, c.isDigit = true) :
    first < second ↔ Nat.ofDigitChars 10 first 0 < Nat.ofDigitChars 10 second 0 := by
  induction first generalizing second with
  | nil =>
    rw [List.length_eq_zero_iff.mp length.symm]
    simp
  | cons c rest ih =>
    obtain ⟨c', rest', rfl⟩ := List.exists_cons_of_length_eq_add_one length.symm
    obtain ⟨digit, all⟩ := List.forall_mem_cons.mp all
    obtain ⟨digit', all'⟩ := List.forall_mem_cons.mp all'
    have length : rest.length = rest'.length := Nat.succ.inj length
    have small := ofDigitChars_lt all
    have small' := ofDigitChars_lt all'
    have value := toNat_of_isDigit digit
    have value' := toNat_of_isDigit digit'
    rw [← length] at small'
    rw [List.cons_lt_cons_iff, ih length all all', ofDigitChars_cons_eq, ofDigitChars_cons_eq,
      ← length, mul_add_lt_iff small small', ← Char.toNat_inj]
    change c.toNat < c'.toNat ∨ _ ↔ c.toNat - 48 < c'.toNat - 48 ∨ c.toNat - 48 = c'.toNat - 48 ∧ _
    omega

/-- Of as many digits, each number is denoted by one text only. -/
theorem eq_of_ofDigitChars_eq {first second : List Char} (length : first.length = second.length)
    (all : ∀ c ∈ first, c.isDigit = true) (all' : ∀ c ∈ second, c.isDigit = true)
    (same : Nat.ofDigitChars 10 first 0 = Nat.ofDigitChars 10 second 0) : first = second := by
  rcases Std.lt_trichotomy first second with less | equal | more
  · exact absurd same (Nat.ne_of_lt ((lt_iff_ofDigitChars_lt length all all').mp less))
  · exact equal
  · exact absurd same (Nat.ne_of_gt ((lt_iff_ofDigitChars_lt length.symm all' all).mp more))

/-- The bound is looked at after every digit, which is as good as at the end, since the number read so
far never shrinks. -/
theorem readDigits_eq_ok_iff {bound start n : Nat} {text : List Char} (below : start < bound) :
    readDigits bound start text = .ok n ↔
      (∀ c ∈ text, c.isDigit = true) ∧ Nat.ofDigitChars 10 text start = n ∧ n < bound := by
  induction text generalizing start with
  | nil =>
    simp only [readDigits, Except.ok.injEq, List.not_mem_nil, false_imp_iff, implies_true,
      Nat.ofDigitChars_nil, true_and]
    constructor
    · rintro rfl
      exact ⟨rfl, below⟩
    · exact And.left
  | cons c rest ih =>
    rw [readDigits, Nat.ofDigitChars_cons, List.forall_mem_cons]
    by_cases digit : c.isDigit = true
    · simp only [digit, Bool.not_true, Bool.false_eq_true, if_false, true_and]
      split
      · rename_i next
        exact ih next
      · rename_i beyond
        have further := le_ofDigitChars rest (10 * start + (c.toNat - '0'.toNat))
        simp only [reduceCtorEq, false_iff]
        rintro ⟨_, rfl, small⟩
        omega
    · simp [digit]

theorem readNumeral_eq_ok_iff {bound n : Nat} {text : List Char} (positive : 0 < bound) :
    readNumeral bound text = .ok n ↔ IsNumeral text n ∧ n < bound := by
  have read (digits : List Char) (some : digits ≠ []) :
      readDigits bound 0 digits = .ok n ↔ IsDecimal digits n ∧ n < bound := by
    rw [readDigits_eq_ok_iff positive]
    exact ⟨fun ⟨all, value, small⟩ => ⟨⟨some, all, value⟩, small⟩,
      fun ⟨decimal, small⟩ => ⟨decimal.isDigit, decimal.value, small⟩⟩
  unfold readNumeral
  split
  · simp only [reduceCtorEq, false_iff]
    rintro ⟨numeral, _⟩
    cases numeral with
    | plain decimal => exact decimal.ne_nil rfl
  · simp only [reduceCtorEq, false_iff]
    rintro ⟨numeral, _⟩
    cases numeral with
    | plain decimal => exact absurd (decimal.isDigit '+' (by simp)) (by decide)
    | signed decimal => exact decimal.ne_nil rfl
  · rename_i rest some
    rw [read rest some]
    constructor
    · rintro ⟨decimal, small⟩
      exact ⟨.signed decimal, small⟩
    · rintro ⟨numeral, small⟩
      cases numeral with
      | plain decimal => exact absurd (decimal.isDigit '+' (by simp)) (by decide)
      | signed decimal => exact ⟨decimal, small⟩
  · rename_i some _ unsigned
    rw [read text some]
    constructor
    · rintro ⟨decimal, small⟩
      exact ⟨.plain decimal, small⟩
    · rintro ⟨numeral, small⟩
      cases numeral with
      | plain decimal => exact ⟨decimal, small⟩
      | signed decimal => exact absurd rfl (unsigned _)

end TabletDrain.Text
