import TabletDrain.Text.Numeral

/-! The shortest decimal text of a floating-point number: the fewest digits that read back as the
number, and of those the ones nearest to it, the even ones where two are equally near. The numbers
that read back as a given one form an interval around it, half a step to each side; a decimal grid
is fine enough as soon as one of the number's two neighbours on it lies in that interval. -/
namespace TabletDrain.Text

structure Binary where
  mantissa : Nat
  exponent : Int
  deriving DecidableEq, Repr

structure Decimal where
  digits : Nat
  exponent : Int
  deriving DecidableEq, Repr

namespace Binary

def leastExponent : Int := -1074

/-- The least mantissa of numbers that are not the smallest; the greatest is below its double. -/
def leastMantissa : Nat := 4503599627370496

def ofFloat (x : Float) : Binary :=
  let bits := x.toBits.toNat
  let fraction := bits % leastMantissa
  let field := bits / leastMantissa % 2048
  if field = 0 then ⟨fraction, leastExponent⟩
  else ⟨leastMantissa + fraction, leastExponent + (field - 1 : Nat)⟩

def stepOver (x : Binary) (power : Int) : Nat × Nat :=
  (Nat.pow 2 x.exponent.toNat * Nat.pow 10 (-power).toNat,
    Nat.pow 2 (-x.exponent).toNat * Nat.pow 10 power.toNat)

/-- The lower and the upper end of the numbers that read back as `x`, in quarters of a step. Below a
power of two the steps are half as long. -/
def ends (x : Binary) : Nat × Nat :=
  let below := if x.mantissa = leastMantissa && leastExponent < x.exponent then 1 else 2
  (4 * x.mantissa - below, 4 * x.mantissa + 2)

/-- The number `n * 10 ^ power` reads back as `x`. The ends of the interval do so for an even
mantissa. -/
def admits (x : Binary) (power : Int) (n : Nat) : Bool :=
  let (step, unit) := x.stepOver power
  let (low, high) := x.ends
  if x.mantissa % 2 = 0 then low * step ≤ 4 * n * unit && 4 * n * unit ≤ high * step
  else low * step < 4 * n * unit && 4 * n * unit < high * step

/-- The nearer of the neighbours of `x` among the multiples of `10 ^ power` that read back as it,
and the even one when they are equally near. -/
def neighbour? (x : Binary) (power : Int) : Option Decimal :=
  let (step, unit) := x.stepOver power
  let down := x.mantissa * step / unit
  let middle := (2 * down + 1) * unit
  let isNearDown :=
    2 * x.mantissa * step < middle || (2 * x.mantissa * step = middle && down % 2 = 0)
  match x.admits power down, x.admits power (down + 1) with
  | true, true => some ⟨if isNearDown then down else down + 1, power⟩
  | true, false => some ⟨down, power⟩
  | false, true => some ⟨down + 1, power⟩
  | false, false => none

/-- The powers of ten between the largest and the smallest numbers, coarse grids first. -/
def powers : List Int := (List.range 633).map fun (n : Nat) => 308 - (n : Int)

def shortest? (x : Binary) : Option Decimal := powers.findSome? x.neighbour?

end Binary

/-- Digits with a point in front of the last `places` of them, and at least one before it. -/
def pointed (digits : List Char) (places : Nat) : List Char :=
  let padded := List.replicate (places + 1 - digits.length) '0' ++ digits
  let whole := padded.length - places
  padded.take whole ++ '.' :: padded.drop whole

namespace Decimal

/-- The text of a decimal number with all its places, and always with a point. -/
def text (x : Decimal) : String :=
  if 0 ≤ x.exponent then
    String.ofList (Text.digits x.digits ++ List.replicate x.exponent.toNat '0' ++ ['.', '0'])
  else String.ofList (pointed (Text.digits x.digits) (-x.exponent).toNat)

/-- The power of ten that the number reaches: that of its first digit, and one more. -/
def magnitude (x : Decimal) : Int := x.exponent + (Text.digits x.digits).length

/-- The text of a decimal number with one digit before the point, if one is needed, and a power of
ten behind. -/
def scientific (x : Decimal) : String :=
  let digits := Text.digits x.digits
  let power := "e" ++ Text.signed (x.magnitude - 1)
  if digits.length = 1 then String.ofList digits ++ power
  else String.ofList (pointed digits (digits.length - 1)) ++ power

end Decimal

def Binary.decimal (x : Binary) : Decimal :=
  if x.mantissa = 0 then ⟨0, 0⟩ else x.shortest?.getD ⟨0, 0⟩

def shortest (x : Float) : String := (Binary.ofFloat x).decimal.text

end TabletDrain.Text
