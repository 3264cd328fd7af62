import TabletDrain.Json.Basic

/-! The value of a written number. An integer that fits 64 bits, signed or unsigned, is exact. Any
other number becomes a floating-point number: its leading digits, as far as they fit 64 bits, are
rounded, and the result is multiplied or divided by a power of ten, which rounds again. So a number
of more than fifteen digits may come out beside the floating-point number nearest to it. -/
namespace TabletDrain.Json

/-- A number as it is written: its sign, the digits before and after the point, and the digits of
the exponent with its sign. -/
structure Numeral where
  isNegative : Bool
  whole : List Char
  fraction : List Char
  isLowered : Bool
  exponent : List Char

def natural (digits : List Char) : Nat :=
  digits.foldl (fun n c => 10 * n + (c.toNat - '0'.toNat)) 0

/-- Puts digits behind a number as long as it fits 64 bits, and gives back the digits left over. -/
def gather (n : Nat) : List Char → Nat × List Char
  | [] => (n, [])
  | c :: rest =>
    let next := 10 * n + (c.toNat - '0'.toNat)
    if next < unsignedBound then gather next rest else (n, c :: rest)

def greatestPower : Nat := 308

def powerOfTen (n : Nat) : Float := Float.ofScientific 1 false n

/-- A number times a power of ten, or nothing when that is beyond the floating-point numbers. -/
def raised? (x : Float) (power : Nat) : Option Float :=
  if power ≤ greatestPower then
    let product := x * powerOfTen power
    if product.isFinite then some product else none
  else if x == 0 then some x
  else none

/-- A number of 64 bits divided by a power of ten, in steps where there is no such power. The third
step would always reach zero. -/
def lowered (x : Float) (power : Nat) : Float :=
  if power ≤ greatestPower then x / powerOfTen power
  else if power ≤ 2 * greatestPower then
    x / powerOfTen greatestPower / powerOfTen (power - greatestPower)
  else 0

namespace Numeral

def isWhole (numeral : Numeral) : Bool := numeral.fraction.isEmpty && numeral.exponent.isEmpty

def integer? (numeral : Numeral) : Option Int :=
  let n := natural numeral.whole
  if !numeral.isWhole then none
  else if numeral.isNegative then if n = 0 || signedBound < n then none else some (-(n : Int))
  else if n < unsignedBound then some n
  else none

/-- The leading digits as a number, and the power of ten that goes with it. -/
def scaled (numeral : Numeral) : Nat × Int :=
  let (n, wholeRest) := gather 0 numeral.whole
  let (n, fractionRest) := gather n numeral.fraction
  let places : Int := (numeral.fraction.length - fractionRest.length : Nat)
  let exponent : Int := natural numeral.exponent
  (n, wholeRest.length - places + (if numeral.isLowered then -exponent else exponent))

def float? (numeral : Numeral) : Option Float := do
  let (digits, power) := numeral.scaled
  let x := Float.ofNat digits
  let x ← if 0 ≤ power then raised? x power.toNat else some (lowered x (-power).toNat)
  return if numeral.isNegative then -x else x

def value (numeral : Numeral) : Json :=
  match numeral.integer? with
  | some n => num n
  | none =>
    match numeral.float? with
    | some x => real x
    | none => unusable

end Numeral

end TabletDrain.Json
