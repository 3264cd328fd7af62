import TabletDrain.Text.Numeral

/-! Lengths of time, in whole nanoseconds, and their text in messages. -/
namespace TabletDrain

structure Span where
  nanoseconds : Nat
  deriving DecidableEq, Repr

namespace Span

/-- A number of milliseconds. -/
def ofMilliseconds (n : Nat) : Span := ⟨n * 1000000⟩

/-- A number of seconds and nanoseconds. -/
def ofSeconds (seconds nanoseconds : Nat) : Span := ⟨seconds * 1000000000 + nanoseconds⟩

/-- The digits after the point of `rest / 10 ^ places`, zeros at the end left out. -/
def fraction (places rest : Nat) : String :=
  let shown := ((Text.paddedDigits places rest).reverse.dropWhile (· = '0')).reverse
  if shown.isEmpty then "" else "." ++ String.ofList shown

/-- A number of nanoseconds in a unit of `10 ^ places` of them. -/
def inUnit (n places : Nat) (unit : String) : String :=
  let one := Nat.pow 10 places
  Text.decimal (n / one) ++ fraction places (n % one) ++ unit

/-- The text of a length: in the largest unit of which it holds at least one, with the exact
fraction. -/
def text (span : Span) : String :=
  let n := span.nanoseconds
  if 1000000000 ≤ n then inUnit n 9 "s"
  else if 1000000 ≤ n then inUnit n 6 "ms"
  else if 1000 ≤ n then inUnit n 3 "µs"
  else inUnit n 0 "ns"

end Span

end TabletDrain
