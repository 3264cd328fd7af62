/-! Decimal numerals: writing a number, with or without zeros in front, and reading one that must
stay below a bound. Reading takes ASCII digits only, any number of zeros in front, and one plus sign
before them; it judges the text from left to right, so the first fault met is the one told. -/
namespace TabletDrain.Text

def digits (n : Nat) : List Char := Nat.toDigits 10 n

def decimal (n : Nat) : String := String.ofList (digits n)

/-- The decimal digits of a number with zeros in front up to a width. -/
def paddedDigits (width n : Nat) : List Char :=
  List.replicate (width - (digits n).length) '0' ++ digits n

/-- The decimal text of a number with zeros in front up to a width. -/
def padded (width n : Nat) : String := String.ofList (paddedDigits width n)

/-- The decimal text of a number with a sign where it is negative. -/
def signed : Int → String
  | .ofNat n => decimal n
  | .negSucc n => "-" ++ decimal (n + 1)

/-- Why a text is no numeral below the bound. -/
inductive NumeralFault where
  | empty
  | invalidDigit
  | tooLarge
  deriving DecidableEq, Repr

def NumeralFault.message : NumeralFault → String
  | .empty => "cannot parse integer from empty string"
  | .invalidDigit => "invalid digit found in string"
  | .tooLarge => "number too large to fit in target type"

def readDigits (bound value : Nat) : List Char → Except NumeralFault Nat
  | [] => .ok value
  | c :: rest =>
    if !c.isDigit then .error .invalidDigit
    else
      let next := 10 * value + (c.toNat - '0'.toNat)
      if next < bound then readDigits bound next rest else .error .tooLarge

/-- Reads a number below `bound`. -/
def readNumeral (bound : Nat) : List Char → Except NumeralFault Nat
  | [] => .error .empty
  | ['+'] => .error .invalidDigit
  | '+' :: rest => readDigits bound 0 rest
  | text => readDigits bound 0 text

end TabletDrain.Text
