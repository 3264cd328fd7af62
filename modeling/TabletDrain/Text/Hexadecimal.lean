/-! Hexadecimal digits: writing numbers and bytes, and reading digits in either case. -/
namespace TabletDrain.Text

def hexadecimal (n : Nat) : List Char := Nat.toDigits 16 n

def hexadecimal4 (n : Nat) : List Char :=
  List.replicate (4 - (hexadecimal n).length) '0' ++ hexadecimal n

def byteDigits (byte : UInt8) : List Char :=
  let digit (n : Nat) : Char := ((hexadecimal n).head?.getD '0').toUpper
  [digit (byte.toNat / 16), digit (byte.toNat % 16)]

def hexadecimalDigit? (c : Char) : Option Nat :=
  if '0' ≤ c && c ≤ '9' then some (c.toNat - '0'.toNat)
  else if 'a' ≤ c && c ≤ 'f' then some (c.toNat - 'a'.toNat + 10)
  else if 'A' ≤ c && c ≤ 'F' then some (c.toNat - 'A'.toNat + 10)
  else none

end TabletDrain.Text
