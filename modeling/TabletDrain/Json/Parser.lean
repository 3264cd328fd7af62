import TabletDrain.Json.Number
import TabletDrain.Text.Hexadecimal

/-! Reading JSON text. Blank characters may stand around values, and nothing else may follow the
value. What is well written but stands for nothing becomes an unusable value, and reading goes on:
a number beyond all range, a string with half of a pair of characters, an object with such a name,
and what is nested more than 127 deep. -/
namespace TabletDrain.Json

def skipBlanks (text : List Char) : List Char :=
  text.dropWhile fun c => c = ' ' || c = '\n' || c = '\t' || c = '\r'

def readHexadecimal4 : List Char → Option (Nat × List Char)
  | a :: b :: c :: d :: rest => do
    let a ← Text.hexadecimalDigit? a
    let b ← Text.hexadecimalDigit? b
    let c ← Text.hexadecimalDigit? c
    let d ← Text.hexadecimalDigit? d
    return (((a * 16 + b) * 16 + c) * 16 + d, rest)
  | _ => none

def readLowHalf : List Char → Option (Nat × List Char)
  | '\\' :: 'u' :: rest => do
    let (low, rest) ← readHexadecimal4 rest
    if 0xdc00 ≤ low && low < 0xe000 then some (low, rest) else none
  | _ => none

/-- The character of a `u` escape, and what follows. Characters beyond the first plane are written
as two escapes; half of such a pair stands for no character. -/
def readUnicodeEscape (text : List Char) : Option (Option Char × List Char) := do
  let (high, rest) ← readHexadecimal4 text
  if 0xd800 ≤ high && high < 0xdc00 then
    match readLowHalf rest with
    | some (low, rest) =>
      return (some (Char.ofNat (0x10000 + (high - 0xd800) * 0x400 + (low - 0xdc00))), rest)
    | none => return (none, rest)
  else if 0xdc00 ≤ high && high < 0xe000 then return (none, rest)
  else return (some (Char.ofNat high), rest)

/-- The rest of a string after its opening quote, if all of it stands for characters, and what
follows the closing quote. `done` has the characters so far, last one first. -/
def readString : Nat → Option (List Char) → List Char → Option (Option String × List Char)
  | 0, _, _ => none
  | fuel + 1, done, text =>
    let next (c : Char) (rest : List Char) : Option (Option String × List Char) :=
      readString fuel (done.map (c :: ·)) rest
    match text with
    | '"' :: rest => some (done.map fun done => String.ofList done.reverse, rest)
    | '\\' :: c :: rest =>
      match c with
      | '"' => next '"' rest
      | '\\' => next '\\' rest
      | '/' => next '/' rest
      | 'b' => next '\x08' rest
      | 'f' => next '\x0c' rest
      | 'n' => next '\n' rest
      | 'r' => next '\r' rest
      | 't' => next '\t' rest
      | 'u' =>
        match readUnicodeEscape rest with
        | some (some c, rest) => next c rest
        | some (none, rest) => readString fuel none rest
        | none => none
      | _ => none
    | c :: rest => if c.toNat < 0x20 then none else next c rest
    | [] => none

def readFraction : List Char → Option (List Char × List Char)
  | '.' :: rest =>
    let (digits, rest) := rest.span Char.isDigit
    if digits.isEmpty then none else some (digits, rest)
  | text => some ([], text)

def readExponent : List Char → Option (Bool × List Char × List Char)
  | c :: rest =>
    if c = 'e' || c = 'E' then
      let (isLowered, rest) := match rest with
        | '+' :: rest => (false, rest)
        | '-' :: rest => (true, rest)
        | rest => (false, rest)
      let (digits, rest) := rest.span Char.isDigit
      if digits.isEmpty then none else some (isLowered, digits, rest)
    else some (false, [], c :: rest)
  | [] => some (false, [], [])

/-- A number, and what follows. More than one digit before the point must not start with zero. -/
def readNumber (text : List Char) : Option (Json × List Char) := do
  let (isNegative, rest) := match text with
    | '-' :: rest => (true, rest)
    | rest => (false, rest)
  let (whole, rest) := rest.span Char.isDigit
  if whole.isEmpty || (whole.length > 1 && whole.head? = some '0') then none
  else
    let (fraction, rest) ← readFraction rest
    let (isLowered, exponent, rest) ← readExponent rest
    let numeral : Numeral := ⟨isNegative, whole, fraction, isLowered, exponent⟩
    return (numeral.value, rest)

def opened (depth : Nat) (value : Json) : Json := if depth = 0 then unusable else value

def ofNamed (fields : List (Option String × Json)) : Json :=
  match fields.mapM fun (name, value) => name.map fun name => (name, value) with
  | some fields => obj fields
  | none => unusable

mutual

/-- A value, with blanks in front, and what follows it. `depth` counts the lists and objects that
may still be opened. -/
def readValue : Nat → Nat → List Char → Option (Json × List Char)
  | 0, _, _ => none
  | fuel + 1, depth, text =>
    match skipBlanks text with
    | 'n' :: 'u' :: 'l' :: 'l' :: rest => some (null, rest)
    | 't' :: 'r' :: 'u' :: 'e' :: rest => some (bool true, rest)
    | 'f' :: 'a' :: 'l' :: 's' :: 'e' :: rest => some (bool false, rest)
    | '"' :: rest =>
      match readString fuel (some []) rest with
      | some (some value, rest) => some (str value, rest)
      | some (none, rest) => some (unusable, rest)
      | none => none
    | '[' :: rest =>
      match skipBlanks rest with
      | ']' :: rest => some (opened depth (arr []), rest)
      | rest =>
        match readItems fuel (depth - 1) [] rest with
        | some (items, rest) => some (opened depth (arr items), rest)
        | none => none
    | '\x7b' :: rest =>
      match skipBlanks rest with
      | '\x7d' :: rest => some (opened depth (obj []), rest)
      | rest =>
        match readFields fuel (depth - 1) [] rest with
        | some (fields, rest) => some (opened depth (ofNamed fields), rest)
        | none => none
    | rest => readNumber rest

/-- The items of a list up to its end, after those already read, last one first. -/
def readItems : Nat → Nat → List Json → List Char → Option (List Json × List Char)
  | 0, _, _, _ => none
  | fuel + 1, depth, done, text =>
    match readValue fuel depth text with
    | none => none
    | some (item, rest) =>
      match skipBlanks rest with
      | ',' :: rest => readItems fuel depth (item :: done) rest
      | ']' :: rest => some ((item :: done).reverse, rest)
      | _ => none

/-- The fields of an object up to its end, after those already read, last one first. -/
def readFields : Nat → Nat → List (Option String × Json) → List Char →
    Option (List (Option String × Json) × List Char)
  | 0, _, _, _ => none
  | fuel + 1, depth, done, text =>
    match skipBlanks text with
    | '"' :: rest =>
      match readString fuel (some []) rest with
      | none => none
      | some (name, rest) =>
        match skipBlanks rest with
        | ':' :: rest =>
          match readValue fuel depth rest with
          | none => none
          | some (value, rest) =>
            match skipBlanks rest with
            | ',' :: rest => readFields fuel depth ((name, value) :: done) rest
            | '\x7d' :: rest => some (((name, value) :: done).reverse, rest)
            | _ => none
        | _ => none
    | _ => none

end

def depthLimit : Nat := 127

def parse? (text : String) : Option Json :=
  let characters := text.toList
  match readValue (2 * characters.length + 2) depthLimit characters with
  | some (value, rest) => if (skipBlanks rest).isEmpty then some value else none
  | none => none

end TabletDrain.Json
