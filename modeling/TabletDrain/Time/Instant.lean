import TabletDrain.Text.Blank
import TabletDrain.Text.Numeral

/-! Points in time of the calendar: reading the written form of RFC 3339, with some freedom in
blanks and signs, and writing it in universal time. A leap second is kept as more than a second's
worth of nanoseconds within the second before it. -/
namespace TabletDrain

/-- A point in time: the seconds since the start of 1970, and nanoseconds, of which a leap second
has more than a second's worth. -/
structure Instant where
  seconds : Int
  nanoseconds : Nat
  deriving DecidableEq, Repr

namespace Instant

/-- The number of nanoseconds in a second. -/
def perSecond : Nat := 1000000000

def before (a b : Instant) : Bool :=
  if a.seconds = b.seconds then a.nanoseconds < b.nanoseconds else a.seconds < b.seconds

/-- The days from the start of 1970 to a date of the Gregorian calendar. Years are counted from
March, so that a leap day comes last in its year. -/
def daysOfDate (year : Int) (month day : Nat) : Int :=
  let y : Int := if month ≤ 2 then year - 1 else year
  let era := Int.fdiv y 400
  let yearOfEra := Int.fmod y 400
  let shifted : Int := if month ≤ 2 then month + 9 else month - 3
  let dayOfYear := (153 * shifted + 2) / 5 + day - 1
  let dayOfEra := yearOfEra * 365 + yearOfEra / 4 - yearOfEra / 100 + dayOfYear
  era * 146097 + dayOfEra - 719468

/-- The year, month and day of the Gregorian calendar that many days after the start of 1970. -/
def dateOfDays (days : Int) : Int × Nat × Nat :=
  let z := days + 719468
  let era := Int.fdiv z 146097
  let dayOfEra := Int.fmod z 146097
  let yearOfEra := (dayOfEra - dayOfEra / 1460 + dayOfEra / 36524 - dayOfEra / 146096) / 365
  let dayOfYear := dayOfEra - (365 * yearOfEra + yearOfEra / 4 - yearOfEra / 100)
  let shifted := (5 * dayOfYear + 2) / 153
  let day := dayOfYear - (153 * shifted + 2) / 5 + 1
  let month := if shifted < 10 then shifted + 3 else shifted - 9
  (yearOfEra + era * 400 + (if month ≤ 2 then 1 else 0), month.toNat, day.toNat)

def isLeapYear (year : Int) : Bool :=
  year % 4 = 0 && (year % 100 ≠ 0 || year % 400 = 0)

def daysOfMonth (year : Int) (month : Nat) : Nat :=
  match month with
  | 2 => if isLeapYear year then 29 else 28
  | 4 | 6 | 9 | 11 => 30
  | _ => 31

def yearBounds : Int × Int := (-262143, 262142)

def firstSecond : Int := daysOfDate yearBounds.1 1 1 * 86400

def lastSecond : Int := daysOfDate yearBounds.2 12 31 * 86400 + 86399

def isRepresentable (instant : Instant) : Bool :=
  firstSecond ≤ instant.seconds && instant.seconds ≤ lastSecond

/-- The point so many seconds later, or earlier, or nothing beyond the representable years. Leaving
a leap second counts from its end when going back, and from its start when going on. -/
def addSeconds? (instant : Instant) (seconds : Int) : Option Instant :=
  let later : Instant :=
    if instant.nanoseconds < perSecond || seconds = 0 then
      ⟨instant.seconds + seconds, instant.nanoseconds⟩
    else if 0 < seconds then ⟨instant.seconds + seconds, instant.nanoseconds - perSecond⟩
    else ⟨instant.seconds + 1 + seconds, instant.nanoseconds - perSecond⟩
  if later.isRepresentable then some later else none

def readUpTo (width : Nat) (text : List Char) : Option (Nat × List Char) :=
  let digits := (text.take width).takeWhile Char.isDigit
  if digits.isEmpty then none
  else some (digits.foldl (fun n c => 10 * n + (c.toNat - '0'.toNat)) 0, text.drop digits.length)

/-- A number of two digits at most, with blanks in front, and what follows. -/
def readTwo (text : List Char) : Option (Nat × List Char) := readUpTo 2 (Text.trimStart text)

/-- A year, with blanks in front, and what follows. Only a signed one may have more than four
digits. -/
def readYear (text : List Char) : Option (Int × List Char) :=
  match Text.trimStart text with
  | '-' :: rest => (readUpTo rest.length rest).map fun (n, rest) => (-(n : Int), rest)
  | '+' :: rest => (readUpTo rest.length rest).map fun (n, rest) => ((n : Int), rest)
  | rest => (readUpTo 4 rest).map fun (n, rest) => ((n : Int), rest)

def skipMark (mark : Char) (text : List Char) : Option (List Char) :=
  match Text.trimStart text with
  | c :: rest => if c = mark then some rest else none
  | [] => none

/-- The nanoseconds of a fraction, if there is one, and what follows. Digits after the ninth are
dropped. -/
def readFraction (text : List Char) : Option (Nat × List Char) :=
  match text with
  | '.' :: rest => do
    let shown := (rest.take 9).takeWhile Char.isDigit
    let (n, rest) ← readUpTo 9 rest
    return (n * Nat.pow 10 (9 - shown.length), rest.dropWhile Char.isDigit)
  | text => some (0, text)

def readPair : List Char → Option (Nat × List Char)
  | a :: b :: rest =>
    if a.isDigit && b.isDigit then
      some (10 * (a.toNat - '0'.toNat) + (b.toNat - '0'.toNat), rest)
    else none
  | _ => none

/-- The seconds of an offset in hours and minutes, less than a day, and what follows. -/
def readHours (text : List Char) : Option (Int × List Char) := do
  let (hours, rest) ← readPair text
  let (minutes, rest) ← readPair (rest.dropWhile fun c => c = ':' || Text.isBlank c)
  if minutes < 60 && hours < 24 then return ((hours * 3600 + minutes * 60 : Nat), rest) else none

/-- The offset from universal time, in seconds, and what follows. -/
def readOffset (text : List Char) : Option (Int × List Char) :=
  match Text.trimStart text with
  | u :: t :: c :: rest =>
    if u.toUpper = 'U' && t.toUpper = 'T' && c.toUpper = 'C' then some (0, rest)
    else readSigned (u :: t :: c :: rest)
  | rest => readSigned rest
where
  readSigned : List Char → Option (Int × List Char)
    | 'Z' :: rest => some (0, rest)
    | 'z' :: rest => some (0, rest)
    | '+' :: rest => readHours rest
    | '-' :: rest => (readHours rest).map fun (n, rest) => (-n, rest)
    | '\u2212' :: rest => (readHours rest).map fun (n, rest) => (-n, rest)
    | _ => none

def readDate (text : List Char) : Option ((Int × Nat × Nat) × List Char) := do
  let (year, rest) ← readYear text
  let rest ← skipMark '-' rest
  let (month, rest) ← readTwo rest
  let rest ← skipMark '-' rest
  let (day, rest) ← readTwo rest
  if yearBounds.1 ≤ year && year ≤ yearBounds.2 && 1 ≤ month && month ≤ 12 && 1 ≤ day
      && day ≤ daysOfMonth year month then
    return ((year, month, day), rest)
  else none

/-- A time of day in seconds and nanoseconds, and what follows. -/
def readTime (text : List Char) : Option ((Nat × Nat) × List Char) := do
  let (hour, rest) ← readTwo text
  let rest ← skipMark ':' rest
  let (minute, rest) ← readTwo rest
  let rest ← skipMark ':' rest
  let (second, rest) ← readTwo rest
  let (nanoseconds, rest) ← readFraction rest
  if hour < 24 && minute < 60 && second ≤ 60 then
    let start := hour * 3600 + minute * 60
    if second = 60 then return ((start + 59, perSecond + nanoseconds), rest)
    else return ((start + second, nanoseconds), rest)
  else none

def skipDivider : List Char → Option (List Char)
  | 'T' :: rest => some rest
  | 't' :: rest => some rest
  | ' ' :: rest => some rest
  | _ => none

def parse? (text : String) : Option Instant := do
  let ((year, month, day), rest) ← readDate text.toList
  let rest ← skipDivider rest
  let ((seconds, nanoseconds), rest) ← readTime rest
  let (offset, rest) ← readOffset rest
  if (Text.trimStart rest).isEmpty then
    let instant : Instant := ⟨daysOfDate year month day * 86400 + seconds - offset, nanoseconds⟩
    if instant.isRepresentable then some instant else none
  else none

/-- A year with at least four digits, and with a sign beyond those of four digits. -/
def yearText (year : Int) : String :=
  if 0 ≤ year && year ≤ 9999 then Text.padded 4 year.toNat
  else (if year < 0 then "-" else "+") ++ Text.padded 4 year.natAbs

def secondsText (instant : Instant) : String :=
  let days := Int.fdiv instant.seconds 86400
  let time := (Int.fmod instant.seconds 86400).toNat
  let (year, month, day) := dateOfDays days
  let second := time % 60 + (if perSecond ≤ instant.nanoseconds then 1 else 0)
  yearText year ++ "-" ++ Text.padded 2 month ++ "-" ++ Text.padded 2 day ++ "T"
    ++ Text.padded 2 (time / 3600) ++ ":" ++ Text.padded 2 (time / 60 % 60) ++ ":"
    ++ Text.padded 2 second

/-- The written form with whole seconds. -/
def wholeText (instant : Instant) : String := instant.secondsText ++ "Z"

/-- The written form with six digits of the fraction, the rest cut off. -/
def microText (instant : Instant) : String :=
  instant.secondsText ++ "." ++ Text.padded 6 (instant.nanoseconds % perSecond / 1000) ++ "Z"

end Instant

end TabletDrain
