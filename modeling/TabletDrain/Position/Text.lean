import TabletDrain.Position.Basic
import TabletDrain.Fault
import TabletDrain.Text.Blank
import TabletDrain.Text.Split

/-! The written form of replication positions. The empty text is the zero position. Any other text
names its flavour before the first slash: `MySQL56` is followed by entries between commas, each a
server and its ranges between colons; `FilePos` by a log file and an offset after the last colon. -/
namespace TabletDrain.Position

def transactionsFlavor : String := "MySQL56"

def logFileFlavor : String := "FilePos"

def numberBound : Nat := 18446744073709551616

inductive TextFault where
  | missingFlavor
  | unknownFlavor (flavor : List Char)
  | emptyServer
  | invalidNumber (text : List Char)
  | invalidInterval (text : List Char)
  | noIntervals (server : List Char)
  | missingOffset
  | emptyFile
  | invalidOffset (text : List Char)
  deriving DecidableEq, Repr

def TextFault.reason : TextFault → String
  | missingFlavor => "missing flavor prefix"
  | unknownFlavor flavor => "unknown flavor " ++ Text.quoted (String.ofList flavor)
  | emptyServer => "empty server uuid"
  | invalidNumber text => "invalid sequence number " ++ Text.quoted (String.ofList text)
  | invalidInterval text => "invalid interval " ++ Text.quoted (String.ofList text)
  | noIntervals server => "no intervals for server " ++ String.ofList server
  | missingOffset => "expected <file>:<offset>"
  | emptyFile => "empty binlog file"
  | invalidOffset text => "invalid offset " ++ Text.quoted (String.ofList text)

def readSequence (text : List Char) : Except TextFault Nat :=
  match Text.readNumeral numberBound text with
  | .ok n => .ok n
  | .error _ => .error (.invalidNumber text)

/-- The two ends of a range: the numbers around the first dash, or one number for both. -/
def readEnds (part : List Char) : Except TextFault (Nat × Nat) :=
  match Text.splitFirst '-' part with
  | some (a, b) => do
    let first ← readSequence a
    let last ← readSequence b
    return (first, last)
  | none => do
    let n ← readSequence part
    return (n, n)

/-- Reads a range. It starts at one or later and does not end before it starts. -/
def readInterval (part : List Char) : Except TextFault Interval := do
  let (first, last) ← readEnds part
  if first = 0 || last < first then throw (.invalidInterval part)
  return ⟨first, last⟩

def lowered (text : List Char) : List Char := text.map Char.toLower

def readEntry (entry : List Char) : Except TextFault (List Char × List Interval) := do
  match Text.splitAll ':' entry with
  | [] => throw .emptyServer
  | server :: parts =>
    let server := lowered server
    if server.isEmpty then throw .emptyServer
    let ranges ← parts.mapM readInterval
    if ranges.isEmpty then throw (.noIntervals server)
    return (server, ranges)

def entriesOf (value : List Char) : List (List Char) :=
  ((Text.splitAll ',' value).map Text.trim).filter fun entry => !entry.isEmpty

def addRanges (set : Keyed (List Interval)) (server : String) (ranges : List Interval) :
    Keyed (List Interval) :=
  set.insert server ((set.get? server).getD [] ++ ranges)

def gather (entries : List (List Char × List Interval)) : Keyed (List Interval) :=
  entries.foldl (fun set (server, ranges) => addRanges set (String.ofList server) ranges) .empty

def readTransactions (value : List Char) : Except TextFault Position := do
  let entries ← (entriesOf value).mapM readEntry
  return transactions ((gather entries).map Interval.normalize)

def readLogFile (value : List Char) : Except TextFault Position :=
  match Text.splitLast ':' value with
  | none => .error .missingOffset
  | some ([], _) => .error .emptyFile
  | some (file, offset) =>
    match Text.readNumeral numberBound offset with
    | .ok n => .ok (logFile (String.ofList file) n)
    | .error _ => .error (.invalidOffset offset)

def read (text : List Char) : Except TextFault Position :=
  if text.isEmpty then .ok zero
  else
    match Text.splitFirst '/' text with
    | none => .error .missingFlavor
    | some (flavor, value) =>
      if flavor = transactionsFlavor.toList then readTransactions value
      else if flavor = logFileFlavor.toList then readLogFile value
      else .error (.unknownFlavor flavor)

/-- Reads a position; the fault names the text and the reason. -/
def decode (text : String) : Except Fault Position :=
  match read text.toList with
  | .ok position => .ok position
  | .error fault => .error (.position text fault.reason)

/-- A range with a colon in front; a single number stands alone. -/
def intervalText (range : Interval) : List Char :=
  if range.first = range.last then ':' :: Text.digits range.first
  else ':' :: Text.digits range.first ++ '-' :: Text.digits range.last

def entryText (entry : String × List Interval) : List Char :=
  entry.1.toList ++ entry.2.flatMap intervalText

def commaSeparated : List (List Char) → List Char
  | [] => []
  | [text] => text
  | text :: rest => text ++ ',' :: commaSeparated rest

def write : Position → List Char
  | zero => []
  | transactions set =>
    transactionsFlavor.toList ++ '/' :: commaSeparated (set.entries.map entryText)
  | logFile file offset =>
    logFileFlavor.toList ++ '/' :: file.toList ++ ':' :: Text.digits offset

def text (position : Position) : String := String.ofList position.write

end TabletDrain.Position
