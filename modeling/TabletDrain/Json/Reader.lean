import TabletDrain.Json.Basic
import TabletDrain.Keyed

/-! Typed reading of JSON values. A record may be written in two ways: as an object with named
fields, of which unknown ones are passed over and none may be given twice, or as a list of the
fields in their declared order, of which those at the end may be left out. What a left-out field
means is each field's own affair. -/
namespace TabletDrain.Json

variable {α : Type}

inductive Slot where
  | given (value : Json)
  | missing
  | beyond

def readText : Json → Option String
  | str value => some value
  | _ => none

def readAny (value : Json) : Option Json := if value.isUsable then some value else none

def readBool : Json → Option Bool
  | bool value => some value
  | _ => none

/-- An integer between two bounds, the upper one excluded. -/
def readInt (low high : Int) : Json → Option Int
  | num n => if low ≤ n && n < high then some n else none
  | _ => none

def readInt32 (value : Json) : Option Int := readInt (-2147483648) 2147483648 value

def readInt64 (value : Json) : Option Int := readInt (-signedBound) signedBound value

/-- A natural number below a bound. -/
def readNat (bound : Nat) (value : Json) : Option Nat := (readInt 0 bound value).map Int.toNat

def readList (read : Json → Option α) : Json → Option (List α)
  | arr items => items.mapM read
  | _ => none

/-- A map from texts. Of two values under one key the later counts. -/
def readMap (read : Json → Option α) : Json → Option (Keyed α)
  | obj fields => do
    let entries ← fields.mapM fun (key, value) => (read value).map fun v => (key, v)
    return .ofList entries
  | _ => none

def readNullable (read : Json → Option α) : Json → Option (Option α)
  | null => some none
  | value => (read value).map some

/-- One of several names; also as the only field of an object, with null under it. -/
def readName (named : String → Option α) : Json → Option α
  | str name => named name
  | obj [(name, null)] => named name
  | _ => none

/-- The value of a field in an object, under any of its spellings; refused when given twice. -/
def slot? (spellings : List String) (fields : List (String × Json)) : Option Slot :=
  match fields.filter fun field => spellings.contains field.1 with
  | [] => some .missing
  | [(_, value)] => some (.given value)
  | _ => none

/-- The slots of a list, for so many fields; refused when it has more items. -/
def slotsOfItems : Nat → List Json → Option (List Slot)
  | 0, [] => some []
  | 0, _ :: _ => none
  | n + 1, [] => (slotsOfItems n []).map (Slot.beyond :: ·)
  | n + 1, item :: rest => (slotsOfItems n rest).map (Slot.given item :: ·)

/-- What a record says about each of its fields, which are named by their spellings. -/
def slots (fields : List (List String)) : Json → Option (List Slot)
  | obj given => fields.mapM fun spellings => slot? spellings given
  | arr items => slotsOfItems fields.length items
  | _ => none

namespace Slot

def required (read : Json → Option α) : Slot → Option α
  | given value => read value
  | _ => none

def orElse (fallback : α) (read : Json → Option α) : Slot → Option α
  | given value => read value
  | _ => some fallback

/-- A field that an object may leave out or set to null. A list must have it. -/
def optional (read : Json → Option α) : Slot → Option (Option α)
  | given value => readNullable read value
  | missing => some none
  | beyond => none

/-- A field that may be left out or null in both ways of writing. -/
def unlessNull (read : Json → Option α) : Slot → Option (Option α)
  | given value => readNullable read value
  | _ => some none

end Slot

/-- The value of a field of an object in which unknown fields are harmless and null means absent.
The last of repeated fields counts, but each of them must be readable. -/
def field? (name : String) (read : Json → Option α) (object : Json) : Option (Option α) := do
  let values ← (object.occurrences name).mapM (readNullable read)
  return values.getLast?.bind id

/-- The last value of a field, unless that is null. -/
def given? (name : String) (object : Json) : Option Json :=
  match object.get? name with
  | some null => none
  | value => value

def isObject : Json → Bool
  | obj _ => true
  | _ => false

def saysOnly (name text : String) (object : Json) : Bool :=
  (object.occurrences name).all fun value => value.readText = some text

/-- An object whose version and kind, where it names them, are the expected ones. -/
def hasType (version kind : String) (object : Json) : Bool :=
  object.isObject && object.saysOnly "apiVersion" version && object.saysOnly "kind" kind

def ofTexts (texts : List String) : Json := arr (texts.map str)

def ofTextMap (map : Keyed String) : Json :=
  obj (map.entries.map fun (key, value) => (key, str value))

end TabletDrain.Json
