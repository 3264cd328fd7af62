/-! JSON values. An object keeps its fields in their written order, repeated ones too, because a
reader may have to refuse repetition. Numbers are split into integers, which are exact, and all
others. A value may be well written and still stand for nothing: a number beyond all range, half of
a pair of characters, or lists nested too deep. Such a value does no harm where nobody reads it. -/
namespace TabletDrain

inductive Json where
  | null
  | bool (value : Bool)
  | num (value : Int)
  | real (value : Float)
  | str (value : String)
  | arr (items : List Json)
  | obj (fields : List (String × Json))
  | unusable
  deriving Inhabited, Repr

namespace Json

/-- Signed integers of 64 bits are below this number, and not below its negative. -/
def signedBound : Nat := 9223372036854775808

def unsignedBound : Nat := 18446744073709551616

def occurrences (name : String) : Json → List Json
  | obj fields => (fields.filter fun field => field.1 = name).map Prod.snd
  | _ => []

def get? (name : String) (value : Json) : Option Json := (value.occurrences name).getLast?

def ofFields (fields : List (String × Option Json)) : Json :=
  obj (fields.filterMap fun (name, value) => value.map fun v => (name, v))

mutual

def isUsable : Json → Bool
  | unusable => false
  | arr items => areUsable items
  | obj fields => haveUsable fields
  | _ => true

def areUsable : List Json → Bool
  | [] => true
  | item :: rest => item.isUsable && areUsable rest

def haveUsable : List (String × Json) → Bool
  | [] => true
  | (_, value) :: rest => value.isUsable && haveUsable rest

end

end Json

end TabletDrain
