import TabletDrain.Json.Reader

/-! What documents look like that are read only to be written back. A record has fields of known
shapes; each of them may be missing or null, and unknown fields are harmless. The items of a list and
the values of a map must be there. -/
namespace TabletDrain.Json

inductive Shape where
  | leaf (accepts : Json → Bool)
  | list (item : Shape)
  | map (value : Shape)
  | record (fields : List (String × Shape))

namespace Shape

def ofReader {α : Type} (read : Json → Option α) : Shape := leaf fun value => (read value).isSome

def text : Shape := ofReader readText

def flag : Shape := ofReader readBool

def int32 : Shape := ofReader readInt32

def int64 : Shape := ofReader readInt64

def int32OrText : Shape :=
  leaf fun value => (readInt32 value).isSome || (readText value).isSome

def texts : Shape := list text

def textMap : Shape := map text

def textRecord (names : List String) : Shape := record (names.map fun name => (name, text))

def ofField? (fields : List (String × Shape)) (name : String) : Option Shape :=
  (fields.find? fun field => field.1 = name).map Prod.snd

mutual

def fits (shape : Shape) (value : Json) : Bool :=
  match shape, value with
  | leaf accepts, value => accepts value
  | list item, arr items => allFit item items
  | map shape, obj fields => valuesFit shape fields
  | record known, obj fields => fieldsFit known fields
  | _, _ => false

def allFit (shape : Shape) : List Json → Bool
  | [] => true
  | item :: rest => fits shape item && allFit shape rest

def valuesFit (shape : Shape) : List (String × Json) → Bool
  | [] => true
  | (_, value) :: rest => fits shape value && valuesFit shape rest

/-- Every known field that is not null has its shape, repeated ones too. -/
def fieldsFit (known : List (String × Shape)) : List (String × Json) → Bool
  | [] => true
  | (name, value) :: rest =>
    (match ofField? known name, value with
      | none, _ => true
      | some _, null => true
      | some shape, value => fits shape value)
      && fieldsFit known rest

end

mutual

/-- What is written back of a value that fits: of a record its known fields, without those that are
null. The last of repeated fields counts. -/
def kept (shape : Shape) (value : Json) : Json :=
  match shape, value with
  | list item, arr items => arr (items.map (kept item))
  | map item, obj fields => obj (fields.map fun (name, value) => (name, kept item value))
  | record known, value => ofFields (keptFields value known)
  | _, value => value

def keptFields (value : Json) : List (String × Shape) → List (String × Option Json)
  | [] => []
  | (name, shape) :: rest => (name, (value.given? name).map (kept shape)) :: keptFields value rest

end

end Shape

end TabletDrain.Json
