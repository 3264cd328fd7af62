import TabletDrain.Json.Basic
import TabletDrain.Text.Hexadecimal
import TabletDrain.Text.Shortest

/-! The text of a JSON value, without blanks between its parts. A floating-point number has its
shortest text, which always shows that it is no integer. -/
namespace TabletDrain.Json

def escaped (c : Char) : List Char :=
  match c with
  | '"' => ['\\', '"']
  | '\\' => ['\\', '\\']
  | '\n' => ['\\', 'n']
  | '\r' => ['\\', 'r']
  | '\t' => ['\\', 't']
  | c => if c.toNat < 0x20 then '\\' :: 'u' :: Text.hexadecimal4 c.toNat else [c]

def stringText (text : String) : String :=
  "\"" ++ String.ofList (text.toList.flatMap escaped) ++ "\""

/-- The text of a floating-point number without its sign. All its places are written when it is at
least `10 ^ -5` and less than `10 ^ 16`. -/
def floatText (x : Text.Decimal) : String :=
  if -5 < x.magnitude && x.magnitude ≤ 16 then x.text else x.scientific

def realText (x : Float) : String :=
  let sign := if 9223372036854775808 ≤ x.toBits.toNat then "-" else ""
  sign ++ floatText (Text.Binary.ofFloat x).decimal

mutual

/-- The text of a value. An unusable one is written as if it was not there. -/
def text : Json → String
  | null => "null"
  | bool true => "true"
  | bool false => "false"
  | num n => Text.signed n
  | real value => realText value
  | str value => stringText value
  | arr items => "[" ++ String.intercalate "," (itemTexts items) ++ "]"
  | unusable => "null"
  | obj fields => "\x7b" ++ String.intercalate "," (fieldTexts fields) ++ "\x7d"

def itemTexts : List Json → List String
  | [] => []
  | item :: rest => item.text :: itemTexts rest

def fieldTexts : List (String × Json) → List String
  | [] => []
  | (name, value) :: rest => (stringText name ++ ":" ++ value.text) :: fieldTexts rest

end

end TabletDrain.Json
