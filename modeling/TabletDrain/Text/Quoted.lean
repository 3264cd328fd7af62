import TabletDrain.Text.Hexadecimal
import TabletDrain.Text.Printable

/-! Quoted texts, for messages: a text between double quotes in which every character that has no
picture of its own is written as an escape. -/
namespace TabletDrain.Text

def escaped (c : Char) : String :=
  match c with
  | '\x00' => "\\0"
  | '\t' => "\\t"
  | '\n' => "\\n"
  | '\r' => "\\r"
  | '"' => "\\\""
  | '\\' => "\\\\"
  | c =>
    if isPrintable c then c.toString
    else "\\u\x7b" ++ String.ofList (hexadecimal c.toNat) ++ "\x7d"

def quoted (text : String) : String :=
  "\"" ++ String.join (text.toList.map escaped) ++ "\""

end TabletDrain.Text
