import TabletDrain.Keyed
import TabletDrain.Text.Bytes
import TabletDrain.Text.Hexadecimal
import TabletDrain.Text.Split

/-! Parameters in the query of an address. Letters, digits and a few marks of ASCII stand for
themselves, a plus sign stands for a space, and every other byte is a percent sign and two digits.
Reading takes anything: a percent sign that begins no byte stands for itself. -/
namespace TabletDrain.Http.Form

def isPlain (byte : UInt8) : Bool :=
  let c := Char.ofNat byte.toNat
  byte.toNat < 0x80 && (c.isAlphanum || ['*', '-', '.', '_'].contains c)

def encodedByte (byte : UInt8) : List Char :=
  if byte = 0x20 then ['+']
  else if isPlain byte then [Char.ofNat byte.toNat]
  else '%' :: Text.byteDigits byte

def encode (text : String) : String :=
  String.ofList ((Text.bytes text.toList).flatMap encodedByte)

def encodePair (key value : String) : String := encode key ++ "=" ++ encode value

/-- The bytes of a written text, where a plus sign is a space. -/
def bytesOf : List Char → List UInt8
  | '%' :: a :: b :: rest =>
    match Text.hexadecimalDigit? a, Text.hexadecimalDigit? b with
    | some high, some low => UInt8.ofNat (16 * high + low) :: bytesOf rest
    | _, _ => 0x25 :: bytesOf (a :: b :: rest)
  | '+' :: rest => 0x20 :: bytesOf rest
  | c :: rest => Text.bytes [c] ++ bytesOf rest
  | [] => []

def decode (text : List Char) : String := String.ofList (Text.decodeBytes (bytesOf text))

/-- The parameter that is written so. One without an equals sign has no value. -/
def decodePair (text : List Char) : String × String :=
  match Text.splitFirst '=' text with
  | some (key, value) => (decode key, decode value)
  | none => (decode text, "")

/-- The parameters of a query. Of two of one name the later counts. -/
def parameters (query : String) : Keyed String :=
  .ofList (((Text.splitAll '&' query.toList).filter fun part => !part.isEmpty).map decodePair)

end TabletDrain.Http.Form
