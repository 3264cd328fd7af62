/-! The UTF-8 bytes of texts, and reading bytes that may not be UTF-8. Reading never fails: where
the bytes of a character break off, those that were there stand for one replacement character, and
so does every byte that begins no character. -/
namespace TabletDrain.Text

def bytes (text : List Char) : List UInt8 := text.flatMap fun c => c.toString.toUTF8.toList

def replacement : Char := '\ufffd'

structure Unfinished where
  value : Nat
  missing : Nat
  low : Nat
  high : Nat

/-- What a byte begins: a whole character, the first part of one, or nothing that can be read. The
second byte is bounded so that no character has two forms and none is half of a pair. -/
def opening (byte : Nat) : List Char × Option Unfinished :=
  if byte < 0x80 then ([Char.ofNat byte], none)
  else if byte < 0xc2 then ([replacement], none)
  else if byte < 0xe0 then ([], some ⟨byte - 0xc0, 1, 0x80, 0xbf⟩)
  else if byte < 0xf0 then
    let low := if byte = 0xe0 then 0xa0 else 0x80
    let high := if byte = 0xed then 0x9f else 0xbf
    ([], some ⟨byte - 0xe0, 2, low, high⟩)
  else if byte < 0xf5 then
    let low := if byte = 0xf0 then 0x90 else 0x80
    let high := if byte = 0xf4 then 0x8f else 0xbf
    ([], some ⟨byte - 0xf0, 3, low, high⟩)
  else ([replacement], none)

/-- Goes on with a byte: the characters that it completes, and the one that it leaves open. -/
def proceed (state : Option Unfinished) (byte : Nat) : List Char × Option Unfinished :=
  match state with
  | none => opening byte
  | some part =>
    if part.low ≤ byte && byte ≤ part.high then
      let value := part.value * 64 + byte % 64
      if part.missing ≤ 1 then ([Char.ofNat value], none)
      else ([], some ⟨value, part.missing - 1, 0x80, 0xbf⟩)
    else
      let (characters, state) := opening byte
      (replacement :: characters, state)

def decodeFrom : Option Unfinished → List UInt8 → List Char
  | none, [] => []
  | some _, [] => [replacement]
  | state, byte :: rest =>
    let (characters, state) := proceed state byte.toNat
    characters ++ decodeFrom state rest

def decodeBytes (bytes : List UInt8) : List Char := decodeFrom none bytes

end TabletDrain.Text
