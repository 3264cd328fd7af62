import TabletDrain.Http.Form

/-! The target of a request: what an address has behind the host. It is taken as it is written; an
address with characters that must not stand there, or too long a one, is refused. -/
namespace TabletDrain.Http

structure Target where
  path : String
  query : Option String
  deriving DecidableEq, Repr

namespace Target

/-- A character that stands in no address: a control character, a blank, or an angle bracket. -/
def isRefused (c : Char) : Bool := c.toNat ≤ 0x20 || ['\x7f', '<', '>'].contains c

def isOfPath (c : Char) : Bool := !isRefused c && !(['#', '?', '\x60'].contains c)

def isOfQuery (c : Char) : Bool := !isRefused c && !(['"', '#'].contains c)

def longest : Nat := 65534

def parseQuery? (path text : List Char) : Option Target :=
  let query := text.takeWhile isOfQuery
  match text.dropWhile isOfQuery with
  | [] | '#' :: _ => some ⟨String.ofList path, some (String.ofList query)⟩
  | _ => none

/-- Reads the target of an address, of which nothing stands in front of the path. -/
def parse? (text : String) : Option Target :=
  if longest < text.utf8ByteSize then none
  else
    let path := text.toList.takeWhile isOfPath
    match text.toList.dropWhile isOfPath with
    | [] | '#' :: _ => some ⟨String.ofList path, none⟩
    | '?' :: rest => parseQuery? path rest
    | _ => none

def parameters (target : Target) : Keyed String := Form.parameters (target.query.getD "")

end Target

def withParameters (path : String) (parameters : List (String × String)) : String :=
  path ++ "?" ++ String.join (parameters.map fun (key, value) => "&" ++ Form.encodePair key value)

end TabletDrain.Http
