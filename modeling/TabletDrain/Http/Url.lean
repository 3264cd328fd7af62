import TabletDrain.Text.Bytes
import TabletDrain.Text.Hexadecimal
import TabletDrain.Text.Split

/-! Addresses of the web as they are sent and shown: a path without dot segments and a query, in
which characters that cannot stand there are written as percent signs and bytes. -/
namespace TabletDrain.Http

def percent (c : Char) : List Char :=
  (Text.bytes [c]).flatMap fun byte => '%' :: Text.byteDigits byte

def isForbidden (c : Char) : Bool := c.toNat ≤ 0x20 || 0x7f ≤ c.toNat

def isForbiddenInPath (c : Char) : Bool :=
  isForbidden c || ['"', '<', '>', '\x60', '#', '?', '\x7b', '\x7d'].contains c

def isForbiddenInQuery (c : Char) : Bool :=
  isForbidden c || ['"', '#', '<', '>', '\''].contains c

def isForbiddenInFragment (c : Char) : Bool :=
  isForbidden c || ['"', '<', '>', '\x60'].contains c

def encoded (forbidden : Char → Bool) (text : List Char) : List Char :=
  text.flatMap fun c => if forbidden c then percent c else [c]

/-- What stands before the first mark, and what follows it if there is one. -/
def cut (mark : Char) (text : List Char) : List Char × Option (List Char) :=
  match Text.splitFirst mark text with
  | some (before, after) => (before, some after)
  | none => (text, none)

def undotted (segment : List Char) : String :=
  ((String.ofList segment).replace "%2e" ".").replace "%2E" "."

/-- The segments of a path without those that stay or go up, last one first. -/
def normalized (done : List (List Char)) : List (List Char) → List (List Char)
  | [] => done
  | segment :: rest =>
    match undotted segment with
    | "." => normalized (if rest.isEmpty then [] :: done else done) rest
    | ".." => normalized (if rest.isEmpty then [] :: done.drop 1 else done.drop 1) rest
    | _ => normalized (segment :: done) rest

/-- A path in the form in which it is sent. It starts with a slash, and backslashes count as
slashes. -/
def pathForm (path : List Char) : List Char :=
  let path := path.map fun c => if c = '\\' then '/' else c
  let segments := (Text.splitAll '/' (path.drop 1)).map (encoded isForbiddenInPath)
  (normalized [] segments).reverse.flatMap fun segment => '/' :: segment

/-- What stands behind the host of an address, where it is clear that the host has ended. -/
def isBehindHost (text : List Char) : Bool :=
  match text with
  | [] => true
  | c :: _ => ['/', '\\', '?', '#'].contains c

/-- Path and query of an address, and its fragment, from what follows the host. Tabs and line breaks
are dropped, and so are blanks and control characters at the end. -/
def targetForm? (text : List Char) : Option (List Char × List Char) :=
  let text := (text.reverse.dropWhile fun c => c.toNat ≤ 0x20).reverse
  let text := text.filter fun c => !(c = '\t' || c = '\n' || c = '\r')
  let (path, fragment) := cut '#' text
  let (path, query) := cut '?' path
  let query := match query with
    | some query => '?' :: encoded isForbiddenInQuery query
    | none => []
  let fragment := match fragment with
    | some fragment => '#' :: encoded isForbiddenInFragment fragment
    | none => []
  if isBehindHost text then some (pathForm path ++ query, fragment) else none

end TabletDrain.Http
