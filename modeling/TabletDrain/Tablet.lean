import TabletDrain.Fault
import TabletDrain.Keyed
import TabletDrain.Text.Split

/-! Tablets and shards as the topology records them. A tablet is named by its alias, a cell and a
number unique in it; the alias has a text form that also serves as key wherever pods and tablets are
put together. -/
namespace TabletDrain

/-- The name of a tablet: its cell, and a number unique within the cell. -/
structure Alias where
  cell : String
  uid : Nat
  deriving DecidableEq, Repr

namespace Alias

def uidBound : Nat := 4294967296

/-- The cell, a dash, and the number with zeros in front up to ten digits. -/
def text (name : Alias) : String :=
  name.cell ++ "-" ++ Text.padded 10 name.uid

def invalid (text detail : String) : Fault :=
  .topology ("invalid tablet alias " ++ Text.quoted text ++ detail)

/-- Reads an alias: the number stands after the last dash, the cell, which may hold dashes, before
it. -/
def parse (text : String) : Except Fault Alias :=
  match Text.splitLast '-' text.toList with
  | none => .error (invalid text "")
  | some ([], _) => .error (invalid text ": empty cell")
  | some (cell, uid) =>
    match Text.readNumeral uidBound uid with
    | .ok uid => .ok ⟨String.ofList cell, uid⟩
    | .error fault => .error (invalid text (": " ++ fault.message))

def precedes (a b : Alias) : Bool :=
  if a.cell = b.cell then a.uid ≤ b.uid else a.cell < b.cell

def sort (aliases : List Alias) : List Alias := aliases.mergeSort precedes

end Alias

inductive Role where
  | unknown
  | primary
  | replica
  | rdonly
  | spare
  | experimental
  | backup
  | restore
  | drained
  deriving DecidableEq, Repr

namespace Role

def name : Role → String
  | unknown => "UNKNOWN"
  | primary => "PRIMARY"
  | replica => "REPLICA"
  | rdonly => "RDONLY"
  | spare => "SPARE"
  | experimental => "EXPERIMENTAL"
  | backup => "BACKUP"
  | restore => "RESTORE"
  | drained => "DRAINED"

def ofCode : Int → Role
  | 1 => primary
  | 2 => replica
  | 3 => rdonly
  | 4 => spare
  | 5 => experimental
  | 6 => backup
  | 7 => restore
  | 8 => drained
  | _ => unknown

/-- The role of a name in capitals; two names of older records are taken too. -/
def ofName? : String → Option Role
  | "UNKNOWN" => some unknown
  | "PRIMARY" => some primary
  | "MASTER" => some primary
  | "REPLICA" => some replica
  | "RDONLY" => some rdonly
  | "BATCH" => some rdonly
  | "SPARE" => some spare
  | "EXPERIMENTAL" => some experimental
  | "BACKUP" => some backup
  | "RESTORE" => some restore
  | "DRAINED" => some drained
  | _ => none

/-- Reads the name of a role. The case of ASCII letters does not matter. -/
def parse (text : String) : Except Fault Role :=
  let capitals := text.map Char.toUpper
  match ofName? capitals with
  | some role => .ok role
  | none => .error (.topology ("unknown tablet type " ++ Text.quoted capitals))

end Role

structure Tablet where
  name : Alias
  role : Role
  keyspace : String
  shard : String
  hostname : String
  deriving DecidableEq, Repr

structure ShardRecord where
  keyspace : String
  name : String
  primary : Option Alias
  deriving DecidableEq, Repr

/-- Tablets under the texts of their aliases; of two with one alias the later stays. -/
def Tablet.index (tablets : List Tablet) : Keyed Tablet :=
  .ofList (tablets.map fun tablet => (tablet.name.text, tablet))

end TabletDrain
