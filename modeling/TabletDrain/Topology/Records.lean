import TabletDrain.Tablet
import TabletDrain.Topology.Session

/-! Reading the records of shards and tablets from the topology server. A map of tablets is read
whole or not at all. -/
namespace TabletDrain.Topology

open Json

def readFailed (path detail : String) : Fault := .topology ("GET " ++ path ++ detail)

def recordOf {α : Type} (server : Server) (path : String) (read : Json → Option α) :
    Answer → Except Fault α
  | .closed => .error (readFailed path (": " ++ noAnswer server path))
  | .unreachable => .error (readFailed path (": " ++ noAnswer server path))
  | .answered code body =>
    if Http.isSuccess code then
      match (Json.parse? body).bind read with
      | some record => .ok record
      | none => .error (readFailed path (": " ++ unreadable))
    else .error (readFailed path (" returned HTTP " ++ Http.statusText code))

def fetch {α : Type} (server : Server) (path : String) (read : Json → Option α) : Exchange α := do
  let answer ← request server .get path none
  match recordOf server path read answer with
  | .ok record => return record
  | .error fault => Exchange.fail fault

def aliasOfJson (document : Json) : Option Alias := do
  let [cell, uid] ← slots [["cell"], ["uid"]] document | none
  return ⟨← cell.required readText, ← uid.orElse 0 (readNat Alias.uidBound)⟩

/-- Reads the primary of a shard, for which there is an older spelling. One without a cell is
none. -/
def primaryOfJson (document : Json) : Option (Option Alias) := do
  let [primary] ← slots [["primary_alias", "master_alias"]] document | none
  let primary ← primary.unlessNull aliasOfJson
  return primary.filter fun name => !name.cell.isEmpty

structure RawTablet where
  name : Alias
  hostname : String
  keyspace : String
  shard : String
  role : Json

def tabletOfJson (document : Json) : Option RawTablet := do
  let [name, hostname, keyspace, shard, role] ←
    slots [["alias"], ["hostname"], ["keyspace"], ["shard"], ["type"]] document | none
  return {
    name := ← name.required aliasOfJson
    hostname := ← hostname.orElse "" readText
    keyspace := ← keyspace.orElse "" readText
    shard := ← shard.orElse "" readText
    role := ← role.orElse .null readAny }

/-- The role of a tablet: a number, a name, or unknown. A number beyond 64 bits with sign is as good
as zero. -/
def roleOfJson : Json → Except Fault Role
  | .num n => .ok (Role.ofCode (if n < signedBound then n else 0))
  | .str name => Role.parse name
  | _ => .ok .unknown

def RawTablet.tablet (raw : RawTablet) : Except Fault Tablet :=
  match roleOfJson raw.role with
  | .ok role => .ok ⟨raw.name, role, raw.keyspace, raw.shard, raw.hostname⟩
  | .error fault => .error fault

def shardPath (keyspace shard : String) : String := "/api/shards/" ++ keyspace ++ "/" ++ shard

def tabletsPath (keyspace shard cell : String) : String :=
  "/api/tablets/?shard=" ++ keyspace ++ "/" ++ shard ++ "&cell=" ++ cell

def tabletPath (name : Alias) : String := "/api/tablets/" ++ name.text

def getShard (server : Server) (keyspace shard : String) : Exchange ShardRecord := do
  let primary ← fetch server (shardPath keyspace shard) primaryOfJson
  return ⟨keyspace, shard, primary⟩

def getTablet (server : Server) (name : Alias) : Exchange Tablet := do
  let raw ← fetch server (tabletPath name) tabletOfJson
  match raw.tablet with
  | .ok tablet => return tablet
  | .error fault => Exchange.fail fault

/-- Reads tablets one after another into a map, under the aliases that their records give. -/
def getTablets (server : Server) (tablets : Keyed Tablet) : List Alias → Exchange (Keyed Tablet)
  | [] => return tablets
  | name :: rest => do
    let tablet ← getTablet server name
    getTablets server (tablets.insert tablet.name.text tablet) rest

def getCells (server : Server) (keyspace shard : String) (tablets : Keyed Tablet) :
    List String → Exchange (Keyed Tablet)
  | [] => return tablets
  | cell :: rest => do
    let names ← fetch server (tabletsPath keyspace shard cell) (readList aliasOfJson)
    let tablets ← getTablets server tablets names
    getCells server keyspace shard tablets rest

def getTabletMap (server : Server) (keyspace shard : String) (cells : List String) :
    Exchange (Keyed Tablet) :=
  getCells server keyspace shard .empty cells

end TabletDrain.Topology
