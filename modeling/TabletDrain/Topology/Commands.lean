import TabletDrain.Pass.Cluster
import TabletDrain.Topology.Records

/-! Commands to tablets and to a whole shard, sent as command lines to the topology server. -/
namespace TabletDrain.Topology

open Json

structure CommandResult where
  error : String
  output : String

def CommandResult.ofJson (document : Json) : Option CommandResult := do
  let [error, output] ← slots [["Error"], ["Output"]] document | none
  return ⟨← error.orElse "" readText, ← output.orElse "" readText⟩

def commandPath : String := "/api/vtctl/"

def outputOf (server : Server) (command : String) : Answer → Except Fault String
  | .closed => .error (.http (noAnswer server commandPath))
  | .unreachable => .error (.http (noAnswer server commandPath))
  | .answered code body =>
    if Http.isError code then .error (.http ("HTTP status " ++ Http.statusText code))
    else
      match (Json.parse? body).bind CommandResult.ofJson with
      | none => .error (.http unreadable)
      | some result =>
        if result.error.isEmpty then .ok result.output
        else .error (.rpc (command ++ ": " ++ result.error))

def run (server : Server) (command : String) (arguments : List String) : Exchange String := do
  let answer ← request server .post commandPath (some (ofTexts (command :: arguments)))
  match outputOf server command answer with
  | .ok output => return output
  | .error fault => Exchange.fail fault

def tell (server : Server) (command : String) (arguments : List String) : Exchange Unit := do
  let _ ← run server command arguments
  return ()

def positionOfJson (document : Json) : Option String := do
  let [position] ← slots [["position"]] document | none
  position.orElse "" readText

/-- Reads the position of a tablet's full status: that of a replica, or else that of a primary. -/
def fullStatusOfJson (document : Json) : Option (Option String) := do
  let [replication, primary] ← slots [["replication_status"], ["primary_status"]] document | none
  let replication ← replication.unlessNull positionOfJson
  let primary ← primary.unlessNull positionOfJson
  return replication.or primary

def replicationStatus (server : Server) (tablet : Alias) : Exchange String := do
  let output ← run server "GetFullStatus" [tablet.text]
  match (Json.parse? output).bind fullStatusOfJson with
  | some (some position) => return position
  | some none =>
    Exchange.fail (.rpc ("tablet " ++ tablet.text ++ " reported no replication status"))
  | none => Exchange.fail (.serialization "unreadable replication status")

def execute (server : Server) (tablet : Alias) (statement : String) : Exchange Unit :=
  tell server "ExecuteFetchAsDba"
    ["--max_rows=0", "--disable_binlogs=false", "--reload_schema=false", tablet.text, statement]

/-- Whole seconds of a time in milliseconds. -/
def secondsText (milliseconds : Nat) : String := Text.decimal (milliseconds / 1000) ++ "s"

def plannedReparent (server : Server) (reparent : Reparent) : Exchange Unit :=
  tell server "PlannedReparentShard"
    (["--keyspace_shard=" ++ reparent.keyspace ++ "/" ++ reparent.shard,
      "--new_primary=" ++ reparent.newPrimary.text,
      "--wait_replicas_timeout=" ++ secondsText reparent.wait,
      "--tolerable_replication_lag=" ++ secondsText reparent.lag]
      ++ (reparent.avoid.map fun tablet => "--avoid_tablet=" ++ tablet.text).toList)

def externallyReparented (server : Server) (newPrimary : Alias) : Exchange Unit :=
  tell server "TabletExternallyReparented" [newPrimary.text]

def changeTabletType (server : Server) (tablet : Alias) (role : Role) : Exchange Unit :=
  tell server "ChangeTabletType" [tablet.text, role.name.map Char.toLower]

end TabletDrain.Topology
