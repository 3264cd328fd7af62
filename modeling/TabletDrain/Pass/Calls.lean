import TabletDrain.Pass.Run
import TabletDrain.Shard.Health
import TabletDrain.Upgrade.Version

/-! The outside calls of a drain pass, each logged when it is made and then waited for, and the two
parts of a pass that can be had on their own: preparing database upgrades, and choosing a new
primary. -/
namespace TabletDrain

structure Setting where
  replies : Replies
  cutoff : Option Nat

namespace Setting

def call (setting : Setting) (call : Call) (reply : Reply) : Run (Except Fault Unit) := do
  Run.log call
  Run.wait setting.cutoff reply.delay
  return reply.outcome

/-- A call that has to answer by a deadline; `after` is the time that it was given. -/
def callWithin (setting : Setting) (deadline : Nat) (operation : String) (after : Nat) (call : Call)
    (reply : Reply) : Run (Except Fault Unit) := do
  Run.log call
  if ← Run.waitWithin setting.cutoff deadline reply.delay then return reply.outcome
  else return .error (.timeout operation (.ofMilliseconds after))

def publish (setting : Setting) (severity : Severity) (object : ObjectRef)
    (reason message : String) : Run Unit := do
  let progress ← Run.get
  Run.log (.event severity object reason message)
  Run.wait setting.cutoff (setting.replies.publishAfter progress.log.length)

end Setting

namespace Upgrade

def slowShutdown : String := "set @@global.innodb_fast_shutdown = 0"

def statementFailed (key : String) (fault : Fault) : Fault :=
  .rpc ("failed to disable fast shutdown for tablet " ++ key ++ ": " ++ fault.message)

def prepareTablet (setting : Setting) (key : String) (pod : Pod) (tablet : Tablet)
    (desired : String) : Run (Except Fault Unit) := do
  match imagesNeedSlowShutdown ((pod.image? databaseContainer).getD "") desired with
  | .error fault => return .error fault
  | .ok false => return .ok ()
  | .ok true =>
    let reply := setting.replies.execute tablet.name
    match ← setting.call (.execute tablet.name slowShutdown) reply with
    | .error fault => return .error (statementFailed key fault)
    | .ok () =>
      setting.publish .normal pod.ref "MySQL_Upgrade"
        "innodb_fast_shutdown = 0 to prepare MySQL upgrade"
      return .ok ()

def prepareFrom (setting : Setting) (tablets : Keyed Tablet) (desired : String) :
    List (String × Pod) → Run (Except Fault Unit)
  | [] => return .ok ()
  | (key, pod) :: rest => do
    match tablets.get? key with
    | none => prepareFrom setting tablets desired rest
    | some tablet =>
      match ← prepareTablet setting key pod tablet desired with
      | .error fault => return .error fault
      | .ok () => prepareFrom setting tablets desired rest

/-- Makes sure that every tablet whose database is about to be moved to the desired image will shut
down slowly where the move needs it. Stops at the first failure. -/
def prepare (setting : Setting) (pods : Keyed Pod) (tablets : Keyed Tablet) (desired : String) :
    Run (Except Fault Unit) :=
  prepareFrom setting tablets desired pods.entries

end Upgrade

namespace Succession

def ask : List Tablet → Run Unit
  | [] => return ()
  | tablet :: rest => do
    Run.log (.replicationStatus tablet.name)
    ask rest

/-- The tablet to take over as primary, if any is eligible. The tablets have `timeout` milliseconds
to answer. -/
def newPrimary (setting : Setting) (record : ShardRecord) (tablets : Keyed Tablet)
    (pods : Keyed Pod) (external : Bool) (timeout : Nat) : Run (Option Tablet) := do
  match eligible record tablets pods external with
  | [] => return none
  | first :: rest =>
    let answers := answers timeout setting.replies.replicationStatus (first :: rest)
    ask (first :: rest)
    Run.wait setting.cutoff (duration answers)
    return some (choose first answers)

end Succession

end TabletDrain
