import TabletDrain.Drain.States
import TabletDrain.Pass.Calls

/-! One drain pass over a shard. It reads pods and topology, and does nothing while the shard is
unhealthy. It then takes back what is left of withdrawn requests, and does no more while there are
any. Otherwise it moves the markers along, never finishing the current primary, and hands the
primary role over once the primary is finished or would be. -/
namespace TabletDrain

/-- The time limits of a pass, in milliseconds. -/
structure Timeouts where
  pass : Nat
  read : Nat
  reparent : Nat
  tolerableLag : Nat
  candidate : Nat
  /-- The delay before another try after a failed read or a blocked drain. -/
  requeueDelay : Nat
  deriving DecidableEq, Repr

def Timeouts.default : Timeouts where
  pass := 60000
  read := 10000
  reparent := 30000
  tolerableLag := 15000
  candidate := 2000
  requeueDelay := 10000

structure Configuration where
  timeouts : Timeouts
  dryRun : Bool
  deriving DecidableEq, Repr

namespace Pass

structure Context where
  setting : Setting
  configuration : Configuration
  shard : Shard
  cluster : Cluster
  stamp : String

structure ShardState where
  pods : Keyed Pod
  tablets : Keyed Tablet
  deriving DecidableEq

structure Loaded where
  pods : Keyed Pod
  drains : Keyed DrainState
  aborting : Bool
  deriving DecidableEq

/-- Some request was acknowledged on the way from one map of states to the next. -/
def acknowledgedNow (drains next : Keyed DrainState) : Bool :=
  next.entries.any fun (key, state) =>
    state = .acknowledged && drains.get? key = some .draining

namespace Context

variable (context : Context)

def warn (reason message : String) : Run Unit :=
  context.setting.publish .warning context.shard.ref reason message

def inform (reason message : String) : Run Unit :=
  context.setting.publish .normal context.shard.ref reason message

def replies : Replies := context.setting.replies

def timeouts : Timeouts := context.configuration.timeouts

/-- A read, which shares its deadline with the other reads of the pass. -/
def read (deadline : Nat) (operation : String) (call : Call) (reply : Reply) :
    Run (Except Fault Unit) :=
  context.setting.callWithin deadline operation context.timeouts.read call reply

def podNamespace : String := context.shard.namespaceName.getD "default"

/-- Reads the tablets of the shard, only those in its cells, after the pods. -/
def readTablets (deadline : Nat) (pods : List Pod) : Run (Option ShardState) := do
  let spec := context.shard.spec
  match ← context.read deadline "reading tablet records"
      (.getTablets spec.keyspace spec.name spec.cells) context.replies.getTablets with
  | .error fault =>
    context.warn "TopoGetFailed" ("failed to get tablet records: " ++ fault.message)
    return none
  | .ok () => return some ⟨Pod.index pods, context.cluster.tabletsIn spec.cells⟩

def readRecord (deadline : Nat) (pods : List Pod) : Run (Option ShardState) := do
  let spec := context.shard.spec
  match ← context.read deadline "reading shard record" (.getShard spec.keyspace spec.name)
      context.replies.getShard with
  | .error fault =>
    context.warn "TopoGetFailed" ("failed to get shard record: " ++ fault.message)
    return none
  | .ok () => context.readTablets deadline pods

/-- Reads pods and topology, all within one time limit. A failure is told in an event. -/
def readState : Run (Option ShardState) := do
  let labels := context.shard.spec.podLabels
  let start ← Run.get
  let deadline := start.now + context.timeouts.read
  match ← context.read deadline "listing pods" (.listPods context.podNamespace labels)
      context.replies.listPods with
  | .error fault =>
    context.warn "ListFailed" ("failed to list Pods: " ++ fault.message)
    return none
  | .ok () =>
    let progress ← Run.get
    context.readRecord deadline (Cluster.podsWith progress.pods labels)

/-- Sends a changed pod. A failure is told in an event and noted, and the pod stays as it was. -/
def sendPod (pod updated : Pod) : Run Pod := do
  let reply := context.replies.updatePod updated.shownName
  Run.log (.updatePod updated)
  Run.wait context.setting.cutoff reply.delay
  match reply.fault with
  | none =>
    let stored := reply.returned.getD updated
    Run.store updated.shownName stored
    return stored
  | some fault =>
    context.warn "UpdateFailed"
      ("failed to update drain annotation on Pod " ++ pod.shownName ++ ": " ++ fault.message)
    Run.fail fault
    return pod

/-- Moves a pod towards a drain state, and sends it if it changed. In a dry run it is only taken to
have been sent. -/
def moveTowards (pod : Pod) (state : DrainState) : Run Pod :=
  match pod.setDrainState? state context.stamp with
  | some (updated, true) =>
    if context.configuration.dryRun then return updated else context.sendPod pod updated
  | _ => return pod

/-- The drain state of a pod with a request; a contradiction is told in an event. -/
def requestedState (pod : Pod) : Run DrainState :=
  match pod.drainState with
  | .ok state => return state
  | .error invalid => do
    context.warn "InvalidDrainState"
      ("Found a pod in an invalid drain state: " ++ pod.shownName ++ ", " ++ invalid.message)
    return invalid.state

/-- Looks at one more pod: takes up its request, or clears answers without one. -/
def loadPod (loaded : Loaded) (entry : String × Pod) : Run Loaded := do
  let (key, pod) := entry
  if pod.markers.started then
    let state ← context.requestedState pod
    return { loaded with drains := loaded.drains.insert key state }
  else
    if pod.markers.isAborted then
      context.warn "AbortingDrain"
        ("found a partially drained Pod that does not have a drain request: " ++ pod.shownName)
    let stored ← context.moveTowards pod .notDraining
    return { loaded with
      pods := loaded.pods.insert key stored
      aborting := loaded.aborting || pod.markers.isAborted }

def load (pods : Keyed Pod) : Run Loaded :=
  pods.entries.foldlM context.loadPod ⟨pods, .empty, false⟩

def movePod (primary : String) (pods : Keyed Pod) (entry : String × DrainState) :
    Run (Keyed Pod) := do
  let (key, state) := entry
  if state = .finished && key = primary then return pods
  else
    match pods.get? key with
    | some pod =>
      let stored ← context.moveTowards pod state
      return pods.insert key stored
    | none => return pods

def move (primary : String) (pods : Keyed Pod) (next : Keyed DrainState) : Run (Keyed Pod) :=
  next.entries.foldlM (context.movePod primary) pods

/-- The database image that the tablets should run, empty when none is asked for. -/
def desiredImage : String := context.shard.spec.databaseImage.getD ""

/-- Prepares database upgrades. Says whether the pass may go on; a failure is told in an event and
noted. -/
def prepareUpgrade (pods : Keyed Pod) (tablets : Keyed Tablet) : Run Bool := do
  if context.configuration.dryRun then return true
  else
    match ← Upgrade.prepare context.setting pods tablets context.desiredImage with
    | .ok () => return true
    | .error fault =>
      context.warn "MysqldSafeUpgradeFailed" ("failed to disable fast shutdown: " ++ fault.message)
      Run.fail fault
      return false

/-- Hands over to a primary that was chosen outside the shard: the topology is told, then the old
primary is demoted, which it does not do by itself. -/
def externalHandover (newPrimary oldPrimary : Alias) : Run (Except Fault Unit) := do
  match ← context.setting.call (.externallyReparented newPrimary)
      context.replies.externallyReparented with
  | .error fault => return .error fault
  | .ok () =>
    context.setting.call (.changeTabletType oldPrimary .spare) context.replies.changeTabletType

def plannedHandover (newPrimary : Alias) : Run (Except Fault Unit) := do
  let timeouts := context.timeouts
  let record := context.cluster.record
  let start ← Run.get
  context.setting.callWithin (start.now + timeouts.reparent) "planned reparent" timeouts.reparent
    (.plannedReparent
      ⟨record.keyspace, record.name, newPrimary, none, timeouts.reparent, timeouts.tolerableLag⟩)
    context.replies.plannedReparent

/-- Tells how a hand-over went, in an event, and says the same as an outcome. -/
def tellHandover (oldPrimary newPrimary : Alias) (result : Except Fault Unit) :
    Run ReparentOutcome := do
  match result with
  | .ok () =>
    context.inform "PlannedReparent"
      ("planned reparent from old primary " ++ oldPrimary.text ++ " to new primary "
        ++ newPrimary.text ++ " succeeded")
    return .success
  | .error fault =>
    context.warn "PlannedReparentFailed"
      ("planned reparent from current primary " ++ oldPrimary.text ++ " to candidate primary "
        ++ newPrimary.text ++ " failed: " ++ fault.message)
    return .failure

def handOver (oldPrimary newPrimary : Alias) : Run Unit := do
  let result ←
    if context.shard.spec.usesExternalDatastore then
      context.externalHandover newPrimary oldPrimary
    else context.plannedHandover newPrimary
  let outcome ← context.tellHandover oldPrimary newPrimary result
  Run.log (.metric context.shard.spec.metricLabels outcome)

/-- Moves the primary role away: chooses a tablet and hands over to it, or asks for another pass
when there is none. -/
def moveAway (primary : Alias) (pods : Keyed Pod) (tablets : Keyed Tablet) : Run Unit := do
  match ← Succession.newPrimary context.setting context.cluster.record tablets pods
      context.shard.spec.usesExternalDatastore context.timeouts.candidate with
  | none =>
    context.warn "DrainBlocked"
      ("unable to drain primary tablet " ++ primary.text
        ++ ": no other tablet is a suitable primary candidate")
    Run.requeueAfter context.timeouts.requeueDelay
  | some tablet =>
    if context.configuration.dryRun then return ()
    else context.handOver primary tablet.name

/-- The last part of a pass: moves the primary role away once the primary is finished or would be,
but not in a pass that acknowledged a request, which may still change who is finished next. A
primary that is finished already is moved away from at once. -/
def drainPrimary (primary : Alias) (drains next : Keyed DrainState) (pods : Keyed Pod)
    (tablets : Keyed Tablet) : Run Unit := do
  let key := primary.text
  let isFinished := drains.get? key = some .finished
  if acknowledgedNow drains next && !isFinished then
    context.inform "NotReparentingPrimary" "We have acknowledged a drain this loop"
  else if !isFinished && next.get? key ≠ some .finished then
    context.inform "NotReparentingPrimary" "We are not marking primary as finished"
  else context.moveAway primary pods tablets

def act (primary : Alias) (loaded : Loaded) (tablets : Keyed Tablet) : Run Unit := do
  if loaded.drains.isEmpty then return ()
  else if loaded.aborting then
    context.warn "AbortingDrain" "detected that we are aborting drain"
  else
    let next := Drain.advance loaded.drains (some primary.text)
    let pods ← context.move primary.text loaded.pods next
    if ← context.prepareUpgrade pods tablets then
      context.drainPrimary primary loaded.drains next pods tablets

def pass : Run Unit := do
  match ← context.readState with
  | none => Run.requeueAfter context.timeouts.requeueDelay
  | some state =>
    match Shard.healthyPrimary context.shard.status context.cluster.record with
    | .error reason => context.warn "NotReconcilingDrain" reason.message
    | .ok primary =>
      let loaded ← context.load state.pods
      context.act primary loaded state.tablets

end Context

end Pass

end TabletDrain
