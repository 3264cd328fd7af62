import TabletDrain.Pod.Basic

/-! The drain markers of a pod. A drainer asks for a drain with the annotation `started`; the
controller answers with `acknowledged` and, once the pod may go, `finished`. Setting a drain state
touches only the two answers: it adds them for `acknowledged` and `finished`, never changes one that
is there, and takes both away for `notDraining`. -/
namespace TabletDrain

inductive DrainState where
  | notDraining
  | draining
  | acknowledged
  | finished
  deriving DecidableEq, Repr

def DrainState.name : DrainState → String
  | notDraining => "NotDraining"
  | draining => "Draining"
  | acknowledged => "Acknowledged"
  | finished => "Finished"

def startedMarker : String := "drain.shardops.io/started"

def acknowledgedMarker : String := "drain.shardops.io/acknowledged"

def finishedMarker : String := "drain.shardops.io/finished"

structure Markers where
  started : Bool
  acknowledged : Bool
  finished : Bool
  deriving DecidableEq, Repr

namespace Markers

def any (markers : Markers) : Bool :=
  markers.started || markers.acknowledged || markers.finished

def isAborted (markers : Markers) : Bool :=
  !markers.started && (markers.acknowledged || markers.finished)

end Markers

/-- A request whose answers contradict each other, and the state that the pod counts as being in. -/
structure InvalidDrainState where
  state : DrainState
  reason : String
  deriving DecidableEq, Repr

def InvalidDrainState.message (invalid : InvalidDrainState) : String :=
  "drain annotations are inconsistent: " ++ invalid.reason

def drainingRefused : String :=
  "programming error: the controller must never mark a pod as Draining"

namespace Pod

def markers (pod : Pod) : Markers where
  started := (pod.annotation? startedMarker).isSome
  acknowledged := (pod.annotation? acknowledgedMarker).isSome
  finished := (pod.annotation? finishedMarker).isSome

/-- The drain state of a pod. A pod that is finished and not acknowledged is invalid, and counts as
finished all the same. -/
def drainState (pod : Pod) : Except InvalidDrainState DrainState :=
  let markers := pod.markers
  if !markers.started then .ok .notDraining
  else
    match markers.acknowledged, markers.finished with
    | false, true => .error ⟨.finished, "finished without acknowledged"⟩
    | true, true => .ok .finished
    | true, false => .ok .acknowledged
    | false, false => .ok .draining

/-- The pod with an annotation, over any that it had under the key. -/
def annotate (pod : Pod) (key value : String) : Pod :=
  { pod with annotations := some ((pod.annotations.getD .empty).insert key value) }

def mark (pod : Pod) (key stamp : String) : Pod :=
  if (pod.annotation? key).isSome then pod else pod.annotate key stamp

def unmark (pod : Pod) (key : String) : Pod :=
  { pod with annotations := pod.annotations.map (·.erase key) }

/-- Moves a pod towards a drain state; new markers get the value `stamp`. Says also whether the pod
changed. Nothing is the answer for `draining`, which only the drainer may ask for. -/
def setDrainState? (pod : Pod) (state : DrainState) (stamp : String) : Option (Pod × Bool) :=
  let markers := pod.markers
  match state with
  | .finished =>
    some ((pod.mark acknowledgedMarker stamp).mark finishedMarker stamp,
      !markers.acknowledged || !markers.finished)
  | .acknowledged => some (pod.mark acknowledgedMarker stamp, !markers.acknowledged)
  | .notDraining =>
    some ((pod.unmark finishedMarker).unmark acknowledgedMarker,
      markers.finished || markers.acknowledged)
  | .draining => none

end Pod

end TabletDrain
