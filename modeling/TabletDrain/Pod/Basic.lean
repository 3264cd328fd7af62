import TabletDrain.Tablet

/-! Pods, in the parts that a drain looks at: name and namespace, labels and annotations, the images of
the containers, and the conditions. What a pod leaves unset is kept apart from what it sets to
nothing. All else of a pod is carried along as one part, which nothing looks into. -/
namespace TabletDrain

structure Container where
  name : String
  image : Option String
  deriving DecidableEq, Repr

structure PodCondition where
  type : String
  status : String
  deriving DecidableEq, Repr

structure Pod where
  name : Option String
  /-- What the API server starts the name with when it makes one up. -/
  generateName : Option String
  namespaceName : Option String
  labels : Option (Keyed String)
  annotations : Option (Keyed String)
  containers : Option (List Container)
  conditions : Option (List PodCondition)
  /-- The text of all else in the document that the pod was read from. -/
  rest : String := ""
  deriving DecidableEq, Repr

def componentLabel : String := "shardops.io/component"

def clusterLabel : String := "shardops.io/cluster"

def keyspaceLabel : String := "shardops.io/keyspace"

def shardLabel : String := "shardops.io/shard"

def cellLabel : String := "shardops.io/cell"

def uidLabel : String := "shardops.io/tablet-uid"

def poolLabel : String := "shardops.io/tablet-type"

def tabletComponent : String := "vttablet"

def externalPool : String := "externalmaster"

def databaseContainer : String := "mysqld"

def selectorText (labels : Keyed String) : String :=
  String.intercalate "," (labels.entries.map fun (key, value) => key ++ "=" ++ value)

namespace Pod

def shownName (pod : Pod) : String := (pod.name.or pod.generateName).getD ""

def label? (pod : Pod) (key : String) : Option String := pod.labels.bind (·.get? key)

def annotation? (pod : Pod) (key : String) : Option String := pod.annotations.bind (·.get? key)

def carries (pod : Pod) (labels : Keyed String) : Bool :=
  labels.entries.all fun (key, value) => pod.label? key = some value

/-- The tablet that runs in the pod, by the labels of its cell and number. -/
def tablet? (pod : Pod) : Option Alias := do
  let cell ← pod.label? cellLabel
  let uid ← pod.label? uidLabel
  match Text.readNumeral Alias.uidBound uid.toList with
  | .ok uid => some ⟨cell, uid⟩
  | .error _ => none

def isReady (pod : Pod) : Bool :=
  match (pod.conditions.getD []).find? (·.type = "Ready") with
  | some condition => condition.status = "True"
  | none => false

def image? (pod : Pod) (container : String) : Option String :=
  ((pod.containers.getD []).find? (·.name = container)).bind (·.image)

/-- Pods under the texts of their tablets' aliases. A pod that names no tablet is left out; of two
of one tablet the later stays. -/
def index (pods : List Pod) : Keyed Pod :=
  .ofList (pods.filterMap fun pod => pod.tablet?.map fun name => (name.text, pod))

end Pod

end TabletDrain
