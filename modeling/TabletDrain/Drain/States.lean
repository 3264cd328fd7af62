import TabletDrain.Pod.Markers

/-! The drain states of a whole shard move together. Each new request is acknowledged first. One pod
at a time is finished, and it stays so; while there is a finished one or a new request, nobody is
promoted. Otherwise the first acknowledged pod in key order is, the primary only when no other is
acknowledged. -/
namespace TabletDrain.Drain

/-- The states one step on, before a promotion: requests become acknowledged, and of the finished
ones only the first stays so. -/
def settle (haveFinished : Bool) : List (String × DrainState) → List (String × DrainState)
  | [] => []
  | (key, state) :: rest =>
    match state with
    | .notDraining => settle haveFinished rest
    | .draining => (key, .acknowledged) :: settle haveFinished rest
    | .acknowledged => (key, .acknowledged) :: settle haveFinished rest
    | .finished =>
      (key, if haveFinished then .acknowledged else .finished) :: settle true rest

def waiting (states : Keyed DrainState) : List String :=
  (states.entries.filter fun entry => entry.2 = .acknowledged).map Prod.fst

/-- The one to promote: the first that is not the primary, else the first. -/
def pick (primary : Option String) (keys : List String) : Option String :=
  (keys.find? fun key => some key ≠ primary).or keys.head?

def holds (states : Keyed DrainState) (state : DrainState) : Bool :=
  states.values.any (· = state)

theorem fst_settle_sublist (haveFinished : Bool) (entries : List (String × DrainState)) :
    ((settle haveFinished entries).map Prod.fst).Sublist (entries.map Prod.fst) := by
  induction entries generalizing haveFinished with
  | nil => exact .slnil
  | cons entry rest ih =>
    obtain ⟨key, state⟩ := entry
    cases state with
    | notDraining => exact (ih haveFinished).cons _
    | draining => exact (ih haveFinished).cons_cons _
    | acknowledged => exact (ih haveFinished).cons_cons _
    | finished => exact (ih true).cons_cons _

def settled (states : Keyed DrainState) : Keyed DrainState :=
  ⟨settle false states.entries, states.ascending.sublist (fst_settle_sublist _ _)⟩

/-- The states of a shard one step on. Pods without a request are left out. -/
def advance (states : Keyed DrainState) (primary : Option String) : Keyed DrainState :=
  let next := settled states
  if holds states .finished || holds states .draining then next
  else
    match pick primary (waiting next) with
    | some key => next.insert key .finished
    | none => next

end TabletDrain.Drain
