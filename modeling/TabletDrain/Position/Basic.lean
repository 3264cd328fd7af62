import TabletDrain.Keyed

/-! Replication positions: how far a tablet has got in the stream of transactions. A position is
either a set of transactions, kept per server as ranges of sequence numbers, or a place in a log
file. `atLeast` says that one position includes all of another. -/
namespace TabletDrain

structure Interval where
  first : Nat
  last : Nat
  deriving DecidableEq, Repr

namespace Interval

def covers (range : Interval) (n : Nat) : Prop := range.first ≤ n ∧ n ≤ range.last

instance (range : Interval) (n : Nat) : Decidable (range.covers n) :=
  inferInstanceAs (Decidable (_ ∧ _))

def contains (outer inner : Interval) : Bool :=
  outer.first ≤ inner.first && inner.last ≤ outer.last

def precedes (a b : Interval) : Bool :=
  if a.first = b.first then a.last ≤ b.last else a.first < b.first

/-- Joins ranges in ascending order onto `current` while they overlap or touch it. -/
def mergeFrom (current : Interval) : List Interval → List Interval
  | [] => [current]
  | next :: rest =>
    if next.first ≤ current.last + 1 then
      mergeFrom ⟨current.first, max current.last next.last⟩ rest
    else current :: mergeFrom next rest

def merge : List Interval → List Interval
  | [] => []
  | first :: rest => mergeFrom first rest

def normalize (ranges : List Interval) : List Interval := merge (ranges.mergeSort precedes)

end Interval

inductive Position where
  | zero
  /-- The transactions received, as ranges of sequence numbers under the names of servers. -/
  | transactions (set : Keyed (List Interval))
  | logFile (file : String) (offset : Nat)
  deriving DecidableEq, Repr

namespace Position

def isZero : Position → Bool
  | zero => true
  | transactions set => set.isEmpty
  | logFile _ _ => false

def covered (theirs mine : List Interval) : Bool :=
  theirs.all fun range => mine.any fun own => own.contains range

/-- The first position includes everything in the second. Positions of different kinds are not
comparable, except that every position includes a zero one. -/
def atLeast (mine theirs : Position) : Bool :=
  theirs.isZero ||
    match mine, theirs with
    | transactions own, transactions other =>
      other.entries.all fun (server, ranges) =>
        match own.get? server with
        | some held => covered ranges held
        | none => false
    | logFile file offset, logFile otherFile otherOffset =>
      if file = otherFile then otherOffset ≤ offset else otherFile < file
    | _, _ => false

end Position

end TabletDrain
