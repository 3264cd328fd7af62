/-! Sets of code points, written as lists of first and last members. -/
namespace TabletDrain.Text

def inRanges (ranges : List (Nat × Nat)) (n : Nat) : Bool :=
  ranges.any fun (first, last) => first ≤ n && n ≤ last

end TabletDrain.Text
