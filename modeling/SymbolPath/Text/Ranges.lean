/-!
Sets of characters given by ranges of code points, both ends included.
-/

namespace SymbolPath.Text

def inRanges (ranges : Array (Nat × Nat)) (code : Nat) : Bool :=
  ranges.any fun (low, high) => low ≤ code && code ≤ high

end SymbolPath.Text
