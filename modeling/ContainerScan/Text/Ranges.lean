/-! Sets of characters as ranges of their code points. -/

namespace ContainerScan.Text

/-- Whether a code point lies in one of several ranges. -/
def inRanges (ranges : List (Nat × Nat)) (code : Nat) : Bool :=
  ranges.any fun range => range.1 ≤ code && code ≤ range.2

end ContainerScan.Text
