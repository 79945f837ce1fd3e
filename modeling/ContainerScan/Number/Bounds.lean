/-! Whole numbers that fit into words of thirty-two and of sixty-four bits. -/

namespace ContainerScan.Number

/-- The first count that does not fit into thirty-two bits with a sign. -/
def halfBound : Nat := 2147483648

/-- The first count that does not fit into sixty-four bits with a sign. -/
def wordBound : Nat := 9223372036854775808

/-- Whether a whole number fits into thirty-two bits with a sign. -/
def fitsHalf (value : Int) : Bool :=
  -(halfBound : Int) ≤ value && value < (halfBound : Int)

/-- The number of thirty-two bits with a sign that a whole number becomes when counting goes round. -/
def wrapHalf (value : Int) : Int :=
  value.bmod (2 * halfBound)

/-- Whether a whole number fits into sixty-four bits with a sign. -/
def fitsWord (value : Int) : Bool :=
  -(wordBound : Int) ≤ value && value < (wordBound : Int)

end ContainerScan.Number
