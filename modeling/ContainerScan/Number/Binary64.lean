/-! Numbers in double precision, kept as exact fractions whose denominator is a power of two. -/

namespace ContainerScan

/-- A number in double precision. -/
inductive Binary64 where
  /-- The number `mantissa * 2 ^ exponent`, with its sign. -/
  | finite (negative : Bool) (mantissa : Nat) (exponent : Int)
  | infinite (negative : Bool)
  /-- The value that compares with nothing. -/
  | unordered
  deriving DecidableEq, Repr

namespace Binary64

/-- The whole number nearest to a quotient, where a tie goes to the even neighbour. -/
def nearest (dividend divisor : Nat) : Nat :=
  let below := dividend / divisor
  let rest := dividend % divisor
  if 2 * rest < divisor then below
  else if divisor < 2 * rest then below + 1
  else if below % 2 = 0 then below else below + 1

/-- A quotient of two counts over a power of two, rounded to a whole number. -/
def scaledNearest (dividend divisor : Nat) (exponent : Int) : Nat :=
  -- The power of two goes to whichever side keeps both counts whole.
  if 0 ≤ exponent then nearest dividend (divisor * Nat.pow 2 exponent.toNat)
  else nearest (dividend * Nat.pow 2 (-exponent).toNat) divisor

/-- The zero of a sign. -/
def zero (negative : Bool) : Binary64 := .finite negative 0 0

/-- The first count that takes up more than fifty-three bits. -/
def fullMantissa : Nat := 9007199254740992

/-- The number in double precision nearest to a fraction. -/
def ofFraction (negative : Bool) (dividend divisor : Nat) : Binary64 :=
  if dividend = 0 then zero negative
  else
    -- The exponent leaves fifty-three bits, or fewer where the range of exponents ends.
    let low : Int := (dividend.log2 : Int) - divisor.log2 - 53
    let full := fullMantissa ≤ scaledNearest dividend divisor low
    let exponent := max (if full then low + 1 else low) (-1074)
    let mantissa := scaledNearest dividend divisor exponent
    if mantissa = 0 then zero negative
    else if 971 < exponent ∨ (exponent = 971 ∧ fullMantissa ≤ mantissa) then .infinite negative
    else .finite negative mantissa exponent

/-- The number in double precision nearest to a rational number. -/
def ofRat (value : Rat) : Binary64 :=
  ofFraction (value < 0) value.num.natAbs value.den

/-- A whole number in double precision, unless it is beyond the range. -/
def ofInt? (value : Int) : Option Binary64 :=
  match ofRat value with
  | .finite negative mantissa exponent => some (.finite negative mantissa exponent)
  | _ => none

/-- The nearest number to a count times a power of ten. -/
def ofDecimal (negative : Bool) (digits : Nat) (exponent : Int) : Binary64 :=
  -- Beyond these powers the answer is certain, and the exact fraction would only be long.
  let size : Int := (toString digits).length + exponent
  if digits = 0 then zero negative
  else if 400 < size then .infinite negative
  else if size < -400 then zero negative
  else if 0 ≤ exponent then ofFraction negative (digits * Nat.pow 10 exponent.toNat) 1
  else ofFraction negative digits (Nat.pow 10 (-exponent).toNat)

/-- The size of a number as a fraction of two counts. -/
def fraction (mantissa : Nat) (exponent : Int) : Nat × Nat :=
  if 0 ≤ exponent then (mantissa * Nat.pow 2 exponent.toNat, 1)
  else (mantissa, Nat.pow 2 (-exponent).toNat)

/-- The rational number that a finite number is. -/
def toRat? : Binary64 → Option Rat
  | .finite negative mantissa exponent =>
    let (dividend, divisor) := fraction mantissa exponent
    some (mkRat (if negative then -(dividend : Int) else dividend) divisor)
  | _ => none

/-- What double precision keeps of a rational number; one beyond its range is left as it is. -/
def rounded (value : Rat) : Rat :=
  (ofRat value).toRat?.getD value

/-- Whether a number is at most zero; the unordered value is not. -/
def atMostZero : Binary64 → Bool
  | .finite negative mantissa _ => negative || mantissa == 0
  | .infinite negative => negative
  | .unordered => false

end Binary64

end ContainerScan
