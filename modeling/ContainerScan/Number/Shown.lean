import ContainerScan.Number.Binary64

/-! Numbers in decimal notation, with a fixed count of significant digits or of decimal places. -/

namespace ContainerScan.Binary64

/-- How many decimal digits a count has. -/
def digitCount (value : Nat) : Int :=
  (toString value).length

/-- The power of ten at or below a positive fraction. -/
def decimalExponent (dividend divisor : Nat) : Int :=
  -- The digit counts fix the exponent up to one.
  let guess := digitCount dividend - digitCount divisor
  let reaches :=
    if 0 ≤ guess then divisor * Nat.pow 10 guess.toNat ≤ dividend
    else divisor ≤ dividend * Nat.pow 10 (-guess).toNat
  if reaches then guess else guess - 1

/-- A fraction times a power of ten, rounded to a whole number. -/
def tenfoldNearest (dividend divisor : Nat) (power : Int) : Nat :=
  if 0 ≤ power then nearest (dividend * Nat.pow 10 power.toNat) divisor
  else nearest dividend (divisor * Nat.pow 10 (-power).toNat)

/-- Six significant digits of a positive fraction, and the power of ten of the first of them. -/
def sixDigits (dividend divisor : Nat) : Nat × Int :=
  -- Rounding up may reach the next power of ten, which moves the first digit.
  let exponent := decimalExponent dividend divisor
  let digits := tenfoldNearest dividend divisor (5 - exponent)
  if digits = 1000000 then (100000, exponent + 1) else (digits, exponent)

/-- Digits after a point, with the trailing zeros and a bare point left out. -/
def afterPoint (digits : List Char) : List Char :=
  let kept := (digits.reverse.dropWhile (· == '0')).reverse
  if kept.isEmpty then [] else '.' :: kept

/-- An exponent with its sign and at least two digits. -/
def exponentText (exponent : Int) : List Char :=
  let digits := (toString exponent.natAbs).toList
  (if exponent < 0 then '-' else '+') :: (if digits.length < 2 then '0' :: digits else digits)

/-- A positive fraction in six significant digits. -/
def generalFraction (dividend divisor : Nat) : List Char :=
  -- Exponents from minus four to five are written out; the others use scientific notation.
  let (digits, exponent) := sixDigits dividend divisor
  let shown := (toString digits).toList
  if exponent < -4 ∨ 6 ≤ exponent then
    shown.take 1 ++ afterPoint (shown.drop 1) ++ 'e' :: exponentText exponent
  else if 0 ≤ exponent then
    shown.take (exponent.toNat + 1) ++ afterPoint (shown.drop (exponent.toNat + 1))
  else '0' :: afterPoint (List.replicate (-exponent - 1).toNat '0' ++ shown)

/-- The sign in front of a number. -/
def signText (negative : Bool) : List Char :=
  if negative then ['-'] else []

/-- A number in at most six significant digits. -/
def general : Binary64 → String
  | .finite negative 0 _ => String.ofList (signText negative ++ ['0'])
  | .finite negative mantissa exponent =>
    let (dividend, divisor) := fraction mantissa exponent
    String.ofList (signText negative ++ generalFraction dividend divisor)
  | .infinite negative => String.ofList (signText negative ++ "inf".toList)
  | .unordered => "nan"

/-- A number with a fixed count of decimal places. -/
def fixed (places : Nat) : Binary64 → String
  | .finite negative mantissa exponent =>
    let (dividend, divisor) := fraction mantissa exponent
    let digits := (toString (nearest (dividend * Nat.pow 10 places) divisor)).toList
    let padded := List.replicate (places + 1 - digits.length) '0' ++ digits
    let whole := padded.take (padded.length - places)
    let point := if places = 0 then [] else '.' :: padded.drop (padded.length - places)
    String.ofList (signText negative ++ whole ++ point)
  | .infinite negative => String.ofList (signText negative ++ "inf".toList)
  | .unordered => "nan"

end ContainerScan.Binary64
