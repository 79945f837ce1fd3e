import ContainerScan.Number.Bounds
import ContainerScan.Record.Basic

/-! What the columns of the store keep of a value: texts and numbers take on the form of their column. -/

namespace ContainerScan

namespace Binary64

/-- A fraction times a power of ten, rounded to a whole number, where a tie goes up. -/
def tenfoldUp (dividend divisor : Nat) (power : Int) : Nat :=
  let scaled := if 0 ≤ power then dividend * Nat.pow 10 power.toNat else dividend
  let parts := if 0 ≤ power then divisor else divisor * Nat.pow 10 (-power).toNat
  (2 * scaled + parts) / (2 * parts)

/-- The first count of sixteen digits. -/
def sixteenDigits : Nat := 1000000000000000

/-- Fifteen significant digits of a positive fraction, and the power of ten of the first of them. -/
def fifteenDigits (dividend divisor : Nat) : Nat × Int :=
  -- Rounding up may reach the next power of ten, which moves the first digit.
  let exponent := decimalExponent dividend divisor
  let digits := tenfoldUp dividend divisor (14 - exponent)
  if digits = sixteenDigits then (sixteenDigits / 10, exponent + 1) else (digits, exponent)

/-- Digits after a point, with the trailing zeros left out but for a first one. -/
def behindPoint (digits : List Char) : List Char :=
  let kept := (digits.reverse.dropWhile (· == '0')).reverse
  '.' :: (if kept.isEmpty then ['0'] else kept)

/-- A positive fraction in fifteen significant digits, of which one at least stands after the point. -/
def pointedFraction (dividend divisor : Nat) : List Char :=
  -- Exponents from minus four to fourteen are written out; the others use scientific notation.
  let (digits, exponent) := fifteenDigits dividend divisor
  let shown := (toString digits).toList
  if exponent < -4 ∨ 14 < exponent then
    shown.take 1 ++ behindPoint (shown.drop 1) ++ 'e' :: exponentText exponent
  else if 0 ≤ exponent then
    shown.take (exponent.toNat + 1) ++ behindPoint (shown.drop (exponent.toNat + 1))
  else '0' :: behindPoint (List.replicate (-exponent - 1).toNat '0' ++ shown)

/-- What a column of texts keeps of a number; the unordered value is kept as nothing. -/
def columnText? : Binary64 → Option String
  | .finite _ 0 _ => some "0.0"
  | .finite negative mantissa exponent =>
    let (dividend, divisor) := fraction mantissa exponent
    some (String.ofList (signText negative ++ pointedFraction dividend divisor))
  | .infinite negative => some (String.ofList (signText negative ++ "Inf".toList))
  | .unordered => none

/-- A number in double precision as a whole number, where it is one that fits into a word. -/
def settled (value : Binary64) : Number :=
  match value.toRat? with
  | some rational =>
    if rational.den = 1 ∧ rational.num.natAbs < Number.wordBound then .whole rational.num
    else .real value
  | none => .real value

end Binary64

namespace Column

/-- Whether a character may stand around a number in a column. -/
def isMargin (c : Char) : Bool :=
  c == ' ' || (9 ≤ c.toNat && c.toNat ≤ 13)

/-- The number that a text is to a column of numbers. -/
def numberOf? (text : String) : Option Number :=
  let (negative, digits) := Number.splitSign (Text.trimOf isMargin text.toList)
  if !digits.isEmpty && digits.all Text.isDigit then
    let value := Number.signed negative (Number.digitsValue digits)
    if Number.fitsWord value then some (.whole value)
    else some (.real (Binary64.ofDecimal negative value.natAbs 0))
  else if digits.head?.any fun c => Text.isDigit c || c == '.' then
    (Number.unsignedReal? negative digits).map Binary64.settled
  else none

/-- The text that a column of texts keeps of a value. -/
def textOf? : Cell → Option String
  | .text value => some value
  | .whole value => some (toString value)
  | .real value => value.columnText?
  | .moment value => some (value.full " ")
  | .null | .other => none

/-- What a column of numbers keeps of a text. -/
def quantityOfText (text : String) : Quantity :=
  match numberOf? text with
  | some value => .number value
  | none => .text text

/-- What a column of numbers keeps of a value. -/
def quantityOf? : Cell → Option Quantity
  | .whole value => some (.number (.whole value))
  | .real .unordered => none
  | .real value => some (.number value.settled)
  | .text value => some (quantityOfText value)
  | .moment value => some (quantityOfText (value.full " "))
  | .null | .other => none

/-- What a column of moments keeps of a value. -/
def momentOf? : Cell → Option Timestamp
  | .moment value => some value
  | _ => none

/-- The failure of a number that no column can hold. -/
def tooLarge : Failure :=
  .overflow "Python int too large to convert to SQLite INTEGER"

/-- Why a value cannot be handed over to the store, whatever its column. -/
def refusal? : Cell → Option Failure
  | .whole value => if Number.fitsWord value then none else some tooLarge
  | .other => some .database
  | _ => none

/-- Whether a value cannot be handed over for a column of moments. -/
def isForeign (field : String × Cell) : Bool :=
  (field.1 == "started_at" || field.1 == "finished_at") &&
    (match field.2 with
      | .null | .moment _ => false
      | _ => true)

end Column

end ContainerScan
