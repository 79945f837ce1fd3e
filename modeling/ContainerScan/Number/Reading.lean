import ContainerScan.Number.Binary64
import ContainerScan.Text.Blank

/-! Reading whole and decimal numbers from text. -/

namespace ContainerScan

/-- A number as it was written: whole, or in double precision. -/
inductive Number where
  | whole (value : Int)
  | real (value : Binary64)
  deriving DecidableEq, Repr

namespace Number

open ContainerScan.Text

/-- The value of a run of decimal digits. -/
def digitsValue (digits : List Char) : Nat :=
  digits.foldl (fun value c => value * 10 + digitValue c) 0

/-- Whether a text is a run of digits in which single underscores may stand between two of them. -/
def groupedDigits : List Char → Bool
  | [] => false
  | [c] => isDigit c
  | c :: '_' :: rest => isDigit c && groupedDigits rest
  | c :: rest => isDigit c && groupedDigits rest

/-- A sign at the front of a text, and what follows it. -/
def splitSign : List Char → Bool × List Char
  | '-' :: rest => (true, rest)
  | '+' :: rest => (false, rest)
  | text => (false, text)

/-- A minus at the front of a text, and what follows it. -/
def splitMinus : List Char → Bool × List Char
  | '-' :: rest => (true, rest)
  | text => (false, text)

/-- A count under a sign. -/
def signed (negative : Bool) (value : Nat) : Int :=
  if negative then -(value : Int) else value

/-- A whole number with an optional sign and grouped digits. -/
def wholeOf? (text : List Char) : Option Int :=
  let (negative, digits) := splitSign text
  if groupedDigits digits then some (signed negative (digitsValue (digits.filter (· ≠ '_'))))
  else none

/-- Whether underscores stand neither at the ends of a text nor next to each other. -/
def loneUnderscores : List Char → Bool
  | [] => true
  | [c] => c != '_'
  | c :: d :: rest => !(c == '_' && d == '_') && loneUnderscores (d :: rest)

/-- A text without its underscores, unless one is first, last or next to another. -/
def withoutUnderscores (text : List Char) : List Char :=
  if text.head? ≠ some '_' ∧ loneUnderscores text then text.filter (· ≠ '_') else text

/-- A text behind a zero and the zeros and underscores after it, of which the last one may be needed. -/
def afterZeros? (last : Char) : List Char → Option (List Char)
  | [] => some [last]
  | c :: rest =>
    if c = '0' ∨ c = '_' then afterZeros? c rest
    else if isDigit c ∨ c = '-' then some (c :: rest)
    else if c = '.' then some (last :: c :: rest)
    else none

/-- A text from its first digit that counts, or from a minus on. -/
def withoutLeadingZeros? : List Char → Option (List Char)
  | [] => none
  | c :: rest =>
    if c = '0' then afterZeros? '0' rest
    else if isDigit c ∨ c = '-' then some (c :: rest)
    else none

/-- The part of a text before a point that only zeros follow, or the text itself. -/
def withoutZeroPlaces (text : List Char) : List Char :=
  let whole := text.takeWhile (· ≠ '.')
  match text.dropWhile (· ≠ '.') with
  | _ :: zeros => if !zeros.isEmpty && zeros.all (· == '0') then whole else text
  | [] => text

/-- A whole number without what may surround its digits: a plus, zeros and underscores. -/
def plainWhole? (text : List Char) : Option (List Char) :=
  let significant? := match text with
    | '+' :: '-' :: _ => none
    | '+' :: rest => withoutLeadingZeros? rest
    | _ => withoutLeadingZeros? text
  significant?.map fun significant => withoutUnderscores (withoutZeroPlaces significant)

/-- The digits at the front of a text, and what follows them. -/
def spanDigits (text : List Char) : List Char × List Char :=
  (text.takeWhile isDigit, text.dropWhile isDigit)

/-- The exponent part of a decimal number: nothing, or a letter, a sign and digits. -/
def exponentOf? : List Char → Option Int
  | [] => some 0
  | c :: rest =>
    if c = 'e' ∨ c = 'E' then
      let (negative, digits) := splitSign rest
      if !digits.isEmpty && digits.all isDigit then
        some (if negative then -(digitsValue digits : Int) else digitsValue digits)
      else none
    else none

/-- The fraction part of a decimal number, and what follows it. -/
def spanFraction : List Char → List Char × List Char
  | '.' :: rest => spanDigits rest
  | text => ([], text)

/-- The number that digits, a fraction and an exponent write, or a named value. -/
def unsignedReal? (negative : Bool) (text : List Char) : Option Binary64 :=
  -- The names come first, since none of them begins with a digit or a point.
  let name := String.ofList (lower text)
  if name = "inf" ∨ name = "infinity" then some (.infinite negative)
  else if name = "nan" then some .unordered
  else
    let (units, afterUnits) := spanDigits text
    let (places, afterPlaces) := spanFraction afterUnits
    if units.isEmpty && places.isEmpty then none
    else (exponentOf? afterPlaces).map fun exponent =>
      Binary64.ofDecimal negative (digitsValue (units ++ places)) (exponent - places.length)

/-- A decimal number with an optional sign. -/
def plainRealOf? (text : List Char) : Option Binary64 :=
  let (negative, rest) := splitSign text
  unsignedReal? negative rest

/-- A decimal number between blanks, or one without blanks and with underscores inside. -/
def looseRealOf? (text : List Char) : Option Binary64 :=
  match plainRealOf? (trimOf isSpace text) with
  | some value => some value
  | none => plainRealOf? (withoutUnderscores text)

/-- Whether each underscore stands between two digits. -/
def groupingOk : List Char → Bool
  | [] => true
  | '_' :: _ => false
  | c :: '_' :: d :: rest => isDigit c && isDigit d && groupingOk (d :: rest)
  | [_, '_'] => false
  | _ :: rest => groupingOk rest

/-- A decimal number with an optional sign, where underscores may group digits. -/
def realOf? (text : List Char) : Option Binary64 :=
  if groupingOk text then plainRealOf? (text.filter (· ≠ '_')) else none

end Number

end ContainerScan
