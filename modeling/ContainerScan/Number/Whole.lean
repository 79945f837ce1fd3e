import ContainerScan.Failure
import ContainerScan.Number.Reading
import ContainerScan.Text.Digits

/-! Whole numbers from texts, or the failure of a text that is none. -/

namespace ContainerScan.Number

open Text

/-- The longest run of digits that is read as a number. -/
def digitLimit : Nat := 4300

/-- How much of a text is shown where it is no number. -/
def excerptLength : Nat := 200

/-- The beginning of a text. -/
def excerpt (text : String) : String :=
  String.ofList (text.toList.take excerptLength)

/-- The run of digits and underscores at the front of a text. -/
def runOf (text : List Char) : List Char :=
  text.takeWhile fun c => isDigit c || c == '_'

/-- A whole number from a text in any digits, with white space around it. -/
def ofText (text : String) : Except Failure Int :=
  let plain := (trimOf isSpace text.toList).map plainDigit
  -- The digits are counted before anything behind them is looked at.
  let run := runOf (splitSign plain).2
  let digits := run.countP isDigit
  if digitLimit < digits ∧ groupedDigits run then
    .error (.value ("Exceeds the limit (4300 digits) for integer string conversion: value has " ++
      toString digits ++ " digits; use sys.set_int_max_str_digits() to increase the limit"))
  else match wholeOf? plain with
    | some value => .ok value
    | none =>
      .error (.value ("invalid literal for int() with base 10: " ++ excerpt (quoted text)))

end ContainerScan.Number
