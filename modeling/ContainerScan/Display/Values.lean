import ContainerScan.Failure
import ContainerScan.Json.Basic
import ContainerScan.Text.Digits
import ContainerScan.Time.Timestamp

/-! How single values look to a reader: states, sizes and moments. -/

namespace ContainerScan.Display

/-- What is shown where there is no value. -/
def absent : String := "—"

/-- The colour of a state or verdict. -/
def statusColour : Option String → String
  | some "passed" => "green"
  | some "failed" => "red"
  | some "finished" => "green"
  | some "running" => "yellow"
  | some "created" => "dim"
  | _ => "white"

/-- A moment in whole seconds. -/
def momentText : Option Timestamp → String
  | some moment => moment.shown
  | none => absent

/-- Whether a number is below one thousand, which nothing unordered is. -/
def belowThousand : Binary64 → Bool
  | .infinite negative => negative
  | .unordered => false
  | value => (value.toRat?.map fun rational => decide (rational < 1000)).getD false

/-- The thousandth part of a number. -/
def thousandth : Binary64 → Binary64
  | .finite negative mantissa exponent =>
    let (dividend, divisor) := Binary64.fraction mantissa exponent
    .ofFraction negative dividend (divisor * 1000)
  | value => value

/-- A number of bytes in the first of some units that leaves fewer than one thousand. -/
def scaled (value : Binary64) : List String → String
  -- Each division rounds, so the units are gone through one by one.
  | [] => value.fixed 1 ++ " TB"
  | unit :: units =>
    if belowThousand value then value.fixed 0 ++ " " ++ unit else scaled (thousandth value) units

/-- A number of bytes that is not zero. -/
def bytes (value : Binary64) : String :=
  scaled value ["B", "kB", "MB", "GB"]

/-- A whole number in double precision, or the failure of one that is too large. -/
def realOfWhole (value : Int) : Except Failure Binary64 :=
  match Binary64.ofInt? value with
  | some real => .ok real
  | none => .error (.overflow "int too large to convert to float")

/-- A number of bytes, which may be absent; what is no number is read as one. -/
def sizeText (value : Json) : Except Failure String :=
  if !value.isTruthy then .ok absent
  else match value with
    | .number (.real real) => .ok (bytes real)
    | .number (.whole whole) => (realOfWhole whole).map bytes
    | .bool _ => (realOfWhole 1).map bytes
    | .string text =>
      match Number.realOf? ((Text.trimOf Text.isSpace text.toList).map Text.plainDigit) with
      | some real => .ok (bytes real)
      | none => .error (.value ("could not convert string to float: " ++ Text.quoted text))
    | _ => .error .wrongKind

end ContainerScan.Display
