import ContainerScan.Json.Basic
import ContainerScan.Text.Quoted

/-! The text of a JSON value, without blanks, from which the reader gets the value back. -/

namespace ContainerScan.Json

open ContainerScan.Text

/-- One character inside a written string. -/
def renderChar (c : Char) : List Char :=
  -- Quotes, backslashes and control characters cannot stand for themselves.
  if c = '\x22' ∨ c = '\\' then ['\\', c]
  else if c.toNat < 0x20 then '\\' :: 'u' :: hexDigits 4 c.toNat
  else [c]

/-- A written string with its quotes. -/
def renderString (text : List Char) : List Char :=
  '\x22' :: text.flatMap renderChar ++ ['\x22']

/-- The digits of a count. -/
def renderNat (value : Nat) : List Char :=
  Nat.toDigits 10 value

/-- A whole number with its sign. -/
def renderInt (value : Int) : List Char :=
  if value < 0 then '-' :: renderNat value.natAbs else renderNat value.natAbs

/-- A number in double precision, in all of its decimal digits. -/
def renderReal : Binary64 → List Char
  -- A power of two below one is a power of five over a power of ten, so the digits are exact.
  | .finite negative mantissa exponent =>
    (if negative then ['-'] else []) ++
      (if 0 ≤ exponent then renderNat (mantissa * Nat.pow 2 exponent.toNat) ++ ['e', '0']
      else renderNat (mantissa * Nat.pow 5 (-exponent).toNat) ++ 'e' :: renderInt exponent)
  | .infinite false => "Infinity".toList
  | .infinite true => "-Infinity".toList
  | .unordered => "NaN".toList

/-- Written parts with commas between them. -/
def joinParts : List (List Char) → List Char
  | [] => []
  | [part] => part
  | part :: rest => part ++ ',' :: joinParts rest

mutual

/-- The text of a value. -/
def renderChars : Json → List Char
  | .null => "null".toList
  | .bool true => "true".toList
  | .bool false => "false".toList
  | .number (.whole value) => renderInt value
  | .number (.real value) => renderReal value
  | .string text => renderString text.toList
  | .array items => '[' :: joinParts (renderItems items) ++ [']']
  | .object members => '\x7b' :: joinParts (renderMembers members) ++ ['\x7d']

/-- The texts of the items of an array. -/
def renderItems : List Json → List (List Char)
  | [] => []
  | item :: items => renderChars item :: renderItems items

/-- The texts of the members of an object. -/
def renderMembers : List (String × Json) → List (List Char)
  | [] => []
  | (name, value) :: members =>
    (renderString name.toList ++ ':' :: renderChars value) :: renderMembers members

end

/-- The text of a value as a string. -/
def render (value : Json) : String :=
  String.ofList (renderChars value)

end ContainerScan.Json
