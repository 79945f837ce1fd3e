import ContainerScan.Json.Basic

/-! What is wrong with a value that a schema refuses, and where in the value. -/

namespace ContainerScan

/-- A step into a value. -/
inductive Place where
  | member (name : String)
  | item (index : Nat)
  deriving DecidableEq, Repr

/-- A rule that a value breaks. -/
inductive Breach where
  | notText
  /-- No array, in a document. -/
  | notArray
  /-- No list, among values given directly. -/
  | notList
  /-- No object, in a document. -/
  | notObject
  /-- No members of a named model, among values given directly. -/
  | notInstance (model : String)
  | notJson (message : String)
  | notWhole
  | unreadableWhole
  | wholeTooLong
  | fractional
  | notFinite
  | notReal
  | unreadableReal
  | notFlag
  | unreadableFlag
  | notLogLevel
  | refused (message : String)
  | frozen
  deriving DecidableEq, Repr

/-- The short name of a breach. -/
def Breach.code : Breach → String
  | .notText => "string_type"
  | .notArray | .notList => "list_type"
  | .notObject | .notInstance _ => "model_type"
  | .notJson _ => "json_invalid"
  | .notWhole => "int_type"
  | .unreadableWhole => "int_parsing"
  | .wholeTooLong => "int_parsing_size"
  | .fractional => "int_from_float"
  | .notFinite => "finite_number"
  | .notReal => "float_type"
  | .unreadableReal => "float_parsing"
  | .notFlag => "bool_type"
  | .unreadableFlag => "bool_parsing"
  | .notLogLevel => "literal_error"
  | .refused _ => "value_error"
  | .frozen => "frozen_instance"

/-- The wording of a breach. -/
def Breach.message : Breach → String
  | .notText => "Input should be a valid string"
  | .notArray => "Input should be a valid array"
  | .notList => "Input should be a valid list"
  | .notObject => "Input should be an object"
  | .notInstance model => "Input should be a valid dictionary or instance of " ++ model
  | .notJson message => message
  | .notWhole => "Input should be a valid integer"
  | .unreadableWhole => "Input should be a valid integer, unable to parse string as an integer"
  | .wholeTooLong => "Unable to parse input string as an integer, exceeded maximum size"
  | .fractional => "Input should be a valid integer, got a number with a fractional part"
  | .notFinite => "Input should be a finite number"
  | .notReal => "Input should be a valid number"
  | .unreadableReal => "Input should be a valid number, unable to parse string as a number"
  | .notFlag => "Input should be a valid boolean"
  | .unreadableFlag => "Input should be a valid boolean, unable to interpret input"
  | .notLogLevel => "Input should be 'DEBUG', 'INFO', 'WARNING', 'ERROR' or 'CRITICAL'"
  | .refused message => "Value error, " ++ message
  | .frozen => "Instance is frozen"

/-- A breach and the way to it from the whole value. -/
structure Violation where
  path : List Place
  breach : Breach
  deriving DecidableEq, Repr

end ContainerScan
