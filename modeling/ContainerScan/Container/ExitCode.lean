import ContainerScan.Daemon.Basic
import ContainerScan.Number.Whole

/-! The exit code and the error that the daemon reports of a stopped container. -/

namespace ContainerScan

namespace ExitCode

/-- A number without its fraction. -/
def ofReal (value : Binary64) : Except Failure Int :=
  match value.toRat?, value with
  | some rational, _ => .ok (rational.num.tdiv rational.den)
  | none, .unordered => .error (.value "cannot convert float NaN to integer")
  | none, _ => .error (.overflow "cannot convert float infinity to integer")

/-- A whole number from a value. -/
def ofJson : Json → Except Failure Int
  | .number (.whole value) => .ok value
  | .number (.real value) => ofReal value
  | .bool value => .ok (if value then 1 else 0)
  | .string text => Number.ofText text
  | _ => .error .wrongKind

/-- The exit code in a report, or minus one where none is given. -/
def ofMembers (members : List (String × Json)) : Except Failure Int :=
  match Json.lookup "StatusCode" members with
  | some value => ofJson value
  | none => .ok (-1)

/-- The message of the error in a report, which may be missing. -/
def errorMessage (members : List (String × Json)) : Except Failure Json :=
  match (Json.lookup "Error" members).getD .null with
  | .object found => .ok ((Json.lookup "Message" found).getD .null)
  | value => if value.isTruthy then .error .lacking else .ok .null

end ExitCode

namespace Reply

/-- The members of an object that is asked for values by name. -/
def named : Reply → Except Failure (List (String × Json))
  | .value (.object members) => .ok members
  | _ => .error .lacking

/-- The identifier of a new container, which may be any value. -/
def newCid : Reply → Except Failure Json
  | .value (.object members) =>
    match Json.lookup "Id" members with
    | some cid => .ok cid
    | none => .error (.missingMember "Id")
  | _ => .error .wrongKind

/-- The bytes of an output. -/
def output : Reply → Except Failure (List UInt8)
  | .bytes content => .ok content
  | .value _ => .error .lacking

end Reply

end ContainerScan
