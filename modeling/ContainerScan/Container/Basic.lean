import ContainerScan.Failure
import ContainerScan.Image
import ContainerScan.Time.Timestamp

/-! The record of one scanner container in memory, and the order of its states. -/

namespace ContainerScan

/-- How far a container has come. -/
inductive Status where
  | created
  | running
  | finished
  deriving DecidableEq, Repr

namespace Status

/-- The word for a status. -/
def text : Status → String
  | .created => "created"
  | .running => "running"
  | .finished => "finished"

/-- The place of a status in the order. -/
def rank : Status → Nat
  | .created => 0
  | .running => 1
  | .finished => 2

/-- The status of a word. -/
def ofText? (word : String) : Option Status :=
  [created, running, finished].find? fun status => status.text = word

/-- The status of a word, or why there is none. -/
def ofText (word : String) : Except Failure Status :=
  match ofText? word with
  | some status => .ok status
  | none => .error (.value (Text.quoted word ++ " is not a valid ContainerStatus"))

end Status

/-- One run of a scanner image; it outlives the container itself. -/
structure Container where
  image : Image
  command : String := ""
  /-- What the daemon gave as the identifier; null as long as there is none. -/
  cid : Json := .null
  status : Option Status := none
  output : String := ""
  exitCode : Option Int := none
  startedAt : Option Timestamp := none
  finishedAt : Option Timestamp := none
  deriving DecidableEq, Repr

namespace Container

/-- The container at a later status; it never goes back to an earlier one. -/
def advance (container : Container) (status : Status) : Except Failure Container :=
  match container.status with
  | none => .ok { container with status := some status }
  | some current =>
    if status.rank < current.rank then
      .error (.value ("cannot move container from " ++ current.text ++ " to " ++ status.text))
    else .ok { container with status := some status }

end Container

/-- The first twelve characters of an identifier, which are enough to recognise it. -/
def shortId (cid : String) : String :=
  String.ofList (cid.toList.take 12)

/-- The first twelve parts of an identifier, if it is of a kind that has parts in order. -/
def shortened? : Json → Option Json
  | .string cid => some (.string (shortId cid))
  | .array items => some (.array (items.take 12))
  | _ => none

end ContainerScan
