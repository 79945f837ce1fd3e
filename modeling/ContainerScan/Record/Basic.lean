import ContainerScan.Container.Basic
import ContainerScan.Number.Bounds

/-! The record that is kept of a scan, and the changes that it may undergo. -/

namespace ContainerScan

/-- What a column of numbers holds: a number, or a text that is none. -/
inductive Quantity where
  | number (value : Number)
  | text (value : String)
  deriving DecidableEq, Repr

namespace Quantity

/-- A whole number. -/
def whole (value : Int) : Quantity := .number (.whole value)

/-- Whether a number fits into a column; everything else does. -/
def fits : Quantity → Bool
  | .number (.whole value) => Number.fitsWord value
  | _ => true

/-- What is shown of a quantity. -/
def shown : Quantity → String
  | .number (.whole value) => toString value
  | .number (.real value) => value.general
  | .text value => value

end Quantity

/-- What is kept of one scan, under the identifier of its container. -/
structure Record where
  cid : String
  imageName : String
  imageTag : String
  canonicalUrl : Option String
  /-- The command as a template; the command that ran may hold the private key. -/
  command : String
  repositoryUrl : String
  branch : String
  analyzer : Option String
  status : String
  exitCode : Option Quantity
  output : Option String
  result : Option String
  startedAt : Option Timestamp
  finishedAt : Option Timestamp
  deriving DecidableEq, Repr

/-- A value on its way into a record. -/
inductive Cell where
  | null
  | whole (value : Int)
  | real (value : Binary64)
  | text (value : String)
  | moment (value : Timestamp)
  /-- A value of a kind that no record can hold. -/
  | other
  deriving DecidableEq, Repr

/-- Named values for a record. -/
abbrev Fields := List (String × Cell)

namespace Record

/-- What a reader gets: the clocks of a kept record have lost their offsets. -/
def withoutOffsets (record : Record) : Record :=
  { record with
    startedAt := record.startedAt.map Timestamp.withoutOffset
    finishedAt := record.finishedAt.map Timestamp.withoutOffset }

/-- A text in quotes, or the word for its absence. -/
def quotedOption : Option String → String
  | some text => Text.quoted text
  | none => "None"

/-- The short form of a record. -/
def summary (record : Record) : String :=
  "<ContainerRecord cid=" ++ Text.quoted (shortId record.cid) ++ " status=" ++
    Text.quoted record.status ++ " result=" ++ quotedOption record.result ++ ">"

/-- The names of the values that may change after a record has been made, in the order of columns. -/
def changeable : List String :=
  ["status", "exit_code", "started_at", "finished_at", "output", "result"]

/-- A change of one value of a record. -/
inductive Change where
  | output (value : Option String)
  | result (value : Option String)
  | status (value : Option String)
  | exitCode (value : Option Quantity)
  | startedAt (value : Option Timestamp)
  | finishedAt (value : Option Timestamp)
  deriving DecidableEq, Repr

/-- A record after a change, unless that takes away a value which it must have. -/
def change? (record : Record) : Change → Option Record
  | .output value => some { record with output := value }
  | .result value => some { record with result := value }
  | .status value => value.map fun status => { record with status := status }
  | .exitCode value => some { record with exitCode := value }
  | .startedAt value => some { record with startedAt := value.map Timestamp.withoutOffset }
  | .finishedAt value => some { record with finishedAt := value.map Timestamp.withoutOffset }

/-- A record after several changes in turn. -/
def changeAll? (record : Record) : List Change → Option Record
  | [] => some record
  | change :: rest => (record.change? change).bind fun changed => changed.changeAll? rest

/-- What a record tells of a scan besides its container; some of it may be missing. -/
structure Origin where
  template : Option String
  repositoryUrl : Option String
  branch : Option String
  analyzer : Option String := none
  deriving DecidableEq, Repr

/-- The first record of a container, unless something that it must have is missing. -/
def draft? (cid : String) (container : Container) (origin : Origin) : Option Record := do
  let template ← origin.template
  let repositoryUrl ← origin.repositoryUrl
  let branch ← origin.branch
  return {
    cid := cid
    imageName := container.image.name
    imageTag := container.image.tag
    -- An empty address counts as none.
    canonicalUrl :=
      if container.image.canonicalUrl = "" then none else some container.image.canonicalUrl
    command := template
    repositoryUrl := repositoryUrl
    branch := branch
    analyzer := origin.analyzer
    status := (container.status.getD .created).text
    exitCode := container.exitCode.map Quantity.whole
    -- What the analyzer makes of the output is added later.
    output := none
    result := none
    startedAt := container.startedAt
    finishedAt := container.finishedAt }

end Record

end ContainerScan
