import ContainerScan.Failure
import ContainerScan.Json.Basic

/-! The container daemon as seen from outside: what it can be asked, and what comes back. -/

namespace ContainerScan

/-- What a client can do with the daemon. -/
inductive Method where
  | connect
  | close
  | ping
  | images
  | pull
  | createContainer
  | start
  | wait
  | logs
  | stop
  | removeContainer
  | removeImage
  deriving DecidableEq, Repr

namespace Method

/-- The name of a method. -/
def text : Method → String
  | .connect => "connect"
  | .close => "close"
  | .ping => "ping"
  | .images => "images"
  | .pull => "pull"
  | .createContainer => "create_container"
  | .start => "start"
  | .wait => "wait"
  | .logs => "logs"
  | .stop => "stop"
  | .removeContainer => "remove_container"
  | .removeImage => "remove_image"

/-- Every method. -/
def all : List Method :=
  [.connect, .close, .ping, .images, .pull, .createContainer, .start, .wait, .logs, .stop,
    .removeContainer, .removeImage]

/-- The method of a name. -/
def ofText? (name : String) : Option Method :=
  all.find? fun method => method.text = name

end Method

/-- What the daemon sends back: a value, or plain bytes. -/
inductive Reply where
  | value (content : Json)
  | bytes (content : List UInt8)
  deriving Repr

/-- How a call ends, and how many seconds that takes. -/
structure Outcome where
  delay : Rat
  result : Except Failure Reply

/-- A call ended at once by a value. -/
def Outcome.immediate (content : Json) : Outcome :=
  ⟨0, .ok (.value content)⟩

/-- A call to the daemon, with the time at which it began. -/
structure Call where
  time : Rat
  method : Method
  positional : List Json
  named : List (String × Json)
  deriving Repr

/-- How a daemon answers: for each method the outcome of its first, second and later calls. -/
abbrev Script := Method → Nat → Option Outcome

namespace Script

/-- The script that gives outcomes in turn and then repeats the last one. -/
def ofOutcomes (outcomes : Method → List Outcome) : Script := fun method index =>
  let given := outcomes method
  (given[index]?).orElse fun _ => given.getLast?

/-- The identifier of the container that an unscripted daemon creates. -/
def usualCid : String := "4f1c2d3e5a6b7c8d9e0f1a2b3c4d5e6f7a8b9c0d1e2f3a4b5c6d7e8f9a0b1c2d"

/-- The report that a container writes on an unscripted daemon. -/
def usualReport : List UInt8 :=
  "\x7b\x22data\x22: []\x7d\r\n".toUTF8.toList

/-- What an unscripted daemon answers. -/
def usual : Method → Outcome
  | .images => .immediate (.array [.object [("Id", .string "sha256:abc"),
      ("RepoTags", .array [.string "retirejs:latest"])]])
  | .createContainer => .immediate (.object [("Id", .string usualCid), ("Warnings", .array [])])
  | .wait => .immediate (.object [("StatusCode", .int 0), ("Error", .null)])
  | .logs => ⟨0, .ok (.bytes usualReport)⟩
  | _ => .immediate .null

/-- The outcome of a call, given how many calls of the method came before it. -/
def outcome (script : Script) (method : Method) (index : Nat) : Outcome :=
  (script method index).getD (usual method)

end Script

end ContainerScan
