import ContainerScan.Command
import ContainerScan.Container.ExitCode
import ContainerScan.Lifecycle.Session
import ContainerScan.Text.Utf8

/-! The operations of a container's life. Each one leaves a log entry and turns the daemon's
failures into its own. -/

namespace ContainerScan.Session

/-- The failure of the daemon in an operation is logged and named after it. -/
def failAs {α : Type} (message name : String) (fields : Event) (cid : Json)
    (text : String) : Step Session α := do
  log .error message (fields ++ [("error", .string text)])
  throw (.operation name text cid)

/-- The failure of the daemon in an operation that ends the container's life. -/
def endAs {α : Type} (message name : String) (text : String) : Step Session α := do
  advance .finished
  failAs message name [] (← container).cid text

/-- A client is opened if there is none. -/
def connect : Step Session Unit := do
  let lifecycle := (← get).lifecycle
  if !lifecycle.connected then
    Step.handling Failure.isConnectionSetup
      (inWorld (lifecycle.connector lifecycle.settings)) fun failure => do
        log .error "Docker connection setup failed" [("error", .string failure.text)]
        throw failure
    setConnected true

/-- The client is given back if there is one. -/
def close : Step Session Unit := do
  if (← get).lifecycle.connected then
    inWorld World.closeClient
    setConnected false

/-- That there is a client. -/
def requireClient : Step Session Unit := do
  if !(← get).lifecycle.connected then
    throw (.connectionSetup "not connected; call connect() first")

/-- The command that a container is to run, which must not be empty. -/
def resolveCommand (repository branch : String) : Step Session String := do
  let command ← inWorld
    (Command.resolveLogged repository branch (← get).lifecycle.template none)
  if command = "" then
    log .error "Empty scanner command"
      [("repository_url", .string repository), ("branch", .string branch)]
    throw (.invalidCommand ("command template resolved to an empty command " ++
      "(repository URL, branch and template are all required)"))
  return command

/-- The daemon is asked for a container that runs a command in a shell. -/
def requestContainer (command : String) : Step Session Reply := do
  Step.onDaemonFailure
    (call .createContainer [.string (← container).image.reference]
      [("command", .array [.string "/bin/sh", .string "-c", .string command]),
        ("tty", .bool true)])
    fun _ text => failAs "Container create failed" "create" [] .null text

/-- The identifier of the new container is from now on told in the log, in short. -/
def introduce (cid : Json) : Step Session Json :=
  match shortened? cid with
  | none => throw .wrongKind
  | some short => do
    bindLogger [("cid", short)]
    log .info "Container created"
    return cid

/-- The identifier of the new container is noted, in its record and in the log. -/
def adopt (cid : Json) : Step Session Json := do
  setContainer { ← container with cid := cid }
  advance .created
  introduce cid

/-- A container is made that will run the scanner's command. -/
def create (repository branch : String) : Step Session Json := do
  let command ← resolveCommand repository branch
  setContainer { ← container with command := command }
  let reply ← requestContainer command
  adopt (← Step.ofExcept reply.newCid)

/-- The container is started. -/
def start : Step Session Unit := do
  let moment ← now
  setContainer { ← container with startedAt := some moment }
  Step.onDaemonFailure (discard (call .start [(← container).cid])) fun _ text =>
    endAs "Container start failed" "start" text
  advance .running
  log .info "Container started"

/-- A wait that took too long ends the container's life. -/
def cutOff {α : Type} (bound : Int) : Step Session α := do
  advance .finished
  log .error "Container did not exit in time" [("timeout", .int bound)]
  throw (Failure.waitCutOff (← container).cid (.whole bound))

/-- The daemon is asked to report when the container stops. -/
def requestExit : Step Session Reply := do
  let bound := (← get).lifecycle.settings.waitTimeout
  Step.onDaemonFailure (call .wait [(← container).cid] [("timeout", .int bound)])
    fun fault text =>
      if fault = .readTimeout then cutOff bound else endAs "Container wait failed" "wait" text

/-- The exit code in a report is noted; one that is not zero is logged with its error. -/
def noteExit (members : List (String × Json)) : Step Session Int := do
  let code ← Step.ofExcept (ExitCode.ofMembers members)
  setContainer { ← container with exitCode := some code }
  if code ≠ 0 then
    log .warning "Scanner exited with non-zero status"
      [("exit_code", .int code), ("error", ← Step.ofExcept (ExitCode.errorMessage members))]
  return code

/-- The container has stopped, with the exit code that is returned. -/
def wait : Step Session Int := do
  let reply ← requestExit
  noteExit (← Step.ofExcept reply.named)

/-- The daemon is asked for the container's output; whatever comes of it, the container's life ends. -/
def requestOutput : Step Session Reply :=
  Step.ensuring
    (do
      let cid := (← container).cid
      Step.onDaemonFailure
        (call .logs [cid] [("stdout", .bool true), ("stderr", .bool true)])
        fun _ text => failAs "Reading container output failed" "logs" [] cid text)
    (advance .finished)

/-- The container's output as a text. -/
def readOutput : Step Session String := do
  let moment ← now
  setContainer { ← container with finishedAt := some moment }
  let reply ← requestOutput
  let output := Text.Utf8.decode (← Step.ofExcept reply.output)
  setContainer { ← container with output := output }
  log .info "Container finished" [("exit_code", .ofOption ((← container).exitCode.map .int))]
  return output

/-- The container that an operation is about: the one it names, or the lifecycle's own. -/
def target (cid : Json) : Step Session Json := do
  if cid.isTruthy then return cid else return (← container).cid

/-- A container is stopped. -/
def stop (cid : Json := .null) : Step Session Unit := do
  let cid ← target cid
  Step.onDaemonFailure (discard (call .stop [cid])) fun _ text =>
    failAs "Container stop failed" "stop" [("target", cid)] cid text
  log .info "Container stopped" [("target", cid)]

/-- A container is removed, by force if need be. -/
def remove (cid : Json := .null) (force : Bool := false) : Step Session Unit := do
  let cid ← target cid
  Step.onDaemonFailure (discard (call .removeContainer [cid] [("force", .bool force)]))
    fun _ text => failAs "Container remove failed" "remove" [("target", cid)] cid text
  log .info "Container removed" [("target", cid)]

/-- The lifecycle's container is removed; that the daemon fails to do so changes nothing. -/
def cleanup : Step Session Unit :=
  Step.handling Failure.isOperation (remove .null true) fun _ => pure ()

/-- The images that the daemon has. -/
def listImages : Step Session Reply :=
  Step.onDaemonFailure (call .images) fun _ text =>
    failAs "Image list failed" "image list" [] .null text

/-- An image is removed from the daemon. -/
def removeImage (id : String) : Step Session Unit := do
  Step.onDaemonFailure (discard (call .removeImage [.string id] [("force", .bool true)]))
    fun _ text => failAs "Image remove failed" "image remove" [("image_id", .string id)] .null text
  log .info "Image removed" [("image_id", .string id)]

end ContainerScan.Session
