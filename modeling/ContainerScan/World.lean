import ContainerScan.Daemon.Basic
import ContainerScan.Log.Event
import ContainerScan.Record.Store
import ContainerScan.Settings.Basic
import ContainerScan.Time.Clock

/-! What activities act on: a clock, a daemon, a log and the store of records. -/

namespace ContainerScan

/-- An activity that changes a state and may fail; what it changed stays changed. -/
abbrev Step (σ : Type) := EStateM Failure σ

/-- The surroundings of an activity, with a trace of what it did. -/
structure World where
  /-- The settings of the whole process. -/
  settings : Settings
  /-- How the daemon answers. -/
  script : Script := fun _ _ => none
  clock : Clock := .double
  /-- The calls to the daemon in the order in which they began. -/
  calls : List Call := []
  /-- The events that were logged. -/
  events : List Event := []
  /-- The changes that were asked of records, by the identifier of their container. -/
  updates : List (String × Fields) := []
  store : Store := .empty
  /-- What the first, second and later request to the database ends in, where the database fails. -/
  outages : Nat → Option Failure := fun _ => none
  /-- How many requests the database has had. -/
  requests : Nat := 0
  /-- The lines that were printed. -/
  printed : List String := []

namespace Step

variable {σ α : Type}

/-- An activity followed by another one that runs whatever happens; a failure there wins. -/
def ensuring (act : Step σ α) (last : Step σ Unit) : Step σ α := fun state =>
  match act state with
  | .ok value after =>
    match last after with
    | .ok _ final => .ok value final
    | .error failure final => .error failure final
  | .error failure after =>
    match last after with
    | .ok _ final => .error failure final
    | .error other final => .error other final

/-- An activity whose failures of one kind are handled by another one. -/
def handling (handles : Failure → Bool) (act : Step σ α) (handler : Failure → Step σ α) :
    Step σ α := fun state =>
  match act state with
  | .ok value after => .ok value after
  | .error failure after => if handles failure then handler failure after else .error failure after

/-- An activity with a failure of the daemon handled, given its text. -/
def onDaemonFailure (act : Step σ α) (handler : DaemonFault → String → Step σ α) : Step σ α :=
  fun state =>
    match act state with
    | .ok value after => .ok value after
    | .error (.daemon fault text) after => handler fault text after
    | .error failure after => .error failure after

/-- A computation as an activity that changes nothing. -/
def ofExcept (result : Except Failure α) : Step σ α := fun state =>
  match result with
  | .ok value => .ok value state
  | .error failure => .error failure state

end Step

namespace World

/-- An event written by a logger, unless its level is below the one in force. -/
def log (logger : Logger) (level : Level) (message : String) (fields : Event := []) :
    Step World Unit := fun world =>
  if level.rank < world.settings.logLevel.rank then .ok () world
  else
    let event := redact world.settings.sshKey (logger.event level message fields)
    .ok () { world with events := world.events ++ [event] }

/-- The moment that the clock shows. -/
def now : Step World Timestamp := fun world =>
  .ok world.clock.now world

/-- How many calls of a method there have been. -/
def callCount (world : World) (method : Method) : Nat :=
  world.calls.countP fun call => call.method = method

/-- The outcome of the next call of a method. -/
def nextOutcome (world : World) (method : Method) : Outcome :=
  world.script.outcome method (world.callCount method)

/-- The world after a call has begun and some seconds have passed. -/
def afterCall (world : World) (method : Method) (positional : List Json)
    (named : List (String × Json)) (seconds : Rat) : World :=
  { world with
    calls := world.calls ++ [⟨world.clock.time, method, positional, named⟩]
    clock := world.clock.after seconds }

/-- A call to the daemon, which takes as long as it takes. -/
def call (method : Method) (positional : List Json := []) (named : List (String × Json) := []) :
    Step World Reply := fun world =>
  let outcome := world.nextOutcome method
  let after := world.afterCall method positional named outcome.delay
  match outcome.result with
  | .ok reply => .ok reply after
  | .error failure => .error failure after

/-- A call to the daemon that is given up after some seconds, and then has no reply. -/
def callWithin (limit : Rat) (method : Method) (positional : List Json)
    (named : List (String × Json)) : Step World (Option Reply) := fun world =>
  let outcome := world.nextOutcome method
  if world.clock.isWithin limit outcome.delay then
    let after := world.afterCall method positional named outcome.delay
    match outcome.result with
    | .ok reply => .ok (some reply) after
    | .error failure => .error failure after
  else .ok none (world.afterCall method positional named limit)

/-- Some seconds pass. -/
def sleep (seconds : Rat) : Step World Unit := fun world =>
  .ok () { world with clock := world.clock.after seconds }

/-- A client for the daemon; the call is on record only where the daemon's script names it. -/
def openClient : Step World Unit := fun world =>
  match world.script .connect (world.callCount .connect) with
  | none => .ok () world
  | some _ => (do discard (call .connect)) world

/-- The client is given back, which always succeeds. -/
def closeClient : Step World Unit := fun world =>
  .ok () (world.afterCall .close [] [] 0)

/-- A change of a record is asked for, which leaves a trace. -/
def noteUpdate (cid : String) (fields : Fields) : Step World Unit := fun world =>
  .ok () { world with updates := world.updates ++ [(cid, fields)] }

end World

end ContainerScan
