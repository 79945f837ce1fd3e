import ContainerScan.Connection
import ContainerScan.Container.Basic

/-! The state of one container's life: its record, its client, and the surroundings. -/

namespace ContainerScan

/-- What drives one container from its making to its removal. -/
structure Lifecycle where
  settings : Settings
  template : String
  connector : Connector
  container : Container
  connected : Bool
  logger : Logger

namespace Lifecycle

/-- The lifecycle of an image that has not been run yet. -/
def fresh (image : Image) (template : String) (settings : Settings) (connector : Connector) :
    Lifecycle where
  settings := settings
  template := template
  connector := connector
  container := { image := image }
  connected := false
  logger := (Logger.named "scangate.container.lifecycle").bind
    [("image", .string image.reference)]

end Lifecycle

/-- A lifecycle in its surroundings. -/
structure Session where
  lifecycle : Lifecycle
  world : World

namespace Session

/-- An activity of the surroundings alone. -/
def inWorld {α : Type} (act : Step World α) : Step Session α := fun session =>
  match act session.world with
  | .ok value world => .ok value { session with world := world }
  | .error failure world => .error failure { session with world := world }

/-- The container as it is now. -/
def container : Step Session Container := fun session =>
  .ok session.lifecycle.container session

/-- The container changes. -/
def setContainer (container : Container) : Step Session Unit := fun session =>
  .ok () { session with lifecycle := { session.lifecycle with container := container } }

/-- The client is there or not. -/
def setConnected (connected : Bool) : Step Session Unit := fun session =>
  .ok () { session with lifecycle := { session.lifecycle with connected := connected } }

/-- Whoever writes about the lifecycle gets further values for each event. -/
def bindLogger (fields : Event) : Step Session Unit := fun session =>
  .ok () { session with
    lifecycle := { session.lifecycle with logger := session.lifecycle.logger.bind fields } }

/-- An event about the lifecycle. -/
def log (level : Level) (message : String) (fields : Event := []) : Step Session Unit := do
  inWorld (World.log (← get).lifecycle.logger level message fields)

/-- A call to the daemon, for which there must be a client. -/
def call (method : Method) (positional : List Json := []) (named : List (String × Json) := []) :
    Step Session Reply := do
  if (← get).lifecycle.connected then inWorld (World.call method positional named)
  else throw (.connectionSetup "not connected; call connect() first")

/-- The container comes to a later status. -/
def advance (status : Status) : Step Session Unit := do
  setContainer (← Step.ofExcept ((← container).advance status))

/-- The moment that the clock shows. -/
def now : Step Session Timestamp :=
  inWorld World.now

end Session

end ContainerScan
