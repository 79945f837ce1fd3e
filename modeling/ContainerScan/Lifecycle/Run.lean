import ContainerScan.Availability
import ContainerScan.Lifecycle.Operations

/-! A whole run of a scanner: its image is made available, and its container always removed. -/

namespace ContainerScan.Session

/-- The image of the lifecycle is made available. -/
def ensureImage : Step Session Unit := do
  let lifecycle := (← get).lifecycle
  inWorld (Availability.of lifecycle.container.image lifecycle.settings lifecycle.logger).ensure

/-- The container is started, has stopped, and its output is read. -/
def execute : Step Session Unit := do
  start
  discard wait
  discard readOutput

/-- The scanner is run; a container that was made is removed whatever happens to it. -/
def run (repository branch : String) : Step Session Container := do
  connect
  ensureImage
  discard (create repository branch)
  Step.ensuring execute cleanup
  container

end ContainerScan.Session
