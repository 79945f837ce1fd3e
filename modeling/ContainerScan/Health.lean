import ContainerScan.Availability
import ContainerScan.Connection

/-! Whether the daemon answers at all. -/

namespace ContainerScan.Health

/-- Who writes about the health of the daemon. -/
def logger : Logger := .named "scangate.container.lifecycle"

/-- The daemon is asked for a sign of life. -/
def ping : Step World Unit :=
  discard (World.asOperation logger "Docker health check failed" [] "ping" .null (World.call .ping))

/-- Returns if the daemon answers; the client is given back in any case. -/
def check (settings : Settings) (connector : Connector) : Step World Unit := do
  connector settings
  Step.ensuring ping World.closeClient

end ContainerScan.Health
