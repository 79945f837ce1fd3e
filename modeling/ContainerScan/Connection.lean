import ContainerScan.Daemon.Wording
import ContainerScan.World

/-! Connections to the daemon, which are always encrypted and verified where the settings ask for it. -/

namespace ContainerScan

/-- A way to open a client with some settings. -/
abbrev Connector := Settings → Step World Unit

/-- How a connection is encrypted. -/
structure Encryption where
  /-- Whether the certificate of the daemon is verified. -/
  verify : Bool
  /-- The file with the authority for the daemon's certificate. -/
  authority : Option String := none
  /-- The files with the client's own certificate and key. -/
  identity : Option (String × String) := none
  deriving DecidableEq, Repr

/-- What a client is opened with. -/
structure ClientOptions where
  url : String
  version : String
  timeout : Int
  encryption : Encryption
  deriving DecidableEq, Repr

namespace Connection

/-- A file in a directory. -/
def inDirectory (directory file : String) : String :=
  if directory = "" ∨ directory.toList.getLast? = some '/' then directory ++ file
  else directory ++ "/" ++ file

/-- The variables that describe the daemon to programs which read them from an environment. -/
def environment (settings : Settings) : List (String × String) :=
  [("DOCKER_HOST", settings.daemonUrl), ("DOCKER_CERT_PATH", settings.certificates),
    ("DOCKER_TLS_VERIFY", if settings.verifiesTls then "1" else "")]

/-- The directory with the certificates, which has a usual place. -/
def directory (settings : Settings) : String :=
  if settings.certificates = "" then "~/.docker" else settings.certificates

/-- Encryption with the certificates of a directory, or what is wrong with them. -/
def certified (settings : Settings) (present : String → Bool) : Except String Encryption :=
  let file := inDirectory (directory settings)
  if !(present (file "cert.pem") && present (file "key.pem")) then
    .error "Path to a certificate and key files must be provided through the client_cert param"
  else if settings.verifiesTls && !present (file "ca.pem") then
    .error "Invalid CA certificate provided for \x60ca_cert\x60."
  else
    .ok ⟨settings.verifiesTls, some (file "ca.pem"), some (file "cert.pem", file "key.pem")⟩

/-- How the connection is encrypted, given which files are present. -/
def encryption (settings : Settings) (present : String → Bool) : Except String Encryption :=
  -- Without a directory and without verification no certificate is needed.
  if settings.certificates = "" ∧ !settings.verifiesTls then .ok { verify := false }
  else certified settings present

/-- What a client for the daemon is opened with. -/
def options (settings : Settings) (present : String → Bool) : Except String ClientOptions :=
  (encryption settings present).map fun encryption =>
    { url := settings.daemonUrl, version := settings.apiVersion,
      timeout := settings.requestTimeout, encryption := encryption }

/-- Who writes about connections. -/
def logger : Logger := .named "scangate.container.client"

/-- A connection that cannot be set up is logged and given up. -/
def giveUp (message : String) (fields : Event) (reason : String) : Step World Unit := do
  World.log logger .error message fields
  throw (.connectionSetup reason)

/-- A client is opened for a daemon whose connection is encrypted properly. -/
def openAt (settings : Settings) : Step World Unit := do
  -- Faults on the way to the daemon are not faults of its client, and pass through.
  Step.onDaemonFailure World.openClient fun fault text =>
    if fault.isTransport then throw (.daemon fault text)
    else giveUp "Cannot create Docker client"
      [("host", .string settings.daemonUrl), ("error", .string text)]
      ("cannot connect to " ++ settings.daemonUrl ++ ": " ++ text)
  World.log logger .debug "Docker client ready"
    [("host", .string settings.daemonUrl), ("tls", .bool true)]

/-- A client is opened with the certificates that are present. -/
def secured (present : String → Bool) : Connector := fun settings =>
  match options settings present with
  | .ok _ => openAt settings
  | .error message =>
    let text := invalidTlsText message
    giveUp "Invalid Docker TLS configuration"
      [("cert_path", .string settings.certificates), ("error", .string text)]
      ("invalid TLS configuration: " ++ text)

/-- A client is opened as it is, with nothing asked of its connection. -/
def direct : Connector := fun _ => World.openClient

end Connection

end ContainerScan
