import ContainerScan.Daemon.Basic

/-! How faults of the daemon are worded. -/

namespace ContainerScan

/-- The answer of a daemon that rejects a request. -/
structure Rejection where
  message : String
  /-- The status of the answer, if there was one. -/
  status : Option Int := none
  url : String := "https://docker.test:2376/v1"
  reason : String := ""
  explanation : String := ""
  deriving Repr

namespace Rejection

/-- The side that an error status blames. -/
def blamed? (status : Int) : Option String :=
  if 400 ≤ status ∧ status < 500 then some "Client"
  else if 500 ≤ status ∧ status < 600 then some "Server"
  else none

/-- A status line for an error status, and the message for any other answer. -/
def headline (rejection : Rejection) : String :=
  match rejection.status.bind fun status => (blamed? status).map fun side => (status, side) with
  | some (status, side) =>
    toString status ++ " " ++ side ++ " Error for " ++ rejection.url ++ ": " ++ rejection.reason
  | none => rejection.message

/-- The text of a rejection, with the explanation of the daemon if it gives one. -/
def text (rejection : Rejection) : String :=
  if rejection.explanation = "" then rejection.headline
  else rejection.headline ++ " (\x22" ++ rejection.explanation ++ "\x22)"

end Rejection

/-- The text of a fault in the parameters of an encrypted connection. -/
def invalidTlsText (message : String) : String :=
  message ++ ". TLS configurations should map the Docker CLI client configurations. " ++
    "See https://docs.docker.com/engine/articles/https/ for API details."

end ContainerScan
