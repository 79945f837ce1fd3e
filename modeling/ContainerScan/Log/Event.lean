import ContainerScan.Json.Basic
import ContainerScan.Log.Level
import ContainerScan.Text.Substitution

/-! Log events, and the masking of the private key in them. -/

namespace ContainerScan

/-- A log event: named values, of which a later one of the same name counts. -/
abbrev Event := List (String × Json)

/-- What is logged in place of the private key. -/
def redaction : String := "[redacted]"

/-- A value without the secret; only a text is searched, not what lies inside other values. -/
def redactValue (secret : String) : Json → Json
  | .string text =>
    if Text.contains text secret then .string (Text.replace secret redaction text) else .string text
  | value => value

/-- An event without the secret; an empty secret hides nothing. -/
def redact (secret : String) (event : Event) : Event :=
  if secret = "" then event
  else event.map fun member => (member.1, redactValue secret member.2)

/-- Who writes events: a name, and the values that go into each of them. -/
structure Logger where
  name : String
  bound : Event
  deriving Repr

namespace Logger

/-- A logger without bound values. -/
def named (name : String) : Logger := ⟨name, []⟩

/-- A logger with further bound values. -/
def bind (logger : Logger) (fields : Event) : Logger :=
  { logger with bound := Json.merge logger.bound fields }

/-- The names of values that steer a logger, or that stand for the time of an event. -/
def withheld : List String := ["exc_info", "stack_info", "timestamp"]

/-- The event that a logger makes of a message and its values. -/
def event (logger : Logger) (level : Level) (message : String) (fields : Event) : Event :=
  -- The values of the call come before the bound ones, and the message before both.
  let values := (Json.merge logger.bound fields).filter fun member => !withheld.contains member.1
  Json.merge values
    [("event", .string message), ("level", .string level.text), ("logger", .string logger.name)]

end Logger

end ContainerScan
