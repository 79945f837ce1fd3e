/-! The levels of log events, in rising order of weight. -/

namespace ContainerScan

/-- How weighty a log event is. -/
inductive Level where
  | debug
  | info
  | warning
  | error
  | critical
  deriving DecidableEq, Repr

namespace Level

/-- The word for a level. -/
def text : Level → String
  | .debug => "debug"
  | .info => "info"
  | .warning => "warning"
  | .error => "error"
  | .critical => "critical"

/-- The word for a level in capitals, as settings give it. -/
def capitals : Level → String
  | .debug => "DEBUG"
  | .info => "INFO"
  | .warning => "WARNING"
  | .error => "ERROR"
  | .critical => "CRITICAL"

/-- The place of a level in the order. -/
def rank : Level → Nat
  | .debug => 0
  | .info => 1
  | .warning => 2
  | .error => 3
  | .critical => 4

/-- All levels in rising order. -/
def all : List Level := [.debug, .info, .warning, .error, .critical]

/-- The level of a word in small letters. -/
def ofText? (word : String) : Option Level :=
  all.find? fun level => level.text = word

/-- The level that a word asks for, which may also be one of the short or older words. -/
def ofWord? (word : String) : Option Level :=
  if word = "warn" then some warning
  else if word = "exception" then some error
  else if word = "fatal" then some critical
  else ofText? word

/-- The level of a word in capitals. -/
def ofCapitals? (word : String) : Option Level :=
  all.find? fun level => level.capitals = word

end Level

end ContainerScan
