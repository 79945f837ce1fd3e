import ContainerScan.Json.Basic
import ContainerScan.Number.Shown
import ContainerScan.Schema.Violation
import ContainerScan.Text.Quoted

/-! Everything that can stop an activity, by its cause, and the wording of each cause. -/

namespace ContainerScan

/-- A number in at most six significant digits; a whole number is first taken to double precision. -/
def Number.general : Number → String
  | .whole value => (Binary64.ofRat value).general
  | .real value => value.general

/-- What the daemon, or the way to it, reports when a call fails. -/
inductive DaemonFault where
  | general
  | rejected
  | notFound
  | imageNotFound
  | invalidVersion
  | invalidRepository
  | invalidTls
  | request
  | connection
  | readTimeout
  | connectTimeout
  deriving DecidableEq, Repr

namespace DaemonFault

/-- Whether a fault lies on the way to the daemon, and not in its answer. -/
def isTransport : DaemonFault → Bool
  | .request | .connection | .readTimeout | .connectTimeout => true
  | _ => false

/-- Whether a fault is the daemon's answer to a request. -/
def isAnswer : DaemonFault → Bool
  | .rejected | .notFound | .imageNotFound => true
  | _ => false

end DaemonFault

/-- Why an activity stopped. -/
inductive Failure where
  /-- A call to the daemon failed. -/
  | daemon (fault : DaemonFault) (text : String)
  /-- A scan failed without a nearer cause. -/
  | scan (text : String)
  | connectionSetup (text : String)
  | imageMissing (reference : String)
  | pullTimeout (reference : String) (bound : Number)
  /-- An operation on images or containers failed at the daemon. -/
  | operation (name message : String) (cid : Json)
  | waitTimeout (cid : Json) (bound : Number)
  | invalidCommand (text : String)
  | unparsable (analyzer message raw : String)
  | persistence (text : String)
  /-- The database refused to keep a record. -/
  | notKept
  /-- The database itself failed. -/
  | database
  | system (text : String)
  /-- A call of the operating system took longer than it may. -/
  | timedOut (text : String)
  | value (text : String)
  | runtime (text : String)
  | missingMember (name : String)
  | overflow (text : String)
  /-- A value is of a kind that cannot be used in its place. -/
  | wrongKind
  /-- A value lacks what is asked of it. -/
  | lacking
  | invalidSettings (violations : List Violation)
  /-- A closing tag in a printed text closes nothing. -/
  | markup
  /-- An activity would never stop. -/
  | endless
  deriving DecidableEq, Repr

namespace Failure

/-- The text that stands for the database's own words. -/
def databaseText : String := "<sql>"

/-- The text of a failure. -/
def text : Failure → String
  | .daemon _ text | .scan text | .connectionSetup text | .invalidCommand text
  | .persistence text | .system text | .timedOut text | .value text | .runtime text
  | .overflow text => text
  | .imageMissing reference => "image " ++ reference ++ " is not loaded"
  | .pullTimeout reference bound =>
    "timeout: image " ++ reference ++ " not available after " ++ bound.general ++ "s"
  | .operation name message _ => name ++ " failed: " ++ message
  | .waitTimeout _ bound => "wait failed: container did not exit within " ++ bound.general ++ "s"
  | .unparsable analyzer message _ => analyzer ++ ": " ++ message
  | .notKept | .database => databaseText
  | .missingMember name => Text.quoted name
  | .wrongKind => "wrong kind of value"
  | .lacking => "value lacks what is asked of it"
  | .invalidSettings _ => "invalid settings"
  | .markup => "closing tag closes nothing"
  | .endless => "never ends"

/-- Whether a failure is one of the library's own kinds. -/
def isOwn : Failure → Bool
  | .scan _ | .connectionSetup _ | .imageMissing _ | .pullTimeout .. | .operation ..
  | .waitTimeout .. | .invalidCommand _ | .unparsable .. | .persistence _ | .notKept => true
  | _ => false

/-- Whether a failure reports that an image is not there yet. -/
def isImageMissing : Failure → Bool
  | .imageMissing _ => true
  | _ => false

/-- Whether a failure reports that a call of the operating system took too long. -/
def isTimedOut : Failure → Bool
  | .timedOut _ => true
  | _ => false

/-- Whether a failure reports that there is no connection to the daemon. -/
def isConnectionSetup : Failure → Bool
  | .connectionSetup _ => true
  | _ => false

/-- Whether a failure reports an operation on images or containers. -/
def isOperation : Failure → Bool
  | .operation .. | .waitTimeout .. => true
  | _ => false

/-- Whether a failure reports that a record could not be written. -/
def isPersistence : Failure → Bool
  | .persistence _ | .notKept => true
  | _ => false

/-- Whether a failure counts as one of the operating system. -/
def isSystem : Failure → Bool
  -- What happens on the way to the daemon, and the daemon's answers, are input and output errors.
  | .daemon fault _ => fault.isTransport || fault.isAnswer
  | .system _ | .timedOut _ => true
  | _ => false

/-- Whether a failure comes from the store of records or from the operating system. -/
def isStorage (failure : Failure) : Bool :=
  failure == .database || failure.isSystem

end Failure

/-- Whether a number can be shown in double precision. -/
def Number.isShowable : Number → Bool
  | .whole value => (Binary64.ofInt? value).isSome
  | .real _ => true

namespace Failure

/-- A failure that shows a bound, or an overflow where the bound is too large for that. -/
def showing (bound : Number) (failure : Failure) : Failure :=
  if bound.isShowable then failure else .overflow "int too large to convert to float"

/-- A wait that was cut off by its bound. -/
def waitCutOff (cid : Json) (bound : Number) : Failure :=
  showing bound (.waitTimeout cid bound)

/-- A pull that was cut off by its bound. -/
def pullCutOff (reference : String) (bound : Number) : Failure :=
  showing bound (.pullTimeout reference bound)

end Failure

end ContainerScan
