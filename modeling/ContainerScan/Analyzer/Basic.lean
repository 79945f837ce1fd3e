import ContainerScan.Analysis.Findings
import ContainerScan.World

/-! Analyzers turn the output of a scanner into a verdict, and keep that in the record of its container. -/

namespace ContainerScan

/-- Why an output cannot be read, and which analyzer says so. -/
structure Unreadable where
  analyzer : String
  message : String
  deriving DecidableEq, Repr

/-- An analyzer for the output of one family of scanners. -/
structure Analyzer where
  name : String
  /-- What a scanner writes when it could not get the repository. -/
  marker : String := "ERROR_CLONING"
  read : String → Except Unreadable Findings

/-- Where changes of records go. -/
abbrev Gateway := String → Fields → Step World Unit

/-- What an analyzer has to say about an output. -/
structure Judgement where
  /-- What is logged before the record is changed. -/
  notes : List (Level × String × Event)
  verdict : Option Verdict
  /-- How the record changes, if it does. -/
  update : Option Fields

namespace Judgement

/-- The judgement on a scanner that could not get the repository. -/
def ofCloneFailure (raw : String) : Judgement where
  notes := [(.warning, "Scanner could not clone the repository", [])]
  verdict := some .failed
  update := some [("output", .text ("Container error: " ++ raw)), ("result", .text "failed")]

/-- The judgement on an output that cannot be read. -/
def ofUnreadable (raw : String) (why : Unreadable) : Judgement where
  notes :=
    [(.error, "Cannot parse scanner output",
      [("error", .string (Failure.unparsable why.analyzer why.message raw).text)]),
    (.error, "Raw scanner output", [("raw_output", .string raw)])]
  verdict := none
  update := none

/-- The judgement on an output without issues, of which only the text is kept. -/
def ofNothing : Judgement where
  notes := [(.info, "No issues found", [])]
  verdict := some .passed
  update := some [("output", .text "No issues found.")]

/-- The judgement on issues. -/
def ofFindings (findings : Findings) : Judgement where
  notes :=
    [(.info, "Analysis complete",
      [("result", .string findings.verdict.text), ("severities", findings.severityCounts)])]
  verdict := some findings.verdict
  update := some [("result", .text findings.verdict.text)]

end Judgement

namespace Analyzer

/-- What an analyzer has to say about an output; the marker decides before anything is read. -/
def judge (analyzer : Analyzer) (raw : String) : Judgement :=
  if Text.contains raw analyzer.marker then .ofCloneFailure raw
  else match analyzer.read raw with
    | .error why => .ofUnreadable raw why
    | .ok findings => if findings.isEmpty then .ofNothing else .ofFindings findings

/-- Who writes about an evaluation. -/
def logger (analyzer : Analyzer) (cid : String) : Logger :=
  (Logger.named "scangate.analyzers.base").bind
    [("analyzer", .string analyzer.name), ("cid", .string (shortId cid))]

/-- Notes are logged in order. -/
def logNotes (logger : Logger) : List (Level × String × Event) → Step World Unit
  | [] => pure ()
  | (level, message, fields) :: rest => do
    World.log logger level message fields
    logNotes logger rest

/-- A record is changed; that it could not be written is only logged. -/
def persist (gateway : Gateway) (logger : Logger) (cid : String) (fields : Fields) :
    Step World Unit :=
  Step.handling Failure.isPersistence (gateway cid fields) fun failure =>
    World.log logger .error "Error updating container record" [("error", .string failure.text)]

/-- What a judgement changes of a record, if anything, is written to it. -/
def write (gateway : Gateway) (logger : Logger) (cid : String) : Option Fields → Step World Unit
  | some fields => persist gateway logger cid fields
  | none => pure ()

/-- An output is judged and the record of its container changed; an unreadable one has no verdict. -/
def evaluate (analyzer : Analyzer) (gateway : Gateway) (cid raw : String) :
    Step World (Option Verdict) := do
  let judgement := analyzer.judge raw
  let logger := analyzer.logger cid
  logNotes logger judgement.notes
  write gateway logger cid judgement.update
  return judgement.verdict

end Analyzer

end ContainerScan
