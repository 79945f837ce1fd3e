import ContainerScan.Analyzer.Basic
import ContainerScan.Lifecycle.Run
import ContainerScan.Record.Keeping

/-! A whole scan: a container is run, its record kept, and its output judged. -/

namespace ContainerScan

/-- What is to be scanned. -/
structure Target where
  repositoryUrl : String
  branch : String
  deriving DecidableEq, Repr

/-- How a scan ended. -/
structure ScanOutcome where
  container : Container
  verdict : Option Verdict
  deriving DecidableEq, Repr

/-- Whether a scan was passed; one without a verdict was not. -/
def ScanOutcome.passed (outcome : ScanOutcome) : Bool :=
  outcome.verdict = some .passed

namespace Scan

/-- Who writes about a scan. -/
def logger (image : Image) (analyzer : Analyzer) (target : Target) : Logger :=
  (Logger.named "scangate.core.runner").bind
    [("image", .string image.reference), ("analyzer", .string analyzer.name),
      ("repository_url", .string target.repositoryUrl), ("branch", .string target.branch)]

/-- The container is run, and the client given back afterwards. -/
def runContainer (target : Target) : Step Session Container :=
  Step.ensuring (Session.run target.repositoryUrl target.branch) Session.close

/-- What the record of a scan tells of it. -/
def origin (template : String) (analyzer : Analyzer) (target : Target) : Record.Origin where
  template := some template
  repositoryUrl := some target.repositoryUrl
  branch := some target.branch
  analyzer := some analyzer.name

/-- The record of a finished container is kept, and then its output judged. -/
def judge (template : String) (analyzer : Analyzer) (target : Target) (container : Container) :
    Step World ScanOutcome := do
  let record ← Keeping.save container (origin template analyzer target)
  let verdict ← analyzer.evaluate Keeping.update record.cid container.output
  World.log (logger container.image analyzer target) .info "Scan complete"
    [("cid", .string (shortId record.cid)), ("exit_code", .ofOption (container.exitCode.map .int)),
      ("result", .text? (verdict.map Verdict.text))]
  return ⟨container, verdict⟩

/-- One scan from beginning to end. -/
def run (analyzer : Analyzer) (target : Target) : Step Session ScanOutcome := do
  let lifecycle := (← get).lifecycle
  let logger := logger lifecycle.container.image analyzer target
  Session.inWorld (World.log logger .info "Scan started")
  let container ← runContainer target
  Session.inWorld (judge lifecycle.template analyzer target container)

end Scan

end ContainerScan
