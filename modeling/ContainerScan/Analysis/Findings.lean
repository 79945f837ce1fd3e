import ContainerScan.Analysis.Severity
import ContainerScan.Schema.Checked

/-! What an analyzer makes of a scanner's output: issues with vulnerabilities, and a verdict on them. -/

namespace ContainerScan

/-- Whether a scan passes. -/
inductive Verdict where
  | passed
  | failed
  deriving DecidableEq, Repr

/-- The word for a verdict. -/
def Verdict.text : Verdict → String
  | .passed => "passed"
  | .failed => "failed"

/-- A vulnerability, with the severity as the scanner reported it. -/
structure Vulnerability where
  component : String := ""
  version : String := ""
  detection : String := ""
  severity : String := ""
  summary : String := ""
  issue : String := ""
  identifiers : List String := []
  below : String := ""
  info : List String := []
  deriving DecidableEq, Repr

/-- The severity of a vulnerability, if its word is known. -/
def Vulnerability.level (vulnerability : Vulnerability) : Option Severity :=
  Severity.ofText? vulnerability.severity

/-- Whether a vulnerability fails a scan; an unknown severity never does. -/
def Vulnerability.isFailing (vulnerability : Vulnerability) : Bool :=
  vulnerability.level.any Severity.isFailing

/-- A scanned file or component with the vulnerabilities found in it. -/
structure Issue where
  file : String := ""
  vulnerabilities : List Vulnerability := []
  deriving DecidableEq, Repr

/-- The findings of one scan. -/
structure Findings where
  issues : List Issue := []
  deriving DecidableEq, Repr

namespace Findings

/-- Whether a scan reports anything at all. -/
def isEmpty (findings : Findings) : Bool :=
  findings.issues.isEmpty

/-- The vulnerabilities of all issues in order. -/
def vulnerabilities (findings : Findings) : List Vulnerability :=
  findings.issues.flatMap Issue.vulnerabilities

/-- How many vulnerabilities have a severity. -/
def count (findings : Findings) (severity : Severity) : Nat :=
  findings.vulnerabilities.countP fun vulnerability => vulnerability.level = some severity

/-- A scan fails as soon as one vulnerability does. -/
def verdict (findings : Findings) : Verdict :=
  if findings.vulnerabilities.any Vulnerability.isFailing then .failed else .passed

/-- The count of each severity. -/
def severityCounts (findings : Findings) : Json :=
  .object (Severity.all.map fun severity => (severity.text, .nat (findings.count severity)))

end Findings

end ContainerScan
