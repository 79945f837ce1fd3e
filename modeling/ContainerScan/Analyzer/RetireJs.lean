import ContainerScan.Analyzer.Basic
import ContainerScan.Report.Decoding

/-! The analyzer for reports on JavaScript libraries with known vulnerabilities. -/

namespace ContainerScan

namespace Report

/-- A weakness of a library as a vulnerability. -/
def Weakness.vulnerability (library : Library) (weakness : Weakness) : Vulnerability where
  component := library.component
  version := library.version
  detection := library.detection
  severity := weakness.severity
  summary := weakness.identifiers.summary
  issue := weakness.identifiers.issue
  identifiers := weakness.identifiers.cve
  below := weakness.below
  info := weakness.info

/-- The vulnerabilities of a library in order. -/
def Library.vulnerabilities (library : Library) : List Vulnerability :=
  library.weaknesses.map (Weakness.vulnerability library)

/-- A file as an issue, with the vulnerabilities of all its libraries. -/
def ScannedFile.issue (scanned : ScannedFile) : Issue where
  file := scanned.file
  vulnerabilities := scanned.libraries.flatMap Library.vulnerabilities

/-- The findings of a report: one issue for each file. -/
def Document.findings (document : Document) : Findings :=
  ⟨document.files.map ScannedFile.issue⟩

end Report

namespace RetireJs

/-- The name of the analyzer. -/
def name : String := "retirejs"

/-- How many rules a report breaks, and the wording of the first of them. -/
def complaint (violations : List Violation) : String :=
  let first := (violations.head?.map fun found => found.breach.message).getD ""
  toString violations.length ++ " validation error(s): " ++ first

/-- The findings of an output that is a report. -/
def read (raw : String) : Except Unreadable Findings :=
  match Report.ofText raw with
  | .ok document => .ok document.findings
  | .error violations => .error ⟨name, complaint violations⟩

/-- The analyzer. -/
def analyzer : Analyzer where
  name := name
  read := read

end RetireJs

end ContainerScan
