import ContainerScan.Analysis.Findings

/-! Writing findings as JSON, with all of their parts. -/

namespace ContainerScan

/-- A list of texts as an array. -/
def encodeTextList (texts : List String) : Json :=
  .array (texts.map .string)

/-- A vulnerability as an object. -/
def Vulnerability.encode (vulnerability : Vulnerability) : Json :=
  .object [("component", .string vulnerability.component),
    ("version", .string vulnerability.version), ("detection", .string vulnerability.detection),
    ("severity", .string vulnerability.severity), ("summary", .string vulnerability.summary),
    ("issue", .string vulnerability.issue),
    ("identifiers", encodeTextList vulnerability.identifiers),
    ("below", .string vulnerability.below), ("info", encodeTextList vulnerability.info)]

/-- An issue as an object. -/
def Issue.encode (issue : Issue) : Json :=
  .object [("file", .string issue.file),
    ("vulnerabilities", .array (issue.vulnerabilities.map Vulnerability.encode))]

/-- The issues of findings as an array. -/
def Findings.encodeIssues (findings : Findings) : Json :=
  .array (findings.issues.map Issue.encode)

end ContainerScan
