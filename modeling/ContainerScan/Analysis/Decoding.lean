import ContainerScan.Analysis.Findings

/-! Findings from values given directly: texts and lists stand for themselves alone. -/

namespace ContainerScan

open Checked

/-- A list of texts. -/
def decodeTexts : Json → Checked (List String) :=
  list .notList text

/-- A vulnerability from the members of an object. -/
def Vulnerability.ofMembers (members : List (String × Json)) : Checked Vulnerability :=
  apply (apply (apply (apply (apply (apply (apply (apply (apply (.ok Vulnerability.mk)
    (member "component" "component" "" text members))
    (member "version" "version" "" text members))
    (member "detection" "detection" "" text members))
    (member "severity" "severity" "" text members))
    (member "summary" "summary" "" text members))
    (member "issue" "issue" "" text members))
    (member "identifiers" "identifiers" [] decodeTexts members))
    (member "below" "below" "" text members))
    (member "info" "info" [] decodeTexts members)

/-- An issue from the members of an object. -/
def Issue.ofMembers (members : List (String × Json)) : Checked Issue :=
  apply (apply (.ok Issue.mk)
    (member "file" "file" "" text members))
    (member "vulnerabilities" "vulnerabilities" []
      (list .notList (model (.notInstance "Vulnerability") Vulnerability.ofMembers)) members)

/-- Findings from a value. -/
def Findings.decode : Json → Checked Findings :=
  model (.notInstance "AnalysisOutput") fun members =>
    apply (.ok Findings.mk)
      (member "issues" "issues" [] (list .notList (model (.notInstance "Issue") Issue.ofMembers))
        members)

/-- Findings cannot be changed: setting a member of them, or of a part, is refused. -/
def Findings.assign (name : String) : Checked Findings :=
  .error [⟨[.member name], .frozen⟩]

end ContainerScan
