import ContainerScan.Json.Reader
import ContainerScan.Report.Basic
import ContainerScan.Schema.Checked

/-! Reading a report from JSON: absent and null parts are empty, and unknown names are passed over. -/

namespace ContainerScan.Report

open Checked

/-- The identifiers of a weakness from the members of an object. -/
def identifiersOf (members : List (String × Json)) : Checked Identifiers :=
  apply (apply (apply (.ok Identifiers.mk)
    (member "issue" "issue" "" textOrNull members))
    (member "summary" "summary" "" textOrNull members))
    (member "CVE" "cve" [] (arrayOrNull text) members)

/-- The identifiers of a weakness, where null stands for none. -/
def decodeIdentifiers : Json → Checked Identifiers
  | .null => .ok .empty
  | value => model .notObject identifiersOf value

/-- A weakness from the members of an object. -/
def weaknessOf (members : List (String × Json)) : Checked Weakness :=
  apply (apply (apply (apply (.ok Weakness.mk)
    (member "info" "info" [] (arrayOrNull text) members))
    (member "below" "below" "" textOrNull members))
    (member "severity" "severity" "" textOrNull members))
    (member "identifiers" "identifiers" .empty decodeIdentifiers members)

/-- A library from the members of an object. -/
def libraryOf (members : List (String × Json)) : Checked Library :=
  apply (apply (apply (apply (.ok Library.mk)
    (member "version" "version" "" textOrNull members))
    (member "component" "component" "" textOrNull members))
    (member "detection" "detection" "" textOrNull members))
    (member "vulnerabilities" "vulnerabilities" [] (arrayOrNull (model .notObject weaknessOf))
      members)

/-- A file from the members of an object. -/
def scannedFileOf (members : List (String × Json)) : Checked ScannedFile :=
  apply (apply (.ok ScannedFile.mk)
    (member "file" "file" "" textOrNull members))
    (member "results" "results" [] (arrayOrNull (model .notObject libraryOf)) members)

/-- A report from the members of an object. -/
def documentOf (members : List (String × Json)) : Checked Document :=
  apply (apply (apply (.ok Document.mk)
    (member "data" "issues" [] (arrayOrNull (model .notObject scannedFileOf)) members))
    (member "messages" "messages" .null .ok members))
    (member "errors" "errors" .null .ok members)

/-- A report from a JSON value. -/
def decode : Json → Checked Document :=
  model .notObject documentOf

/-- A report from its text. -/
def ofText (text : String) : Checked Document :=
  match Json.read text with
  | .ok value => decode value
  | .error message => breach (.notJson message)

end ContainerScan.Report
