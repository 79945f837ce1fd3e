import ContainerScan.Report.Basic

/-! Writing a report as JSON, under the names by which it is read. -/

namespace ContainerScan.Report

/-- A list of texts. -/
def encodeTexts (texts : List String) : Json :=
  .array (texts.map .string)

/-- The identifiers of a weakness as an object. -/
def Identifiers.encode (identifiers : Identifiers) : Json :=
  .object [("issue", .string identifiers.issue), ("summary", .string identifiers.summary),
    ("CVE", encodeTexts identifiers.cve)]

/-- A weakness as an object. -/
def Weakness.encode (weakness : Weakness) : Json :=
  .object [("info", encodeTexts weakness.info), ("below", .string weakness.below),
    ("severity", .string weakness.severity), ("identifiers", weakness.identifiers.encode)]

/-- A library as an object. -/
def Library.encode (library : Library) : Json :=
  .object [("version", .string library.version), ("component", .string library.component),
    ("detection", .string library.detection),
    ("vulnerabilities", .array (library.weaknesses.map Weakness.encode))]

/-- A file as an object. -/
def ScannedFile.encode (scanned : ScannedFile) : Json :=
  .object [("file", .string scanned.file),
    ("results", .array (scanned.libraries.map Library.encode))]

/-- A report as an object. -/
def Document.encode (document : Document) : Json :=
  .object [("data", .array (document.files.map ScannedFile.encode)),
    ("messages", document.messages), ("errors", document.errors)]

end ContainerScan.Report
