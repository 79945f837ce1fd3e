import ContainerScan.Json.Basic

/-! The report of a scanner for JavaScript libraries: files, the libraries in them, their weaknesses. -/

namespace ContainerScan.Report

/-- How a weakness is known elsewhere. -/
structure Identifiers where
  issue : String
  summary : String
  cve : List String
  deriving DecidableEq, Repr

/-- The identifiers of a weakness that gives none. -/
def Identifiers.empty : Identifiers := ⟨"", "", []⟩

/-- A weakness of a library. -/
structure Weakness where
  info : List String
  below : String
  severity : String
  identifiers : Identifiers
  deriving DecidableEq, Repr

/-- A library found in a file. -/
structure Library where
  version : String
  component : String
  detection : String
  weaknesses : List Weakness
  deriving DecidableEq, Repr

/-- A file with the libraries found in it. -/
structure ScannedFile where
  file : String
  libraries : List Library
  deriving DecidableEq, Repr

/-- A whole report, of which messages and errors are kept as they are. -/
structure Document where
  files : List ScannedFile
  messages : Json
  errors : Json
  deriving Repr

end ContainerScan.Report
