import ContainerScan.Text.Letters

/-! The severity scale, and the reading of the words that scanners use for it. -/

namespace ContainerScan

/-- How grave a vulnerability is. -/
inductive Severity where
  | low
  | medium
  | high
  deriving DecidableEq, Repr

namespace Severity

/-- The word for a severity. -/
def text : Severity → String
  | .low => "low"
  | .medium => "medium"
  | .high => "high"

/-- The place of a severity on the scale. -/
def rank : Severity → Nat
  | .low => 0
  | .medium => 1
  | .high => 2

/-- All severities in rising order. -/
def all : List Severity := [.low, .medium, .high]

/-- The lowest severity that fails a scan. -/
def threshold : Severity := .medium

/-- Whether a severity fails a scan. -/
def isFailing (severity : Severity) : Bool :=
  threshold.rank ≤ severity.rank

/-- The severity that a word names, in any case of its letters and with any blanks around it. -/
def ofText? (word : String) : Option Severity :=
  let plain := Text.lowercase (Text.trim word.toList)
  all.find? fun severity => severity.text.toList = plain

end Severity

end ContainerScan
