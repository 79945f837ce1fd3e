import ContainerScan.Analyzer.Basic

/-! New kinds of analyzers, which must have a name and a way to read outputs. -/

namespace ContainerScan

/-- What a new kind of analyzer brings along, and which kind it builds on. -/
structure AnalyzerDefinition where
  name : Option String
  reads : Bool
  base : Option Analyzer

/-- What a new kind of analyzer is good for. -/
inductive AnalyzerStanding where
  /-- It cannot be defined. -/
  | refused
  /-- It can be defined but not used. -/
  | incomplete
  | usable (name : String)
  deriving DecidableEq, Repr

/-- A kind without a name is refused, and one that cannot read outputs is incomplete. -/
def AnalyzerDefinition.standing (definition : AnalyzerDefinition) : AnalyzerStanding :=
  -- What a kind lacks it takes from the kind it builds on.
  match definition.name.orElse fun _ => definition.base.map Analyzer.name with
  | none => .refused
  | some name => if definition.reads || definition.base.isSome then .usable name else .incomplete

end ContainerScan
