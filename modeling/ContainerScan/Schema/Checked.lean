import ContainerScan.Schema.Violation

/-! Checking values against a schema part by part, where all violations are kept in order. -/

namespace ContainerScan

/-- The outcome of checking a value: what it stands for, or its violations. -/
abbrev Checked (α : Type) := Except (List Violation) α

namespace Checked

/-- A single violation at the value itself. -/
def breach {α : Type} (breach : Breach) : Checked α :=
  .error [⟨[], breach⟩]

/-- Two checks side by side: both values, or the violations of both. -/
def both {α β : Type} : Checked α → Checked β → Checked (α × β)
  | .ok first, .ok second => .ok (first, second)
  | .ok _, .error violations => .error violations
  | .error violations, .ok _ => .error violations
  | .error first, .error second => .error (first ++ second)

/-- A further check beside those whose values a function awaits. -/
def apply {α β : Type} (build : Checked (α → β)) (part : Checked α) : Checked β :=
  (both build part).map fun pair => pair.1 pair.2

/-- A check whose violations are seen from one step further out. -/
def within {α : Type} (place : Place) : Checked α → Checked α
  | .ok value => .ok value
  | .error violations => .error (violations.map fun found => { found with path := place :: found.path })

/-- The checks of all items, from an index on. -/
def items {α : Type} (check : Json → Checked α) : Nat → List Json → Checked (List α)
  | _, [] => .ok []
  | index, item :: rest =>
    (both (within (.item index) (check item)) (items check (index + 1) rest)).map fun pair =>
      pair.1 :: pair.2

/-- A member by the first of its names that is present, or a default. -/
def member {α : Type} (name other : String) (absent : α) (check : Json → Checked α)
    (members : List (String × Json)) : Checked α :=
  -- Violations always go by the first name.
  match (Json.lookup name members).orElse fun _ => Json.lookup other members with
  | none => .ok absent
  | some value => within (.member name) (check value)

/-- A text. -/
def text : Json → Checked String
  | .string text => .ok text
  | _ => breach .notText

/-- A text, where null stands for the empty one. -/
def textOrNull : Json → Checked String
  | .null => .ok ""
  | value => text value

/-- A list of checked items, with the breach of a value that is none. -/
def list {α : Type} (otherwise : Breach) (check : Json → Checked α) : Json → Checked (List α)
  | .array values => items check 0 values
  | _ => breach otherwise

/-- An array of checked items, where null stands for the empty one. -/
def arrayOrNull {α : Type} (check : Json → Checked α) : Json → Checked (List α)
  | .null => .ok []
  | value => list .notArray check value

/-- The checked members of an object, with the breach of a value that is none. -/
def model {α : Type} (otherwise : Breach) (check : List (String × Json) → Checked α) :
    Json → Checked α
  | .object members => check members
  | _ => breach otherwise

end Checked

end ContainerScan
