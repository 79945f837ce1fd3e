import ContainerScan.Text.Width

/-! Parts of a text that are shown as one: a character and all that changes the look of it. -/

namespace ContainerScan.Text

/-- Characters that are shown as one, and the columns that they take up. -/
structure Cluster where
  characters : List Char
  columns : Nat
  deriving DecidableEq, Repr

namespace Cluster

/-- A cluster with more characters and columns. -/
def extended (cluster : Cluster) (characters : List Char) (columns : Nat) : Cluster :=
  ⟨cluster.characters ++ characters, cluster.columns + columns⟩

/-- The clusters of a text behind an open one, given its latest character that may still widen. -/
def following : Cluster → Option Char → List Char → List Cluster
  | cluster, _, [] => [cluster]
  | cluster, latest, [c] =>
    if c = pictureSelector then [cluster.extended [c] (if latest.any isWidened then 1 else 0)]
    else if c = joiner ∨ columnsOf c = 0 then [cluster.extended [c] 0]
    else [cluster, ⟨[c], columnsOf c⟩]
  | cluster, latest, c :: next :: rest =>
    if c = joiner then following (cluster.extended [c, next] 0) latest rest
    else if c = pictureSelector then
      -- A character widens once.
      if latest.any isWidened then following (cluster.extended [c] 1) none (next :: rest)
      else following (cluster.extended [c] 0) latest (next :: rest)
    else if columnsOf c = 0 then following (cluster.extended [c] 0) latest (next :: rest)
    else cluster :: following ⟨[c], columnsOf c⟩ (some c) (next :: rest)

/-- The clusters of a text. -/
def ofText : List Char → List Cluster
  | [] => []
  | c :: rest =>
    let own := if c = joiner ∨ c = pictureSelector then 0 else columnsOf c
    following ⟨[c], own⟩ (if own = 0 then none else some c) rest

end Cluster

end ContainerScan.Text
