import ContainerScan.Text.Cluster
import ContainerScan.Text.Parts

/-! Texts as lines of a limited width, which end between words wherever that is possible. -/

namespace ContainerScan.Display

open Text

/-- What becomes of a word that is too long for any line. -/
inductive Overflow where
  /-- It goes on in the next line. -/
  | broken
  /-- Its end is left out. -/
  | clipped
  deriving DecidableEq, Repr

/-- The distance between the columns to which a tabulator leads. -/
def tabWidth : Nat := 8

/-- Parts of a line from a column on, with blanks in place of each tabulator between them. -/
def spread : Nat → List (List Char) → List Char
  | _, [] => []
  | _, [part] => part
  | column, part :: rest =>
    -- At least one blank stands for a tabulator.
    let reached := column + columns (part ++ [' '])
    let next := (reached + tabWidth - 1) / tabWidth * tabWidth
    part ++ ' ' :: List.replicate (next - reached) ' ' ++ spread next rest

/-- A line with blanks in place of each tabulator. -/
def withoutTabs (line : List Char) : List Char :=
  spread 0 (splitOn '\t' line)

/-- A line with blanks behind it, up to a width. -/
def padded (width : Nat) (line : List Char) : List Char :=
  line ++ List.replicate (width - columns line) ' '

/-- The front of a line that is wider than a width; a blank stands where a wide character is cut. -/
def fitting : Nat → List Cluster → List Char
  | _, [] => []
  | width, cluster :: rest =>
    if cluster.columns ≤ width then
      cluster.characters ++ fitting (width - cluster.columns) rest
    else List.replicate width ' '

/-- The front of a line that is wider than a width. -/
def cropped (width : Nat) (line : List Char) : List Char :=
  fitting width (Cluster.ofText line)

/-- A line of a limited width; where its end is left out, an ellipsis stands for it. -/
def Overflow.limited (overflow : Overflow) (width : Nat) (line : List Char) : List Char :=
  if columns line ≤ width then line
  else match overflow with
    | .broken => cropped width line
    | .clipped => cropped (width - 1) line ++ ['…']

/-- Parts of a text that each end where a blank is followed by something else. -/
def runs (text : List Char) : List (List Char) :=
  text.splitBy fun first second => !(isBlank first && !isBlank second)

/-- The words of a line with the blanks after them; the first one has those before it too. -/
def words (line : List Char) : List (List Char) :=
  match runs line with
  | first :: second :: rest =>
    if first.all isBlank then (first ++ second) :: rest else first :: second :: rest
  | other => other

/-- A word in parts of a limited width, given the part that is being filled and its width. -/
def chopFrom (width : Nat) : List Char → Nat → List Cluster → List (List Char)
  | part, _, [] => [part]
  | part, used, cluster :: rest =>
    if width < used + cluster.columns then
      part :: chopFrom width cluster.characters cluster.columns rest
    else chopFrom width (part ++ cluster.characters) (used + cluster.columns) rest

/-- A word that fits into no line, in parts that are lines of their own. -/
def Overflow.parts (overflow : Overflow) (width : Nat) (word : List Char) : List (List Char) :=
  match overflow with
  | .broken => chopFrom width [] 0 (Cluster.ofText word)
  | .clipped => [word]

/-- The lines of words, given the line that is being filled and its width. -/
def fill (overflow : Overflow) (width : Nat) : List Char → Nat → List (List Char) →
    List (List Char)
  | line, _, [] => [line]
  | line, used, word :: rest =>
    let size := columns (trimEndOf isBlank word)
    if used + size ≤ width then fill overflow width (line ++ word) (used + columns word) rest
    else
      -- A new line begins; a word that is too long even for that may need several.
      let parts := if width < size then overflow.parts width word else [word]
      let last := parts.getLast?.getD []
      let before := if line.isEmpty then [] else [line]
      before ++ parts.dropLast ++ fill overflow width last (columns last) rest

/-- A line without those blanks at its end that stand beyond a number of characters. -/
def withoutExcess (count : Nat) (line : List Char) : List Char :=
  let blanks := line.length - (trimEndOf isBlank line).length
  line.take (line.length - min blanks (line.length - count))

/-- A line as it is set: at its end blanks give way before anything else. -/
def Overflow.set (overflow : Overflow) (width : Nat) (line : List Char) : List Char :=
  overflow.limited width (withoutExcess width line)

/-- A line in lines of a limited width. -/
def wrapLine (overflow : Overflow) (width : Nat) (line : List Char) : List (List Char) :=
  (fill overflow width [] 0 (words (withoutTabs line))).map (overflow.set width)

/-- A text in lines of a limited width. -/
def wrap (overflow : Overflow) (width : Nat) (text : List Char) : List (List Char) :=
  (splitOn '\n' text).flatMap (wrapLine overflow width)

/-- The lines of a text, each of which is cut at a width. -/
def cut (overflow : Overflow) (width : Nat) (text : List Char) : List (List Char) :=
  (splitOn '\n' text).map fun line => overflow.set width (withoutTabs line)

end ContainerScan.Display
