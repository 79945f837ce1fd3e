import ContainerScan.Display.ImageList
import ContainerScan.Display.Table
import ContainerScan.World

/-! What is printed: blocks of lines on a screen of a fixed width. -/

namespace ContainerScan

namespace Display

open Text

/-- The columns of the screen. -/
def screenWidth : Nat := 1000

/-- Something that is printed at once. -/
inductive Block where
  /-- A title in the middle of a rule. -/
  | headline (title : String)
  /-- A text with tags. -/
  | text (content : String)
  /-- A label and a value with tags. -/
  | field (label value : String)
  /-- The result of a scan, which is shown as it is. -/
  | result (content : String)
  | table (content : Table)
  deriving DecidableEq, Repr

/-- A label in a column of its own. -/
def labelled (label : String) : String :=
  "  [dim]" ++ String.ofList (padded 12 label.toList) ++ "[/dim] "

/-- A text with tags in lines. -/
def textLines (content : String) : Except Failure (List (List Char)) :=
  (render content).map (wrap .broken screenWidth)

/-- The columns that a rule keeps for itself. -/
def ruleMargin : Nat := 4

/-- A dash of a rule. -/
def ruleDash : Char := '─'

/-- A title in the middle of a rule over the whole screen. -/
def headlineText (title : List Char) : List Char :=
  let line := withoutTabs (title.map fun c => if c = '\n' then ' ' else c)
  let shown := Overflow.clipped.limited (screenWidth - ruleMargin) line
  let side := (screenWidth - columns shown) / 2
  let left := List.replicate (side - 1) ruleDash
  let rest := screenWidth - left.length - columns shown
  Overflow.broken.limited screenWidth
    (left ++ ' ' :: shown ++ ' ' :: List.replicate (min (side + 1) rest) ruleDash)

/-- A result in lines, the first of which begins with its label. -/
def resultLines (content : String) : Except Failure (List (List Char)) :=
  (render (labelled "Result")).map fun label =>
    match wrap .broken screenWidth (withoutControls content.toList) with
    | [] => [label]
    | first :: rest => (label ++ first) :: rest

/-- The shortest end of a rule that is told from other dashes. -/
def shortestEnd : Nat := 3

/-- What follows the end of a rule, and a blank, at the front of a line. -/
def afterEnd? (line : List Char) : Option (List Char) :=
  match line.dropWhile (· = ruleDash) with
  | ' ' :: rest => if shortestEnd ≤ (line.takeWhile (· = ruleDash)).length then some rest else none
  | _ => none

/-- The title between the two ends of a rule. -/
def ruleTitle? (line : List Char) : Option (List Char) :=
  (afterEnd? line).bind fun rest => (afterEnd? rest.reverse).map List.reverse

/-- A line as it is printed: without blanks at its end, and a rule without its length. -/
def printedLine (line : List Char) : String :=
  let trimmed := trimEndOf isBlank line
  let ruleEnd := List.replicate shortestEnd ruleDash
  String.ofList (match ruleTitle? trimmed with
    | some title => ruleEnd ++ ' ' :: title ++ ' ' :: ruleEnd
    | none => trimmed)

/-- A text as it is printed, taken apart at every end of a line. -/
def printedLines (content : List Char) : List String :=
  (linesOf content).map printedLine

namespace Block

/-- The lines of a block as they fill the screen. -/
def filled : Block → Except Failure (List (List Char))
  | headline title => (render title).map fun shown => [headlineText shown]
  | text content => textLines content
  | field label value => textLines (labelled label ++ value)
  | result content => resultLines content
  | table content => content.lines screenWidth

/-- The lines of a block, without blanks at their ends. -/
def lines (block : Block) : Except Failure (List String) :=
  block.filled.map fun lines => lines.flatMap printedLines

end Block

/-- The table of images. -/
def imagesTable (rows : List ImageRow) : Table where
  title := imagesTitle rows.length
  columns := imagesHeaders.map fun header =>
    { header := header, atRight := header = "Size", wraps := header ≠ "ID" }
  rows := rows.map ImageRow.cells

end Display

namespace World

/-- A block is printed, unless a tag in it cannot close. -/
def print (block : Display.Block) : Step World Unit := fun world =>
  match block.lines with
  | .ok lines => .ok () { world with printed := world.printed ++ lines }
  | .error failure => .error failure world

/-- A text is printed as it is. -/
def printPlain (content : String) : Step World Unit := fun world =>
  .ok () { world with printed := world.printed ++ Display.printedLines content.toList }

/-- Blocks are printed one after the other. -/
def printAll : List Display.Block → Step World Unit
  | [] => pure ()
  | block :: rest => do
    print block
    printAll rest

end World

end ContainerScan
