import ContainerScan.Display.Markup
import ContainerScan.Display.Wrapping

/-! Tables in frames: a title, headers between heavy lines, and rows between light ones. -/

namespace ContainerScan.Display

open Text

/-- A column of a table. -/
structure Column where
  header : String
  /-- Whether its texts stand at the right. -/
  atRight : Bool := false
  /-- Whether its texts go on in further lines. -/
  wraps : Bool := true
  deriving DecidableEq, Repr

/-- A table, whose rows have one text for each column. -/
structure Table where
  title : String
  columns : List Column
  rows : List (List String)
  deriving DecidableEq, Repr

/-- The marks of a line in a frame: at its left end, its filling, between columns, at its end. -/
structure Border where
  left : Char
  filling : Char
  between : Char
  right : Char

namespace Border

/-- The line above the headers. -/
def top : Border := ⟨'┏', '━', '┳', '┓'⟩

/-- The line between the headers and the rows. -/
def divider : Border := ⟨'┡', '━', '╇', '┩'⟩

/-- The line below the rows. -/
def bottom : Border := ⟨'└', '─', '┴', '┘'⟩

/-- The line that holds headers. -/
def header : Border := ⟨'┃', ' ', '┃', '┃'⟩

/-- The line that holds a row. -/
def row : Border := ⟨'│', ' ', '│', '│'⟩

/-- A line of a frame around contents, which have a filling on both of their sides. -/
def around (border : Border) (contents : List (List Char)) : List Char :=
  let inner := contents.map fun content => border.filling :: content ++ [border.filling]
  border.left :: [border.between].intercalate inner ++ [border.right]

/-- A line of a frame that holds nothing. -/
def line (border : Border) (widths : List Nat) : List Char :=
  border.around (widths.map fun width => List.replicate width border.filling)

end Border

namespace Table

/-- What several texts with tags show. -/
def rendered : List String → Except Failure (List (List Char))
  | [] => .ok []
  | text :: rest => do
    let shown ← render text
    let others ← rendered rest
    return shown :: others

/-- What all rows show. -/
def renderedRows : List (List String) → Except Failure (List (List (List Char)))
  | [] => .ok []
  | row :: rest => do
    let shown ← rendered row
    let others ← renderedRows rest
    return shown :: others

/-- The width that a text would like to have. -/
def naturalWidth (text : List Char) : Nat :=
  (linesOf text).foldl (fun width line => max width (Text.columns line)) 0

/-- The widths that columns would like to have, given all of their texts in rows. -/
def naturalWidths (rows : List (List (List Char))) : List Nat :=
  rows.foldl (fun widths row =>
    (List.range (max widths.length row.length)).map fun index =>
      max (widths[index]?.getD 0) ((row[index]?.map naturalWidth).getD 0)) []

/-- The columns that a frame takes up beside the texts. -/
def frameWidth (count : Nat) : Nat :=
  3 * count + 1

/-- The columns that a table takes up. -/
def totalWidth (widths : List Nat) : Nat :=
  widths.foldl (fun total width => total + width) (frameWidth widths.length)

/-- Widths of which the greatest gives way, so that all of them fit with their frame. -/
def limited (limit : Nat) (widths : List Nat) : List Nat :=
  let excess := totalWidth widths - limit
  let widest := widths.foldl max 0
  widths.map fun width => if width = widest then width - excess else width

/-- A line of a text in its column. -/
def aligned (column : Column) (width : Nat) (line : List Char) : List Char :=
  if column.atRight then
    let trimmed := trimEndOf isBlank line
    List.replicate (width - Text.columns trimmed) ' ' ++ trimmed
  else padded width line

/-- The lines of one text in its column. -/
def cellLines (column : Column) (width : Nat) (text : List Char) : List (List Char) :=
  (if column.wraps then wrap .clipped width text else cut .clipped width text).map
    (aligned column width)

/-- The lines of one row, which is as high as the highest of its texts. -/
def rowLines (border : Border) (columns : List Column) (widths : List Nat)
    (row : List (List Char)) : List (List Char) :=
  let cells := (columns.zip (widths.zip row)).map fun (column, width, text) =>
    (width, cellLines column width text)
  let height := cells.foldl (fun height cell => max height cell.2.length) 0
  (List.range height).map fun index =>
    border.around (cells.map fun cell =>
      (cell.2[index]?).getD (List.replicate cell.1 ' '))

/-- A text in the middle of a width. -/
def centred (width : Nat) (text : List Char) : List Char :=
  List.replicate ((width - Text.columns text) / 2) ' ' ++ text

/-- The lines of a table that is at most as wide as a limit. -/
def lines (table : Table) (limit : Nat) : Except Failure (List (List Char)) := do
  let title ← render table.title
  let headers ← rendered (table.columns.map Column.header)
  let rows ← renderedRows table.rows
  let widths := limited limit (naturalWidths (headers :: rows))
  return [centred (totalWidth widths) title, Border.top.line widths] ++
    rowLines .header table.columns widths headers ++ [Border.divider.line widths] ++
    rows.flatMap (rowLines .row table.columns widths) ++ [Border.bottom.line widths]

end Table

end ContainerScan.Display
