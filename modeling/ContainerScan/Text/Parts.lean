import ContainerScan.Text.Blank

/-! The parts of a text between marks or blanks. -/

namespace ContainerScan.Text

/-- The parts of a text between two marks. -/
def splitOn (mark : Char) (text : List Char) : List (List Char) :=
  text.foldr (fun c parts =>
    if c = mark then [] :: parts
    else match parts with
      | part :: rest => (c :: part) :: rest
      | [] => [[c]]) [[]]

/-- A text in which every line ends in the same way. -/
def unifiedLines : List Char → List Char
  | '\r' :: '\n' :: rest => '\n' :: unifiedLines rest
  | '\r' :: rest => '\n' :: unifiedLines rest
  | c :: rest => c :: unifiedLines rest
  | [] => []

/-- Whether a character ends a line. -/
def endsLine (c : Char) : Bool :=
  [0xA, 0xB, 0xC, 0xD, 0x1C, 0x1D, 0x1E, 0x85, 0x2028, 0x2029].contains c.toNat

/-- The lines of a text. -/
def linesOf (text : List Char) : List (List Char) :=
  splitOn '\n' ((unifiedLines text).map fun c => if endsLine c then '\n' else c)

/-- The words of a text, with any blanks between them and around them. -/
def wordsOf (text : List Char) : List (List Char) :=
  (text.splitBy fun first second => isBlank first == isBlank second).filter fun part =>
    !part.all isBlank

end ContainerScan.Text
