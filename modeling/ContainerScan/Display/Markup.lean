import ContainerScan.Display.Literal
import ContainerScan.Display.Shortcode
import ContainerScan.Display.Style

/-! Texts with tags in brackets, which change the look of what they enclose and are not shown. -/

namespace ContainerScan.Display

open Text

/-- A tag: a name, and what stands behind a sign of equality. -/
structure Tag where
  name : List Char
  parameters : Option (List Char) := none
  deriving DecidableEq, Repr

/-- A piece of a text with tags. -/
inductive Piece where
  /-- A text between tags. -/
  | plain (text : List Char)
  /-- A tag that opens a style. -/
  | opening (tag : Tag)
  /-- A tag that closes the latest open style of a name. -/
  | closing (name : List Char)
  /-- A tag that closes the latest open style. -/
  | closingLatest
  deriving DecidableEq, Repr

/-- Whether a character can stand first in a tag. -/
def opensTag (c : Char) : Bool :=
  ('a' ≤ c && c ≤ 'z') || c == '#' || c == '/' || c == '@'

/-- Whether a character is a bracket, of which a tag holds none. -/
def isBracket (c : Char) : Bool :=
  c == '[' || c == ']'

/-- The text of a tag whose opening bracket has been read, and what follows the tag. -/
def tag? (text : List Char) : Option (List Char × List Char) :=
  match text.takeWhile (!isBracket ·), text.dropWhile (!isBracket ·) with
  | c :: tag, ']' :: rest => if opensTag c then some (c :: tag, rest) else none
  | _, _ => none

/-- The tag of a text. -/
def Tag.ofText (text : List Char) : Tag :=
  match text.dropWhile (· ≠ '=') with
  | _ :: parameters => ⟨text.takeWhile (· ≠ '='), some parameters⟩
  | [] => ⟨text, none⟩

/-- What a tag does. -/
def Piece.ofTag (tag : Tag) : Piece :=
  match tag.name with
  | '/' :: name => if (trim name).isEmpty then closingLatest else closing (trim name)
  | _ => opening tag

/-- Backslashes and the tag behind them: two show one, and one that is left over shows the tag. -/
def escapedPieces (count : Nat) (tag : List Char) : List Piece :=
  [.plain (List.replicate (count / 2) '\\'),
    if count % 2 = 1 then .plain ('[' :: tag ++ [']']) else .ofTag (.ofText tag)]

/-- Backslashes and a tag at the front of a text: their count, the tag, and what follows it. -/
def escapedTag? (text : List Char) : Option (Nat × List Char × List Char) :=
  match text.dropWhile (· = '\\') with
  | '[' :: rest => (tag? rest).map fun found => ((text.takeWhile (· = '\\')).length, found)
  | _ => none

/-- A text between tags, where a bracket that opens no tag may stand after a backslash too. -/
def unescaped : List Char → List Char
  | '\\' :: '[' :: rest => '[' :: unescaped rest
  | c :: rest => c :: unescaped rest
  | [] => []

/-- The pieces of a text, given what was read since a tag and the characters to pass over. -/
def piecesFrom : List Char → Nat → List Char → List Piece
  -- Characters of a tag that has just been read are passed over one by one.
  | before, _, [] => [.plain (unescaped before.reverse)]
  | before, skip + 1, _ :: rest => piecesFrom before skip rest
  | before, 0, c :: rest =>
    match escapedTag? (c :: rest) with
    | some (count, tag, after) =>
      .plain (unescaped before.reverse) :: escapedPieces count tag ++
        piecesFrom [] (rest.length - after.length) rest
    | none => piecesFrom (c :: before) 0 rest

/-- The pieces of a text with tags. -/
def pieces (text : List Char) : List Piece :=
  piecesFrom [] 0 text

/-- What the parameters of a handler are: those in its brackets, or none, or else all of a text. -/
def handlerParameters (text : List Char) : List Char :=
  match text.dropWhile fun c => isWordCharacter c || c == '.' with
  | [] => "()".toList
  | rest =>
    if rest.head? = some '(' ∧ rest.getLast? = some ')' ∧ !rest.contains '\n' then rest else text

/-- Whether a tag may close: the parameters of a handler must be literals. -/
def Tag.mayClose (tag : Tag) : Bool :=
  match tag.name, tag.parameters with
  | '@' :: _, some (c :: rest) => isLiteral (handlerParameters (trim (c :: rest)))
  | _, _ => true

/-- The open tags without the latest one of a style, unless none of them has it. -/
def closed? (style : List Char) : List Tag → Option (Tag × List Tag)
  | [] => none
  | tag :: rest =>
    if tag.name = style then some (tag, rest)
    else (closed? style rest).map fun found => (found.1, tag :: found.2)

/-- What pieces show, given the open tags from the latest on. -/
def shownPieces : List Tag → List Piece → Except Failure (List Char)
  | _, [] => .ok []
  | tags, .plain text :: rest => do
    let others ← shownPieces tags rest
    return Shortcode.pictured text ++ others
  | tags, .opening tag :: rest => do
    let name ← Style.normalized tag.name
    shownPieces ({ tag with name := name } :: tags) rest
  | tags, .closing name :: rest => do
    let style ← Style.normalized name
    -- The latest tag of the name is closed, and those opened after it stay open.
    match closed? style tags with
    | some (tag, others) => if tag.mayClose then shownPieces others rest else .error .markup
    | none => .error .markup
  | [], .closingLatest :: _ => .error .markup
  | tag :: tags, .closingLatest :: rest =>
    if tag.mayClose then shownPieces tags rest else .error .markup

/-- Whether a character would move the cursor of a terminal or ring its bell. -/
def isTerminalControl (c : Char) : Bool :=
  [7, 8, 11, 12, 13].contains c.toNat

/-- A text without the characters that a terminal would act on. -/
def withoutControls (text : List Char) : List Char :=
  text.filter fun c => !isTerminalControl c

/-- What a text with tags shows; a tag that cannot close is a failure. -/
def render (text : String) : Except Failure (List Char) :=
  (shownPieces [] (pieces text.toList)).map withoutControls

end ContainerScan.Display
