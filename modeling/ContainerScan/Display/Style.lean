import ContainerScan.Display.Colour
import ContainerScan.Text.Letters

/-! Styles of shown texts, and the one wording of each style. -/

namespace ContainerScan.Display

open Text

/-- A style as far as words describe it: attributes from the latest on, colours, and a link. -/
structure Style where
  attributes : List (String × Bool) := []
  colour : Option (List Char) := none
  background : Option (List Char) := none
  link : Option (List Char) := none
  deriving DecidableEq, Repr

namespace Style

/-- The attributes of styles in the order in which they are written. -/
def attributeNames : List String :=
  ["bold", "dim", "italic", "underline", "blink", "blink2", "reverse", "conceal", "strike",
    "underline2", "frame", "encircle", "overline"]

/-- Shorter names of attributes. -/
def shortNames : List (String × String) :=
  [("b", "bold"), ("d", "dim"), ("i", "italic"), ("u", "underline"), ("r", "reverse"),
    ("c", "conceal"), ("s", "strike"), ("uu", "underline2"), ("o", "overline")]

/-- The attribute that a word names. -/
def attribute? (word : List Char) : Option String :=
  let name := String.ofList word
  if attributeNames.contains name then some name else shortNames.lookup name

/-- A style in which an attribute is set or ruled out. -/
def withAttribute (style : Style) (name : String) (isSet : Bool) : Style :=
  { style with attributes := (name, isSet) :: style.attributes }

/-- A word that says what the word after it means. -/
inductive Keyword where
  | background
  | ruledOut
  | link
  deriving DecidableEq, Repr

/-- The meaning of a word for the one after it. -/
def keyword? (word : List Char) : Option Keyword :=
  match String.ofList (lowercase word) with
  | "on" => some .background
  | "not" => some .ruledOut
  | "link" => some .link
  | _ => none

/-- A style and what two words add to it, unless they add nothing. -/
def withPair (style : Style) (keyword : Keyword) (word : List Char) :
    Except Failure (Option Style) :=
  match keyword with
  | .background => do
    let small := lowercase word
    let known ← Colour.isColour small
    return if known then some { style with background := some small } else none
  | .ruledOut => .ok ((attribute? word).map fun name => style.withAttribute name false)
  | .link => .ok (some { style with link := some word })

/-- A style and what one word adds to it, unless it adds nothing. -/
def withWord (style : Style) (word : List Char) : Except Failure (Option Style) := do
  let small := lowercase word
  match attribute? small with
  | some name => return some (style.withAttribute name true)
  | none =>
    let known ← Colour.isColour small
    return if known then some { style with colour := some small } else none

/-- A style and what several words add to it, unless one of them adds nothing. -/
def withWords : Style → List (List Char) → Except Failure (Option Style)
  | style, [] => .ok (some style)
  | style, [word] => style.withWord word
  | style, word :: next :: rest =>
    match keyword? word with
    -- Some words, such as those for a background, need the one behind them.
    | some keyword => do
      match ← style.withPair keyword next with
      | some style => withWords style rest
      | none => return none
    | none => do
      match ← style.withWord word with
      | some style => withWords style (next :: rest)
      | none => return none

/-- An attribute as it is written. -/
def attributeText (name : String) (isSet : Bool) : String :=
  if isSet then name else "not " ++ name

/-- The parts of a style as they are written. -/
def parts (style : Style) : List (List Char) :=
  (attributeNames.filterMap fun name =>
    (style.attributes.lookup name).map fun isSet => (attributeText name isSet).toList) ++
    style.colour.toList ++ (style.background.map ("on ".toList ++ ·)).toList ++
    (style.link.map ("link ".toList ++ ·)).toList

/-- A style in words, of which there is always one. -/
def text (style : Style) : List Char :=
  if style.parts.isEmpty then "none".toList else [' '].intercalate style.parts

/-- The one wording of the style that a text describes, or the text itself if it describes none. -/
def normalized (text : List Char) : Except Failure (List Char) := do
  match ← withWords {} (wordsOf text) with
  | some style => return style.text
  | none => return lowercase (trim text)

end Style

end ContainerScan.Display
