import ContainerScan.Display.Shortcode.Table
import ContainerScan.Text.Letters
import ContainerScan.Text.Parts

/-! Codes between colons that stand for pictures, and the pictures in their place. -/

namespace ContainerScan.Display.Shortcode

open Text

/-- The words of a text in pairs. -/
def pairs : List (List Char) → List (List Char × List Char)
  | first :: second :: rest => (first, second) :: pairs rest
  | _ => []

/-- The pictures of people and of parts of them. -/
def people : List (List Char × List Char) :=
  pairs (wordsOf peopleEntries.toList)

/-- A letter of a region as it stands in a flag. -/
def flagLetter (letter : Char) : Char :=
  Char.ofNat (0x1F1E6 + (letter.toNat - 'A'.toNat))

/-- The flags of regions. -/
def flags : List (List Char × List Char) :=
  (pairs (wordsOf flagEntries.toList)).map fun entry => (entry.1, entry.2.map flagLetter)

/-- All other pictures. -/
def others : List (List Char × List Char) :=
  pairs (wordsOf otherEntries.toList)

/-- The tones of skin, by what the codes of people in them end in. -/
def tones : List (List Char × Char) := [
  ("_light_skin_tone".toList, '🏻'), ("_medium-light_skin_tone".toList, '🏼'),
  ("_medium_skin_tone".toList, '🏽'), ("_medium-dark_skin_tone".toList, '🏾'),
  ("_dark_skin_tone".toList, '🏿')]

/-- What stands before an ending of a text. -/
def before? (ending text : List Char) : Option (List Char) :=
  if ending.isSuffixOf text then some (text.take (text.length - ending.length)) else none

/-- A picture in a tone of skin, which takes the place of a wish for the form of a picture. -/
def inTone (tone : Char) : List Char → List Char
  | first :: '\uFE0F' :: rest => first :: tone :: rest
  | first :: rest => first :: tone :: rest
  | [] => []

/-- The picture of a person in a tone of skin. -/
def toned? (name : List Char) : Option (List Char) :=
  tones.findSome? fun tone =>
    ((before? tone.1 name).bind fun person => people.lookup person).map (inTone tone.2)

/-- The picture of a name in small letters. -/
def named? (name : List Char) : Option (List Char) :=
  (others.lookup name).or ((people.lookup name).or ((flags.lookup name).or (toned? name)))

/-- The forms that a code can ask for by its ending, and the characters that ask for them. -/
def forms : List (List Char × List Char) :=
  [("-emoji".toList, ['\uFE0F']), ("-text".toList, ['\uFE0E'])]

/-- The name in a code and the characters that ask for a form. -/
def split (code : List Char) : List Char × List Char :=
  (forms.findSome? fun form => (before? form.1 code).map fun name => (name, form.2)).getD (code, [])

/-- The picture of a code, whose letters may be capital ones. -/
def picture? (code : List Char) : Option (List Char) :=
  let (name, form) := split code
  (named? (lowercase name)).map (· ++ form)

/-- The code at the front of a text whose first colon has been left out. -/
def code? (text : List Char) : Option (List Char) :=
  let code := text.takeWhile (· ≠ ':')
  if code.length < text.length ∧ !code.any isBlank then some code else none

/-- A text with pictures, with a number of characters still to pass over. -/
def picturedFrom : Nat → List Char → List Char
  -- Characters of a code that has just been read are passed over one by one.
  | _, [] => []
  | skip + 1, _ :: rest => picturedFrom skip rest
  | 0, c :: rest =>
    match if c = ':' then code? rest else none with
    | some code =>
      (picture? code).getD (':' :: code ++ [':']) ++ picturedFrom (code.length + 1) rest
    | none => c :: picturedFrom 0 rest

/-- A text with pictures in place of their codes; a code that has none stays. -/
def pictured (text : List Char) : List Char :=
  picturedFrom 0 text

end ContainerScan.Display.Shortcode
