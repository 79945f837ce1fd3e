import ContainerScan.Number.Reading
import ContainerScan.Text.Letters
import ContainerScan.Text.Parts
import ContainerScan.Text.Word

/-! The tokens of literals: numbers, quoted texts, constant names and signs. -/

namespace ContainerScan.Display.Literal

open Text

/-- A token of a literal, without what it says. -/
inductive Token where
  | real
  | imaginary
  | text
  | bytes
  /-- A name or sign that is a value of its own. -/
  | constant
  /-- The name of the kind of an empty set. -/
  | set
  | opening (isBrace : Bool)
  | closing (isBrace : Bool)
  | comma
  | colon
  | sign
  | lineEnd
  deriving DecidableEq, Repr

/-- The most digits of a whole number. -/
def digitLimit : Nat := 4300

/-- Digits with single low lines between them at the front of a text, and what follows. -/
def digits? (isDigitOf : Char → Bool) (text : List Char) : Option (List Char × List Char) :=
  let belongs := fun c => isDigitOf c || c == '_'
  let parts := splitOn '_' (text.takeWhile belongs)
  if parts.all (!·.isEmpty) then some (parts.flatten, text.dropWhile belongs) else none

/-- The digits of a base other than ten, by the letter that names the base. -/
def baseDigits? (letter : Char) : Option (Char → Bool) :=
  match lowerLetter letter with
  | 'x' => some fun c => isDigit c || ('a' ≤ lowerLetter c && lowerLetter c ≤ 'f')
  | 'o' => some fun c => '0' ≤ c && c ≤ '7'
  | 'b' => some fun c => c == '0' || c == '1'
  | _ => none

/-- What follows a number in a base other than ten at the front of a text. -/
def afterBased? : List Char → Option (List Char)
  | '0' :: letter :: '_' :: rest =>
    (baseDigits? letter).bind fun isDigitOf => (digits? isDigitOf rest).map (·.2)
  | '0' :: letter :: rest =>
    (baseDigits? letter).bind fun isDigitOf => (digits? isDigitOf rest).map (·.2)
  | _ => none

/-- Digits that may be missing, and what follows. -/
def optionalDigits? (text : List Char) : Option (List Char × List Char) :=
  if (text.head?.map isDigit).getD false then digits? isDigit text else some ([], text)

/-- What follows a fraction, which may be missing, and whether there is one. -/
def afterFraction? : List Char → Option (Bool × List Char)
  | '.' :: rest => (optionalDigits? rest).map fun found => (true, found.2)
  | text => some (false, text)

/-- What follows a sign that may be missing. -/
def afterSign : List Char → List Char
  | '-' :: rest => rest
  | '+' :: rest => rest
  | text => text

/-- What follows an exponent, which may be missing, and whether there is one. -/
def afterExponent? : List Char → Option (Bool × List Char)
  | c :: rest =>
    if lowerLetter c = 'e' then (digits? isDigit (afterSign rest)).map fun found => (true, found.2)
    else some (false, c :: rest)
  | [] => some (false, [])

/-- Whether digits are those of a whole number: zeros do not lead, and there are not too many. -/
def isWhole (digits : List Char) : Bool :=
  (digits.head? ≠ some '0' || digits.all (· == '0')) && digits.length ≤ digitLimit

/-- A number in base ten at the front of a text, and what follows. -/
def decimal? (text : List Char) : Option (Token × List Char) := do
  let (whole, rest) ← optionalDigits? text
  let (hasFraction, rest) ← afterFraction? rest
  let (hasExponent, rest) ← afterExponent? rest
  match rest with
  | 'j' :: rest => return (.imaginary, rest)
  | 'J' :: rest => return (.imaginary, rest)
  | rest =>
    if hasFraction || hasExponent || isWhole whole then return (.real, rest) else none

/-- A number at the front of a text, behind which no word goes on. -/
def number? (text : List Char) : Option (Token × List Char) :=
  let found := ((afterBased? text).map fun rest => (Token.real, rest)).or (decimal? text)
  found.filter fun found => !(found.2.head?.map isWordCharacter).getD false

/-- What stands before the end of a quoted text, and what follows; a long one has three quotes. -/
def quoted? (quote : Char) (isLong : Bool) : List Char → Option (List Char × List Char)
  | '\\' :: c :: rest =>
    (quoted? quote isLong rest).map fun found => ('\\' :: c :: found.1, found.2)
  | c :: rest =>
    if c = quote ∧ !isLong then some ([], rest)
    else if c = quote ∧ rest.take 2 = [quote, quote] then some ([], rest.drop 2)
    else if c = '\n' ∧ !isLong then none
    else (quoted? quote isLong rest).map fun found => (c :: found.1, found.2)
  | [] => none

/-- The value of a digit of base sixteen. -/
def hexValue? (c : Char) : Option Nat :=
  let small := lowerLetter c
  if isDigit c then some (digitValue c)
  else if 'a' ≤ small ∧ small ≤ 'f' then some (small.toNat - 'a'.toNat + 10)
  else none

/-- The value of some digits of base sixteen at the front of a text. -/
def hex? (count : Nat) (text : List Char) : Option Nat :=
  if (text.take count).length < count then none
  else (text.take count).foldlM (fun value c => (hexValue? c).map (16 * value + ·)) 0

/-- The last code point. -/
def lastCode : Nat := 0x10FFFF

/-- Whether a name in braces stands at the front of a text. -/
def isNamed : List Char → Bool
  | '\x7b' :: rest =>
    let name := rest.takeWhile (· ≠ '\x7d')
    !name.isEmpty && name.length < rest.length
  | _ => false

/-- Whether a character behind a backslash goes with what follows it. -/
def escapes (isBytes : Bool) (c : Char) (rest : List Char) : Bool :=
  if c = 'x' then (hex? 2 rest).isSome
  else if isBytes then true
  else if c = 'u' then (hex? 4 rest).isSome
  else if c = 'U' then (hex? 8 rest).any (· ≤ lastCode)
  else if c = 'N' then isNamed rest
  else true

/-- Whether every backslash in a quoted text is used well. -/
def wellEscaped (isBytes : Bool) : List Char → Bool
  | '\\' :: c :: rest => escapes isBytes c rest && wellEscaped isBytes rest
  | _ :: rest => wellEscaped isBytes rest
  | [] => true

/-- Whether the content of a quoted text is sound, given the letters before its quotes. -/
def isSound (letters content : List Char) : Bool :=
  let isBytes := letters.contains 'b'
  (!isBytes || content.all (·.toNat < 0x80)) &&
    (letters.contains 'r' || wellEscaped isBytes content)

/-- A quoted text, given the small letters before its first quote and what follows that. -/
def quotation? (letters : List Char) (quote : Char) (rest : List Char) :
    Option (Token × List Char) := do
  guard (["", "r", "b", "u", "br", "rb"].contains (String.ofList letters))
  let isLong := rest.take 2 = [quote, quote]
  let (content, after) ← quoted? quote isLong (if isLong then rest.drop 2 else rest)
  guard (isSound letters content)
  return (if letters.contains 'b' then .bytes else .text, after)

/-- Whether a character opens and closes quoted texts. -/
def isQuote (c : Char) : Bool :=
  c == '\x22' || c == '\x27'

/-- The token that a name is. -/
def name? (word : List Char) : Option Token :=
  if ["True", "False", "None"].contains (String.ofList word) then some .constant
  else if word = "set".toList then some .set
  else none

/-- The token of a word and what follows it, which may be the quotes that the word belongs to. -/
def word? (word rest : List Char) : Option (Token × List Char) :=
  match rest with
  | quote :: after =>
    if isQuote quote then quotation? (lower word) quote after else (name? word).map (·, rest)
  | [] => (name? word).map (·, [])

/-- The token that a sign is. -/
def sign? : Char → Option Token
  | '(' => some (.opening false)
  | ')' => some (.closing false)
  | '\x7b' => some (.opening true)
  | '\x7d' => some (.closing true)
  | ',' => some .comma
  | ':' => some .colon
  | '+' => some .sign
  | '-' => some .sign
  | '\n' => some .lineEnd
  | _ => none

/-- The token at the front of a text, and what follows. -/
def token? (c : Char) (rest : List Char) : Option (Token × List Char) :=
  if isDigit c ∨ (c = '.' ∧ (rest.head?.map isDigit).getD false) then number? (c :: rest)
  else if c = '.' ∧ rest.take 2 = ['.', '.'] then some (.constant, rest.drop 2)
  else if isQuote c then quotation? [] c rest
  else if isWordCharacter c then
    word? ((c :: rest).takeWhile isWordCharacter) ((c :: rest).dropWhile isWordCharacter)
  else (sign? c).map (·, rest)

/-- Whether a character only separates tokens. -/
def separates (c : Char) : Bool :=
  c == ' ' || c == '\t' || c == '\x0c'

/-- The tokens of a text, unless a part of it is none. -/
def tokensFrom? : Nat → List Char → Option (List Token)
  -- Each step reads a character at least, so the length of the text is enough.
  | _, [] => some []
  | 0, _ :: _ => none
  | steps + 1, c :: rest =>
    if separates c then tokensFrom? steps rest
    else if c = '#' then tokensFrom? steps (rest.dropWhile (· ≠ '\n'))
    else if c = '\\' ∧ rest.head? = some '\n' then tokensFrom? steps (rest.drop 1)
    else do
      let (token, after) ← token? c rest
      let others ← tokensFrom? steps after
      return token :: others

/-- The tokens of a text, unless a part of it is none. -/
def tokens? (text : List Char) : Option (List Token) :=
  if text.contains '\x00' then none
  else tokensFrom? text.length (unifiedLines text)

end ContainerScan.Display.Literal
