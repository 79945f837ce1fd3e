/-! Blank characters, and the removal of blanks around a text. -/

namespace ContainerScan.Text

/-- Whether a character has the white space property of Unicode. -/
def isSpace (c : Char) : Bool :=
  let code := c.toNat
  (9 ≤ code && code ≤ 13) || code == 32 || code == 0x85 || code == 0xA0 || code == 0x1680 ||
    (0x2000 ≤ code && code ≤ 0x200A) || code == 0x2028 || code == 0x2029 || code == 0x202F ||
    code == 0x205F || code == 0x3000

/-- Whether a character counts as blank: white space and the four information separators. -/
def isBlank (c : Char) : Bool :=
  isSpace c || (28 ≤ c.toNat && c.toNat ≤ 31)

/-- A text without the characters of one class at its end. -/
def trimEndOf (drops : Char → Bool) (text : List Char) : List Char :=
  (text.reverse.dropWhile drops).reverse

/-- A text without the characters of one class at its two ends. -/
def trimOf (drops : Char → Bool) (text : List Char) : List Char :=
  trimEndOf drops (text.dropWhile drops)

/-- A text without the blanks at its two ends. -/
def trim (text : List Char) : List Char :=
  trimOf isBlank text

/-- A capital letter of the Latin alphabet becomes its small form, and all else stays. -/
def lowerLetter (c : Char) : Char :=
  if 'A' ≤ c ∧ c ≤ 'Z' then Char.ofNat (c.toNat + 32) else c

/-- A text in small letters, where only the Latin alphabet has two forms. -/
def lower (text : List Char) : List Char :=
  text.map lowerLetter

/-- Whether a character is one of the ten decimal digits. -/
def isDigit (c : Char) : Bool :=
  '0' ≤ c && c ≤ '9'

/-- The value of a decimal digit. -/
def digitValue (c : Char) : Nat :=
  c.toNat - '0'.toNat

end ContainerScan.Text
