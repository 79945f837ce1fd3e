import ContainerScan.Json.Basic

/-! A strict reader of JSON text that says at which byte, and why, a text is refused. -/

namespace ContainerScan.Json

open ContainerScan.Text

/-- Why a text is not JSON. -/
inductive Reason where
  | endOfValue | endOfList | endOfObject | endOfString
  | expectedValue | expectedName | keyNotString | expectedColon
  | expectedCommaOrBrace | expectedCommaOrBracket | trailingComma | trailingText
  | invalidNumber | numberTooLong
  | controlCharacter | invalidEscape | loneSurrogate | unfinishedPair
  | tooDeep
  deriving DecidableEq, Repr

/-- The wording of a reason. -/
def Reason.text : Reason → String
  | .endOfValue => "EOF while parsing a value"
  | .endOfList => "EOF while parsing a list"
  | .endOfObject => "EOF while parsing an object"
  | .endOfString => "EOF while parsing a string"
  | .expectedValue => "expected value"
  | .expectedName => "expected ident"
  | .keyNotString => "key must be a string"
  | .expectedColon => "expected \x60:\x60"
  | .expectedCommaOrBrace => "expected \x60,\x60 or \x60\x7d\x60"
  | .expectedCommaOrBracket => "expected \x60,\x60 or \x60]\x60"
  | .trailingComma => "trailing comma"
  | .trailingText => "trailing characters"
  | .invalidNumber => "invalid number"
  | .numberTooLong => "number out of range"
  | .controlCharacter => "control character (\\u0000-\\u001F) found while parsing a string"
  | .invalidEscape => "invalid escape"
  | .loneSurrogate => "lone leading surrogate in hex escape"
  | .unfinishedPair => "unexpected end of hex escape"
  | .tooDeep => "recursion limit exceeded"

/-- A refusal: its reason, and the text from the offending character on. -/
structure Refusal where
  reason : Reason
  rest : List Char
  deriving DecidableEq, Repr

/-- What a reader of a part gives: a value and the text after it, or a refusal. -/
abbrev Reading (α : Type) := Except Refusal (α × List Char)

/-- The refusal of a text for a reason. -/
def refuse {α : Type} (reason : Reason) (rest : List Char) : Reading α :=
  .error ⟨reason, rest⟩

/-- The blanks that may stand between the parts of a JSON text. -/
def isSeparator (c : Char) : Bool :=
  c == ' ' || c == '\t' || c == '\n' || c == '\r'

/-- A text without the blanks in front. -/
def skipBlanks (text : List Char) : List Char :=
  text.dropWhile isSeparator

/-- The rest of a name of which every character must follow. -/
def readName (value : Json) : List Char → List Char → Reading Json
  | [], text => .ok (value, text)
  | _ :: _, [] => refuse .endOfValue []
  | expected :: name, c :: rest =>
    if c = expected then readName value name rest else refuse .expectedName (c :: rest)

/-- At least one digit, and what follows the run of digits. -/
def readDigits (text : List Char) : Reading (List Char) :=
  match text with
  | [] => refuse .endOfValue []
  | c :: _ => if isDigit c then .ok (Number.spanDigits text) else refuse .invalidNumber text

/-- The places after a point, if there is one. -/
def readPlaces : List Char → Reading (List Char)
  | '.' :: rest => readDigits rest
  | text => .ok ([], text)

/-- The digits of an exponent behind its sign, as a number. -/
def readPower (negative : Bool) (text : List Char) : Reading Int :=
  match readDigits text with
  | .ok (digits, rest) =>
    .ok (if negative then -(Number.digitsValue digits : Int) else Number.digitsValue digits, rest)
  | .error refusal => .error refusal

/-- An exponent, if there is one. -/
def readExponent : List Char → Reading Int
  | c :: rest =>
    if c = 'e' ∨ c = 'E' then readPower (Number.splitSign rest).1 (Number.splitSign rest).2
    else .ok (0, c :: rest)
  | [] => .ok (0, [])

/-- The rest of a number in double precision, behind its whole part. -/
def readReal (negative : Bool) (whole text : List Char) : Reading Json :=
  match readPlaces text with
  | .error refusal => .error refusal
  | .ok (places, afterPlaces) =>
    match readExponent afterPlaces with
    | .error refusal => .error refusal
    | .ok (exponent, rest) =>
      let value := Binary64.ofDecimal negative (Number.digitsValue (whole ++ places))
        (exponent - places.length)
      .ok (.number (.real value), rest)

/-- Whether a point or an exponent follows a whole part. -/
def opensReal : List Char → Bool
  | c :: _ => c == '.' || c == 'e' || c == 'E'
  | [] => false

/-- The most digits that the whole part of a number may have. Its minus is not among them: a minus and
so many digits are read, and one digit more is refused at the byte behind it. -/
def numberLimit : Nat := 4300

/-- A number behind its sign. -/
def readUnsigned (negative : Bool) : List Char → Reading Json
  | [] => refuse .endOfValue []
  | c :: rest =>
    if c = '0' then
      -- No digit may follow a leading zero.
      if opensReal rest then readReal negative ['0'] rest
      else if rest.head?.any isDigit then refuse .invalidNumber rest
      else .ok (.int 0, rest)
    else if isDigit c then
      let (digits, afterDigits) := Number.spanDigits (c :: rest)
      if numberLimit < digits.length then
        refuse .numberTooLong ((c :: rest).drop (numberLimit + 1))
      else if opensReal afterDigits then readReal negative digits afterDigits
      else
        let value : Int := Number.digitsValue digits
        .ok (.int (if negative then -value else value), afterDigits)
    else if negative && c == 'I' then
      readName (.number (.real (.infinite true))) "nfinity".toList rest
    else refuse .invalidNumber (c :: rest)

/-- The value of a hexadecimal digit. -/
def hexValue? (c : Char) : Option Nat :=
  if isDigit c then some (digitValue c)
  else if 'a' ≤ c ∧ c ≤ 'f' then some (c.toNat - 'a'.toNat + 10)
  else if 'A' ≤ c ∧ c ≤ 'F' then some (c.toNat - 'A'.toNat + 10)
  else none

/-- The character that a one-letter escape stands for. -/
def letterEscape? (c : Char) : Option Char :=
  if c = '\x22' ∨ c = '\\' ∨ c = '/' then some c
  else if c = 'b' then some '\x08'
  else if c = 'f' then some '\x0c'
  else if c = 'n' then some '\n'
  else if c = 'r' then some '\r'
  else if c = 't' then some '\t'
  else none

/-- Where a reader stands inside a string. -/
inductive Within where
  | plain
  /-- Behind a backslash. -/
  | escape
  /-- Inside an escape by code: digits still owed, the value so far, and a leading half. -/
  | code (owed value : Nat) (leading : Option Nat)
  /-- Behind a leading half, where a backslash must follow. -/
  | pair (leading : Nat)
  /-- Behind the backslash that follows a leading half. -/
  | pairEscape (leading : Nat)
  deriving DecidableEq, Repr

/-- How many bytes a text takes up. -/
def byteCount (text : List Char) : Nat :=
  text.foldl (fun bytes c => bytes + c.utf8Size) 0

/-- Whether four bytes are left in a text. -/
def fourBytesLeft (text : List Char) : Bool :=
  4 ≤ byteCount (text.take 4)

/-- A character in front of a text that is read further on. -/
def prepend (c : Char) : Reading (List Char) → Reading (List Char)
  | .ok (text, rest) => .ok (c :: text, rest)
  | .error refusal => .error refusal

/-- Whether a code is the leading half of a pair. -/
def isLeadingHalf (code : Nat) : Bool := 0xD800 ≤ code && code ≤ 0xDBFF

/-- Whether a code is the trailing half of a pair. -/
def isTrailingHalf (code : Nat) : Bool := 0xDC00 ≤ code && code ≤ 0xDFFF

/-- The characters of a string up to its closing quote. -/
def readString : Within → List Char → Reading (List Char)
  | _, [] => refuse .endOfString []
  | .plain, c :: rest =>
    if c = '\x22' then .ok ([], rest)
    else if c = '\\' then readString .escape rest
    else if c.toNat < 0x20 then refuse .controlCharacter (c :: rest)
    else prepend c (readString .plain rest)
  | .escape, c :: rest =>
    match letterEscape? c with
    | some escaped => prepend escaped (readString .plain rest)
    | none =>
      if c = 'u' then
        if fourBytesLeft rest then readString (.code 4 0 none) rest else refuse .endOfString []
      else refuse .invalidEscape (c :: rest)
  | .code owed value leading, c :: rest =>
    match hexValue? c with
    | none => refuse .invalidEscape (c :: rest)
    | some digit =>
      let code := value * 16 + digit
      if 1 < owed then readString (.code (owed - 1) code leading) rest
      else
        -- The last digit decides whether the code is a character of its own.
        match leading with
        | none =>
          if isLeadingHalf code then readString (.pair code) rest
          else if isTrailingHalf code then refuse .loneSurrogate (c :: rest)
          else prepend (Char.ofNat code) (readString .plain rest)
        | some high =>
          if isTrailingHalf code then
            prepend (Char.ofNat (0x10000 + (high - 0xD800) * 0x400 + (code - 0xDC00)))
              (readString .plain rest)
          else refuse .loneSurrogate (c :: rest)
  | .pair leading, c :: rest =>
    if c = '\\' then readString (.pairEscape leading) rest
    else refuse .unfinishedPair (c :: rest)
  | .pairEscape leading, c :: rest =>
    if c = 'u' then
      if fourBytesLeft rest then readString (.code 4 0 (some leading)) rest
      else refuse .endOfString []
    else refuse .unfinishedPair (c :: rest)

/-- A value that is no container, from its first character on. -/
def readScalar (c : Char) (rest : List Char) : Reading Json :=
  if c = '\x22' then
    match readString .plain rest with
    | .ok (text, after) => .ok (.string (String.ofList text), after)
    | .error refusal => .error refusal
  else if c = '-' then readUnsigned true rest
  else if isDigit c then readUnsigned false (c :: rest)
  else if c = 't' then readName (.bool true) "rue".toList rest
  else if c = 'f' then readName (.bool false) "alse".toList rest
  else if c = 'n' then readName .null "ull".toList rest
  -- The names of the values that are no fractions are taken, though no standard has them.
  else if c = 'N' then readName (.number (.real .unordered)) "aN".toList rest
  else if c = 'I' then readName (.number (.real (.infinite false))) "nfinity".toList rest
  else refuse .expectedValue (c :: rest)

mutual

/-- A value at the front of a text, inside which containers may be nested to a depth. -/
def readValue (fuel depth : Nat) (text : List Char) : Reading Json :=
  match fuel, text with
  | _, [] => refuse .endOfValue []
  | 0, text => refuse .tooDeep text
  | fuel + 1, c :: rest =>
    if c = '[' then
      match skipBlanks rest with
      | [] => refuse .endOfList []
      | ']' :: after => .ok (.array [], after)
      | first :: after =>
        match readItems fuel depth (first :: after) with
        | .ok (items, after) => .ok (.array items, after)
        | .error refusal => .error refusal
    else if c = '\x7b' then
      match skipBlanks rest with
      | [] => refuse .endOfObject []
      | '\x7d' :: after => .ok (.object [], after)
      | first :: after =>
        match readMembers fuel depth (first :: after) with
        | .ok (members, after) => .ok (.object members, after)
        | .error refusal => .error refusal
    else readScalar c rest

/-- A value inside a container, which takes up one level of the depth. -/
def readInner (fuel depth : Nat) (text : List Char) : Reading Json :=
  -- An empty container needs no level, and an unfinished text is refused for its end.
  match fuel, depth, text with
  | _, _, [] => refuse .endOfValue []
  | 0, _, text => refuse .tooDeep text
  | _ + 1, 0, text => refuse .tooDeep text
  | fuel + 1, depth + 1, text => readValue fuel depth text

/-- The items of an array from one of them on, up to the closing bracket. -/
def readItems (fuel depth : Nat) (text : List Char) : Reading (List Json) :=
  match fuel with
  | 0 => refuse .tooDeep text
  | fuel + 1 =>
    match readInner fuel depth text with
    | .error refusal => .error refusal
    | .ok (item, afterItem) =>
      match skipBlanks afterItem with
      | [] => refuse .endOfList []
      | ']' :: rest => .ok ([item], rest)
      | ',' :: rest =>
        match skipBlanks rest with
        | [] => refuse .endOfValue []
        | ']' :: after => refuse .trailingComma (']' :: after)
        | next :: after =>
          match readItems fuel depth (next :: after) with
          | .ok (items, rest) => .ok (item :: items, rest)
          | .error refusal => .error refusal
      | other :: rest => refuse .expectedCommaOrBracket (other :: rest)

/-- The members of an object from one of them on, up to the closing brace. -/
def readMembers (fuel depth : Nat) (text : List Char) : Reading (List (String × Json)) :=
  match fuel, text with
  -- There is always fuel for a text within the depth.
  | 0, text => refuse .tooDeep text
  | fuel + 1, '\x22' :: rest =>
    match readString .plain rest with
    | .error refusal => .error refusal
    | .ok (name, afterName) =>
      match skipBlanks afterName with
      | [] => refuse .endOfObject []
      | ':' :: beforeValue =>
        match readInner fuel depth (skipBlanks beforeValue) with
        | .error refusal => .error refusal
        | .ok (value, afterValue) =>
          match skipBlanks afterValue with
          | [] => refuse .endOfObject []
          | '\x7d' :: rest => .ok ([(String.ofList name, value)], rest)
          | ',' :: rest =>
            match skipBlanks rest with
            | [] => refuse .endOfValue []
            -- A brace behind a comma would end the object with a member missing.
            | '\x7d' :: after => refuse .trailingComma ('\x7d' :: after)
            | next :: after =>
              match readMembers fuel depth (next :: after) with
              | .ok (members, rest) => .ok ((String.ofList name, value) :: members, rest)
              | .error refusal => .error refusal
          | other :: rest => refuse .expectedCommaOrBrace (other :: rest)
      | other :: rest => refuse .expectedColon (other :: rest)
  -- Only a string may name a member.
  | _ + 1, text => refuse .keyNotString text

end

/-- How many containers that hold something may stand inside one another. -/
def depthLimit : Nat := 200

/-- The value that a whole text writes. -/
def readText (text : List Char) : Except Refusal Json :=
  -- Each character costs at most three turns, so the turns never run out.
  match readValue (3 * text.length + 3) depthLimit (skipBlanks text) with
  | .error refusal => .error refusal
  | .ok (value, after) =>
    match skipBlanks after with
    | [] => .ok value
    | other :: rest => .error ⟨.trailingText, other :: rest⟩

/-- The line and the column, in bytes, at which a refusal stands in its text. -/
def Refusal.position (refusal : Refusal) (text : List Char) : Nat × Nat :=
  -- An offending line break already belongs to the next line, before its first column.
  let before := text.take (text.length - refusal.rest.length)
  let breaks := before.countP (· == '\n')
  let column := byteCount (before.reverse.takeWhile (· ≠ '\n'))
  match refusal.rest with
  | [] => (breaks + 1, column)
  | '\n' :: _ => (breaks + 2, 0)
  | _ :: _ => (breaks + 1, column + 1)

/-- The message of a refusal. -/
def Refusal.message (refusal : Refusal) (text : List Char) : String :=
  let (line, column) := refusal.position text
  "Invalid JSON: " ++ refusal.reason.text ++ " at line " ++ toString line ++ " column " ++
    toString column

/-- The value that a string writes, or the message of its refusal. -/
def read (text : String) : Except String Json :=
  match readText text.toList with
  | .ok value => .ok value
  | .error refusal => .error (refusal.message text.toList)

end ContainerScan.Json
