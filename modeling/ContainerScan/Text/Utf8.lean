/-! Reading bytes as text in UTF-8, where each damaged part becomes one replacement character. -/

namespace ContainerScan.Text.Utf8

/-- The character that stands for bytes which are no text. -/
def replacement : Char := Char.ofNat 0xFFFD

/-- Where a reader stands between two bytes. -/
inductive State where
  /-- Between two characters. -/
  | start
  /-- Inside a character: bytes still owed, the range the next one must lie in, the bits so far. -/
  | inside (owed low high bits : Nat)
  deriving DecidableEq, Repr

/-- The characters and the state after a byte that may open a character. -/
def opening (byte : Nat) : List Char × State :=
  -- Some first bytes narrow the second one, which keeps out long forms and surrogates.
  if byte ≤ 0x7F then ([Char.ofNat byte], .start)
  else if 0xC2 ≤ byte ∧ byte ≤ 0xDF then ([], .inside 1 0x80 0xBF (byte - 0xC0))
  else if byte = 0xE0 then ([], .inside 2 0xA0 0xBF 0)
  else if byte = 0xED then ([], .inside 2 0x80 0x9F 0xD)
  else if 0xE1 ≤ byte ∧ byte ≤ 0xEF then ([], .inside 2 0x80 0xBF (byte - 0xE0))
  else if byte = 0xF0 then ([], .inside 3 0x90 0xBF 0)
  else if 0xF1 ≤ byte ∧ byte ≤ 0xF3 then ([], .inside 3 0x80 0xBF (byte - 0xF0))
  else if byte = 0xF4 then ([], .inside 3 0x80 0x8F 4)
  else ([replacement], .start)

/-- The characters that a byte completes, and the state after it. -/
def step : State → Nat → List Char × State
  | .start, byte => opening byte
  | .inside owed low high bits, byte =>
    if low ≤ byte ∧ byte ≤ high then
      if owed ≤ 1 then ([Char.ofNat (bits * 64 + (byte - 0x80))], .start)
      else ([], .inside (owed - 1) 0x80 0xBF (bits * 64 + (byte - 0x80)))
    else
      -- The unfinished character is given up, and the byte is read again as a first byte.
      let (texts, next) := opening byte
      (replacement :: texts, next)

/-- The text of the remaining bytes from a given state. -/
def decodeFrom : State → List UInt8 → List Char
  | .start, [] => []
  | .inside .., [] => [replacement]
  | state, byte :: rest =>
    let (texts, next) := step state byte.toNat
    texts ++ decodeFrom next rest

/-- The text that bytes stand for. -/
def decode (bytes : List UInt8) : String :=
  String.ofList (decodeFrom .start bytes)

/-- The bytes of a text. -/
def encode (text : List Char) : List UInt8 :=
  text.flatMap String.utf8EncodeChar

end ContainerScan.Text.Utf8
