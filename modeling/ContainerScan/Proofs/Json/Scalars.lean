import ContainerScan.Proofs.Json.Grammar
import Mathlib.Tactic.Common

/-! Strings and numbers are read back from every text that writes them. -/

namespace ContainerScan.Json

open ContainerScan.Text

section Strings

/-- Four digits are read up to the last one, whatever is done with their code then. -/
theorem readString_code {digits : List Char} {code : Nat} (isCode : IsCode digits code) :
    ∃ last digit before, hexValue? last = some digit ∧ before * 16 + digit = code ∧
      ∀ leading rest, readString (.code 4 0 leading) (digits ++ rest) =
        readString (.code 1 before leading) (last :: rest) := by
  obtain ⟨four, value⟩ := isCode
  -- Each digit but the last only adds to the value; the last one decides what the code is.
  match digits, four with
  | [first, second, third, last], _ =>
    simp only [hexCode?, Option.bind_eq_some_iff, Option.some.injEq] at value
    obtain ⟨one, isOne, two, isTwo, three, isThree, digit, isDigit, rfl⟩ := value
    refine ⟨last, digit, _, isDigit, rfl, fun leading rest => ?_⟩
    simp [readString, isOne, isTwo, isThree]

/-- Where four digits follow there are four bytes left. -/
theorem fourBytesLeft_code {digits : List Char} {code : Nat} (isCode : IsCode digits code)
    (rest : List Char) : fourBytesLeft (digits ++ rest) = true := by
  obtain ⟨four, -⟩ := isCode
  -- Every character has at least one byte.
  match digits, four with
  | [first, second, third, last], _ =>
    have one := first.utf8Size_pos
    have two := second.utf8Size_pos
    have three := third.utf8Size_pos
    have four := last.utf8Size_pos
    have count : byteCount ((first :: second :: third :: last :: rest).take 4) =
        0 + first.utf8Size + second.utf8Size + third.utf8Size + last.utf8Size := rfl
    have enough : 4 ≤ byteCount ((first :: second :: third :: last :: rest).take 4) := by omega
    exact decide_eq_true enough

/-- The code of a character is in the range of the codes, and not that of half a pair. -/
theorem code_valid (c : Char) :
    c.toNat < 0xD800 ∨ (0xDFFF < c.toNat ∧ c.toNat < 0x110000) := by
  have valid := c.valid
  simp only [UInt32.isValidChar, Nat.isValidChar] at valid
  exact valid

/-- No character has the code of one half of a pair. -/
theorem not_half (c : Char) : isLeadingHalf c.toNat = false ∧ isTrailingHalf c.toNat = false := by
  have valid := code_valid c
  simp only [isLeadingHalf, isTrailingHalf, Bool.and_eq_false_iff, decide_eq_false_iff_not]
  omega

/-- A character is read from its code. -/
theorem readString_of_code {c : Char} {digits : List Char} (isCode : IsCode digits c.toNat)
    (rest : List Char) :
    readString .plain ('\\' :: 'u' :: digits ++ rest) = prepend c (readString .plain rest) := by
  obtain ⟨last, digit, before, isDigit, value, reads⟩ := readString_code isCode
  have left := fourBytesLeft_code isCode rest
  have opened : readString .plain ('\\' :: 'u' :: digits ++ rest) =
      readString (.code 4 0 none) (digits ++ rest) := by
    simp [readString, letterEscape?, left]
  obtain ⟨notLeading, notTrailing⟩ := not_half c
  -- A whole character is neither half of a pair.
  rw [opened, reads]
  simp [readString, isDigit, value, notLeading, notTrailing]

/-- A character is read from the pair of its halves. -/
theorem readString_of_pair {c : Char} {high low : List Char} (wide : 0x10000 ≤ c.toNat)
    (leading : IsCode high (0xD800 + (c.toNat - 0x10000) / 0x400))
    (trailing : IsCode low (0xDC00 + (c.toNat - 0x10000) % 0x400)) (rest : List Char) :
    readString .plain ('\\' :: 'u' :: high ++ '\\' :: 'u' :: low ++ rest) =
      prepend c (readString .plain rest) := by
  have valid := code_valid c
  obtain ⟨last, digit, before, isDigit, value, reads⟩ := readString_code leading
  obtain ⟨final, mark, front, isMark, total, follows⟩ := readString_code trailing
  -- The code points of the halves tell the reader which half it has before it.
  have isLeading : isLeadingHalf (before * 16 + digit) = true := by
    rw [value]
    simp only [isLeadingHalf, Bool.and_eq_true, decide_eq_true_eq]
    omega
  have isTrailing : isTrailingHalf (front * 16 + mark) = true := by
    rw [total]
    simp only [isTrailingHalf, Bool.and_eq_true, decide_eq_true_eq]
    omega
  -- The first half is followed by a backslash and the second one.
  have opened : readString .plain ('\\' :: 'u' :: high ++ '\\' :: 'u' :: low ++ rest) =
      readString (.code 4 0 (some (before * 16 + digit))) (low ++ rest) := by
    have first : readString .plain ('\\' :: 'u' :: high ++ '\\' :: 'u' :: low ++ rest) =
        readString (.code 4 0 none) (high ++ '\\' :: 'u' :: (low ++ rest)) := by
      simp [readString, letterEscape?, fourBytesLeft_code leading]
    rw [first, reads]
    simp [readString, isDigit, isLeading, fourBytesLeft_code trailing]
  have joined : 0x10000 + (before * 16 + digit - 0xD800) * 0x400 + (front * 16 + mark - 0xDC00) =
      c.toNat := by
    rw [value, total]
    omega
  rw [opened, follows]
  simp [readString, isMark, isTrailing, joined]

/-- The characters of a string are read from every way in which they are written. -/
theorem readString_of_spells {text written : List Char} (spells : Spells text written)
    (rest : List Char) :
    readString .plain (written ++ '\x22' :: rest) = .ok (text, rest) := by
  -- Each way of writing a character is read by a branch of the reader of its own.
  induction spells with
  | nil => rfl
  | plain noQuote noBackslash shown _ ih =>
    simp [readString, noQuote, noBackslash, Nat.not_lt.mpr shown, ih, prepend]
  | letter stands _ ih => simp [readString, stands, ih, prepend]
  | code isCode _ ih =>
    rw [List.append_assoc, readString_of_code isCode, ih]
    rfl
  | pair wide leading trailing _ ih =>
    rw [List.append_assoc, readString_of_pair wide leading trailing, ih]
    rfl

end Strings

/-! Numbers, which end where neither a digit nor a point nor an exponent follows. -/

section Numbers

/-- A text with which no number goes on. -/
structure Ended (rest : List Char) : Prop where
  noDigit : ∀ c ∈ rest.head?, isDigit c = false
  noReal : opensReal rest = false

/-- What no number goes on with opens with neither a digit nor a point. -/
theorem Ended.head {rest : List Char} (ended : Ended rest) :
    ∀ c ∈ rest.head?, isDigit c = false ∧ c ≠ '.' := by
  intro c next
  refine ⟨ended.noDigit c next, ?_⟩
  rintro rfl
  -- A point would open the rest of a real number.
  cases rest with
  | nil => cases next
  | cons first rest =>
    cases next
    cases ended.noReal

/-- A run of digits is told from what is behind it. -/
theorem spanDigits_append {digits rest : List Char} (all : ∀ c ∈ digits, isDigit c = true)
    (ended : ∀ c ∈ rest.head?, isDigit c = false) :
    Number.spanDigits (digits ++ rest) = (digits, rest) := by
  -- No digit follows, so the run of digits does not go on.
  have none : rest.takeWhile isDigit = [] ∧ rest.dropWhile isDigit = rest := by
    cases rest with
    | nil => exact ⟨rfl, rfl⟩
    | cons c rest => simp [ended c rfl]
  rw [Number.spanDigits, List.takeWhile_append_of_pos all, List.dropWhile_append_of_pos all, none.1,
    none.2, List.append_nil]

/-- Digits are read up to what is behind them. -/
theorem readDigits_append {digits rest : List Char} (areDigits : AreDigits digits)
    (ended : ∀ c ∈ rest.head?, isDigit c = false) :
    readDigits (digits ++ rest) = .ok (digits, rest) := by
  -- There is a first digit, and the run of digits ends where they do.
  have spanned := spanDigits_append areDigits.all ended
  cases digits with
  | nil => exact absurd rfl areDigits.nonempty
  | cons c digits =>
    rw [List.cons_append] at spanned ⊢
    simp only [readDigits, areDigits.all c (List.mem_cons_self ..), if_true, spanned]

/-- The places of a number are read up to its exponent. -/
theorem readPlaces_of_isFraction {places fraction rest : List Char}
    (isFraction : IsFraction places fraction)
    (ended : ∀ c ∈ rest.head?, isDigit c = false ∧ c ≠ '.') :
    readPlaces (fraction ++ rest) = .ok (places, rest) := by
  -- Without a point there are no places, and whatever follows is left alone.
  cases isFraction with
  | none =>
    cases rest with
    | nil => rfl
    | cons c rest =>
      have noPoint := (ended c rfl).2
      simp [readPlaces, noPoint]
  | some areDigits => exact readDigits_append areDigits fun c next => (ended c next).1

/-- A digit is no sign. -/
theorem splitSign_append {digits rest : List Char} (areDigits : AreDigits digits) :
    Number.splitSign (digits ++ rest) = (false, digits ++ rest) := by
  -- A digit is no sign.
  cases digits with
  | nil => exact absurd rfl areDigits.nonempty
  | cons c digits =>
    have isDigit := areDigits.all c (List.mem_cons_self ..)
    have noMinus : c ≠ '-' := by rintro rfl; cases isDigit
    have noPlus : c ≠ '+' := by rintro rfl; cases isDigit
    simp [Number.splitSign, noMinus, noPlus]

/-- The exponent of a number is read up to its end. -/
theorem readExponent_of_isExponent {exponent : Int} {power rest : List Char}
    (isExponent : IsExponent exponent power) (ended : Ended rest) :
    readExponent (power ++ rest) = .ok (exponent, rest) := by
  cases isExponent with
  | none =>
    cases rest with
    | nil => rfl
    | cons c rest =>
      have noMark := ended.noReal
      simp only [opensReal, Bool.or_eq_false_iff, beq_eq_false_iff_ne] at noMark
      simp [readExponent, noMark.1.2, noMark.2]
  | some marks signs areDigits =>
    have digits := readDigits_append areDigits ended.noDigit
    -- A sign is split off if there is one; a digit is not taken for one.
    rcases signs with rfl | rfl | rfl
    · have split := @splitSign_append _ rest areDigits
      simp [readExponent, marks, split, readPower, digits, Number.signed]
    · simp [readExponent, marks, Number.splitSign, readPower, digits, Number.signed]
    · simp [readExponent, marks, Number.splitSign, readPower, digits, Number.signed]

/-- Behind its units a number is whole, unless a point or an exponent follows. -/
theorem readUnsigned_units (negative : Bool) {digits tail : List Char} (units : AreUnits numberLimit digits)
    (noDigit : ∀ c ∈ tail.head?, isDigit c = false) :
    readUnsigned negative (digits ++ tail) =
      if opensReal tail then readReal negative digits tail
      else .ok (.int (Number.signed negative (Number.digitsValue digits)), tail) := by
  have spanned := spanDigits_append units.all noDigit
  cases digits with
  | nil => exact absurd rfl units.nonempty
  | cons c more =>
    have isDigit := units.all c (List.mem_cons_self ..)
    by_cases zero : c = '0'
    · -- A zero in front is all there is before the point.
      subst zero
      obtain rfl := units.noZero more rfl
      have none : tail.head?.any Text.isDigit = false := by
        cases tail with
        | nil => rfl
        | cons next tail => simpa using noDigit next rfl
      have value : Number.signed negative (Number.digitsValue ['0']) = 0 := by
        cases negative <;> rfl
      simp [readUnsigned, none, value]
    · -- Any other digit in front lets the reader take all of them, up to its limit.
      have fits : ¬numberLimit < (c :: more).length := Nat.not_lt.mpr units.bounded
      rw [List.cons_append] at spanned ⊢
      simp only [readUnsigned, zero, isDigit, spanned, fits, if_false, if_true]
      rfl

/-- The rest of a number with a point or an exponent is read up to its end. -/
theorem readReal_append (negative : Bool) (digits : List Char)
    {places fraction power rest : List Char} {exponent : Int}
    (isFraction : IsFraction places fraction)
    (isExponent : IsExponent exponent power) (ended : Ended rest) :
    readReal negative digits (fraction ++ power ++ rest) =
      .ok (.number (.real (.ofDecimal negative (Number.digitsValue (digits ++ places))
        (exponent - places.length))), rest) := by
  -- The exponent, or what ends the number, opens with neither a digit nor a point.
  have apart : ∀ c ∈ (power ++ rest).head?, isDigit c = false ∧ c ≠ '.' := by
    cases isExponent with
    | none => exact ended.head
    | some marks => rcases marks with rfl | rfl <;> (rintro c ⟨⟩; decide)
  have behindPlaces := readPlaces_of_isFraction isFraction apart
  have behindPower := readExponent_of_isExponent isExponent ended
  rw [List.append_assoc]
  simp [readReal, behindPlaces, behindPower]

/-- A number behind its sign is read from every way in which it is written. -/
theorem readUnsigned_real (negative : Bool) {digits places fraction power rest : List Char}
    {exponent : Int} (units : AreUnits numberLimit digits) (isFraction : IsFraction places fraction)
    (isExponent : IsExponent exponent power) (notWhole : fraction ++ power ≠ [])
    (ended : Ended rest) :
    readUnsigned negative (digits ++ (fraction ++ power ++ rest)) =
      .ok (.number (.real (.ofDecimal negative (Number.digitsValue (digits ++ places))
        (exponent - places.length))), rest) := by
  -- A point or a mark follows the units, since one of the two parts is there.
  have opens : opensReal (fraction ++ power ++ rest) = true ∧
      ∀ c ∈ (fraction ++ power ++ rest).head?, isDigit c = false := by
    cases isFraction with
    | some => exact ⟨rfl, by rintro c ⟨⟩; rfl⟩
    | none =>
      cases isExponent with
      | none => exact absurd rfl notWhole
      | some marks => rcases marks with rfl | rfl <;> exact ⟨rfl, by rintro c ⟨⟩; rfl⟩
  rw [readUnsigned_units negative units opens.2, if_pos opens.1,
    readReal_append negative digits isFraction isExponent ended]

/-- Whether a character can open a value that is no container. -/
def opensScalar (c : Char) : Bool :=
  !(isSeparator c || ['[', ']', '\x7b', '\x7d'].contains c)

/-- A digit opens a value. -/
theorem opensScalar_digit {c : Char} (digit : isDigit c = true) : opensScalar c = true := by
  -- Each of the characters that open nothing, or a container, is no digit.
  by_contra other
  have cases : c = ' ' ∨ c = '\t' ∨ c = '\n' ∨ c = '\r' ∨ c = '[' ∨ c = ']' ∨ c = '\x7b' ∨
      c = '\x7d' := by
    simpa [opensScalar, isSeparator, or_assoc, imp_iff_not_or] using other
  rcases cases with rfl | rfl | rfl | rfl | rfl | rfl | rfl | rfl <;> cases digit

/-- A number is read from its digits on, or from its minus on. -/
theorem readScalar_minus (negative : Bool) {digits : List Char} (areDigits : AreDigits digits) :
    ∃ c rest, minus negative ++ digits = c :: rest ∧ opensScalar c = true ∧
      ∀ tail, readScalar c (rest ++ tail) = readUnsigned negative (digits ++ tail) := by
  -- A minus is passed over; without one the first digit stays with the number.
  cases negative with
  | true => exact ⟨'-', digits, rfl, rfl, fun _ => rfl⟩
  | false =>
    cases digits with
    | nil => exact absurd rfl areDigits.nonempty
    | cons c digits =>
      have digit := areDigits.all c (List.mem_cons_self ..)
      refine ⟨c, digits, rfl, opensScalar_digit digit, fun tail => ?_⟩
      have noQuote : c ≠ '\x22' := by rintro rfl; cases digit
      have noMinus : c ≠ '-' := by rintro rfl; cases digit
      simp [readScalar, noQuote, noMinus, digit]

/-- A number is read back from every way in which it is written. -/
theorem Numeral.reads {number : Number} {text : List Char} (numeral : Numeral byDigits number text) :
    ∃ c tail, text = c :: tail ∧ opensScalar c = true ∧
      ∀ rest, Ended rest → readScalar c (tail ++ rest) = .ok (.number number, rest) := by
  -- The first character tells a number, and the rest of it is read up to its end.
  cases numeral with
  | whole negative units =>
    obtain ⟨c, tail, same, opens, reads⟩ := readScalar_minus negative units.toAreDigits
    refine ⟨c, tail, same, opens, fun rest ended => ?_⟩
    rw [reads, readUnsigned_units negative units ended.noDigit, ended.noReal]
    rfl
  | @real digits places fraction power exponent negative units isFraction isExponent notWhole =>
    obtain ⟨c, tail, same, opens, reads⟩ := readScalar_minus negative units.toAreDigits
    refine ⟨c, tail ++ fraction ++ power, by rw [same]; rfl, opens, fun rest ended => ?_⟩
    rw [List.append_assoc, List.append_assoc, reads, ← List.append_assoc fraction,
      readUnsigned_real negative units isFraction isExponent notWhole ended]
  | infinite negative => cases negative <;> exact ⟨_, _, rfl, rfl, fun rest _ => rfl⟩
  | unordered => exact ⟨_, _, rfl, rfl, fun rest _ => rfl⟩

end Numbers

end ContainerScan.Json
