import ContainerScan.Proofs.Json.Scalars
import ContainerScan.Proofs.Text.Words

/-! Whatever is read as a string or a number has been written as one. -/

namespace ContainerScan.Json

open ContainerScan.Text

section Strings

/-- A hexadecimal digit has a value below sixteen. -/
theorem hexValue?_lt {c : Char} {digit : Nat} (value : hexValue? c = some digit) : digit < 16 := by
  -- Decimal digits, small letters and capitals have a range of code points each.
  unfold hexValue? at value
  split at value
  · next isDecimal =>
    simp only [isDigit, Bool.and_eq_true, decide_eq_true_eq] at isDecimal
    have last : c.toNat ≤ '9'.toNat := isDecimal.2
    simp only [digitValue, Option.some.injEq] at value
    have nine : '9'.toNat = 57 := rfl
    have zero : '0'.toNat = 48 := rfl
    omega
  · -- The letters count from ten on.
    split at value
    · next small =>
      have last : c.toNat ≤ 'f'.toNat := small.2
      have f : 'f'.toNat = 102 := rfl
      have a : 'a'.toNat = 97 := rfl
      simp only [Option.some.injEq] at value
      omega
    · split at value
      · next capital =>
        have last : c.toNat ≤ 'F'.toNat := capital.2
        have f : 'F'.toNat = 70 := rfl
        have a : 'A'.toNat = 65 := rfl
        simp only [Option.some.injEq] at value
        omega
      · cases value

/-- One more digit behind others counts as such. -/
theorem hexCode?_snoc {digits : List Char} {start before digit : Nat} {c : Char}
    (read : hexCode? start digits = some before) (value : hexValue? c = some digit) :
    hexCode? start (digits ++ [c]) = some (before * 16 + digit) := by
  -- The induction carries along the value of the digits that were read before.
  induction digits generalizing start with
  | nil =>
    obtain rfl : start = before := Option.some.inj read
    simp [hexCode?, value]
  | cons first digits ih =>
    obtain ⟨one, isOne, rest⟩ := Option.bind_eq_some_iff.mp read
    simp [hexCode?, isOne, ih rest]

/-- A code has sixteen bits. -/
theorem IsCode.lt {digits : List Char} {code : Nat} (isCode : IsCode digits code) :
    code < 0x10000 := by
  obtain ⟨four, value⟩ := isCode
  match digits, four with
  | [first, second, third, last], _ =>
    simp only [hexCode?, Option.bind_eq_some_iff, Option.some.injEq] at value
    obtain ⟨one, isOne, two, isTwo, three, isThree, digit, isDigit, rfl⟩ := value
    -- Each of the four digits has four bits.
    have one := hexValue?_lt isOne
    have two := hexValue?_lt isTwo
    have three := hexValue?_lt isThree
    have four := hexValue?_lt isDigit
    omega

/-- The leading half of a pair, if there is one, and how it is written. -/
inductive Led : Option Nat → List Char → Prop where
  | none : Led none []
  | some {high : List Char} {leading : Nat} (code : IsCode high leading)
      (half : isLeadingHalf leading = true) : Led (some leading) ('\\' :: 'u' :: high)

/-- What a reader has passed of a character when it stands inside of it. -/
inductive Passed : Within → List Char → Prop where
  | plain : Passed .plain []
  | escape : Passed .escape ['\\']
  | code {leading : Option Nat} {front digits : List Char} {owed value : Nat}
      (led : Led leading front) (count : digits.length + owed = 4) (more : 1 ≤ owed)
      (isValue : hexCode? 0 digits = some value) :
      Passed (.code owed value leading) (front ++ '\\' :: 'u' :: digits)
  | pair {front : List Char} {leading : Nat} (led : Led (some leading) front) :
      Passed (.pair leading) front
  | pairEscape {front : List Char} {leading : Nat} (led : Led (some leading) front) :
      Passed (.pairEscape leading) (front ++ ['\\'])

/-- A character in front of a text that is read further on comes from there. -/
theorem prepend_eq_ok {c : Char} {reading : Reading (List Char)} {content rest : List Char}
    (read : prepend c reading = .ok (content, rest)) :
    ∃ more, reading = .ok (more, rest) ∧ content = c :: more := by
  -- A refusal stays one.
  cases reading with
  | error refusal => cases read
  | ok found =>
    cases read
    exact ⟨_, rfl, rfl⟩

/-- What becomes of a reader with the next character: it closes the string, goes on inside of a
character, or has read a whole one. -/
def Steps (within : Within) (front : List Char) (c : Char) (rest content final : List Char) : Prop :=
  (within = .plain ∧ c = '\x22' ∧ content = [] ∧ final = rest) ∨
  (∃ next, Passed next (front ++ [c]) ∧ readString next rest = .ok (content, final)) ∨
  ∃ d more, content = d :: more ∧ readString .plain rest = .ok (more, final) ∧
    ∀ text written, Spells text written → Spells (d :: text) (front ++ c :: written)

section Step

variable {c : Char} {rest content final : List Char}

/-- Between two characters the next one stands for itself, or opens an escape. -/
theorem steps_plain (read : readString .plain (c :: rest) = .ok (content, final)) :
    Steps .plain [] c rest content final := by
  -- A quote closes, a backslash opens, and a control character is refused.
  simp only [readString] at read
  split at read
  · next quote =>
    cases read
    exact Or.inl ⟨rfl, quote, rfl, rfl⟩
  · next noQuote =>
    split at read
    · next backslash =>
      subst backslash
      exact Or.inr (Or.inl ⟨.escape, .escape, read⟩)
    · next noBackslash =>
      split at read
      · cases read
      · next shown =>
        obtain ⟨more, follows, same⟩ := prepend_eq_ok read
        exact Or.inr (Or.inr ⟨c, more, same, follows, fun _ _ spells =>
          .plain noQuote noBackslash (Nat.le_of_not_lt shown) spells⟩)

/-- Behind a backslash a letter stands for a character, or opens a code. -/
theorem steps_escape (read : readString .escape (c :: rest) = .ok (content, final)) :
    Steps .escape ['\\'] c rest content final := by
  -- Only the letter that opens a code stands for no character by itself.
  simp only [readString] at read
  split at read
  · next escaped stands =>
    obtain ⟨more, follows, same⟩ := prepend_eq_ok read
    exact Or.inr (Or.inr ⟨escaped, more, same, follows, fun _ _ spells => .letter stands spells⟩)
  · split at read
    · next isCode =>
      subst isCode
      split at read
      · exact Or.inr (Or.inl ⟨.code 4 0 none, .code .none rfl (by decide) rfl, read⟩)
      · cases read
    · cases read

/-- The last digit of a code completes a character, or the leading half of a pair. -/
theorem steps_lastDigit {leading : Option Nat} {front digits : List Char} {value digit : Nat}
    (led : Led leading front) (isCode : IsCode (digits ++ [c]) (value * 16 + digit))
    (isDigit : hexValue? c = some digit)
    (read : readString (.code 1 value leading) (c :: rest) = .ok (content, final)) :
    Steps (.code 1 value leading) (front ++ '\\' :: 'u' :: digits) c rest content final := by
  have bound := isCode.lt
  simp only [readString, isDigit, Nat.lt_irrefl, if_false] at read
  -- Behind a leading half the code must be a trailing one, and else it may be a leading one itself.
  cases led with
  | none =>
    simp only at read
    split at read
    · next half =>
      have passed : Passed (.pair (value * 16 + digit)) ('\\' :: 'u' :: (digits ++ [c])) :=
        .pair (.some isCode half)
      exact Or.inr (Or.inl ⟨_, by simpa using passed, read⟩)
    · next noLeading =>
      split at read
      · cases read
      · next noTrailing =>
        -- What is no half of a pair is the code of a character.
        simp only [isLeadingHalf, isTrailingHalf, Bool.and_eq_true, decide_eq_true_eq]
          at noLeading noTrailing
        have valid : (value * 16 + digit).isValidChar := by
          unfold Nat.isValidChar
          omega
        obtain ⟨more, follows, same⟩ := prepend_eq_ok read
        refine Or.inr (Or.inr ⟨_, more, same, follows, fun text written spells => ?_⟩)
        rw [← toNat_ofNat_of_valid valid] at isCode
        simpa using Spells.code isCode spells
  | @some high leading code half =>
    simp only at read
    split at read
    · next trailing =>
      simp only [isLeadingHalf, isTrailingHalf, Bool.and_eq_true, decide_eq_true_eq]
        at half trailing
      let joined := 0x10000 + (leading - 0xD800) * 0x400 + (value * 16 + digit - 0xDC00)
      have valid : joined.isValidChar := by
        unfold Nat.isValidChar joined
        omega
      have told : (Char.ofNat joined).toNat = joined := toNat_ofNat_of_valid valid
      -- The two halves are told from the character that they make together.
      have first : 0xD800 + (joined - 0x10000) / 0x400 = leading := by
        unfold joined
        omega
      have second : 0xDC00 + (joined - 0x10000) % 0x400 = value * 16 + digit := by
        unfold joined
        omega
      obtain ⟨more, follows, same⟩ := prepend_eq_ok read
      refine Or.inr (Or.inr ⟨_, more, same, follows, fun text written spells => ?_⟩)
      have wide : 0x10000 ≤ (Char.ofNat joined).toNat := by
        rw [told]
        unfold joined
        omega
      rw [← first, ← told] at code
      rw [← second, ← told] at isCode
      simpa using Spells.pair wide code isCode spells
    · cases read

/-- A digit of a code is one of several, or the last one. -/
theorem steps_code {leading : Option Nat} {front digits : List Char} {owed value : Nat}
    (led : Led leading front) (count : digits.length + owed = 4) (more : 1 ≤ owed)
    (isValue : hexCode? 0 digits = some value)
    (read : readString (.code owed value leading) (c :: rest) = .ok (content, final)) :
    Steps (.code owed value leading) (front ++ '\\' :: 'u' :: digits) c rest content final := by
  cases isDigit : hexValue? c with
  | none =>
    simp only [readString, isDigit] at read
    cases read
  | some digit =>
    have longer := hexCode?_snoc isValue isDigit
    have length : (digits ++ [c]).length = digits.length + 1 := by simp
    -- Digits passed and digits owed are four in all, before this digit and behind it.
    by_cases others : 1 < owed
    · simp only [readString, isDigit, others, if_true] at read
      have passed : Passed (.code (owed - 1) (value * 16 + digit) leading)
          (front ++ '\\' :: 'u' :: (digits ++ [c])) := .code led (by omega) (by omega) longer
      exact Or.inr (Or.inl ⟨_, by simpa using passed, read⟩)
    · obtain rfl : owed = 1 := by omega
      exact steps_lastDigit led ⟨by omega, longer⟩ isDigit read

/-- Behind a leading half another code must follow. -/
theorem steps_pair {front : List Char} {leading : Nat} (led : Led (some leading) front)
    (read : readString (.pair leading) (c :: rest) = .ok (content, final)) :
    Steps (.pair leading) front c rest content final := by
  -- Behind a leading half only a backslash may follow.
  simp only [readString] at read
  split at read
  · next backslash =>
    subst backslash
    exact Or.inr (Or.inl ⟨_, .pairEscape led, read⟩)
  · cases read

/-- Behind the backslash after a leading half a code opens. -/
theorem steps_pairEscape {front : List Char} {leading : Nat} (led : Led (some leading) front)
    (read : readString (.pairEscape leading) (c :: rest) = .ok (content, final)) :
    Steps (.pairEscape leading) (front ++ ['\\']) c rest content final := by
  -- Only the escape of another code may follow the backslash.
  simp only [readString] at read
  split at read
  · next isCode =>
    subst isCode
    split at read
    · have passed : Passed (.code 4 0 (some leading)) (front ++ '\\' :: 'u' :: []) :=
        .code led rfl (by decide) rfl
      exact Or.inr (Or.inl ⟨_, by simpa using passed, read⟩)
    · cases read
  · cases read

/-- Wherever a reader stands, the next character closes the string or takes it on. -/
theorem readString_steps {within : Within} {front : List Char} (passed : Passed within front)
    (read : readString within (c :: rest) = .ok (content, final)) :
    Steps within front c rest content final := by
  -- Each state inside a string has its own lemma.
  cases passed with
  | plain => exact steps_plain read
  | escape => exact steps_escape read
  | code led count more isValue => exact steps_code led count more isValue read
  | pair led => exact steps_pair led read
  | pairEscape led => exact steps_pairEscape led read

end Step

/-- What has been passed of a character and what is read up to the closing quote spell a text. -/
theorem spells_of_passed {within : Within} {front text content final : List Char}
    (passed : Passed within front) (read : readString within text = .ok (content, final)) :
    ∃ written, front ++ text = written ++ '\x22' :: final ∧ Spells content written := by
  -- The induction is on the text, so that what has been passed grows by each character.
  induction text generalizing within front content with
  | nil =>
    cases within <;> cases read
  | cons c rest ih =>
    rcases readString_steps passed read with
      ⟨rfl, rfl, rfl, rfl⟩ | ⟨next, longer, follows⟩ | ⟨d, more, rfl, follows, spelled⟩
    · -- Between two characters nothing of one has been passed.
      cases passed
      exact ⟨[], rfl, .nil⟩
    · obtain ⟨written, parts, spells⟩ := ih longer follows
      exact ⟨written, by simpa using parts, spells⟩
    · obtain ⟨written, parts, spells⟩ := ih .plain follows
      obtain rfl : rest = written ++ '\x22' :: final := parts
      exact ⟨front ++ c :: written, by simp, spelled _ _ spells⟩

/-- What is read as the characters of a string spells them up to the closing quote. -/
theorem spells_of_readString {text content final : List Char}
    (read : readString .plain text = .ok (content, final)) :
    ∃ written, text = written ++ '\x22' :: final ∧ Spells content written :=
  spells_of_passed .plain read

end Strings

section Numbers

/-- The digits from a digit on, and what follows them, are all of a text. -/
theorem spanDigits_of_digit {c : Char} (isDigit : Text.isDigit c = true) (tail : List Char) :
    AreDigits (Number.spanDigits (c :: tail)).1 ∧
      (Number.spanDigits (c :: tail)).1 ++ (Number.spanDigits (c :: tail)).2 = c :: tail ∧
      (Number.spanDigits (c :: tail)).1.head? = some c :=
  ⟨⟨by simp [Number.spanDigits, isDigit], fun _ member => List.mem_takeWhile_imp member⟩,
    List.takeWhile_append_dropWhile, by simp [Number.spanDigits, isDigit]⟩

/-- A run of digits and what follows it are all of a text. -/
theorem readDigits_eq_ok {text digits rest : List Char}
    (read : readDigits text = .ok (digits, rest)) : AreDigits digits ∧ text = digits ++ rest := by
  -- The first character is a digit, and then the run of digits is taken whole.
  cases text with
  | nil => cases read
  | cons c tail =>
    simp only [readDigits] at read
    split at read
    · next isDigit =>
      obtain ⟨run, parts, -⟩ := spanDigits_of_digit isDigit tail
      rw [Except.ok.inj read] at run parts
      exact ⟨run, parts.symm⟩
    · cases read

/-- The places of a number are those behind a point, if there is one. -/
theorem readPlaces_eq_ok {text places rest : List Char}
    (read : readPlaces text = .ok (places, rest)) :
    ∃ fraction, text = fraction ++ rest ∧ IsFraction places fraction ∧
      (fraction = [] → text.head? ≠ some '.') := by
  -- Without a point nothing is taken.
  unfold readPlaces at read
  split at read
  · next behind =>
    obtain ⟨areDigits, parts⟩ := readDigits_eq_ok read
    exact ⟨'.' :: places, by rw [parts]; rfl, .some areDigits, by simp⟩
  · next noPoint =>
    cases read
    refine ⟨[], rfl, .none, fun _ point => ?_⟩
    obtain ⟨behind, same⟩ := List.head?_eq_some_iff.mp point
    exact noPoint behind same

/-- A sign that is split off is one of the three ways to write it. -/
theorem splitSign_eq (text : List Char) :
    ∃ sign, text = sign ++ (Number.splitSign text).2 ∧
      (sign = [] ∨ sign = ['+'] ∨ sign = ['-']) ∧
      (Number.splitSign text).1 = decide (sign = ['-']) := by
  -- There is a minus, a plus or no sign at all.
  unfold Number.splitSign
  split
  · exact ⟨['-'], rfl, by simp, by simp⟩
  · exact ⟨['+'], rfl, by simp, by simp⟩
  · exact ⟨[], rfl, by simp, by simp⟩

/-- The exponent of a number is what its mark, sign and digits write, if there is a mark. -/
theorem readExponent_eq_ok {text rest : List Char} {exponent : Int}
    (read : readExponent text = .ok (exponent, rest)) :
    ∃ power, text = power ++ rest ∧ IsExponent exponent power ∧
      (power = [] → ∀ c ∈ text.head?, c ≠ 'e' ∧ c ≠ 'E') := by
  -- Without a mark there is no exponent, and behind one there must be digits.
  cases text with
  | nil =>
    cases read
    exact ⟨[], rfl, .none, by simp⟩
  | cons c tail =>
    simp only [readExponent] at read
    split at read
    · next marks =>
      obtain ⟨sign, parts, signs, isNegative⟩ := splitSign_eq tail
      unfold readPower at read
      split at read
      · next digits behind found =>
        obtain ⟨areDigits, run⟩ := readDigits_eq_ok found
        simp only [Except.ok.injEq, Prod.mk.injEq] at read
        obtain ⟨rfl, rfl⟩ := read
        refine ⟨c :: sign ++ digits, ?_, ?_, by simp⟩
        · -- The mark, the sign and the digits make up what was read.
          rw [List.append_assoc, ← run, List.cons_append, ← parts]
        · rw [isNegative]
          exact .some marks signs areDigits
      · cases read
    · next noMark =>
      cases read
      refine ⟨[], rfl, .none, fun _ d next => ?_⟩
      obtain rfl : c = d := Option.some.inj next
      exact not_or.mp noMark

/-- The rest of a number in double precision is its fraction and its exponent. -/
theorem readReal_eq_ok {negative : Bool} {whole text rest : List Char} {value : Json}
    (opens : opensReal text = true) (read : readReal negative whole text = .ok (value, rest)) :
    ∃ places fraction power exponent, text = fraction ++ power ++ rest ∧
      IsFraction places fraction ∧ IsExponent exponent power ∧ fraction ++ power ≠ [] ∧
      value = .number (.real (.ofDecimal negative (Number.digitsValue (whole ++ places))
        (exponent - places.length))) := by
  unfold readReal at read
  split at read
  · cases read
  · next places afterPlaces foundPlaces =>
    obtain ⟨fraction, placed, isFraction, noPoint⟩ := readPlaces_eq_ok foundPlaces
    split at read
    · cases read
    · next exponent afterPower foundPower =>
      obtain ⟨power, powered, isExponent, noMark⟩ := readExponent_eq_ok foundPower
      cases read
      refine ⟨places, fraction, power, exponent, ?_, isFraction, isExponent, fun nothing => ?_, rfl⟩
      · rw [placed, powered, List.append_assoc]
      · -- Something opens the rest, so that one of its two parts is there.
        obtain ⟨rfl, rfl⟩ := List.append_eq_nil_iff.mp nothing
        cases text with
        | nil => cases opens
        | cons c tail =>
          have point := noPoint rfl
          have marks := noMark rfl c (by rw [← List.nil_append afterPlaces, ← placed]; rfl)
          simp only [List.head?_cons, ne_eq, Option.some.injEq] at point
          simp [opensReal, point, marks.1, marks.2] at opens

/-- A name is read only where it stands. -/
theorem readName_eq_ok {value found : Json} {name text rest : List Char}
    (read : readName value name text = .ok (found, rest)) : found = value ∧ text = name ++ rest := by
  -- Each character of the name must be the next one of the text.
  induction name generalizing text with
  | nil =>
    cases read
    exact ⟨rfl, rfl⟩
  | cons expected name ih =>
    cases text with
    | nil => cases read
    | cons c tail =>
      simp only [readName] at read
      split at read
      · next same =>
        obtain ⟨isValue, parts⟩ := ih read
        exact ⟨isValue, by rw [same, parts]; rfl⟩
      · cases read

/-- A number in double precision is written by its units and the rest of it. -/
theorem numeral_of_readReal {negative : Bool} {digits text rest : List Char} {value : Json}
    (units : AreUnits numberLimit digits) (opens : opensReal text = true)
    (read : readReal negative digits text = .ok (value, rest)) :
    ∃ written number, digits ++ text = written ++ rest ∧ value = .number number ∧
      Numeral byDigits number (minus negative ++ written) := by
  -- What was read behind the whole part makes the number a real one.
  obtain ⟨places, fraction, power, exponent, rfl, isFraction, isExponent, notWhole, rfl⟩ :=
    readReal_eq_ok opens read
  refine ⟨digits ++ fraction ++ power, _, by simp, rfl, ?_⟩
  have numeral : Numeral byDigits _ _ := .real negative units isFraction isExponent notWhole
  simpa using numeral

/-- What is read behind the sign of a number writes it. -/
theorem numeral_of_readUnsigned {negative : Bool} {text rest : List Char} {value : Json}
    (read : readUnsigned negative text = .ok (value, rest)) :
    ∃ written number, text = written ++ rest ∧ value = .number number ∧
      Numeral byDigits number (minus negative ++ written) := by
  cases text with
  | nil => cases read
  | cons c tail =>
    simp only [readUnsigned] at read
    split at read
    · next zero =>
      subst zero
      -- A zero has no digits behind it, and is whole unless a point or an exponent follows.
      have units : AreUnits numberLimit ['0'] := ⟨⟨by simp, by simp [Text.isDigit]⟩, by simp, by decide⟩
      split at read
      · next opens => exact numeral_of_readReal units opens read
      · split at read
        · cases read
        · cases read
          have numeral : Numeral byDigits _ _ := .whole negative units
          have none : Number.signed negative (Number.digitsValue ['0']) = 0 := by
            cases negative <;> rfl
          rw [none] at numeral
          exact ⟨['0'], _, rfl, rfl, numeral⟩
    · next noZero =>
      split at read
      · next isDigit =>
        obtain ⟨run, parts, first⟩ := spanDigits_of_digit isDigit tail
        generalize Number.spanDigits (c :: tail) = span at read run parts first
        obtain ⟨digits, behind⟩ := span
        simp only at read run parts first
        by_cases tooLong : numberLimit < digits.length
        · rw [if_pos tooLong] at read
          cases read
        rw [if_neg tooLong] at read
        -- Few enough digits that open with another one than zero are units.
        have units : AreUnits numberLimit digits := by
          refine ⟨run, fun others same => ?_, Nat.le_of_not_lt tooLong⟩
          rw [same] at first
          exact absurd (Option.some.inj first).symm noZero
        split at read
        · next opens =>
          obtain ⟨written, number, same, found, numeral⟩ := numeral_of_readReal units opens read
          exact ⟨written, number, by rw [← parts, same], found, numeral⟩
        · simp only [Except.ok.injEq, Prod.mk.injEq] at read
          obtain ⟨rfl, rfl⟩ := read
          exact ⟨digits, _, parts.symm, rfl, .whole negative units⟩
      · -- Behind a minus the name of the infinite number may stand as well.
        split at read
        · next named =>
          simp only [Bool.and_eq_true, beq_iff_eq] at named
          obtain ⟨rfl, rfl⟩ := named
          obtain ⟨rfl, rfl⟩ := readName_eq_ok read
          exact ⟨"Infinity".toList, _, rfl, rfl, .infinite true⟩
        · cases read

/-- A name that is read writes its value, if the name as a whole does. -/
theorem writes_of_readName {c : Char} {value found : Json} {name text rest : List Char}
    (writes : Writes byDigits (.value value) (c :: name)) (read : readName value name text = .ok (found, rest)) :
    ∃ written, c :: text = written ++ rest ∧ Writes byDigits (.value found) written := by
  obtain ⟨rfl, rfl⟩ := readName_eq_ok read
  exact ⟨c :: name, rfl, writes⟩

/-- What is read as a value that is no container writes it. -/
theorem writes_of_readScalar {c : Char} {text rest : List Char} {value : Json}
    (read : readScalar c text = .ok (value, rest)) :
    ∃ written, c :: text = written ++ rest ∧ Writes byDigits (.value value) written := by
  -- The first character tells strings, numbers and the five names apart.
  unfold readScalar at read
  split at read
  · next quote =>
    subst quote
    split at read
    · next content after found =>
      cases read
      obtain ⟨written, rfl, spells⟩ := spells_of_readString found
      refine ⟨'\x22' :: written ++ ['\x22'], by simp, .string ?_⟩
      rwa [String.toList_ofList]
    · cases read
  · -- Everything but a string is told by one mark, and read as a number or as a name.
    split at read
    · next isMinus =>
      subst isMinus
      obtain ⟨written, number, rfl, rfl, numeral⟩ := numeral_of_readUnsigned read
      exact ⟨'-' :: written, rfl, .number numeral⟩
    · split at read
      · obtain ⟨written, number, same, rfl, numeral⟩ := numeral_of_readUnsigned read
        exact ⟨written, same, .number numeral⟩
      · split at read
        · next t =>
          subst t
          exact writes_of_readName .yes read
        · split at read
          · next f =>
            subst f
            exact writes_of_readName .no read
          · split at read
            · next n =>
              subst n
              exact writes_of_readName .null read
            · split at read
              · next n =>
                subst n
                exact writes_of_readName (.number .unordered) read
              · split at read
                · next i =>
                  subst i
                  exact writes_of_readName (.number (.infinite false)) read
                · cases read

end Numbers

end ContainerScan.Json
