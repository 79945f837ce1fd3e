import ContainerScan.Analyzer.RetireJs
import ContainerScan.Proofs.Json.Recognition
import ContainerScan.Proofs.Json.Renderer
import ContainerScan.Proofs.Report.Shape

/-! Which texts are accepted as reports: those that write a value of the shape of a report. A number
with too many digits is not read at all, wherever it stands. -/

namespace ContainerScan

namespace Json

mutual

/-- Whether no object in a value has two members of one name. -/
def isDistinct : Json → Bool
  | .array items => areDistinct items
  | .object members => membersDistinct members
  | _ => true

/-- Whether no object in one of the items has two members of one name. -/
def areDistinct : List Json → Bool
  | [] => true
  | item :: items => item.isDistinct && areDistinct items

/-- Whether the names of members differ, and no object in one of them has two of one name. -/
def membersDistinct : List (String × Json) → Bool
  | [] => true
  | (name, value) :: members =>
    value.isDistinct && (members.all fun member => member.1 ≠ name) && membersDistinct members

end

section LongNumbers

open ContainerScan.Text

/-- Too many digits are refused as a number. -/
theorem readUnsigned_long (negative : Bool) {digits tail : List Char} (areDigits : AreDigits digits)
    (long : numberLimit < digits.length) (ended : ∀ c ∈ tail.head?, isDigit c = false) :
    ∃ refusal, readUnsigned negative (digits ++ tail) = .error refusal := by
  have spanned := spanDigits_append areDigits.all ended
  match digits with
  | [] | [_] => simp [numberLimit] at long
  | c :: d :: more =>
    have first := areDigits.all c (by simp)
    by_cases zero : c = '0'
    · -- A zero in front refuses the digit behind it.
      subst zero
      have second := areDigits.all d (by simp)
      have closed : opensReal (d :: (more ++ tail)) = false := by
        have noPoint : d ≠ '.' := by rintro rfl; cases second
        have noSmall : d ≠ 'e' := by rintro rfl; cases second
        have noCapital : d ≠ 'E' := by rintro rfl; cases second
        simp [opensReal, noPoint, noSmall, noCapital]
      simp [readUnsigned, closed, second, refuse]
    · -- Otherwise all digits are taken, and they are too many.
      rw [List.cons_append] at spanned ⊢
      simp only [readUnsigned, zero, first, spanned, long, if_true, if_false]
      exact ⟨_, rfl⟩

/-- The digits of a count are digits. -/
theorem areDigits_renderNat (value : Nat) : AreDigits (renderNat value) where
  -- Every number is shown in at least one digit.
  nonempty := Nat.toDigits_ne_nil
  all := fun c member => by
    have digit := Nat.isDigit_of_mem_toDigits (by decide) (by decide) member
    simpa [Char.isDigit, isDigit, Char.le_def] using digit

/-- In front of digits nothing is passed over. -/
theorem skipBlanks_digits {digits : List Char} (areDigits : AreDigits digits) (tail : List Char) :
    skipBlanks (digits ++ tail) = digits ++ tail := by
  obtain ⟨c, rest, opened, first, -⟩ := readScalar_minus false areDigits
  obtain rfl : digits = c :: rest := opened
  exact skipBlanks_cons (opens_spec (by simp [opens, first])).1 _

/-- A number with too many digits is refused inside a container. -/
theorem readInner_long (fuel depth : Nat) {digits tail : List Char} (areDigits : AreDigits digits)
    (long : numberLimit < digits.length) (ended : ∀ c ∈ tail.head?, isDigit c = false) :
    ∃ refusal, readInner (fuel + 2) (depth + 1) (digits ++ tail) = .error refusal := by
  obtain ⟨refusal, refused⟩ := readUnsigned_long false areDigits long ended
  obtain ⟨c, rest, opened, first, scalar⟩ := readScalar_minus false areDigits
  obtain rfl : digits = c :: rest := opened
  -- A digit opens no container, so the number itself is read.
  have noBracket : c ≠ '[' := by rintro rfl; cases first
  have noBrace : c ≠ '\x7b' := by rintro rfl; cases first
  rw [← scalar] at refused
  exact ⟨refusal, by simp [readInner, readValue, noBracket, noBrace, refused]⟩

/-- A count that is large enough has many digits. -/
theorem lt_length_renderNat {value digits : Nat} (some : 0 < digits)
    (long : Nat.pow 10 digits ≤ value) : digits < (renderNat value).length := by
  -- A number of so many digits is below that power of ten.
  by_contra short
  have small : value < Nat.pow 10 digits :=
    (Nat.length_toDigits_le_iff (by decide) some).mp (Nat.le_of_not_lt short)
  exact Nat.not_lt.mpr long small

/-- How an object with one number is written. -/
theorem render_number_toList (name : String) (value : Nat) :
    (render (.object [(name, .nat value)])).toList =
      '\x7b' :: '\x22' :: (name.toList.flatMap renderChar ++
        '\x22' :: ':' :: (renderNat value ++ ['\x7d'])) := by
  -- A number that is not negative is shown without a sign.
  have unsigned : renderChars (.nat value) = renderNat value := by
    have noMinus : ¬(value : Int) < 0 := by omega
    simp [nat, int, renderChars, renderInt, noMinus]
  simp [render, renderChars, renderMembers, joinParts, renderString, unsigned]

/-- An object with a number that has too many digits is not read. -/
theorem read_long_number (name : String) {value : Nat} (long : Nat.pow 10 numberLimit ≤ value) :
    ∃ message, read (render (.object [(name, .nat value)])) = .error message := by
  have areDigits := areDigits_renderNat value
  have tooLong : numberLimit < (renderNat value).length :=
    lt_length_renderNat (by decide) long
  have parts := render_number_toList name value
  obtain ⟨fuel, enough⟩ :
      ∃ fuel, 3 * (render (.object [(name, .nat value)])).toList.length + 3 = fuel + 4 := by
    rw [parts]
    exact ⟨_, rfl⟩
  -- The readers go through the name to the number, and stop there.
  have closed : ∀ c ∈ ['\x7d'].head?, isDigit c = false := by
    rintro c ⟨⟩
    rfl
  obtain ⟨refusal, refused⟩ := readInner_long fuel 199 areDigits tooLong closed
  have named := readString_of_spells (spells_render name.toList)
    (':' :: (renderNat value ++ ['\x7d']))
  have quote := skipBlanks_cons (rfl : isSeparator '\x22' = false)
  have brace := skipBlanks_cons (rfl : isSeparator '\x7b' = false)
  have colon := skipBlanks_cons (rfl : isSeparator ':' = false)
  have number := skipBlanks_digits areDigits ['\x7d']
  have text : readText (render (.object [(name, .nat value)])).toList = .error refusal := by
    unfold readText depthLimit
    rw [enough, parts, brace]
    simp [readValue, readMembers, quote, named, colon, number, refused]
  exact ⟨_, by rw [read, text]⟩

end LongNumbers

/-- A rendering is a text that writes the value. -/
theorem Renders.isWrittenWithin {value : Json} (renders : value.Renders) (most : Bool → Nat) :
    value.IsWrittenWithin most value.render :=
  ⟨[], renderChars value, [], by simp [render], isGap_nil, renders most, isGap_nil⟩

end Json

namespace RetireJs

/-- A text is read as the value that it writes is checked. -/
theorem read_of_isWrittenAs {raw : String} {value : Json} (written : value.IsWrittenAs raw)
    (shallow : value.nesting ≤ Json.depthLimit) :
    analyzer.read raw = match Report.decode value with
      | .ok document => .ok document.findings
      | .error violations => .error ⟨"retirejs", complaint violations⟩ := by
  have isRead := Json.read_eq_ok_iff.mpr ⟨written, shallow⟩
  simp only [analyzer, read, Report.ofText, isRead]
  rfl

/-- A text that is not read as a value is refused. -/
theorem read_of_unread {raw message : String} (unread : Json.read raw = .error message) :
    ∃ complaint, analyzer.read raw = .error ⟨"retirejs", complaint⟩ := by
  simp only [analyzer, read, Report.ofText, unread]
  exact ⟨_, rfl⟩

/-- Of the texts that write a value with short numbers exactly those of a report are accepted,
whichever way they write it; a text that writes none with numbers of few enough digits, or one that is
nested too deep, is refused, and every refusal is one of this analyzer. -/
theorem read_accepts (raw : String) :
    (∀ value : Json, value.IsWrittenBriefly raw → value.nesting ≤ Json.depthLimit →
      ((∃ findings, analyzer.read raw = .ok findings) ↔ Report.Fits .document value)) ∧
    ((∀ value : Json, value.IsWrittenAs raw → Json.depthLimit < value.nesting) →
      ¬∃ findings, analyzer.read raw = .ok findings) ∧
    ((∃ findings, analyzer.read raw = .ok findings) ∨
      ∃ message, analyzer.read raw = .error ⟨"retirejs", message⟩) := by
  -- A text writes at most one value within the limit: the one that is read from it.
  refine ⟨fun value written shallow => ?_, fun unwritten => ?_, ?_⟩
  · rw [read_of_isWrittenAs written.isWrittenAs shallow, ← Report.isRight_decode_iff]
    cases Report.decode value <;> simp
  · rintro ⟨findings, accepted⟩
    cases isRead : Json.read raw with
    | ok value =>
      obtain ⟨written, shallow⟩ := Json.read_eq_ok_iff.mp isRead
      exact Nat.not_lt.mpr shallow (unwritten value written)
    | error message =>
      obtain ⟨complaint, refused⟩ := read_of_unread isRead
      rw [refused] at accepted
      cases accepted
  · -- Reading always ends, and each ending has its answer.
    cases isRead : Json.read raw with
    | ok value =>
      obtain ⟨written, shallow⟩ := Json.read_eq_ok_iff.mp isRead
      rw [read_of_isWrittenAs written shallow]
      cases Report.decode value with
      | ok document => exact Or.inl ⟨_, rfl⟩
      | error violations => exact Or.inr ⟨_, rfl⟩
    | error message => exact Or.inr (read_of_unread isRead)

/-- A report with a null and an unknown name is accepted, and a text that writes nothing is not. -/
theorem read_accepts_null :
    let report : Json :=
      .object [("data", .array [.object [("file", .null)]]), ("x", .array [.bool true])]
    report.IsWrittenBriefly report.render ∧ report.nesting ≤ Json.depthLimit ∧
      Report.Fits .document report ∧ (∃ findings, analyzer.read report.render = .ok findings) ∧
      (∀ value : Json, value.IsWrittenAs "" → Json.depthLimit < value.nesting) ∧
      ∃ message, analyzer.read "" = .error ⟨"retirejs", message⟩ := by
  intro report
  -- The report is written as it is rendered, from the inside out.
  have written : report.IsWrittenBriefly report.render := by
    have file : (Json.object [("file", .null)]).Renders :=
      Json.renders_object _ (by simpa using Json.renders_null)
    have data := Json.renders_array [_] (by simpa using file)
    have own := Json.renders_array [.bool true] (by simpa using Json.renders_yes)
    exact (Json.renders_object [("data", _), ("x", _)] (by simpa using ⟨data, own⟩)).isWrittenWithin
      _
  have shallow : report.nesting ≤ Json.depthLimit := by decide
  have fits : Report.Fits .document report := (Report.isRight_decode_iff report).mp ⟨_, rfl⟩
  have unwritten (value : Json) (written : value.IsWrittenAs "") :
      Json.depthLimit < value.nesting := by
    -- Nothing is read from an empty text, so it writes nothing within the limit.
    by_contra shallow
    have isRead := Json.read_eq_ok_iff.mpr ⟨written, Nat.le_of_not_lt shallow⟩
    simp [Json.read, Json.readText, Json.skipBlanks, Json.readValue, Json.refuse] at isRead
  have refused := (read_accepts "").2.2.resolve_left ((read_accepts "").2.1 unwritten)
  exact ⟨written, shallow, fits, ((read_accepts _).1 report written shallow).mpr fits, unwritten,
    refused⟩

/-- Messages may be anything, but a number among them that has too many digits is not read. -/
theorem read_long_message :
    let report : Json := .object [("messages", .nat (Nat.pow 10 Json.numberLimit))]
    report.isDistinct = true ∧ report.nesting ≤ Json.depthLimit ∧ Report.Fits .document report ∧
      ∃ message, analyzer.read report.render = .error ⟨"retirejs", message⟩ := by
  -- Messages may be of any shape, so only the reader can refuse this one.
  intro report
  have fits (value : Json) : Report.Fits .document (.object [("messages", value)]) :=
    (Report.isRight_decode_iff _).mp ⟨_, rfl⟩
  obtain ⟨message, unread⟩ := Json.read_long_number "messages" (Nat.le_refl _)
  exact ⟨rfl, Nat.le_add_left 1 199, fits _, read_of_unread unread⟩

end RetireJs

end ContainerScan
