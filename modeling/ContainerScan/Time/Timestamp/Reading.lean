import ContainerScan.Number.Reading
import ContainerScan.Time.Timestamp

/-! Moments from texts, in which the date may also be given by its week, and the marks be left out. -/

namespace ContainerScan.Timestamp

open Text

/-- A number of so many digits at the front of a text, and what follows it. -/
def fixedDigits? (count : Nat) (text : List Char) : Option (Nat × List Char) :=
  let digits := text.take count
  if digits.length = count ∧ digits.all isDigit then
    some (Number.digitsValue digits, text.drop count)
  else none

/-- What the front of a text says of a time of day, and whether that is all of the text. -/
structure ClockReading where
  parts : List Nat
  micros : Nat
  complete : Bool

/-- A part of a second in microseconds, of which digits after the sixth are cut off. -/
def fractionOf? (text : List Char) : Option ClockReading :=
  let digits := text.take 6
  if digits.all isDigit then
    some ⟨[], Number.digitsValue ((digits ++ List.replicate 6 '0').take 6),
      (text.drop 6).all isDigit⟩
  else none

/-- The parts of a time of day, two digits each, all with colons between them or none, and a fraction. -/
def clockParts? (colons : Bool) : Nat → List Char → Option ClockReading
  -- One character that follows a part is left over, whatever it is.
  | more, text =>
    match fixedDigits? 2 text with
    | none => none
    | some (value, []) => some ⟨[value], 0, true⟩
    | some (value, [_]) => some ⟨[value], 0, false⟩
    | some (value, c :: rest) =>
      let afterPart := if colons then rest else c :: rest
      let found? :=
        if c = '.' ∨ c = ',' then fractionOf? rest
        else if colons ∧ c ≠ ':' then none
        else match more with
          | 0 => fractionOf? afterPart
          | more + 1 => clockParts? colons more afterPart
      found?.map fun found => { found with parts := value :: found.parts }

/-- The time of day at the front of a text. -/
def readClock? (text : List Char) : Option ClockReading :=
  clockParts? ((text.drop 2).head? = some ':') 2 text

namespace ClockReading

/-- The hours, minutes or seconds of a reading, which are zero where they are not given. -/
def part (reading : ClockReading) (index : Nat) : Nat :=
  reading.parts[index]?.getD 0

/-- The microseconds of all parts together. -/
def total (reading : ClockReading) : Nat :=
  ((reading.part 0 * 60 + reading.part 1) * 60 + reading.part 2) * 1000000 + reading.micros

/-- Whether a clock can show a reading. -/
def isOnClock (reading : ClockReading) : Bool :=
  reading.part 0 < 24 && reading.part 1 < 60 && reading.part 2 < 60

end ClockReading

/-- The offset that a text after a sign gives, which is less than a day. -/
def signedOffset? (sign : Int) (text : List Char) : Option (Option Int) :=
  match readClock? text with
  | some reading =>
    if reading.complete ∧ (reading.total : Int) < day then some (some (sign * reading.total)) else none
  | none => none

/-- The offset that a text after a time of day gives. -/
def offsetOf? : List Char → Option (Option Int)
  | [] => some none
  | ['Z'] => some (some 0)
  | '+' :: text => signedOffset? 1 text
  | '-' :: text => signedOffset? (-1) text
  | _ => none

/-- The day of a week, its number written after the week, and what follows it; the first day if none is. -/
def weekdayOf? (hyphens : Bool) (text : List Char) : Option (Nat × List Char) :=
  -- A mark and an hour may follow the week: then two digits come after a hyphen, or else an odd count.
  let count := (text.takeWhile isDigit).length
  if hyphens then
    if text.head? = some '-' ∧ ¬(text.drop 2).head?.any isDigit then fixedDigits? 1 text.tail
    else some (1, text)
  else if count = 1 ∨ (0 < count ∧ count % 2 = 0) then fixedDigits? 1 text
  else some (1, text)

/-- A date in a year, the number of its week and perhaps its day in the week, and what follows it. -/
def weekDateOf? (year : Nat) (hyphens : Bool) (text : List Char) :
    Option (CalendarDate × List Char) := do
  let (week, afterWeek) ← fixedDigits? 2 text
  let (weekday, rest) ← weekdayOf? hyphens afterWeek
  if week = 0 ∨ weekday = 0 ∨ 7 < weekday ∨ !CalendarDate.hasWeek year week then none
  let date := CalendarDate.ofDays (CalendarDate.weekStart year week + weekday - 1)
  if 0 < year ∧ date.isValid then some (date, rest) else none

/-- A date in eight digits or by its week, with or without hyphens, and what follows it. -/
def dateOf? (text : List Char) : Option (CalendarDate × List Char) := do
  let (year, afterYear) ← fixedDigits? 4 text
  -- The first separator decides about the second one.
  let hyphens := afterYear.head? = some '-'
  let afterHyphen := if hyphens then afterYear.tail else afterYear
  if afterHyphen.head? = some 'W' then weekDateOf? year hyphens afterHyphen.tail
  else
  let (month, afterMonth) ← fixedDigits? 2 afterHyphen
  if hyphens ∧ afterMonth.head? ≠ some '-' then none
  let (dayOfMonth, rest) ← fixedDigits? 2 (if hyphens then afterMonth.tail else afterMonth)
  let date : CalendarDate := ⟨year, month, dayOfMonth⟩
  if date.isValid then some (date, rest) else none

/-- Whether a character ends a time of day and begins its offset. -/
def startsOffset (c : Char) : Bool :=
  c = '+' || c = '-' || c = 'Z'

/-- The moment that a text names: a date, or a date, one character, a time and an offset. -/
def ofText? (text : String) : Option Timestamp := do
  let (date, rest) ← dateOf? text.toList
  match rest with
  | [] => some ⟨date.toDays * day, none⟩
  | _ :: clock =>
    let timeText := clock.takeWhile fun c => !startsOffset c
    let reading ← readClock? timeText
    let offset ← offsetOf? (clock.drop timeText.length)
    -- What is left over of a time counts only where the text ends with it.
    if reading.isOnClock ∧ (reading.complete ∨ offset.isSome) then
      some ⟨date.toDays * day + reading.total, offset⟩
    else none

end ContainerScan.Timestamp
