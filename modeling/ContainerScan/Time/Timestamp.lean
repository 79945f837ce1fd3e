import ContainerScan.Number.Binary64
import ContainerScan.Time.CalendarDate

/-! Moments on the calendar, with or without an offset from universal time, and how they are written. -/

namespace ContainerScan

/-- A moment as a clock on the wall shows it, in microseconds from the start of 1970, and how far
that clock is ahead of universal time, if that is known. -/
structure Timestamp where
  micros : Int
  offset : Option Int
  deriving DecidableEq, Repr

namespace Timestamp

/-- The microseconds of one second. -/
def second : Int := 1000000

/-- The microseconds of one day. -/
def day : Int := 86400 * second

/-- The whole number nearest to a rational number, where a tie goes to the even neighbour. -/
def nearestInt (value : Rat) : Int :=
  let size := Binary64.nearest value.num.natAbs value.den
  if value < 0 then -(size : Int) else size

/-- The moment at which every clock of this library starts, 2024-01-01 in universal time. -/
def epoch : Int := (CalendarDate.mk 2024 1 1).toDays * day

/-- Seconds in whole microseconds, to which only the part of a second is rounded. -/
def microseconds (seconds : Rat) : Int :=
  let whole := seconds.num.tdiv seconds.den
  whole * second + nearestInt (Binary64.rounded ((seconds - whole) * 1000000))

/-- The moment that many seconds after the start of the clock. -/
def ofClock (seconds : Rat) : Timestamp :=
  ⟨epoch + microseconds seconds, some 0⟩

/-- A moment in universal time given in seconds from the start of 1970. -/
def ofSeconds (seconds : Rat) : Timestamp :=
  ⟨microseconds seconds, some 0⟩

/-- The date of a moment. -/
def date (moment : Timestamp) : CalendarDate :=
  CalendarDate.ofDays (moment.micros.fdiv day)

/-- The microseconds of a moment since midnight. -/
def sinceMidnight (moment : Timestamp) : Nat :=
  (moment.micros.fmod day).toNat

/-- The same clock without its distance from universal time. -/
def withoutOffset (moment : Timestamp) : Timestamp :=
  { moment with offset := none }

/-- A count in at least so many digits. -/
def padded (width value : Nat) : String :=
  let digits := (toString value).toList
  String.ofList (List.replicate (width - digits.length) '0' ++ digits)

/-- Hours, minutes and seconds with colons between them. -/
def clockText (seconds : Nat) : String :=
  padded 2 (seconds / 3600) ++ ":" ++ padded 2 (seconds / 60 % 60) ++ ":" ++ padded 2 (seconds % 60)

/-- Year, month and day with hyphens between them, and the year in at least so many digits. -/
def dateText (yearDigits : Nat) (date : CalendarDate) : String :=
  padded yearDigits date.year.toNat ++ "-" ++ padded 2 date.month.toNat ++ "-" ++
    padded 2 date.day.toNat

/-- A part of a second, which is written only where there is one. -/
def fractionText (micros : Nat) : String :=
  if micros = 0 then "" else "." ++ padded 6 micros

/-- An offset with its sign, in hours and minutes and only where needed in seconds. -/
def offsetText (offset : Int) : String :=
  let size := offset.natAbs
  let seconds := size / 1000000
  let short := padded 2 (seconds / 3600) ++ ":" ++ padded 2 (seconds / 60 % 60)
  let exact := size % 60000000 ≠ 0
  (if offset < 0 then "-" else "+") ++
    (if exact then clockText seconds ++ fractionText (size % 1000000) else short)

/-- A moment in full, with a mark between date and time. -/
def full (mark : String) (moment : Timestamp) : String :=
  let micros := moment.sinceMidnight
  dateText 4 moment.date ++ mark ++ clockText (micros / 1000000) ++
    fractionText (micros % 1000000) ++ (moment.offset.map offsetText).getD ""

/-- A moment with a `T` between date and time, and with its offset. -/
def iso (moment : Timestamp) : String :=
  moment.full "T"

/-- A moment in whole seconds as a reader of a table wants it. -/
def shown (moment : Timestamp) : String :=
  -- A year before the thousandth has as few digits as it needs.
  dateText 1 moment.date ++ " " ++ clockText (moment.sinceMidnight / 1000000)

end Timestamp

end ContainerScan
