import ContainerScan.Time.Timestamp

/-! Clocks that count the seconds from their start, as exactly as they can keep them. -/

namespace ContainerScan

/-- A clock: the seconds since its start, and how it keeps and shows them. -/
structure Clock where
  time : Rat := 0
  /-- What the clock keeps of a number of seconds. -/
  kept : Rat → Rat := id
  /-- The moment of the calendar that belongs to a time. -/
  moment : Rat → Timestamp := .ofClock

namespace Clock

/-- The clock that keeps every number of seconds as it is. -/
def exact : Clock := {}

/-- The clock that keeps seconds in double precision. -/
def double : Clock where
  kept := Binary64.rounded

/-- The time that a clock shows when some seconds have passed. -/
def timeAfter (clock : Clock) (seconds : Rat) : Rat :=
  clock.kept (clock.time + seconds)

/-- A clock when some seconds have passed. -/
def after (clock : Clock) (seconds : Rat) : Clock :=
  { clock with time := clock.timeAfter seconds }

/-- Whether a delay is over before a limit is; where there is no time at all, only no delay is. -/
def isWithin (clock : Clock) (limit delay : Rat) : Bool :=
  if limit ≤ 0 then delay ≤ 0 else clock.timeAfter delay < clock.timeAfter limit

/-- The seconds that a clock counts until a time. -/
def secondsUntil (clock : Clock) (time : Rat) : Rat :=
  clock.kept (time - clock.time)

/-- The moment that a clock shows. -/
def now (clock : Clock) : Timestamp :=
  clock.moment clock.time

/-- A time in whole milliseconds. -/
def milliseconds (time : Rat) : Int :=
  Timestamp.nearestInt (Binary64.rounded (time * 1000))

end Clock

end ContainerScan
