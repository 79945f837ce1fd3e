import ContainerScan.Image
import ContainerScan.World

/-! Waiting for an image: it is looked up again and again, and pulled while it is missing, until a
deadline. -/

namespace ContainerScan

/-- A daemon failure is logged and becomes the failure of a named operation. -/
def World.asOperation {α : Type} (logger : Logger) (message : String) (fields : Event)
    (name : String) (cid : Json) (act : Step World α) : Step World α :=
  Step.onDaemonFailure act fun _ text => do
    World.log logger .error message (fields ++ [("error", .string text)])
    throw (.operation name text cid)

/-- An image that is wanted, and how long to wait for it. -/
structure Availability where
  image : Image
  /-- Seconds between two checks. -/
  interval : Binary64
  /-- Seconds until the image must be there. -/
  timeout : Binary64
  logger : Logger

/-- When a wait is to end. -/
inductive Deadline where
  | at (time : Rat)
  /-- Before every time. -/
  | passed
  /-- After every time. -/
  | never
  /-- Neither before nor after any time. -/
  | unordered
  deriving DecidableEq, Repr

namespace Deadline

/-- The deadline that is a time, if there is one. -/
def ofTime? : Option Rat → Deadline
  | some time => .at time
  | none => .never

/-- The seconds left until a deadline, where there is a limit to them. -/
def secondsLeft (clock : Clock) : Deadline → Option Rat
  | .at time => some (clock.secondsUntil time)
  | .passed => some 0
  | .never | .unordered => none

/-- The seconds that a pull may take, given those that are left. -/
def limit (left : Option Rat) : Deadline → Option Rat
  -- What compares with nothing has not passed, and still leaves a pull no time.
  | .unordered => some 0
  | _ => left

end Deadline

/-- What comes after a check for an image. -/
inductive Attempt where
  | available
  /-- The deadline has passed. -/
  | expired
  | again
  deriving DecidableEq, Repr

/-- How many parts a reply has, if it is of a kind that has parts. -/
def Reply.length? : Reply → Option Nat
  | .bytes content => some content.length
  | .value (.array items) => some items.length
  | .value (.object members) => some members.length
  | .value (.string text) => some text.length
  | .value _ => none

namespace Availability

/-- The wait for an image under some settings. -/
def of (image : Image) (settings : Settings) (logger : Logger) : Availability where
  image := image
  interval := settings.pullInterval
  timeout := settings.pullTimeout
  logger := logger.bind [("image", .string image.reference)]

/-- The name of the logger where none is given. -/
def loggerName : String := "scangate.container.images"

/-- Whether the daemon has an image of exactly this name and tag. -/
def isLoaded (wanted : Availability) : Step World Bool := do
  let images ← World.asOperation wanted.logger "Image lookup failed" [] "image list" .null
    (World.call .images [] [("name", .string wanted.image.reference)])
  match images.length? with
  | some count => return 0 < count
  | none => throw .wrongKind

/-- A check for the image, which fails while it is missing. -/
def check (wanted : Availability) : Step World Unit := do
  if !(← wanted.isLoaded) then throw (.imageMissing wanted.image.reference)

/-- The pull is announced. -/
def announcePull (wanted : Availability) : Step World Unit :=
  World.log wanted.logger .info "Pulling image"
    [("pull", .string wanted.image.pullReference), ("tag", .text? wanted.image.pullTag)]

/-- What a pull asks for. -/
def pullArguments (wanted : Availability) : List Json × List (String × Json) :=
  ([.string wanted.image.pullReference], [("tag", .text? wanted.image.pullTag)])

/-- The call of a pull, which is given up after a limit if there is one. -/
def pullCall (wanted : Availability) (limit : Option Rat) : Step World (Option Reply) :=
  let (positional, named) := wanted.pullArguments
  match limit with
  | some seconds => World.callWithin seconds .pull positional named
  | none => some <$> World.call .pull positional named

/-- A pull that may be given up after some seconds; whether it ended by itself. -/
def pullWithin (wanted : Availability) (limit : Option Rat) : Step World Bool := do
  wanted.announcePull
  let reply ← World.asOperation wanted.logger "Image pull failed" [] "image pull" .null
    (wanted.pullCall limit)
  return reply.isSome

/-- A pull that takes as long as it takes. -/
def pull (wanted : Availability) : Step World Unit :=
  discard (wanted.pullWithin none)

/-- Whether a pull ended by itself; one that itself reports to have taken too long counts as given
up. -/
def pullInTime (wanted : Availability) (limit : Option Rat) : Step World Bool :=
  Step.handling Failure.isTimedOut (wanted.pullWithin limit) fun _ => return false

/-- The time until the next check, which does not go beyond the deadline. -/
def pauseLength (interval rest : Rat) : Rat :=
  if rest ≤ 0 then 0 else if interval ≤ rest then interval else rest

/-- The pause before the next check; one without end is cut off by the deadline alone. -/
def pause (interval : Binary64) (remaining : Option Rat) : Step World Unit :=
  if interval.atMostZero ∨ interval = .unordered then World.sleep 0
  else match interval.toRat?, remaining with
    | some seconds, some rest => World.sleep (pauseLength seconds rest)
    | some seconds, none => World.sleep seconds
    | none, some rest => World.sleep (pauseLength rest rest)
    | none, none => throw .endless

/-- The seconds left until the deadline, where there is a limit to them. -/
def remaining (deadline : Deadline) : Step World (Option Rat) := do
  return deadline.secondsLeft (← get).clock

/-- Whether a check finds the image; only that it is missing is no failure here. -/
def isPresent (wanted : Availability) : Step World Bool :=
  Step.handling Failure.isImageMissing (do wanted.check; return true) fun _ => return false

/-- Whether the image was found, which is logged either way. -/
def found (wanted : Availability) (number : Nat) : Step World Bool := do
  let present ← wanted.isPresent
  World.log wanted.logger .info (if present then "Image available" else "Image not loaded yet")
    [("attempt", .nat number)]
  return present

/-- A pull and a pause, where the deadline cuts both short. -/
def pullAndPause (wanted : Availability) (deadline : Deadline) (number : Nat) :
    Step World Attempt := do
  if ← wanted.pullInTime (deadline.limit (← remaining deadline)) then
    -- That the image is there is left to the next check to find out.
    pause wanted.interval (← remaining deadline)
    return .again
  else
    World.log wanted.logger .warning "Image pull still running at deadline"
      [("attempt", .nat number)]
    return .expired

/-- One check and, if the image is missing and time is left, a pull and a pause. -/
def attempt (wanted : Availability) (deadline : Deadline) (number : Nat) :
    Step World Attempt := do
  if ← wanted.found number then return .available
  else if (← remaining deadline).any fun left => decide (left ≤ 0) then return .expired
  else wanted.pullAndPause deadline number

/-- The failure to get the image in time. -/
def giveUp (wanted : Availability) (number : Nat) : Step World Unit := do
  World.log wanted.logger .error "Timed out waiting for image"
    [("timeout", .number (.real wanted.timeout)), ("attempts", .nat number)]
  throw (.pullCutOff wanted.image.reference (.real wanted.timeout))

/-- Attempts from a number on, of which there are only so many left. -/
def attempts (wanted : Availability) (deadline : Deadline) : Nat → Nat → Step World Unit
  | 0, _ => throw .endless
  | left + 1, number => do
    match ← wanted.attempt deadline number with
    | .available => return
    | .expired => wanted.giveUp number
    | .again => wanted.attempts deadline left (number + 1)

/-- The attempts after which waiting counts as endless where no deadline, or no pause between the
attempts, keeps their number down; the wait itself would go on. -/
def patience : Nat := 100000

/-- How many attempts there can be: one for each interval that begins before the deadline, one at the
deadline, and as many again for what the clock does not keep. -/
def mostAttempts (wanted : Availability) : Nat :=
  match wanted.interval.toRat?, wanted.timeout.toRat? with
  | some interval, some timeout =>
    if 0 < interval then 2 * ((timeout / interval).ceil.toNat + 1) else patience
  | none, some _ => if wanted.interval = .infinite false then 4 else patience
  -- A wait with an infinite timeout is cut off here, although it has no end of its own.
  | _, none => patience

/-- The time at which the wait ends, if its timeout is finite. -/
def endTime? (wanted : Availability) (clock : Clock) : Option Rat :=
  wanted.timeout.toRat?.map clock.timeAfter

/-- When the wait is to end: a timeout that is not finite leads to no time of the clock. -/
def deadline (wanted : Availability) (clock : Clock) : Deadline :=
  match wanted.timeout with
  | .infinite true => .passed
  | .unordered => .unordered
  | _ => .ofTime? (wanted.endTime? clock)

/-- Returns once the image is there, after so many attempts at most. -/
def ensureWithin (wanted : Availability) (most : Nat) : Step World Unit := do
  let clock := (← get).clock
  wanted.attempts (wanted.deadline clock) most 1

/-- Returns once the image is there; a missing image is waited for, a failing daemon is not. -/
def ensure (wanted : Availability) : Step World Unit :=
  wanted.ensureWithin wanted.mostAttempts

end Availability

end ContainerScan
