import ContainerScan.Proofs.Availability.Rounds
import ContainerScan.Proofs.Number.Sign

/-! How long one attempt to get an image takes, on a clock that keeps every number of seconds as it
is: a lookup, then a pull that is cut off at the deadline, then a pause that ends by then. -/

namespace ContainerScan

open Step World

/-- A clock that keeps every number of seconds as it is. -/
def Clock.IsExact (clock : Clock) : Prop :=
  ∀ seconds, clock.kept seconds = seconds

/-- Whether a clock is exact depends on nothing but what it keeps. -/
theorem Clock.IsExact.of_kept {clock other : Clock} (exact : clock.IsExact)
    (same : other.kept = clock.kept) : other.IsExact := by
  rwa [Clock.IsExact, same]

/-- On an exact clock seconds are added to the time. -/
theorem Clock.IsExact.timeAfter {clock : Clock} (exact : clock.IsExact) (seconds : Rat) :
    clock.timeAfter seconds = clock.time + seconds :=
  exact _

/-- On an exact clock the time is taken from a later one. -/
theorem Clock.IsExact.secondsUntil {clock : Clock} (exact : clock.IsExact) (time : Rat) :
    clock.secondsUntil time = time - clock.time :=
  exact _

/-- On an exact clock what takes less than a limit is over before that. -/
theorem Clock.IsExact.isWithin_of_lt {clock : Clock} (exact : clock.IsExact) {limit delay : Rat}
    (less : delay < limit) : clock.isWithin limit delay = true := by
  -- Without any time for it, it would have to take less than none.
  unfold Clock.isWithin
  split
  · next none => exact decide_eq_true (less.le.trans none)
  · rw [decide_eq_true_eq, exact.timeAfter, exact.timeAfter]
    exact (add_lt_add_iff_left _).mpr less

/-- On an exact clock what takes as long as a limit, or longer, is not over before that. -/
theorem Clock.IsExact.not_isWithin_of_le {clock : Clock} (exact : clock.IsExact) {limit delay : Rat}
    (some : 0 < limit) (more : limit ≤ delay) : ¬clock.isWithin limit delay = true := by
  rw [Clock.isWithin, if_neg (not_le.mpr some), decide_eq_true_eq, exact.timeAfter,
    exact.timeAfter, not_lt]
  exact (add_le_add_iff_left _).mpr more

/-- A daemon that answers lookups and pulls when they have been asked, and not before. -/
def Script.TakesTime (script : Script) : Prop :=
  ∀ method ∈ Availability.methods, ∀ number, 0 ≤ (script.outcome method number).delay

/-- A daemon takes time if its lookups and its pulls do. -/
theorem Script.TakesTime.of_delays {script : Script}
    (looks : ∀ number, 0 ≤ (script.outcome .images number).delay)
    (pulls : ∀ number, 0 ≤ (script.outcome .pull number).delay) : script.TakesTime := by
  -- A wait asks by two methods only.
  intro method member
  rcases List.mem_cons.mp member with rfl | member
  · exact looks
  · cases List.mem_singleton.mp member
    exact pulls

/-- A failure of the daemon as a named operation tells it. -/
def Failure.within (name : String) (cid : Json) : Failure → Failure
  | .daemon _ text => .operation name text cid
  | failure => failure

/-- An operation does not tell any other failure as one for lack of time. -/
theorem Failure.isTimedOut_within (name : String) (cid : Json) (failure : Failure) :
    (failure.within name cid).isTimedOut = failure.isTimedOut := by
  cases failure <;> rfl

/-- An operation does not tell any other failure as that of a missing image. -/
theorem Failure.isImageMissing_within (name : String) (cid : Json) (failure : Failure) :
    (failure.within name cid).isImageMissing = failure.isImageMissing := by
  cases failure <;> rfl

namespace Exchange

/-- The time at which the outcome of a call is due. -/
def due (exchange : Exchange) : Rat :=
  exchange.call.time + exchange.outcome.delay

/-- What a lookup tells of an image: whether it is there, or why that is not known. -/
def presence (look : Exchange) : Except Failure Bool :=
  match look.outcome.result with
  | .ok reply =>
    match reply.length? with
    | some count => .ok (0 < count)
    | none => .error .wrongKind
  | .error failure =>
    if failure.isImageMissing then .ok false else .error (failure.within "image list" .null)

/-- What comes of a pull that is not cut off. -/
def pulled (pull : Exchange) : Except Failure Unit :=
  match pull.outcome.result with
  | .ok _ => .ok ()
  | .error failure => .error (failure.within "image pull" .null)

/-- A pull that itself reports to have taken too long. -/
def TimesOut (pull : Exchange) : Prop :=
  ∃ failure, pull.pulled = .error failure ∧ failure.isTimedOut = true

end Exchange

namespace World

variable {α : Type}

/-- A failure of a named operation is that of the activity in it, as the operation tells it. -/
theorem asOperation_of_error {act : Step World α} {world middle : World} {failure : Failure}
    (failed : act world = .error failure middle) (logger : Logger) (message : String)
    (fields : Event) (name : String) (cid : Json) :
    ∃ events, asOperation logger message fields name cid act world =
      .error (failure.within name cid) { middle with events := events } := by
  -- What the daemon fails with is logged and named; every other failure passes as it is.
  cases failure with
  | daemon fault text => exact asOperation_of_daemon failed ..
  | _ => exact ⟨middle.events, by simp only [asOperation, onDaemonFailure, failed, Failure.within]⟩

/-- What an exchange ended in is the daemon's outcome for a call of its method. -/
theorem exchanges_outcome {script : Script} {earlier later : List Call} {exchange : Exchange}
    (member : exchange ∈ script.exchanges earlier later) :
    ∃ number, exchange.outcome = script.outcome exchange.method number := by
  -- Each call is counted among those of its method that were made before it.
  induction later generalizing earlier with
  | nil => cases member
  | cons call later ih =>
    rcases List.mem_cons.mp member with rfl | member
    · exact ⟨_, rfl⟩
    · exact ih member

/-- Where the daemon takes time, the exchanges with it do. -/
theorem Exchanged.takesTime {made : List Exchange} {before after : World}
    (exchanged : Exchanged made before after) (takes : before.script.TakesTime)
    {exchange : Exchange} (member : exchange ∈ made)
    (asks : exchange.method ∈ Availability.methods) : 0 ≤ exchange.outcome.delay := by
  -- Whatever was made of an exchange, its outcome is one of the script's.
  rw [← exchanged.outcomes] at member
  obtain ⟨number, same⟩ := exchanges_outcome member
  rw [same]
  exact takes _ asks number

/-- Exchanges add to the number of calls of their methods. -/
theorem Exchanged.callCount {made : List Exchange} {before after : World}
    (exchanged : Exchanged made before after) (method : Method) :
    after.callCount method =
      before.callCount method + made.countP fun exchange => exchange.method = method := by
  rw [World.callCount, exchanged.calls, List.countP_append, List.countP_map]
  rfl

end World

namespace Availability

variable (wanted : Availability)

/-- A check is passed if the image is loaded, and answered by no if it is not. -/
theorem isPresent_of_loaded {world middle : World} {present : Bool}
    (loaded : wanted.isLoaded world = .ok present middle) :
    wanted.isPresent world = .ok present middle := by
  have checked : wanted.check world = _ := bind_of_ok loaded _
  cases present with
  | false =>
    -- The failure of the check is the one that is handled.
    have failed : (do wanted.check; return true : Step World Bool) world = _ :=
      bind_of_error checked _
    rw [isPresent, handling_of_error failed]
    rfl
  | true =>
    have passed : (do wanted.check; return true : Step World Bool) world = _ :=
      bind_of_ok checked _
    exact handling_of_ok passed _ _

/-- A check fails as the lookup does, unless that has failed for want of an image. -/
theorem isPresent_of_failed {world middle : World} {failure : Failure}
    (failed : wanted.isLoaded world = .error failure middle) :
    wanted.isPresent world =
      if failure.isImageMissing then .ok false middle else .error failure middle := by
  -- A lookup that failed is a check that failed, for the check begins by it.
  have checked : (do wanted.check; return true : Step World Bool) world = _ :=
    bind_of_error (bind_of_error failed _) _
  rw [isPresent, handling_of_error checked]
  rfl

/-- A check ends by what its lookup tells. -/
theorem isPresent_presence (world : World) :
    ∃ events, wanted.isPresent world = Step.ofExcept (world.exchange wanted.lookup).presence
      { world.afterQuery wanted.lookup with events := events } := by
  cases answered : (world.exchange wanted.lookup).outcome.result with
  | ok reply =>
    have listed := asOperation_of_ok (call_of_ok _ _ answered) wanted.logger
      "Image lookup failed" [] "image list" .null
    have loaded : wanted.isLoaded world = _ := bind_of_ok listed _
    refine ⟨world.events, ?_⟩
    -- What is answered has parts, which can be counted, or is of a kind that has none.
    cases counted : reply.length? with
    | none =>
      rw [counted] at loaded
      rw [wanted.isPresent_of_failed loaded]
      simp only [Exchange.presence, answered, counted]
      rfl
    | some count =>
      rw [counted] at loaded
      rw [wanted.isPresent_of_loaded loaded]
      simp only [Exchange.presence, answered, counted]
      rfl
  | error failure =>
    -- The operation names the failure, and that does not turn it into that of a missing image.
    obtain ⟨events, told⟩ := asOperation_of_error (call_of_error _ _ answered) wanted.logger
      "Image lookup failed" [] "image list" .null
    have failed : wanted.isLoaded world = _ := bind_of_error told _
    refine ⟨events, ?_⟩
    rw [wanted.isPresent_of_failed failed, Failure.isImageMissing_within]
    simp only [Exchange.presence, answered]
    cases failure.isImageMissing <;> rfl

/-- A check is over when its lookup is answered, and ends by what that tells. -/
theorem found_presence (number : Nat) {world : World} (exact : world.clock.IsExact) :
    let look := world.exchange wanted.lookup
    ∃ final, Exchanged [look] world final ∧ final.clock.time = look.due ∧
      wanted.found number world = Step.ofExcept look.presence final := by
  intro look
  obtain ⟨events, checked⟩ := wanted.isPresent_presence world
  have asked := exchanged_afterCall world wanted.lookup look.outcome.delay
  cases told : look.presence with
  | ok present =>
    rw [told] at checked
    -- Whether or not the image is there, that is logged behind the one exchange.
    obtain ⟨more, logged⟩ := log_pure_apply wanted.logger .info
      (if present then "Image available" else "Image not loaded yet") [("attempt", .nat number)]
      present { world.afterQuery wanted.lookup with events := events }
    exact ⟨_, asked.events more, exact _, (bind_of_ok checked _).trans logged⟩
  | error failure =>
    rw [told] at checked
    exact ⟨_, asked.events events, exact _, bind_of_error checked _⟩

/-- A pull whose outcome is due within its limit is over then, and ends by that outcome. -/
theorem pullWithin_of_lt {limit : Rat} {world : World} (exact : world.clock.IsExact)
    (inTime : (world.exchange wanted.pulling).outcome.delay < limit) :
    let pull := world.exchange wanted.pulling
    ∃ final, Exchanged [pull] world final ∧ final.clock.time = pull.due ∧
      wanted.pullWithin (some limit) world =
        Step.ofExcept (pull.pulled.map fun _ => true) final := by
  intro pull
  obtain ⟨announced, logged⟩ := log_apply wanted.logger .info "Pulling image"
    [("pull", .string wanted.image.pullReference), ("tag", .text? wanted.image.pullTag)] world
  -- From here on the world differs from the first one in its events alone.
  let ready : World := { world with events := announced }
  have still : ready.clock.IsExact := exact
  have made : Exchanged [pull] world (ready.afterQuery wanted.pulling) :=
    (exchanged_events world announced).trans (exchanged_afterCall ready wanted.pulling _)
  have called := callWithin_of_within wanted.pulling ready (still.isWithin_of_lt inTime)
  -- An answer is passed on as it is; a failure is logged and named on its way out.
  cases answered : (ready.exchange wanted.pulling).outcome.result with
  | ok reply =>
    rw [map_of_ok (call_of_ok _ _ answered)] at called
    have told : pull.pulled = .ok () := by
      rw [Exchange.pulled, show pull.outcome.result = .ok reply from answered]
    refine ⟨_, made, exact _, ?_⟩
    rw [told]
    exact (bind_of_ok logged _).trans (bind_of_ok (asOperation_of_ok called ..) _)
  | error failure =>
    rw [map_of_error (call_of_error _ _ answered)] at called
    obtain ⟨events, failed⟩ :=
      asOperation_of_error called wanted.logger "Image pull failed" [] "image pull" .null
    have told : pull.pulled = .error (failure.within "image pull" .null) := by
      rw [Exchange.pulled, show pull.outcome.result = .error failure from answered]
    refine ⟨_, made.events events, exact _, ?_⟩
    rw [told]
    exact (bind_of_ok logged _).trans (bind_of_error failed _)

/-- A pull whose outcome is not due within its limit is given up when the limit is reached. -/
theorem pullWithin_of_le {limit : Rat} {world : World} (exact : world.clock.IsExact)
    (positive : 0 < limit) (late : limit ≤ (world.exchange wanted.pulling).outcome.delay) :
    ∃ final, Exchanged [world.exchange wanted.pulling] world final ∧
      final.clock.time = world.clock.time + limit ∧
      wanted.pullWithin (some limit) world = .ok false final := by
  -- The call is cut off after the limit, and nothing but the log comes before it.
  obtain ⟨announced, logged⟩ := log_apply wanted.logger .info "Pulling image"
    [("pull", .string wanted.image.pullReference), ("tag", .text? wanted.image.pullTag)] world
  let ready : World := { world with events := announced }
  have still : ready.clock.IsExact := exact
  have called :=
    callWithin_of_not_within wanted.pulling ready (still.not_isWithin_of_le positive late)
  exact ⟨_, (exchanged_events world announced).trans (exchanged_afterCall ready wanted.pulling _),
    exact _, (bind_of_ok logged _).trans (bind_of_ok (asOperation_of_ok called ..) _)⟩

/-- A pull that is over in time ended by itself, unless it reports to have taken too long. -/
theorem pullInTime_of_lt {limit : Rat} {world : World} (exact : world.clock.IsExact)
    (inTime : (world.exchange wanted.pulling).outcome.delay < limit) :
    let pull := world.exchange wanted.pulling
    let act := wanted.pullInTime (some limit)
    ∃ final, Exchanged [pull] world final ∧ final.clock.time = pull.due ∧
      ((pull.pulled = .ok () ∧ act world = .ok true final) ∨
        (pull.TimesOut ∧ act world = .ok false final) ∨
        ∃ failure, pull.pulled = .error failure ∧ failure.isTimedOut = false ∧
          act world = .error failure final) := by
  intro pull act
  obtain ⟨final, made, ends, ended⟩ := wanted.pullWithin_of_lt exact inTime
  refine ⟨final, made, ends, ?_⟩
  -- Only a failure of that one kind is left to the handler.
  cases told : pull.pulled with
  | ok nothing =>
    rw [told] at ended
    exact Or.inl ⟨rfl, handling_of_ok ended _ _⟩
  | error failure =>
    rw [told] at ended
    have handled : act world = _ := handling_of_error ended _ _
    cases kind : failure.isTimedOut with
    | true => exact Or.inr (Or.inl ⟨⟨failure, told, kind⟩, by rw [handled, kind]; rfl⟩)
    | false => exact Or.inr (Or.inr ⟨failure, rfl, kind, by rw [handled, kind]; rfl⟩)

/-- A pause that begins before the deadline ends an interval later, or at the deadline if that is
earlier. -/
theorem add_pauseLength {time deadline : Rat} (interval : Rat) (early : time < deadline) :
    time + pauseLength interval (deadline - time) = min (time + interval) deadline := by
  rw [pauseLength, if_neg (not_le.mpr (sub_pos.mpr early))]
  -- A whole interval is slept where it fits, and else what is left until the deadline.
  by_cases fits : interval ≤ deadline - time
  · rw [if_pos fits, min_eq_left (le_sub_iff_add_le'.mp fits)]
  · rw [if_neg fits, min_eq_right (sub_lt_iff_lt_add'.mp (not_le.mp fits)).le,
      add_sub_cancel]

/-- A finite pause makes no exchange, and is over when its length has passed. -/
theorem pause_finite {interval : Binary64} {seconds : Rat} (finite : interval.toRat? = some seconds)
    (positive : 0 < seconds) (rest : Rat) {world : World} (exact : world.clock.IsExact) :
    ∃ final, Exchanged [] world final ∧
      final.clock.time = world.clock.time + pauseLength seconds rest ∧
      pause interval (some rest) world = .ok () final := by
  -- A positive interval is neither skipped nor without an order.
  let rested : World :=
    { world with clock := world.clock.after (pauseLength seconds rest) }
  have some : ¬(interval.atMostZero = true ∨ interval = .unordered) := by
    rintro (none | rfl)
    · have above := Binary64.atMostZero_eq_false_iff.mpr (Or.inl (Or.inr ⟨_, finite, positive⟩))
      rw [above] at none
      cases none
    · cases finite
  have slept : pause interval (.some rest) world = .ok () rested := by
    unfold pause
    rw [if_neg some, finite]
    rfl
  exact ⟨rested, ⟨rfl, rfl, (List.append_nil _).symm, rfl⟩, exact.timeAfter _, slept⟩

/-- How a pull may go for which there is time: when it is over, the pause behind it included, and
what comes of it. -/
inductive Fetch (interval deadline : Rat) (pull : Exchange) : Rat → Except Failure Attempt → Prop
    where
  | abandoned (late : deadline ≤ pull.due) : Fetch interval deadline pull deadline (.ok .expired)
  | timedOut (inTime : pull.due < deadline) (reports : pull.TimesOut) :
      Fetch interval deadline pull pull.due (.ok .expired)
  | refused {failure : Failure} (inTime : pull.due < deadline)
      (fails : pull.pulled = .error failure) (other : failure.isTimedOut = false) :
      Fetch interval deadline pull pull.due (.error failure)
  | again (inTime : pull.due < deadline) (answers : pull.pulled = .ok ()) :
      Fetch interval deadline pull (min (pull.due + interval) deadline) (.ok .again)

/-- A pull and the pause behind it go one of these ways. -/
theorem pullAndPause_fetch {interval deadline : Rat}
    (finite : wanted.interval.toRat? = some interval) (positive : 0 < interval) (number : Nat)
    {world : World} (exact : world.clock.IsExact) (early : world.clock.time < deadline) :
    let act := wanted.pullAndPause (.at deadline) number
    Exchanged [world.exchange wanted.pulling] world (after act world) ∧
      Fetch interval deadline (world.exchange wanted.pulling) (after act world).clock.time
        (result act world) := by
  intro act
  let pull := world.exchange wanted.pulling
  have opened : act world = _ := bind_of_ok (remaining_apply (.at deadline) world) _
  have limit : (Deadline.at deadline).limit ((Deadline.at deadline).secondsLeft world.clock) =
      some (deadline - world.clock.time) :=
    congrArg some (exact.secondsUntil deadline)
  rw [limit] at opened
  -- The limit of the pull is what is left, so that it is kept exactly if the deadline is.
  by_cases inTime : pull.due < deadline
  · have within : pull.outcome.delay < deadline - world.clock.time := lt_sub_iff_add_lt'.mpr inTime
    obtain ⟨middle, made, ends,
      ⟨told, ended⟩ | ⟨reports, given⟩ | ⟨failure, told, other, failed⟩⟩ :=
      wanted.pullInTime_of_lt exact within
    · have still : middle.clock.IsExact := exact.of_kept made.kept
      -- What is left when the pull is over decides how long the pause may be.
      have rest : middle.clock.secondsUntil deadline = deadline - pull.due := by
        rw [still.secondsUntil, ends]
      obtain ⟨final, quiet, rested, paused⟩ :=
        pause_finite finite positive (deadline - pull.due) still
      rw [ends, add_pauseLength interval inTime] at rested
      have onward := opened.trans ((bind_of_ok ended _).trans
        (bind_of_ok (remaining_apply (.at deadline) middle) _))
      simp only [Deadline.secondsLeft, rest] at onward
      have again := onward.trans (bind_of_ok paused _)
      rw [after_of_ok again, result_of_ok again, rested]
      exact ⟨made.trans quiet, .again inTime told⟩
    · rw [← limit] at given
      obtain ⟨events, expired⟩ := wanted.pullAndPause_of_given _ number given
      rw [after_of_ok expired, result_of_ok expired]
      refine ⟨made.events events, ?_⟩
      rw [ends]
      exact .timedOut inTime reports
    · have refused := opened.trans (bind_of_error failed _)
      rw [after_of_error refused, result_of_error refused, ends]
      exact ⟨made, .refused inTime told other⟩
  · -- A pull that is given up at its limit is given up at the deadline.
    have late := not_lt.mp inTime
    obtain ⟨middle, made, ends, given⟩ :=
      wanted.pullWithin_of_le exact (sub_pos.mpr early) (sub_le_iff_le_add'.mpr late)
    replace ends := ends.trans (add_sub_cancel world.clock.time deadline)
    rw [← limit] at given
    obtain ⟨events, expired⟩ :=
      wanted.pullAndPause_of_given _ number (handling_of_ok given _ _)
    rw [after_of_ok expired, result_of_ok expired]
    refine ⟨made.events events, ?_⟩
    rw [ends]
    exact .abandoned late

/-- A lookup that does not find the image, and a pull that follows it before the deadline. -/
structure Missed (deadline : Rat) (look pull : Exchange) : Prop where
  asks : look.call.query = wanted.lookup
  missing : look.presence = .ok false
  pulls : pull.call.query = wanted.pulling
  follows : pull.call.time = look.due
  early : look.due < deadline

/-- How an attempt may go in time: when it begins, which exchanges it makes, when it is over and
what comes of it. -/
inductive Lap (interval deadline : Rat) :
    Rat → List Exchange → Rat → Except Failure Attempt → Prop where
  | available {look : Exchange} (asks : look.call.query = wanted.lookup)
      (present : look.presence = .ok true) :
      Lap interval deadline look.call.time [look] look.due (.ok .available)
  | unanswered {look : Exchange} {failure : Failure} (asks : look.call.query = wanted.lookup)
      (fails : look.presence = .error failure) :
      Lap interval deadline look.call.time [look] look.due (.error failure)
  | expired {look : Exchange} (asks : look.call.query = wanted.lookup)
      (missing : look.presence = .ok false) (passed : deadline ≤ look.due) :
      Lap interval deadline look.call.time [look] look.due (.ok .expired)
  | fetched {look pull : Exchange} {finish : Rat} {attempt : Except Failure Attempt}
      (missed : wanted.Missed deadline look pull)
      (fetch : Fetch interval deadline pull finish attempt) :
      Lap interval deadline look.call.time [look, pull] finish attempt

/-- On an exact clock an attempt is a lap. -/
theorem attempt_lap {interval : Rat} (deadline : Rat)
    (finite : wanted.interval.toRat? = some interval) (positive : 0 < interval) (number : Nat)
    {world : World} (exact : world.clock.IsExact) :
    let act := wanted.attempt (.at deadline) number
    ∃ made, Exchanged made world (after act world) ∧
      wanted.Lap interval deadline world.clock.time made (after act world).clock.time
        (result act world) := by
  intro act
  let look := world.exchange wanted.lookup
  obtain ⟨middle, looked, ends, told⟩ := wanted.found_presence number exact
  -- The lookup fails, finds the image, or misses it; then the time decides whether it is pulled.
  cases presence : look.presence with
  | error failure =>
    rw [presence] at told
    have ended : act world = _ := bind_of_error told _
    rw [after_of_error ended, result_of_error ended, ends]
    exact ⟨_, looked, .unanswered rfl presence⟩
  | ok present =>
    rw [presence] at told
    have opened : act world = _ := bind_of_ok told _
    cases present with
    | true =>
      have ended := opened.trans (congrFun (if_pos rfl) middle)
      rw [after_of_ok ended, result_of_ok ended, ends]
      exact ⟨_, looked, .available rfl presence⟩
    | false =>
      have onward := (opened.trans (congrFun (if_neg Bool.false_ne_true) middle)).trans
        (bind_of_ok (remaining_apply (.at deadline) middle) _)
      have still : middle.clock.IsExact := exact.of_kept looked.kept
      have rest : middle.clock.secondsUntil deadline = deadline - look.due := by
        rw [still.secondsUntil, ends]
      simp only [Deadline.secondsLeft, rest, Option.any_some, decide_eq_true_eq, sub_nonpos]
        at onward
      by_cases passed : deadline ≤ look.due
      · have ended := onward.trans (congrFun (if_pos passed) middle)
        rw [after_of_ok ended, result_of_ok ended, ends]
        exact ⟨_, looked, .expired rfl presence passed⟩
      · -- There is time for a pull, which begins where the lookup has ended.
        have pulled := onward.trans (congrFun (if_neg passed) middle)
        have early := not_le.mp passed
        obtain ⟨made, fetch⟩ :=
          wanted.pullAndPause_fetch finite positive number still (ends.trans_lt early)
        rw [after_of_eq pulled, result_of_eq pulled]
        exact ⟨_, looked.trans made, .fetched ⟨rfl, presence, rfl, ends, early⟩ fetch⟩

/-- An attempt that does not fail is a lap that does not fail either. -/
theorem attempt_lap_of_ok {interval deadline : Rat}
    (finite : wanted.interval.toRat? = some interval) (positive : 0 < interval) {number : Nat}
    {world middle : World} (exact : world.clock.IsExact) {attempt : Attempt}
    (tried : wanted.attempt (.at deadline) number world = .ok attempt middle) :
    ∃ made, Exchanged made world middle ∧
      wanted.Lap interval deadline world.clock.time made middle.clock.time (.ok attempt) := by
  -- The lap is known; what is left is to read its state and its result off the success.
  obtain ⟨made, exchanged, lap⟩ := wanted.attempt_lap deadline finite positive number exact
  rw [after_of_ok tried] at exchanged lap
  rw [result_of_ok tried] at lap
  exact ⟨made, exchanged, lap⟩

end Availability

end ContainerScan
