import ContainerScan.Proofs.Availability
import ContainerScan.Proofs.Exchange
import ContainerScan.Proofs.Time.Clock

/-! How one attempt to get an image goes: which exchanges it makes, and what comes of it. -/

namespace ContainerScan

open Step World

/-- A daemon that answers a lookup by a list and a pull by anything, unless it fails. -/
structure Script.Serves (script : Script) : Prop where
  images : ∀ number,
    (∃ items, (script.outcome .images number).result = .ok (.value (.array items))) ∨
    ∃ fault text, (script.outcome .images number).result = .error (.daemon fault text)
  pull : ∀ number, (∃ reply, (script.outcome .pull number).result = .ok reply) ∨
    ∃ fault text, (script.outcome .pull number).result = .error (.daemon fault text)

namespace Exchange

/-- The time that a clock shows when the outcome arrives. -/
def arrival (exchange : Exchange) (clock : Clock) : Rat :=
  clock.kept (exchange.call.time + exchange.outcome.delay)

/-- The call begins before a deadline, if there is one. -/
def Early (exchange : Exchange) (deadline : Option Rat) : Prop :=
  ∀ time ∈ deadline, exchange.call.time < time

/-- The outcome arrives before the clock cuts the call off for a deadline. -/
def InTime (exchange : Exchange) (clock : Clock) (deadline : Option Rat) : Prop :=
  ∀ time ∈ deadline, exchange.arrival clock < clock.cutOff exchange.call.time time

end Exchange

namespace World

variable {α : Type}

/-- A success of a named operation is that of the activity in it. -/
theorem asOperation_of_ok {act : Step World α} {world final : World} {value : α}
    (done : act world = .ok value final) (logger : Logger) (message : String) (fields : Event)
    (name : String) (cid : Json) :
    asOperation logger message fields name cid act world = .ok value final :=
  onDaemonFailure_of_ok done _

/-- A failure of the daemon is told as that of the named operation. -/
theorem asOperation_of_daemon {act : Step World α} {world middle : World} {fault : DaemonFault}
    {text : String} (failed : act world = .error (.daemon fault text) middle) (logger : Logger)
    (message : String) (fields : Event) (name : String) (cid : Json) :
    ∃ events, asOperation logger message fields name cid act world =
      .error (.operation name text cid) { middle with events := events } := by
  -- The log entry comes before the failure, and changes nothing but the events.
  obtain ⟨events, logged⟩ :=
    log_apply logger .error message (fields ++ [("error", .string text)]) middle
  refine ⟨events, ?_⟩
  simp only [asOperation, onDaemonFailure, failed]
  exact bind_of_ok logged _

end World

namespace Availability

variable (wanted : Availability)

/-- The failure to get the image in time. -/
def late : Failure :=
  .pullTimeout wanted.image.reference (.real wanted.timeout)

/-- A lookup that is answered by a list finds the image if the list has a part. -/
theorem isLoaded_of_lists {world : World} {items : List Json}
    (lists : (world.exchange wanted.lookup).Lists items) :
    wanted.isLoaded world = .ok (0 < items.length) (world.afterQuery wanted.lookup) :=
  bind_of_ok (asOperation_of_ok (call_of_ok _ _ lists) ..) _

/-- A lookup at which the daemon fails is a failure of that operation. -/
theorem isLoaded_of_fails {world : World} {text : String}
    (fails : (world.exchange wanted.lookup).Fails text) :
    ∃ events, wanted.isLoaded world = .error (.operation "image list" text .null)
      { world.afterQuery wanted.lookup with events := events } := by
  -- The failure of the call is told as one of the operation, and nothing follows it.
  obtain ⟨fault, failed⟩ := fails
  obtain ⟨events, told⟩ := asOperation_of_daemon (call_of_error _ _ failed) wanted.logger
    "Image lookup failed" [] "image list" .null
  exact ⟨events, bind_of_error told _⟩

/-- A check is passed if the daemon lists something, and otherwise the image is missing. -/
theorem isPresent_of_lists {world : World} {items : List Json}
    (lists : (world.exchange wanted.lookup).Lists items) :
    wanted.isPresent world = .ok (0 < items.length) (world.afterQuery wanted.lookup) := by
  have loaded := wanted.isLoaded_of_lists lists
  cases items with
  | nil =>
    -- The failure of the check is the one that is handled, by an answer of no.
    have missing : wanted.check world =
        .error (.imageMissing wanted.image.reference) (world.afterQuery wanted.lookup) :=
      bind_of_ok loaded _
    have failed : (do wanted.check; return true : Step World Bool) world = _ :=
      bind_of_error missing _
    rw [isPresent, handling_of_error failed]
    rfl
  | cons item items =>
    have checked : wanted.check world = .ok () (world.afterQuery wanted.lookup) :=
      bind_of_ok loaded _
    have passed : (do wanted.check; return true : Step World Bool) world = _ :=
      bind_of_ok checked _
    exact handling_of_ok passed _ _

/-- A check at which the daemon fails is a failure of that operation. -/
theorem isPresent_of_fails {world : World} {text : String}
    (fails : (world.exchange wanted.lookup).Fails text) :
    ∃ events, wanted.isPresent world = .error (.operation "image list" text .null)
      { world.afterQuery wanted.lookup with events := events } := by
  -- A failure of the daemon is not the sign of a missing image, so the check does not hide it.
  obtain ⟨events, failed⟩ := wanted.isLoaded_of_fails fails
  have checked : (do wanted.check; return true : Step World Bool) world = _ :=
    bind_of_error (bind_of_error failed _) _
  exact ⟨events, by rw [isPresent, handling_of_error checked]; rfl⟩

/-- A check is one lookup, and ends by what the daemon lists. -/
theorem found_cases (number : Nat) {world : World} (serves : world.script.Serves) :
    ∃ final, Exchanged [world.exchange wanted.lookup] world final ∧
      ((∃ items, (world.exchange wanted.lookup).Lists items ∧
          wanted.found number world = .ok (0 < items.length) final) ∨
        ∃ text, (world.exchange wanted.lookup).Fails text ∧
          wanted.found number world = .error (.operation "image list" text .null) final) := by
  have asked := exchanged_afterCall world wanted.lookup (world.nextOutcome .images).delay
  rcases serves.images (world.callCount .images) with ⟨items, lists⟩ | ⟨fault, text, fails⟩
  · -- Whether or not the image is there, that is logged behind the one exchange.
    have present := wanted.isPresent_of_lists lists
    obtain ⟨events, logged⟩ := log_pure_apply wanted.logger .info
      (if decide (0 < items.length) then "Image available" else "Image not loaded yet")
      [("attempt", .nat number)] (decide (0 < items.length)) (world.afterQuery wanted.lookup)
    exact ⟨_, asked.events events, Or.inl ⟨items, lists, (bind_of_ok present _).trans logged⟩⟩
  · obtain ⟨events, failed⟩ := wanted.isPresent_of_fails ⟨fault, fails⟩
    exact ⟨_, asked.events events, Or.inr ⟨text, ⟨fault, fails⟩, bind_of_error failed _⟩⟩

/-- Whether the outcome of a pull that begins now arrives within a limit. -/
def Answered (limit : Option Rat) (world : World) : Prop :=
  ∀ seconds ∈ limit,
    world.clock.isWithin seconds (world.exchange wanted.pulling).outcome.delay = true

/-- The call of a pull ends by its outcome if that arrives within the limit. -/
theorem pullCall_of_answered {limit : Option Rat} {world : World}
    (answered : wanted.Answered limit world) :
    wanted.pullCall limit world = (some <$> World.call wanted.pulling.method
      wanted.pulling.positional wanted.pulling.named) world := by
  cases limit with
  | none => rfl
  | some seconds => exact callWithin_of_within wanted.pulling world (answered seconds rfl)

/-- The call of a pull is given up if its outcome does not arrive within the limit. -/
theorem pullCall_of_not_answered {limit : Option Rat} {world : World}
    (late : ¬wanted.Answered limit world) :
    ∃ final, Exchanged [world.exchange wanted.pulling] world final ∧
      wanted.pullCall limit world = .ok none final := by
  -- Without a limit every outcome arrives.
  cases limit with
  | none => exact absurd nofun late
  | some seconds =>
    have given :
        ¬world.clock.isWithin seconds (world.exchange wanted.pulling).outcome.delay = true :=
      fun arrives => late (by rintro _ ⟨⟩; exact arrives)
    have called := callWithin_of_not_within wanted.pulling world given
    exact ⟨_, exchanged_afterCall world wanted.pulling seconds, called⟩

/-- A pull is announced, and ends as its call does. -/
theorem pullWithin_cases (limit : Option Rat) {world : World} (serves : world.script.Serves) :
    ∃ final, Exchanged [world.exchange wanted.pulling] world final ∧
      ((wanted.Answered limit world ∧
          ∃ reply, (world.exchange wanted.pulling).outcome.result = .ok reply ∧
            wanted.pullWithin limit world = .ok true final) ∨
        (wanted.Answered limit world ∧ ∃ text, (world.exchange wanted.pulling).Fails text ∧
          wanted.pullWithin limit world = .error (.operation "image pull" text .null) final) ∨
        (¬wanted.Answered limit world ∧ wanted.pullWithin limit world = .ok false final)) := by
  obtain ⟨announced, logged⟩ := log_apply wanted.logger .info "Pulling image"
    [("pull", .string wanted.image.pullReference), ("tag", .text? wanted.image.pullTag)] world
  -- From here on the world differs from the first one in its events alone.
  let ready : World := { world with events := announced }
  have before : Exchanged [] world ready := exchanged_events world announced
  have made :=
    before.trans (exchanged_afterCall ready wanted.pulling (world.nextOutcome .pull).delay)
  by_cases answered : wanted.Answered limit world
  · -- In time, the pull ends by what the daemon has for it.
    have called : wanted.pullCall limit ready = _ := wanted.pullCall_of_answered answered
    rcases serves.pull (world.callCount .pull) with ⟨reply, answers⟩ | ⟨fault, text, fails⟩
    · rw [map_of_ok (call_of_ok wanted.pulling ready answers)] at called
      refine ⟨_, made, Or.inl ⟨answered, reply, answers, ?_⟩⟩
      exact (bind_of_ok logged _).trans (bind_of_ok (asOperation_of_ok called ..) _)
    · rw [map_of_error (call_of_error wanted.pulling ready fails)] at called
      obtain ⟨events, told⟩ :=
        asOperation_of_daemon called wanted.logger "Image pull failed" [] "image pull" .null
      refine ⟨_, made.events events, Or.inr (Or.inl ⟨answered, text, ⟨fault, fails⟩, ?_⟩)⟩
      exact (bind_of_ok logged _).trans (bind_of_error told _)
  · -- Too late, it is given up without a failure.
    obtain ⟨final, given, called⟩ := @pullCall_of_not_answered wanted limit ready answered
    refine ⟨final, before.trans given, Or.inr (Or.inr ⟨answered, ?_⟩)⟩
    exact (bind_of_ok logged _).trans (bind_of_ok (asOperation_of_ok called ..) _)

/-- A pull of which the daemon says how it ended is not taken for one that ran out of time. -/
theorem pullInTime_cases (limit : Option Rat) {world : World} (serves : world.script.Serves) :
    ∃ final, Exchanged [world.exchange wanted.pulling] world final ∧
      ((wanted.Answered limit world ∧
          ∃ reply, (world.exchange wanted.pulling).outcome.result = .ok reply ∧
            wanted.pullInTime limit world = .ok true final) ∨
        (wanted.Answered limit world ∧ ∃ text, (world.exchange wanted.pulling).Fails text ∧
          wanted.pullInTime limit world = .error (.operation "image pull" text .null) final) ∨
        (¬wanted.Answered limit world ∧ wanted.pullInTime limit world = .ok false final)) := by
  obtain ⟨final, made, ended⟩ := wanted.pullWithin_cases limit serves
  refine ⟨final, made, ?_⟩
  -- None of the three endings is one that the handler is meant for.
  rcases ended with ⟨answered, reply, answers, done⟩ | ⟨answered, text, fails, failed⟩ | ⟨late, given⟩
  · exact Or.inl ⟨answered, reply, answers, handling_of_ok done _ _⟩
  · exact Or.inr (Or.inl ⟨answered, text, fails, handling_of_error failed _ _⟩)
  · exact Or.inr (Or.inr ⟨late, handling_of_ok given _ _⟩)

/-- A pause makes no exchange, unless it has no end. -/
theorem pause_cases (interval : Binary64) (rest : Option Rat) (world : World) :
    ∃ final, Exchanged [] world final ∧
      (pause interval rest world = .ok () final ∨
        pause interval rest world = .error .endless final) := by
  have sleeps (seconds : Rat) : ∃ final, Exchanged [] world final ∧
      (World.sleep seconds world = .ok () final ∨
        World.sleep seconds world = .error .endless final) := by
    obtain ⟨final, slept, quiet⟩ := sleep_apply seconds world
    exact ⟨final, quiet, Or.inl slept⟩
  -- A pause sleeps for some time, whichever length decides; only one has no end.
  unfold pause
  split
  · exact sleeps 0
  · cases interval.toRat? with
    | some seconds => cases rest <;> exact sleeps _
    | none =>
      cases rest with
      | some left => exact sleeps _
      | none => exact ⟨world, exchanged_events world world.events, Or.inr rfl⟩

/-- The time that is left is looked at, and nothing else happens. -/
theorem remaining_apply (deadline : Deadline) (world : World) :
    remaining deadline world = .ok (deadline.secondsLeft world.clock) world :=
  rfl

/-- The seconds that are left are those until the time of the deadline, if it is one. -/
@[simp] theorem secondsLeft_ofTime? (clock : Clock) (time : Option Rat) :
    (Deadline.ofTime? time).secondsLeft clock = time.map clock.secondsUntil := by
  cases time <;> rfl

/-- Until a deadline that is a time, or that never comes, a pull may take all the seconds left. -/
@[simp] theorem limit_ofTime? (left time : Option Rat) :
    (Deadline.ofTime? time).limit left = left := by
  cases time <;> rfl

/-- What arrives within the seconds left until a deadline arrives before the clock cuts off. -/
theorem answered_iff {clock : Clock} {world : World} (kept : world.clock.kept = clock.kept)
    {deadline : Option Rat} (left : ∀ time ∈ deadline, 0 < world.clock.secondsUntil time) :
    wanted.Answered (deadline.map world.clock.secondsUntil) world ↔
      (world.exchange wanted.pulling).InTime clock deadline := by
  -- There are seconds left, so that the limit is a time that the clock comes to.
  have limited : ∀ time ∈ deadline, (world.clock.isWithin (world.clock.secondsUntil time)
      (world.exchange wanted.pulling).outcome.delay = true ↔
      world.clock.timeAfter (world.exchange wanted.pulling).outcome.delay <
        world.clock.timeAfter (world.clock.secondsUntil time)) := by
    intro time here
    rw [Clock.isWithin, if_neg (not_le.mpr (left time here)), decide_eq_true_eq]
  rw [Answered, Option.forall_mem_map, Exchange.InTime]
  refine forall₂_congr fun time here => (limited time here).trans ?_
  simp only [Exchange.arrival, Clock.cutOff, Clock.timeAfter, Clock.secondsUntil, kept]
  rfl

/-- After a pull that is given up, which is noted in the log, there is no further attempt. -/
theorem pullAndPause_of_given (deadline : Deadline) (number : Nat) {world middle : World}
    (given : wanted.pullInTime (deadline.limit (deadline.secondsLeft world.clock)) world =
      .ok false middle) :
    ∃ events, wanted.pullAndPause deadline number world =
      .ok .expired { middle with events := events } := by
  obtain ⟨events, logged⟩ := log_pure_apply wanted.logger .warning
    "Image pull still running at deadline" [("attempt", .nat number)] Attempt.expired middle
  -- The pull begins with what is left at that moment.
  have opened : wanted.pullAndPause deadline number world = _ :=
    bind_of_ok (remaining_apply deadline world) _
  exact ⟨events, opened.trans ((bind_of_ok given _).trans logged)⟩

/-- A pull and a pause are one call, cut off at the deadline. -/
theorem pullAndPause_cases {clock : Clock} {deadline : Option Rat} (number : Nat) {world : World}
    (kept : world.clock.kept = clock.kept) (serves : world.script.Serves)
    (left : ∀ time ∈ deadline, 0 < world.clock.secondsUntil time) :
    let pull := world.exchange wanted.pulling
    let act := wanted.pullAndPause (.ofTime? deadline) number
    ∃ final, Exchanged [pull] world final ∧
      ((pull.InTime clock deadline ∧ ∃ reply, pull.outcome.result = .ok reply ∧
          (act world = .ok .again final ∨ act world = .error .endless final)) ∨
        (pull.InTime clock deadline ∧ ∃ text, pull.Fails text ∧
          act world = .error (.operation "image pull" text .null) final) ∨
        (¬pull.InTime clock deadline ∧ act world = .ok .expired final)) := by
  intro pull act
  obtain ⟨middle, made, pulled⟩ :=
    wanted.pullInTime_cases (deadline.map world.clock.secondsUntil) serves
  rw [wanted.answered_iff kept left] at pulled
  have opened : act world = _ := bind_of_ok (remaining_apply (.ofTime? deadline) world) _
  simp only [secondsLeft_ofTime?, limit_ofTime?] at opened
  rcases pulled with ⟨inTime, reply, answers, done⟩ | ⟨inTime, text, fails, failed⟩ | ⟨late, given⟩
  · -- Only a pull that was answered is followed by a pause, which makes no exchange.
    obtain ⟨final, quiet, paused⟩ :=
      pause_cases wanted.interval ((Deadline.ofTime? deadline).secondsLeft middle.clock) middle
    refine ⟨final, made.trans quiet, Or.inl ⟨inTime, reply, answers, ?_⟩⟩
    have onward := opened.trans ((bind_of_ok done _).trans
      (bind_of_ok (remaining_apply (.ofTime? deadline) middle) _))
    rcases paused with rested | endless
    · exact Or.inl (onward.trans (bind_of_ok rested _))
    · exact Or.inr (onward.trans (bind_of_error endless _))
  · refine ⟨middle, made, Or.inr (Or.inl ⟨inTime, text, fails, ?_⟩)⟩
    exact opened.trans (bind_of_error failed _)
  · -- A pull that was given up is told of in the log, and that is no exchange.
    obtain ⟨events, expired⟩ := wanted.pullAndPause_of_given (.ofTime? deadline) number
      (by simpa only [secondsLeft_ofTime?, limit_ofTime?] using given)
    exact ⟨_, made.events events, Or.inr (Or.inr ⟨late, expired⟩)⟩

/-- How an attempt may go: the exchanges that it makes, and what comes of it. -/
inductive Round (clock : Clock) (deadline : Option Rat) :
    List Exchange → Except Failure Attempt → Prop where
  -- A lookup alone: the image is there, the daemon refuses, or the time is up.
  | available {look : Exchange} {items : List Json} (asks : look.call.query = wanted.lookup)
      (lists : look.Lists items) (present : items ≠ []) :
      Round clock deadline [look] (.ok .available)
  | unanswered {look : Exchange} {text : String} (asks : look.call.query = wanted.lookup)
      (fails : look.Fails text) :
      Round clock deadline [look] (.error (.operation "image list" text .null))
  | expired {look : Exchange} (asks : look.call.query = wanted.lookup) (missing : look.Lists []) :
      Round clock deadline [look] (.ok .expired)
  -- A lookup that found nothing and a pull: it is refused, given up, or answered.
  | refused {look pull : Exchange} {text : String} (asks : look.call.query = wanted.lookup)
      (missing : look.Lists []) (pulls : pull.call.query = wanted.pulling)
      (early : pull.Early deadline) (inTime : pull.InTime clock deadline)
      (fails : pull.Fails text) :
      Round clock deadline [look, pull] (.error (.operation "image pull" text .null))
  | cutOff {look pull : Exchange} (asks : look.call.query = wanted.lookup)
      (missing : look.Lists []) (pulls : pull.call.query = wanted.pulling)
      (early : pull.Early deadline) (late : ¬pull.InTime clock deadline) :
      Round clock deadline [look, pull] (.ok .expired)
  | again {look pull : Exchange} {reply : Reply} (asks : look.call.query = wanted.lookup)
      (missing : look.Lists []) (pulls : pull.call.query = wanted.pulling)
      (early : pull.Early deadline) (answers : pull.outcome.result = .ok reply) :
      Round clock deadline [look, pull] (.ok .again)

/-- A deadline that has not passed leaves some seconds. -/
theorem left_of_not_passed {clock : Clock} {deadline : Option Rat}
    (unpassed : ¬(deadline.map clock.secondsUntil).any (fun left => decide (left ≤ 0)) = true) :
    ∀ time ∈ deadline, 0 < clock.secondsUntil time := by
  rintro time ⟨⟩
  simpa using unpassed

/-- A clock that counts has not reached a deadline until which it has seconds left. -/
theorem early_of_left {clock : Clock} (counts : clock.Counts) {deadline : Option Rat}
    {world : World} (kept : world.clock.kept = clock.kept) (query : Query)
    (left : ∀ time ∈ deadline, 0 < world.clock.secondsUntil time) :
    (world.exchange query).Early deadline := by
  -- The seconds that are left are kept by the clock, so they count only if it counts.
  intro time here
  have positive := left time here
  rw [Clock.secondsUntil, kept] at positive
  exact sub_pos.mp (counts _ positive)

/-- An attempt is a round, unless it pauses without end. -/
theorem attempt_round {clock : Clock} (counts : clock.Counts) (deadline : Option Rat)
    (number : Nat) {world : World} (kept : world.clock.kept = clock.kept)
    (serves : world.script.Serves) :
    let act := wanted.attempt (.ofTime? deadline) number
    ∃ made, Exchanged made world (after act world) ∧
      (result act world = .error .endless ∨
        wanted.Round clock deadline made (result act world)) := by
  intro act
  obtain ⟨middle, looked, ⟨items, lists, found⟩ | ⟨text, fails, failed⟩⟩ :=
    wanted.found_cases number serves
  · have opened : act world = _ := bind_of_ok found _
    -- What is listed ends the attempt; if that is nothing, the time that is left decides.
    cases items with
    | cons item items =>
      have ended := opened.trans (congrFun (if_pos (by simp)) middle)
      rw [after_of_ok ended, result_of_ok ended]
      exact ⟨_, looked, Or.inr (.available rfl lists (List.cons_ne_nil _ _))⟩
    | nil =>
      have onward := (opened.trans (congrFun (if_neg (by simp)) middle)).trans
        (bind_of_ok (remaining_apply (.ofTime? deadline) middle) _)
      simp only [secondsLeft_ofTime?] at onward
      by_cases passed : (deadline.map middle.clock.secondsUntil).any (fun left => decide (left ≤ 0))
      · have ended := onward.trans (congrFun (if_pos passed) middle)
        rw [after_of_ok ended, result_of_ok ended]
        exact ⟨_, looked, Or.inr (.expired rfl lists)⟩
      · -- There is time for a pull, which begins where the lookup has ended.
        have pulled := onward.trans (congrFun (if_neg passed) middle)
        have still : middle.clock.kept = clock.kept := looked.kept.trans kept
        have left := left_of_not_passed passed
        have early := early_of_left counts still wanted.pulling left
        have answering : middle.script.Serves := by rwa [looked.script]
        obtain ⟨final, made, ⟨inTime, reply, answers, ended | endless⟩ |
            ⟨inTime, text, fails, failed⟩ | ⟨late, given⟩⟩ :=
          wanted.pullAndPause_cases number still answering left
        · have again := pulled.trans ended
          rw [after_of_ok again, result_of_ok again]
          exact ⟨_, looked.trans made, Or.inr (.again rfl lists rfl early answers)⟩
        · have stuck := pulled.trans endless
          rw [after_of_error stuck, result_of_error stuck]
          exact ⟨_, looked.trans made, Or.inl rfl⟩
        · have refused := pulled.trans failed
          rw [after_of_error refused, result_of_error refused]
          exact ⟨_, looked.trans made, Or.inr (.refused rfl lists rfl early inTime fails)⟩
        · have cutOff := pulled.trans given
          rw [after_of_ok cutOff, result_of_ok cutOff]
          exact ⟨_, looked.trans made, Or.inr (.cutOff rfl lists rfl early late)⟩
  · have ended : act world = _ := bind_of_error failed _
    rw [after_of_error ended, result_of_error ended]
    exact ⟨_, looked, Or.inr (.unanswered rfl fails)⟩

end Availability

end ContainerScan
