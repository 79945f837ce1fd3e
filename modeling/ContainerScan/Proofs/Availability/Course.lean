import ContainerScan.Proofs.Availability.Rounds
import ContainerScan.Proofs.Number.Sign

/-! How a wait for an image goes: which calls it makes, in which order, and what comes of it. -/

namespace ContainerScan

open Step World

section Split

variable {α : Type} {part : α} {earlier later : List α}

/-- A list of one part is divided at that part. -/
theorem split_singleton {only : α} (split : [only] = earlier ++ part :: later) :
    earlier = [] ∧ part = only ∧ later = [] := by
  cases earlier <;> simp_all

/-- A list of two parts is divided at one of them. -/
theorem split_pair {first second : α} (split : [first, second] = earlier ++ part :: later) :
    (earlier = [] ∧ part = first ∧ later = [second]) ∨
      (earlier = [first] ∧ part = second ∧ later = []) := by
  rcases earlier with _ | ⟨_, _ | _⟩ <;> simp_all

/-- Two lists in a row are divided at a part of the one or of the other. -/
theorem split_append {front back : List α} (split : front ++ back = earlier ++ part :: later) :
    (∃ more, front = earlier ++ part :: more) ∨
      ∃ more, earlier = front ++ more ∧ back = more ++ part :: later := by
  rcases List.append_eq_append_iff.mp split with ⟨more, one, two⟩ | ⟨more, one, two⟩
  · exact Or.inr ⟨more, one, two⟩
  · -- The part opens what is left of the first list, unless nothing is left of it.
    cases more with
    | nil => exact Or.inr ⟨[], by simpa using one.symm, by simpa using two.symm⟩
    | cons other more =>
      obtain ⟨rfl, -⟩ := List.cons.inj two
      exact Or.inl ⟨more, one⟩

end Split

namespace Availability

variable (wanted : Availability)

/-- How attempts may go one after the other, until one of them ends the wait. -/
inductive Run (clock : Clock) (deadline : Option Rat) :
    List Exchange → Except Failure Unit → Prop where
  | available {made : List Exchange} (round : wanted.Round clock deadline made (.ok .available)) :
      Run clock deadline made (.ok ())
  | expired {made : List Exchange} (round : wanted.Round clock deadline made (.ok .expired)) :
      Run clock deadline made (.error wanted.late)
  | failed {made : List Exchange} {failure : Failure}
      (round : wanted.Round clock deadline made (.error failure)) :
      Run clock deadline made (.error failure)
  | again {made later : List Exchange} {ended : Except Failure Unit}
      (round : wanted.Round clock deadline made (.ok .again))
      (rest : Run clock deadline later ended) :
      Run clock deadline (made ++ later) ended

/-- Giving up is the failure to get the image in time. -/
theorem giveUp_apply (number : Nat) (world : World) :
    ∃ events, wanted.giveUp number world = .error wanted.late { world with events := events } := by
  obtain ⟨events, logged⟩ := log_apply wanted.logger .error "Timed out waiting for image"
    [("timeout", .number (.real wanted.timeout)), ("attempts", .nat number)] world
  exact ⟨events, bind_of_ok logged _⟩

/-- Attempts are a run, unless they never end. -/
theorem attempts_run {clock : Clock} (counts : clock.Counts) (deadline : Option Rat)
    (left number : Nat) {world : World} (kept : world.clock.kept = clock.kept)
    (serves : world.script.Serves)
    (ends : result (wanted.attempts (.ofTime? deadline) left number) world ≠ .error .endless) :
    let act := wanted.attempts (.ofTime? deadline) left number
    ∃ made, Exchanged made world (after act world) ∧
      wanted.Run clock deadline made (result act world) := by
  -- Each attempt is a round of its own, and the attempts that follow it are a run by induction.
  induction left generalizing number world with
  | zero => exact absurd rfl ends
  | succ left ih =>
    obtain ⟨made, exchanged, went⟩ := wanted.attempt_round counts deadline number kept serves
    intro act
    cases tried : wanted.attempt (.ofTime? deadline) number world with
    | error failure middle =>
      have ended : act world = _ := bind_of_error tried _
      rw [after_of_error tried] at exchanged
      rw [result_of_error tried] at went
      rw [result_of_error ended] at ends
      rw [after_of_error ended, result_of_error ended]
      rcases went with endless | round
      · -- A pause without end would be the end of the wait, too.
        cases endless
        exact absurd rfl ends
      · exact ⟨made, exchanged, .failed round⟩
    | ok attempt middle =>
      have onward : act world = _ := bind_of_ok tried _
      rw [after_of_ok tried] at exchanged
      rw [result_of_ok tried] at went
      have round := went.resolve_left nofun
      cases attempt with
      | available =>
        rw [after_of_ok onward, result_of_ok onward]
        exact ⟨made, exchanged, .available round⟩
      | expired =>
        obtain ⟨events, given⟩ := wanted.giveUp_apply number middle
        have ended := onward.trans given
        rw [after_of_error ended, result_of_error ended]
        exact ⟨made, exchanged.events events, .expired round⟩
      | again =>
        have following : act world =
            wanted.attempts (.ofTime? deadline) left (number + 1) middle := onward
        rw [result_of_eq following] at ends ⊢
        rw [after_of_eq following]
        obtain ⟨later, onwards, rest⟩ := ih (number + 1) (exchanged.kept.trans kept)
          (by rwa [exchanged.script]) ends
        exact ⟨made ++ later, exchanged.trans onwards, .again round rest⟩

/-- The method whose turn it is after a number of calls. -/
def turn (number : Nat) : Method :=
  if number % 2 = 0 then .images else .pull

/-- A lookup comes first. -/
theorem turn_first : turn 0 = .images :=
  rfl

/-- A pull comes second. -/
theorem turn_second : turn 1 = .pull :=
  rfl

/-- Two calls later it is the turn of the same method. -/
theorem turn_later (number : Nat) : turn (number + 1 + 1) = turn number := by
  rw [turn, turn, Nat.add_mod_right number 2]

/-- The name of the operation that fails with a call. -/
def operation (method : Method) : String :=
  if method = .pull then "image pull" else "image list"

/-- What is promised of a wait for an image, by the exchanges that it makes and how it ends. -/
structure Course (clock : Clock) (deadline : Option Rat) (made : List Exchange)
    (ended : Except Failure Unit) : Prop where
  begins : made ≠ []
  alternates : made.map Exchange.method = (List.range made.length).map turn
  looksUp : ∀ look ∈ made, look.method = .images → look.call.query = wanted.lookup
  pulls : ∀ earlier pull later, made = earlier ++ pull :: later → pull.method = .pull →
    pull.Early deadline ∧
      ∃ look, earlier.getLast? = some look ∧ look.method = .images ∧ look.Lists []
  succeeds : ended = .ok () ↔ ∃ look items, made.getLast? = some look ∧ look.method = .images ∧
    look.Lists items ∧ items ≠ []
  unanswered : ∀ earlier look later text, made = earlier ++ look :: later →
    look.method = .images → look.Fails text →
    later = [] ∧ ended = .error (.operation "image list" text .null)
  refused : ∀ earlier pull later text, made = earlier ++ pull :: later →
    pull.method = .pull → pull.InTime clock deadline → pull.Fails text →
    later = [] ∧ ended = .error (.operation "image pull" text .null)
  -- Every other wait is one that was too late, a pull that is cut off as it fails included.
  otherwise : ended ≠ .ok () →
    (∀ exchange ∈ made, ∀ text, exchange.Fails text →
      exchange.method = .pull ∧ ¬exchange.InTime clock deadline) →
    ended = .error (.pullTimeout wanted.image.reference (.real wanted.timeout))
  settles : ∀ reference, ended ≠ .error (.imageMissing reference)

variable {wanted} {clock : Clock} {deadline : Option Rat} {made : List Exchange}

/-- A lookup is a call for images. -/
theorem method_of_lookup {look : Exchange} (asks : look.call.query = wanted.lookup) :
    look.method = .images :=
  congrArg Query.method asks

/-- A pull is a call to pull. -/
theorem method_of_pulling {pull : Exchange} (asks : pull.call.query = wanted.pulling) :
    pull.method = .pull :=
  congrArg Query.method asks

namespace Round

variable {attempt : Except Failure Attempt}

/-- A round is a lookup, or a lookup that finds nothing and an early pull. -/
theorem shape (round : wanted.Round clock deadline made attempt) :
    ∃ look, look.call.query = wanted.lookup ∧ (made = [look] ∨ ∃ pull, made = [look, pull] ∧
      look.Lists [] ∧ pull.call.query = wanted.pulling ∧ pull.Early deadline) := by
  -- The ways that have a pull tell of it what the lookup and the deadline had to be.
  cases round with
  | available asks => exact ⟨_, asks, Or.inl rfl⟩
  | unanswered asks => exact ⟨_, asks, Or.inl rfl⟩
  | expired asks => exact ⟨_, asks, Or.inl rfl⟩
  | refused asks missing pulls early => exact ⟨_, asks, Or.inr ⟨_, rfl, missing, pulls, early⟩⟩
  | cutOff asks missing pulls early => exact ⟨_, asks, Or.inr ⟨_, rfl, missing, pulls, early⟩⟩
  | again asks missing pulls early => exact ⟨_, asks, Or.inr ⟨_, rfl, missing, pulls, early⟩⟩

/-- Every lookup of a round asks for the name and the tag of the image. -/
theorem looksUp (round : wanted.Round clock deadline made attempt) {look : Exchange}
    (member : look ∈ made) (looks : look.method = .images) : look.call.query = wanted.lookup := by
  -- The only other call of a round is a pull.
  obtain ⟨first, asks, rfl | ⟨pull, rfl, -, pulls, -⟩⟩ := round.shape
  · obtain rfl := List.mem_singleton.mp member
    exact asks
  · rcases List.mem_cons.mp member with rfl | member
    · exact asks
    · obtain rfl := List.mem_singleton.mp member
      rw [method_of_pulling pulls] at looks
      cases looks

/-- A pull of a round begins early, and right after a lookup that found nothing. -/
theorem pulls (round : wanted.Round clock deadline made attempt) {earlier later : List Exchange}
    {pull : Exchange} (split : made = earlier ++ pull :: later) (isPull : pull.method = .pull) :
    pull.Early deadline ∧ ∃ look, earlier = [look] ∧ look.method = .images ∧ look.Lists [] := by
  -- Only the second of two calls can be a pull.
  obtain ⟨look, asks, rfl | ⟨other, rfl, missing, pulls, early⟩⟩ := round.shape
  · obtain ⟨-, rfl, -⟩ := split_singleton split
    rw [method_of_lookup asks] at isPull
    cases isPull
  · rcases split_pair split with ⟨-, rfl, -⟩ | ⟨rfl, rfl, -⟩
    · rw [method_of_lookup asks] at isPull
      cases isPull
    · exact ⟨early, look, rfl, method_of_lookup asks, missing⟩

/-- A failure of the daemon ends a round, unless it is that of a pull that is cut off. -/
theorem stops (round : wanted.Round clock deadline made attempt) {earlier later : List Exchange}
    {exchange : Exchange} {text : String} (split : made = earlier ++ exchange :: later)
    (fails : exchange.Fails text)
    (inTime : exchange.method = .pull → exchange.InTime clock deadline) :
    later = [] ∧ attempt = .error (.operation (operation exchange.method) text .null) := by
  -- A lookup that finds nothing has been answered, so of two calls only the pull can have failed.
  cases round with
  | available asks lists =>
    obtain ⟨-, rfl, -⟩ := split_singleton split
    exact absurd fails (lists.not_fails text)
  | unanswered asks failed =>
    obtain ⟨-, rfl, rfl⟩ := split_singleton split
    rw [failed.unique fails, method_of_lookup asks]
    exact ⟨rfl, rfl⟩
  | expired asks missing =>
    obtain ⟨-, rfl, -⟩ := split_singleton split
    exact absurd fails (missing.not_fails text)
  -- From here on the round has a pull, and the failing call is the lookup or this one.
  | refused asks missing pulls early arrives failed =>
    rcases split_pair split with ⟨-, rfl, -⟩ | ⟨-, rfl, rfl⟩
    · exact absurd fails (missing.not_fails text)
    · rw [failed.unique fails, method_of_pulling pulls]
      exact ⟨rfl, rfl⟩
  | cutOff asks missing pulls early late =>
    rcases split_pair split with ⟨-, rfl, -⟩ | ⟨-, rfl, rfl⟩
    · exact absurd fails (missing.not_fails text)
    · exact absurd (inTime (method_of_pulling pulls)) late
  | again asks missing pulls early answers =>
    rcases split_pair split with ⟨-, rfl, -⟩ | ⟨-, rfl, rfl⟩
    · exact absurd fails (missing.not_fails text)
    · obtain ⟨fault, failed⟩ := fails
      rw [answers] at failed
      cases failed

/-- A round finds the image exactly if it is a lookup that is answered by a list with parts. -/
theorem succeeds (round : wanted.Round clock deadline made attempt) :
    attempt = .ok .available ↔ ∃ look items, made.getLast? = some look ∧ look.method = .images ∧
      look.Lists items ∧ items ≠ [] := by
  constructor
  · -- Only one kind of round finds the image.
    rintro rfl
    cases round with
    | available asks lists present => exact ⟨_, _, rfl, method_of_lookup asks, lists, present⟩
  · -- In every other round the last call is one that fails, finds nothing, or is a pull.
    rintro ⟨look, items, last, looks, lists, present⟩
    cases round with
    | available => rfl
    | unanswered asks fails =>
      obtain rfl := Option.some.inj last
      exact absurd fails (lists.not_fails _)
    | expired asks missing =>
      obtain rfl := Option.some.inj last
      exact absurd (lists.unique missing) present
    | refused asks missing pulls | cutOff asks missing pulls | again asks missing pulls =>
      rw [List.getLast?_cons_cons, List.getLast?_singleton, Option.some.injEq] at last
      subst last
      rw [method_of_pulling pulls] at looks
      cases looks

end Round

namespace Run

variable {ended : Except Failure Unit}

/-- Every run makes a call. -/
theorem begins (run : wanted.Run clock deadline made ended) : made ≠ [] := by
  -- The first round makes one.
  cases run with
  | available round | expired round | failed round =>
    cases round <;> exact List.cons_ne_nil _ _
  | again round rest =>
    cases round
    exact List.cons_ne_nil _ _

/-- The calls of a run alternate. -/
theorem alternates (run : wanted.Run clock deadline made ended) :
    made.map Exchange.method = (List.range made.length).map turn := by
  induction run with
  | available round | expired round | failed round =>
    obtain ⟨look, asks, rfl | ⟨pull, rfl, -, pulls, -⟩⟩ := round.shape
    · simp [method_of_lookup asks, turn, List.range_succ]
    · simp [method_of_lookup asks, method_of_pulling pulls, turn, List.range_succ]
  | again round rest ih =>
    cases round with
    | again asks missing pulls =>
      -- A round before others has made two calls, so the turns go on as from the start.
      rw [List.map_append, ih]
      simp [method_of_lookup asks, method_of_pulling pulls, List.range_succ_eq_map, turn_first,
        turn_second, turn_later]

/-- Every lookup of a run asks for the name and the tag of the image. -/
theorem looksUp (run : wanted.Run clock deadline made ended) {look : Exchange}
    (member : look ∈ made) (looks : look.method = .images) : look.call.query = wanted.lookup := by
  -- Each lookup belongs to one of the rounds.
  induction run with
  | available round | expired round | failed round => exact round.looksUp member looks
  | again round rest ih =>
    rcases List.mem_append.mp member with first | following
    · exact round.looksUp first looks
    · exact ih following

/-- A pull of a run begins early, and right after a lookup that found nothing. -/
theorem pulls (run : wanted.Run clock deadline made ended) {earlier later : List Exchange}
    {pull : Exchange} (split : made = earlier ++ pull :: later) (isPull : pull.method = .pull) :
    pull.Early deadline ∧
      ∃ look, earlier.getLast? = some look ∧ look.method = .images ∧ look.Lists [] := by
  -- What comes right before a pull is in the same round.
  induction run generalizing earlier with
  | available round | expired round | failed round =>
    obtain ⟨early, look, rfl, looks, missing⟩ := round.pulls split isPull
    exact ⟨early, look, rfl, looks, missing⟩
  | again round rest ih =>
    rcases split_append split with ⟨more, front⟩ | ⟨more, rfl, back⟩
    · obtain ⟨early, look, rfl, looks, missing⟩ := round.pulls front isPull
      exact ⟨early, look, rfl, looks, missing⟩
    · obtain ⟨early, look, last, looks, missing⟩ := ih back
      exact ⟨early, look, by rw [List.getLast?_append, last]; rfl, looks, missing⟩

/-- A failure of the daemon ends a run at once, unless it is that of a pull that is cut off. -/
theorem stops (run : wanted.Run clock deadline made ended) {earlier later : List Exchange}
    {exchange : Exchange} {text : String} (split : made = earlier ++ exchange :: later)
    (fails : exchange.Fails text)
    (inTime : exchange.method = .pull → exchange.InTime clock deadline) :
    later = [] ∧ ended = .error (.operation (operation exchange.method) text .null) := by
  -- A round after which the run goes on, or gives up, has not met such a failure.
  induction run generalizing earlier with
  | available round | expired round => cases (round.stops split fails inTime).2
  | failed round =>
    obtain ⟨rfl, same⟩ := round.stops split fails inTime
    cases same
    exact ⟨rfl, rfl⟩
  | again round rest ih =>
    rcases split_append split with ⟨more, front⟩ | ⟨more, -, back⟩
    · cases (round.stops front fails inTime).2
    · exact ih back

/-- A run gets the image exactly if its last call is a lookup that is answered by a list with
parts. -/
theorem succeeds (run : wanted.Run clock deadline made ended) :
    ended = .ok () ↔ ∃ look items, made.getLast? = some look ∧ look.method = .images ∧
      look.Lists items ∧ items ≠ [] := by
  induction run with
  | available round => exact iff_of_true rfl (round.succeeds.mp rfl)
  | expired round | failed round =>
    exact iff_of_false nofun fun found => nomatch round.succeeds.mpr found
  | again round rest ih =>
    -- The last call of the later rounds is the last one of all.
    have some := List.getLast?_isSome.mpr rest.begins
    rw [ih, List.getLast?_append, Option.or_of_isSome some]

/-- What does not get the image, and is not ended by a failure of the daemon, was too late. -/
theorem otherwise (run : wanted.Run clock deadline made ended) (without : ended ≠ .ok ())
    (late : ∀ exchange ∈ made, ∀ text, exchange.Fails text →
      exchange.method = .pull ∧ ¬exchange.InTime clock deadline) :
    ended = .error wanted.late := by
  -- The failures that can end a run are those of a lookup and of a pull that is in time.
  induction run with
  | available round => exact absurd rfl without
  | expired round => rfl
  | failed round =>
    cases round with
    | unanswered asks fails =>
      have isPull := (late _ (List.mem_singleton.mpr rfl) _ fails).1
      rw [method_of_lookup asks] at isPull
      cases isPull
    | refused asks missing pulls early inTime fails =>
      exact absurd inTime (late _ (List.mem_cons_of_mem _ (List.mem_singleton.mpr rfl)) _ fails).2
  | again round rest ih =>
    exact ih without fun exchange member => late exchange (List.mem_append_right _ member)

/-- That the image is missing is never what comes of a run. -/
theorem settles (run : wanted.Run clock deadline made ended) (reference : String) :
    ended ≠ .error (.imageMissing reference) := by
  -- That the image is missing leads to another round, and never out of the wait.
  induction run with
  | available round => exact nofun
  | expired round => exact nofun
  | failed round => cases round <;> exact nofun
  | again round rest ih => exact ih

/-- A run keeps all that is promised of a wait. -/
theorem course (run : wanted.Run clock deadline made ended) :
    wanted.Course clock deadline made ended where
  -- A failure stops the run only where nothing hides it: no deadline does in a lookup, and a pull
  -- is in time by assumption.
  begins := run.begins
  alternates := run.alternates
  looksUp _ := run.looksUp
  pulls _ _ _ := run.pulls
  succeeds := run.succeeds
  unanswered _ look _ text split looks fails := by
    have stopped := run.stops split fails (by rw [looks]; exact nofun)
    rwa [looks] at stopped
  refused _ pull _ text split isPull inTime fails := by
    have stopped := run.stops split fails fun _ => inTime
    rwa [isPull] at stopped
  otherwise := run.otherwise
  settles := run.settles

end Run

/-- A timeout that is greater than zero leads to a time, or to none if it is infinite. -/
theorem deadline_of_isPositive (wanted : Availability) (patient : wanted.timeout.IsPositive)
    (clock : Clock) : wanted.deadline clock = .ofTime? (wanted.endTime? clock) := by
  unfold deadline
  -- The two timeouts that are told apart are not greater than zero.
  split
  · next negative => simp [negative, Binary64.IsPositive, Binary64.toRat?] at patient
  · next unordered => simp [unordered, Binary64.IsPositive, Binary64.toRat?] at patient
  · rfl

/-- A wait for an image with a timeout greater than zero keeps to its course if it ends, however many
attempts it is allowed; on an exact clock a pull is cut off at the deadline itself. -/
theorem ensureWithin_course (wanted : Availability) (patient : wanted.timeout.IsPositive)
    (most : Nat) (world : World) (counts : world.clock.Counts) (serves : world.script.Serves)
    (ends : result (wanted.ensureWithin most) world ≠ .error .endless) :
    (∃ made, Exchanged made world (after (wanted.ensureWithin most) world) ∧
      wanted.Course world.clock (wanted.endTime? world.clock) made
        (result (wanted.ensureWithin most) world)) ∧
      ((∀ seconds, world.clock.kept seconds = seconds) →
        ∀ start deadline, world.clock.cutOff start deadline = deadline) := by
  have waits : wanted.ensureWithin most world =
      wanted.attempts (.ofTime? (wanted.endTime? world.clock)) most 1 world := by
    rw [← wanted.deadline_of_isPositive patient]
    rfl
  rw [result_of_eq waits] at ends ⊢
  rw [after_of_eq waits]
  -- The clock at the start says what the deadline is, and from then on only keeps the time.
  obtain ⟨made, exchanged, run⟩ :=
    wanted.attempts_run counts (wanted.endTime? world.clock) most 1 rfl serves ends
  exact ⟨⟨made, exchanged, run.course⟩, Clock.cutOff_of_kept⟩

/-- A daemon that has no image until one pull of it has been answered. -/
def pulledOnce : Script
  | .images, 0 => some ⟨1, .ok (.value (.array []))⟩
  | .pull, 0 => some ⟨20, .ok (.value .null)⟩
  | _, _ => none

/-- Waiting for an image that comes with the first pull keeps to its course. -/
theorem ensureWithin_course_pulled :
    let wanted := of { name := "retirejs" } .standard (.named loggerName)
    let world : World := { settings := .standard, script := pulledOnce }
    wanted.timeout.IsPositive ∧ result (wanted.ensureWithin 2) world = .ok () ∧
      ∃ made, Exchanged made world (after (wanted.ensureWithin 2) world) ∧
        wanted.Course world.clock (wanted.endTime? world.clock) made
          (result (wanted.ensureWithin 2) world) := by
  -- Every outcome of this daemon is a value, and its image is there at the second lookup.
  intro wanted world
  have patient : wanted.timeout.IsPositive :=
    Binary64.isPositive_finite_iff.mpr ⟨rfl, by decide⟩
  have serves : world.script.Serves := by
    constructor
    · rintro (_ | number)
      · exact Or.inl ⟨_, rfl⟩
      · exact Or.inl ⟨_, rfl⟩
    · rintro (_ | number)
      · exact Or.inl ⟨_, rfl⟩
      · exact Or.inl ⟨_, rfl⟩
  have found : result (wanted.ensureWithin 2) world = .ok () := by decide +kernel
  exact ⟨patient, found, (ensureWithin_course wanted patient 2 world Clock.double_counts serves
    (by rw [found]; exact nofun)).1⟩

/-- A pull that fails before the deadline is cut off all the same where double precision has the
seconds until then end one step early. -/
theorem ensure_cuts_off_early :
    let timeout : Binary64 := .finite false 6755399441055745 (-51)
    let wanted := { of { name := "x" } .standard (.named loggerName) with timeout := timeout }
    let began : Rat := 1 / 2 + 1 / 4503599627370496
    let refusal : Outcome := ⟨5 / 2, .error (.daemon .rejected "denied")⟩
    let script : Script := fun
      | .images, _ => some ⟨began, .ok (.value (.array []))⟩
      | .pull, _ => some refusal
      | _, _ => none
    let world : World := { settings := .standard, script := script }
    ((after wanted.ensure world).calls.map fun call => (call.time, call.query)) =
        [(0, wanted.lookup), (began, wanted.pulling)] ∧
      world.script.outcome .pull 0 = refusal ∧
      (∃ deadline, wanted.deadline world.clock = .at deadline ∧
        began + refusal.delay < deadline ∧
        world.clock.kept (began + refusal.delay) < deadline) ∧
      result wanted.ensure world = .error (.pullTimeout "x:latest" (.real timeout)) := by
  intro timeout wanted began refusal script world
  refine ⟨?_, rfl, ⟨_, rfl, ?_, ?_⟩, ?_⟩
  all_goals decide +kernel

end Availability

end ContainerScan
