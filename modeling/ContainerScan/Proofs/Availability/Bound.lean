import ContainerScan.Proofs.Availability.Course
import ContainerScan.Proofs.Availability.Pace
import Mathlib.Tactic.Linarith
import Mathlib.Tactic.Ring

/-! A wait for an image comes to an end: each attempt but the last one takes an interval off the
time that is left until the deadline. -/

namespace ContainerScan

open Step World

/-- A number of seconds that are enough for a length, divided into intervals. -/
theorem le_ceil_toNat_mul {length interval : Rat} (positive : 0 < interval) :
    length ≤ (length / interval).ceil.toNat * interval := by
  have whole : length / interval ≤ ((length / interval).ceil.toNat : Rat) :=
    Rat.le_ceil.trans (by exact_mod_cast Int.self_le_toNat _)
  exact (div_le_iff₀ positive).mp whole

namespace Availability

variable (wanted : Availability)

/-- A wait without a bound on its attempts, from the attempt of a number on: what comes of it, and
the world that it ends in. -/
inductive Waits (deadline : Deadline) : Nat → World → Except Failure Unit → World → Prop where
  | available {number : Nat} {world final : World}
      (tried : wanted.attempt deadline number world = .ok .available final) :
      Waits deadline number world (.ok ()) final
  | expired {number : Nat} {world middle : World}
      (tried : wanted.attempt deadline number world = .ok .expired middle) :
      Waits deadline number world (result (wanted.giveUp number) middle)
        (after (wanted.giveUp number) middle)
  | failed {number : Nat} {world final : World} {failure : Failure}
      (tried : wanted.attempt deadline number world = .error failure final) :
      Waits deadline number world (.error failure) final
  | again {number : Nat} {world middle final : World} {ended : Except Failure Unit}
      (tried : wanted.attempt deadline number world = .ok .again middle)
      (rest : Waits deadline (number + 1) middle ended final) :
      Waits deadline number world ended final

/-- How attempts may go one after the other in time, until one of them ends the wait. -/
inductive Laps (interval deadline : Rat) :
    Rat → List Exchange → Rat → Except Failure Unit → Prop where
  | available {start finish : Rat} {made : List Exchange}
      (lap : wanted.Lap interval deadline start made finish (.ok .available)) :
      Laps interval deadline start made finish (.ok ())
  | expired {start finish : Rat} {made : List Exchange}
      (lap : wanted.Lap interval deadline start made finish (.ok .expired)) :
      Laps interval deadline start made finish (.error wanted.late)
  | failed {start finish : Rat} {made : List Exchange} {failure : Failure}
      (lap : wanted.Lap interval deadline start made finish (.error failure)) :
      Laps interval deadline start made finish (.error failure)
  | again {start middle finish : Rat} {made later : List Exchange} {ended : Except Failure Unit}
      (lap : wanted.Lap interval deadline start made middle (.ok .again))
      (rest : Laps interval deadline middle later finish ended) :
      Laps interval deadline start (made ++ later) finish ended

variable {wanted} {interval deadline start finish : Rat} {made : List Exchange}

/-- On an exact clock a wait is made of laps. -/
theorem Waits.laps (finite : wanted.interval.toRat? = some interval) (positive : 0 < interval)
    {number : Nat} {world final : World} {ended : Except Failure Unit}
    (waits : wanted.Waits (.at deadline) number world ended final) (exact : world.clock.IsExact) :
    ∃ made, Exchanged made world final ∧
      wanted.Laps interval deadline world.clock.time made final.clock.time ended := by
  -- Each way in which an attempt may go on is a way for its lap, and the clock stays exact.
  induction waits with
  | available tried =>
    obtain ⟨made, exchanged, lap⟩ := wanted.attempt_lap_of_ok finite positive exact tried
    exact ⟨made, exchanged, .available lap⟩
  | @expired number world middle tried =>
    obtain ⟨made, exchanged, lap⟩ := wanted.attempt_lap_of_ok finite positive exact tried
    obtain ⟨events, given⟩ := wanted.giveUp_apply number middle
    rw [after_of_error given, result_of_error given]
    exact ⟨made, exchanged.events events, .expired lap⟩
  | @failed number world final failure tried =>
    obtain ⟨made, exchanged, lap⟩ := wanted.attempt_lap deadline finite positive number exact
    rw [after_of_error tried] at exchanged lap
    rw [result_of_error tried] at lap
    exact ⟨made, exchanged, .failed lap⟩
  | again tried rest ih =>
    obtain ⟨made, exchanged, lap⟩ := wanted.attempt_lap_of_ok finite positive exact tried
    obtain ⟨later, onwards, laps⟩ := ih (exact.of_kept exchanged.kept)
    exact ⟨made ++ later, exchanged.trans onwards, .again lap laps⟩

namespace Lap

variable {attempt : Except Failure Attempt}

/-- A lap is a lookup, or a lookup that misses the image and a pull. -/
theorem shape (lap : wanted.Lap interval deadline start made finish attempt) :
    ∃ look, look.call.query = wanted.lookup ∧ look.call.time = start ∧
      (made = [look] ∨ ∃ pull, made = [look, pull] ∧ wanted.Missed deadline look pull) := by
  cases lap with
  | available asks | unanswered asks | expired asks => exact ⟨_, asks, rfl, Or.inl rfl⟩
  | fetched missed => exact ⟨_, missed.asks, rfl, Or.inr ⟨_, rfl, missed⟩⟩

/-- In a lap there are lookups and pulls alone. -/
theorem asks (lap : wanted.Lap interval deadline start made finish attempt) :
    ∀ exchange ∈ made, exchange.method ∈ methods := by
  obtain ⟨look, asks, -, rfl | ⟨pull, rfl, missed⟩⟩ := lap.shape
  · simp [method_of_lookup asks, methods]
  · simp [method_of_lookup asks, method_of_pulling missed.pulls, methods]

/-- There is one lookup in a lap. -/
theorem lookups (lap : wanted.Lap interval deadline start made finish attempt) :
    made.countP (fun exchange => exchange.method = .images) = 1 := by
  obtain ⟨look, asks, -, rfl | ⟨pull, rfl, missed⟩⟩ := lap.shape
  · simp [method_of_lookup asks]
  · simp [method_of_lookup asks, method_of_pulling missed.pulls]

/-- There is one pull in a lap at most, and none at all from the deadline on. -/
theorem pulls (lap : wanted.Lap interval deadline start made finish attempt)
    (takes : ∀ exchange ∈ made, 0 ≤ exchange.outcome.delay) :
    made.countP (fun exchange => exchange.method = .pull) ≤ if start < deadline then 1 else 0 := by
  -- A lap pulls at most once, and only if time is left after its lookup.
  obtain ⟨look, asks, rfl, rfl | ⟨pull, rfl, missed⟩⟩ := lap.shape
  · simp [method_of_lookup asks]
  · have began : look.call.time < deadline :=
      (le_add_of_nonneg_right (takes look (List.mem_cons_self ..))).trans_lt missed.early
    simp [method_of_lookup missed.asks, method_of_pulling missed.pulls, began]

/-- After a lap that is not the last one there is an interval less until the deadline, or none. -/
theorem progress (lap : wanted.Lap interval deadline start made finish (.ok .again))
    (takes : ∀ exchange ∈ made, 0 ≤ exchange.outcome.delay) :
    start < deadline ∧ min (start + interval) deadline ≤ finish := by
  cases lap with
  | @fetched look pull _ _ missed fetch =>
    have looking := takes look (List.mem_cons_self ..)
    have pulling := takes pull (List.mem_cons_of_mem _ (List.mem_singleton.mpr rfl))
    -- Neither the lookup nor the pull goes back in time.
    have later : look.call.time ≤ pull.due :=
      (le_add_of_nonneg_right looking).trans
        (missed.follows.symm.le.trans (le_add_of_nonneg_right pulling))
    refine ⟨(le_add_of_nonneg_right looking).trans_lt missed.early, ?_⟩
    -- Of the ways a pull may go only this one is followed by another lap.
    cases fetch with
    | again inTime answers => exact min_le_min_right _ ((add_le_add_iff_right interval).mpr later)

/-- A number of intervals that reach the deadline is one fewer after a lap that is not the last. -/
theorem remaining (lap : wanted.Lap interval deadline start made finish (.ok .again))
    (takes : ∀ exchange ∈ made, 0 ≤ exchange.outcome.delay) (positive : 0 < interval) {bound : Nat}
    (enough : deadline ≤ start + bound * interval) :
    ∃ fewer : Nat, bound = fewer + 1 ∧ deadline ≤ finish + fewer * interval := by
  obtain ⟨began, further⟩ := lap.progress takes
  cases bound with
  | zero =>
    rw [Nat.cast_zero, zero_mul, add_zero] at enough
    exact absurd began (not_lt.mpr enough)
  | succ fewer =>
    refine ⟨fewer, rfl, ?_⟩
    have rest : 0 ≤ (fewer : Rat) * interval := mul_nonneg (Nat.cast_nonneg _) positive.le
    push_cast at enough
    -- The lap has taken its interval, or has been cut off at the deadline.
    rcases min_le_iff.mp further with next | last
    · linarith
    · linarith

end Lap

/-- In a wait there are lookups and pulls alone. -/
theorem Laps.asks {ended : Except Failure Unit}
    (laps : wanted.Laps interval deadline start made finish ended) :
    ∀ exchange ∈ made, exchange.method ∈ methods := by
  -- Each call belongs to one of the laps.
  induction laps with
  | available lap | expired lap | failed lap => exact lap.asks
  | again lap rest ih =>
    exact fun exchange member => (List.mem_append.mp member).elim (lap.asks _) (ih _)

/-- A wait makes at most as many pulls as there are intervals until the deadline, and at most one
lookup more than that. -/
theorem Laps.counts {ended : Except Failure Unit}
    (laps : wanted.Laps interval deadline start made finish ended)
    (takes : ∀ exchange ∈ made, 0 ≤ exchange.outcome.delay) (positive : 0 < interval) {bound : Nat}
    (enough : deadline ≤ start + bound * interval) :
    made.countP (fun exchange => exchange.method = .images) ≤ bound + 1 ∧
      made.countP (fun exchange => exchange.method = .pull) ≤ bound := by
  -- What begins before the deadline has an interval left.
  have first {time : Rat} {bound : Nat} (enough : deadline ≤ time + bound * interval) :
      (if time < deadline then 1 else 0) ≤ bound := by
    split
    · next early =>
      -- With no interval left the deadline would have passed.
      refine Nat.one_le_iff_ne_zero.mpr fun none => ?_
      rw [none, Nat.cast_zero, zero_mul, add_zero] at enough
      exact absurd early (not_lt.mpr enough)
    · exact Nat.zero_le _
  -- The bound is one less for the laps that follow the first.
  induction laps generalizing bound with
  | available lap | expired lap | failed lap =>
    exact ⟨lap.lookups.le.trans (Nat.le_add_left ..), (lap.pulls takes).trans (first enough)⟩
  | again lap rest ih =>
    have front := fun exchange member => takes exchange (List.mem_append_left _ member)
    have back := fun exchange member => takes exchange (List.mem_append_right _ member)
    obtain ⟨fewer, rfl, left⟩ := lap.remaining front positive enough
    obtain ⟨lookups, pulls⟩ := ih back left
    have one : _ ≤ 1 := (lap.pulls front).trans (by split <;> decide)
    rw [List.countP_append, List.countP_append, lap.lookups]
    omega

variable (wanted)

/-- Attempts that are as many as the intervals until the deadline, and one more, are as many as the
wait takes. -/
theorem attempts_waits (finite : wanted.interval.toRat? = some interval) (positive : 0 < interval)
    {bound left : Nat} (fuel : bound < left) (number : Nat) {world : World}
    (exact : world.clock.IsExact) (takes : world.script.TakesTime)
    (enough : deadline ≤ world.clock.time + bound * interval) :
    let act := wanted.attempts (.at deadline) left number
    wanted.Waits (.at deadline) number world (result act world) (after act world) := by
  -- Each attempt that is not the last one leaves one fewer, and an interval less to go.
  induction left generalizing bound number world with
  | zero => exact absurd fuel (Nat.not_lt_zero _)
  | succ left ih =>
    intro act
    cases tried : wanted.attempt (.at deadline) number world with
    | error failure middle =>
      have ended : act world = _ := bind_of_error tried _
      rw [after_of_error ended, result_of_error ended]
      exact .failed tried
    | ok attempt middle =>
      have onward : act world = _ := bind_of_ok tried _
      cases attempt with
      | available =>
        rw [after_of_ok onward, result_of_ok onward]
        exact .available tried
      | expired =>
        have ended : act world = wanted.giveUp number middle := onward
        rw [after_of_eq ended, result_of_eq ended]
        exact .expired tried
      | again =>
        have following : act world = wanted.attempts (.at deadline) left (number + 1) middle :=
          onward
        obtain ⟨made, exchanged, lap⟩ := wanted.attempt_lap_of_ok finite positive exact tried
        -- The lap has used up one of the intervals, and with it one of the attempts.
        have delays := fun exchange member =>
          exchanged.takesTime takes member (lap.asks exchange member)
        obtain ⟨fewer, rfl, still⟩ := lap.remaining delays positive enough
        rw [after_of_eq following, result_of_eq following]
        exact .again tried (ih (Nat.lt_of_succ_lt_succ fuel) (number + 1)
          (exact.of_kept exchanged.kept) (by rwa [exchanged.script]) still)

/-- On an exact clock a wait ends when its timeout has passed. -/
theorem deadline_of_exact {timeout : Rat} (atMost : wanted.timeout.toRat? = some timeout)
    {clock : Clock} (exact : clock.IsExact) :
    wanted.deadline clock = .at (clock.time + timeout) := by
  have ends : wanted.endTime? clock = some (clock.time + timeout) := by
    rw [endTime?, atMost, Option.map_some, exact.timeAfter]
  unfold deadline
  -- The timeouts that lead to no time are not finite.
  split
  · next negative => simp [negative, Binary64.toRat?] at atMost
  · next unordered => simp [unordered, Binary64.toRat?] at atMost
  · rw [ends]
    rfl

/-- There are more attempts than intervals until the deadline. -/
theorem lt_mostAttempts {timeout : Rat} (every : wanted.interval.toRat? = some interval)
    (atMost : wanted.timeout.toRat? = some timeout) (positive : 0 < interval) :
    (timeout / interval).ceil.toNat < wanted.mostAttempts := by
  -- The number of attempts was chosen with room to spare.
  unfold mostAttempts
  rw [every, atMost]
  simp only [if_pos positive]
  omega

/-- With a finite interval and a finite timeout the number of attempts is no limit to a wait. -/
theorem ensure_waits {timeout : Rat} (every : wanted.interval.toRat? = some interval)
    (atMost : wanted.timeout.toRat? = some timeout) (positive : 0 < interval) {world : World}
    (exact : world.clock.IsExact) (takes : world.script.TakesTime) :
    wanted.Waits (.at (world.clock.time + timeout)) 1 world (result wanted.ensure world)
      (after wanted.ensure world) := by
  -- The intervals until the deadline are as many as the timeout holds, the last one begun.
  have waits := wanted.attempts_waits every positive (wanted.lt_mostAttempts every atMost positive)
    1 exact takes ((add_le_add_iff_left world.clock.time).mpr (le_ceil_toNat_mul positive))
  rw [← wanted.deadline_of_exact atMost exact] at waits ⊢
  exact waits

/-- A wait with a finite interval and a finite timeout ends, however the daemon answers, although
nothing bounds its attempts: after at most as many pulls as there are intervals until the deadline,
and at most one lookup more than that. -/
theorem ensure_bounded {interval timeout : Rat} (every : wanted.interval.toRat? = some interval)
    (atMost : wanted.timeout.toRat? = some timeout) (positive : 0 < interval) (world : World)
    (exact : world.clock.IsExact) (takes : world.script.TakesTime) :
    let final := after wanted.ensure world
    wanted.Waits (wanted.deadline world.clock) 1 world (result wanted.ensure world) final ∧
      final.callCount .images ≤
        world.callCount .images + ((timeout / interval).ceil.toNat + 1) ∧
      final.callCount .pull ≤ world.callCount .pull + (timeout / interval).ceil.toNat := by
  intro final
  have waits := wanted.ensure_waits every atMost positive exact takes
  -- The calls are counted lap by lap, and the laps are bounded by the time that they take.
  obtain ⟨made, exchanged, laps⟩ := waits.laps every positive exact
  have delays := fun exchange member =>
    exchanged.takesTime takes member (laps.asks exchange member)
  obtain ⟨lookups, pulls⟩ := laps.counts delays positive
    ((add_le_add_iff_left world.clock.time).mpr (le_ceil_toNat_mul positive))
  rw [wanted.deadline_of_exact atMost exact, exchanged.callCount, exchanged.callCount]
  exact ⟨waits, Nat.add_le_add_left lookups _, Nat.add_le_add_left pulls _⟩

/-- A daemon that never has the image and ends every pull at once. -/
def pulledInVain : Script
  | .images, _ => some (.immediate (.array []))
  | .pull, _ => some (.immediate .null)
  | _, _ => none

/-- Where every pull ends at once and in vain, there are as many calls as there can be: with two
intervals and a half until the deadline, four lookups and three pulls. -/
theorem ensure_bounded_attained :
    let wanted := { of { name := "retirejs" } .standard (.named loggerName) with
      interval := .finite false 1 0
      timeout := .finite false 5 (-1) }
    let world : World := { settings := .standard, clock := .exact, script := pulledInVain }
    let final := after wanted.ensure world
    wanted.Waits (.at (5 / 2)) 1 world (.error (.pullTimeout "retirejs:latest"
      (.real (.finite false 5 (-1))))) final ∧ (5 / 2 / 1 : Rat).ceil.toNat = 3 ∧
      final.callCount .images = 4 ∧ final.callCount .pull = 3 := by
  -- A timeout of two and a half intervals leaves room for a lookup at its end.
  intro wanted world final
  have every : wanted.interval.toRat? = some 1 := by decide +kernel
  have atMost : wanted.timeout.toRat? = some (5 / 2) := by decide +kernel
  have takes : world.script.TakesTime := .of_delays (fun _ => le_rfl) fun _ => le_rfl
  obtain ⟨waits, -, -⟩ :=
    ensure_bounded wanted every atMost (by decide) world (fun _ => rfl) takes
  have started : wanted.deadline world.clock = .at (5 / 2) := by decide +kernel
  have late : result wanted.ensure world = .error (.pullTimeout "retirejs:latest"
      (.real (.finite false 5 (-1)))) := by decide +kernel
  rw [started, late] at waits
  exact ⟨waits, by decide +kernel, by decide +kernel, by decide +kernel⟩

end Availability

end ContainerScan
