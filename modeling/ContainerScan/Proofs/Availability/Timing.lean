import ContainerScan.Proofs.Availability.Bound

/-! When the parts of a wait for an image happen: no lookup begins after the deadline, no pull lasts
beyond it, and the wait itself lasts only as much longer as its last lookup takes. -/

namespace ContainerScan

open Step World

namespace Exchange

/-- A pull that ran out of time is told of by a lookup only if that is how it failed. -/
theorem outcome_of_presence {look : Exchange} {reference : String} {bound : Number}
    (told : look.presence = .error (.pullTimeout reference bound)) :
    look.outcome.result = .error (.pullTimeout reference bound) := by
  unfold presence at told
  split at told
  · split at told <;> cases told
  · next failure failed =>
    split at told
    · cases told
    · -- Of the failures only those of the daemon are told in other words.
      cases failure <;> simp_all [Failure.within]

/-- A pull that itself reports to have taken too long has failed so. -/
theorem TimesOut.outcome {pull : Exchange} (reports : pull.TimesOut) :
    ∃ text, pull.outcome.result = .error (.timedOut text) := by
  obtain ⟨failure, told, kind⟩ := reports
  unfold pulled at told
  -- Of the failures only those of the daemon are told in other words, and these are of other kinds.
  split at told
  · cases told
  · next cause failed =>
    cases told
    rw [Failure.isTimedOut_within] at kind
    cases cause <;> simp_all [Failure.isTimedOut]

/-- A pull that ran out of time is told of by another pull only if that is how it failed. -/
theorem outcome_of_pulled {pull : Exchange} {reference : String} {bound : Number}
    (told : pull.pulled = .error (.pullTimeout reference bound)) :
    pull.outcome.result = .error (.pullTimeout reference bound) := by
  -- Of the failures only those of the daemon are told in other words.
  unfold pulled at told
  split at told
  · cases told
  · next failure failed => cases failure <;> simp_all [Failure.within]

end Exchange

namespace Availability

variable (wanted : Availability)

/-- When the next call begins, or the wait is over if there is none. -/
def onwards (later : List Exchange) (finish : Rat) : Rat :=
  (later.head?.map fun next => next.call.time).getD finish

/-- What is promised of the times in a wait for an image, which begins and is over at some time. -/
structure Timing (start deadline : Rat) (made : List Exchange) (ended : Except Failure Unit)
    (finish : Rat) : Prop where
  begins : ∃ look later, made = look :: later ∧ look.method = .images ∧ look.call.time = start
  looks : ∀ look ∈ made, look.method = .images → look.call.time ≤ deadline
  -- A pull is over before anything follows it, or it is given up at the deadline with all the rest.
  pulls : ∀ earlier pull later, made = earlier ++ pull :: later → pull.method = .pull →
    (pull.due < deadline ∧ pull.due ≤ onwards later finish) ∨
      (deadline ≤ pull.due ∧ later = [] ∧ finish = deadline)
  -- Of a pull that reports to have taken too long, or a call that fails in this very way, nothing is
  -- promised here.
  late : ∀ reference bound, ended = .error (.pullTimeout reference bound) →
    deadline ≤ finish ∨
      (∃ pull ∈ made, pull.method = .pull ∧
        ∃ text, pull.outcome.result = .error (.timedOut text)) ∨
      ∃ exchange ∈ made, exchange.outcome.result = .error (.pullTimeout reference bound)
  soon : ∀ earlier look later, made = earlier ++ look :: later → look.method = .images →
    (∀ other ∈ later, other.method ≠ .images) → finish ≤ deadline + look.outcome.delay
  punctual :
    (∀ look ∈ made, look.method = .images → look.presence = .ok false ∧ look.outcome.delay = 0) →
    (∀ pull ∈ made, pull.method = .pull → pull.due < deadline → pull.pulled = .ok ()) →
    ended = .error wanted.late ∧ finish = deadline

variable {wanted} {interval deadline start finish : Rat} {made : List Exchange}

/-- A pull and the pause behind it are over by the deadline. -/
theorem Fetch.finish_le {pull : Exchange} {attempt : Except Failure Attempt}
    (fetch : Fetch interval deadline pull finish attempt) : finish ≤ deadline := by
  -- It ends with the pull, which was in time, or with a pause that the deadline cuts off.
  cases fetch with
  | abandoned late => exact le_rfl
  | timedOut inTime => exact inTime.le
  | refused inTime fails => exact inTime.le
  | again inTime answers => exact min_le_right _ _

/-- A pull is over before its lap is, or it is given up at the deadline. -/
theorem Fetch.ends {pull : Exchange} {attempt : Except Failure Attempt}
    (fetch : Fetch interval deadline pull finish attempt) (positive : 0 < interval) :
    (pull.due < deadline ∧ pull.due ≤ finish) ∨
      (deadline ≤ pull.due ∧ finish = deadline ∧ attempt = .ok .expired) := by
  -- Only a pull that is given up is not over before the deadline.
  cases fetch with
  | abandoned late => exact Or.inr ⟨late, rfl, rfl⟩
  | timedOut inTime => exact Or.inl ⟨inTime, le_rfl⟩
  | refused inTime fails => exact Or.inl ⟨inTime, le_rfl⟩
  | again inTime answers =>
    exact Or.inl ⟨inTime, le_min (le_add_of_nonneg_right positive.le) inTime.le⟩

namespace Lap

variable {attempt : Except Failure Attempt}

/-- A lap begins by a lookup. -/
theorem begins (lap : wanted.Lap interval deadline start made finish attempt) :
    ∃ look later, made = look :: later ∧ look.method = .images ∧ look.call.time = start := by
  obtain ⟨look, asks, began, rfl | ⟨pull, rfl, -⟩⟩ := lap.shape
  · exact ⟨look, [], rfl, method_of_lookup asks, began⟩
  · exact ⟨look, [pull], rfl, method_of_lookup asks, began⟩

/-- The lookup of a lap begins with the lap. -/
theorem looks (lap : wanted.Lap interval deadline start made finish attempt) {look : Exchange}
    (member : look ∈ made) (isLook : look.method = .images) : look.call.time = start := by
  -- The other call of a lap is a pull.
  obtain ⟨first, -, began, rfl | ⟨pull, rfl, missed⟩⟩ := lap.shape
  · rwa [List.mem_singleton.mp member]
  · rcases List.mem_cons.mp member with rfl | member
    · exact began
    · rw [List.mem_singleton.mp member, method_of_pulling missed.pulls] at isLook
      cases isLook

/-- The pull of a lap is its last call, which is over before the lap or given up at the deadline. -/
theorem pull_ends (lap : wanted.Lap interval deadline start made finish attempt)
    (positive : 0 < interval) {earlier later : List Exchange} {pull : Exchange}
    (split : made = earlier ++ pull :: later) (isPull : pull.method = .pull) :
    later = [] ∧ ((pull.due < deadline ∧ pull.due ≤ finish) ∨
      (deadline ≤ pull.due ∧ finish = deadline ∧ attempt = .ok .expired)) := by
  cases lap with
  | available asks | unanswered asks | expired asks =>
    obtain ⟨-, rfl, -⟩ := split_singleton split
    rw [method_of_lookup asks] at isPull
    cases isPull
  | fetched missed fetch =>
    -- Of the two calls the pull is the second one.
    rcases split_pair split with ⟨-, rfl, -⟩ | ⟨-, rfl, rfl⟩
    · rw [method_of_lookup missed.asks] at isPull
      cases isPull
    · exact ⟨rfl, fetch.ends positive⟩

/-- A lap that begins by the deadline is over by the time a call of it would be that began there. -/
theorem soon (lap : wanted.Lap interval deadline start made finish attempt)
    (began : start ≤ deadline) (takes : ∀ exchange ∈ made, 0 ≤ exchange.outcome.delay)
    {look : Exchange} (member : look ∈ made) : finish ≤ deadline + look.outcome.delay := by
  -- A lap without a pull ends with its lookup, and one with a pull by the deadline.
  have looking := takes look member
  cases lap with
  | available | unanswered | expired =>
    obtain rfl := List.mem_singleton.mp member
    exact (add_le_add_iff_right look.outcome.delay).mpr began
  | fetched missed fetch => exact fetch.finish_le.trans (le_add_of_nonneg_right looking)

/-- A lap that runs out of time is not over before the deadline, unless its pull reports to have taken
too long. -/
theorem late (lap : wanted.Lap interval deadline start made finish (.ok .expired)) :
    deadline ≤ finish ∨ ∃ pull ∈ made, pull.method = .pull ∧
      ∃ text, pull.outcome.result = .error (.timedOut text) := by
  -- The time has passed when the lookup is over, or a pull has been given up.
  cases lap with
  | expired asks missing passed => exact Or.inl passed
  | fetched missed fetch =>
    cases fetch with
    | abandoned late => exact Or.inl le_rfl
    | timedOut inTime reports =>
      exact Or.inr ⟨_, List.mem_cons_of_mem _ (List.mem_singleton.mpr rfl),
        method_of_pulling missed.pulls, reports.outcome⟩

/-- A lap fails for lack of time only where one of its exchanges does. -/
theorem failed_late {reference : String} {bound : Number}
    (lap : wanted.Lap interval deadline start made finish
      (.error (.pullTimeout reference bound))) :
    ∃ exchange ∈ made, exchange.outcome.result = .error (.pullTimeout reference bound) := by
  -- A failure of a lap is that of its lookup or of its pull.
  cases lap with
  | unanswered asks fails =>
    exact ⟨_, List.mem_singleton.mpr rfl, Exchange.outcome_of_presence fails⟩
  | fetched missed fetch =>
    cases fetch with
    | refused inTime fails =>
      exact ⟨_, List.mem_cons_of_mem _ (List.mem_singleton.mpr rfl),
        Exchange.outcome_of_pulled fails⟩

/-- A lap that is not the last one is over by the deadline. -/
theorem again_le (lap : wanted.Lap interval deadline start made finish (.ok .again)) :
    finish ≤ deadline := by
  cases lap with
  | fetched missed fetch => exact fetch.finish_le

/-- Without the image, a delay or a failure a lap runs out of time, or another lap follows. -/
theorem punctual (lap : wanted.Lap interval deadline start made finish attempt)
    (began : start ≤ deadline)
    (misses : ∀ look ∈ made, look.method = .images →
      look.presence = .ok false ∧ look.outcome.delay = 0)
    (answers : ∀ pull ∈ made, pull.method = .pull → pull.due < deadline → pull.pulled = .ok ()) :
    (attempt = .ok .expired ∧ finish = deadline) ∨ attempt = .ok .again := by
  cases lap with
  | available asks present =>
    rw [(misses _ (List.mem_singleton.mpr rfl) (method_of_lookup asks)).1] at present
    cases present
  | unanswered asks fails =>
    rw [(misses _ (List.mem_singleton.mpr rfl) (method_of_lookup asks)).1] at fails
    cases fails
  | @expired look asks missing passed =>
    -- The lookup takes no time, so that it is over when it begins.
    have none : look.due = look.call.time := by
      rw [Exchange.due, (misses _ (List.mem_singleton.mpr rfl) (method_of_lookup asks)).2, add_zero]
    exact Or.inl ⟨rfl, le_antisymm (none.le.trans began) passed⟩
  | @fetched look pull _ _ missed fetch =>
    cases fetch with
    -- A pull that is cut off ends at the deadline, and all others are known to be answered.
    | abandoned late => exact Or.inl ⟨rfl, rfl⟩
    | timedOut inTime reports =>
      obtain ⟨failure, fails, -⟩ := reports
      have member : pull ∈ [look, pull] := List.mem_cons_of_mem _ (List.mem_singleton.mpr rfl)
      rw [answers _ member (method_of_pulling missed.pulls) inTime] at fails
      cases fails
    | refused inTime fails =>
      have member : pull ∈ [look, pull] := List.mem_cons_of_mem _ (List.mem_singleton.mpr rfl)
      rw [answers _ member (method_of_pulling missed.pulls) inTime] at fails
      cases fails
    | again inTime answered => exact Or.inr rfl

end Lap

namespace Laps

variable {ended : Except Failure Unit}

/-- A wait begins by a lookup. -/
theorem begins (laps : wanted.Laps interval deadline start made finish ended) :
    ∃ look later, made = look :: later ∧ look.method = .images ∧ look.call.time = start := by
  -- The first lap begins as the wait does.
  cases laps with
  | available lap | expired lap | failed lap => exact lap.begins
  | again lap rest =>
    obtain ⟨look, later, rfl, isLook, began⟩ := lap.begins
    exact ⟨look, _, rfl, isLook, began⟩

/-- No lookup begins after the deadline. -/
theorem looks (laps : wanted.Laps interval deadline start made finish ended)
    (began : start ≤ deadline) {look : Exchange} (member : look ∈ made)
    (isLook : look.method = .images) : look.call.time ≤ deadline := by
  -- Each lap hands on a time that is not after the deadline.
  induction laps with
  | available lap | expired lap | failed lap => exact (lap.looks member isLook).trans_le began
  | again lap rest ih =>
    rcases List.mem_append.mp member with front | back
    · exact (lap.looks front isLook).trans_le began
    · exact ih lap.again_le back

/-- Every pull is over before anything follows it, or is given up at the deadline. -/
theorem pulls (laps : wanted.Laps interval deadline start made finish ended)
    (positive : 0 < interval) {earlier later : List Exchange} {pull : Exchange}
    (split : made = earlier ++ pull :: later) (isPull : pull.method = .pull) :
    (pull.due < deadline ∧ pull.due ≤ onwards later finish) ∨
      (deadline ≤ pull.due ∧ later = [] ∧ finish = deadline) := by
  induction laps generalizing earlier with
  | available lap | expired lap | failed lap =>
    obtain ⟨rfl, ⟨inTime, ends⟩ | ⟨late, there, -⟩⟩ := lap.pull_ends positive split isPull
    · exact Or.inl ⟨inTime, ends⟩
    · exact Or.inr ⟨late, rfl, there⟩
  | @again start middle finish made others ended lap rest ih =>
    rcases split_append split with ⟨more, front⟩ | ⟨more, -, back⟩
    · -- After the pull of this lap the next call is the first one of the laps that follow.
      obtain ⟨rfl, ⟨inTime, ends⟩ | ⟨-, -, given⟩⟩ := lap.pull_ends positive front isPull
      · obtain ⟨look, behind, first, -, began⟩ := rest.begins
        have same : others = later := by simpa [front] using split
        rw [← same, first]
        exact Or.inl ⟨inTime, ends.trans_eq began.symm⟩
      · cases given
    · exact ih back

/-- A wait does not fail for lack of time before the deadline, unless a pull reports to have taken too
long, or the daemon itself fails so. -/
theorem late (laps : wanted.Laps interval deadline start made finish ended) {reference : String}
    {bound : Number} (failed : ended = .error (.pullTimeout reference bound)) :
    deadline ≤ finish ∨
      (∃ pull ∈ made, pull.method = .pull ∧
        ∃ text, pull.outcome.result = .error (.timedOut text)) ∨
      ∃ exchange ∈ made, exchange.outcome.result = .error (.pullTimeout reference bound) := by
  -- Of the ways in which a wait may end two are failures, and one of these is for lack of time.
  induction laps with
  | available lap => cases failed
  | expired lap => exact lap.late.imp_right Or.inl
  | failed lap =>
    cases failed
    exact Or.inr (Or.inr lap.failed_late)
  | again lap rest ih =>
    rcases ih failed with passed | ⟨pull, member, reports⟩ | ⟨exchange, member, same⟩
    · exact Or.inl passed
    · exact Or.inr (Or.inl ⟨pull, List.mem_append_right _ member, reports⟩)
    · exact Or.inr (Or.inr ⟨exchange, List.mem_append_right _ member, same⟩)

/-- A wait is over by the time its last lookup would be if that began at the deadline. -/
theorem soon (laps : wanted.Laps interval deadline start made finish ended)
    (began : start ≤ deadline) (takes : ∀ exchange ∈ made, 0 ≤ exchange.outcome.delay)
    {earlier later : List Exchange} {look : Exchange} (split : made = earlier ++ look :: later)
    (last : ∀ other ∈ later, other.method ≠ .images) :
    finish ≤ deadline + look.outcome.delay := by
  induction laps generalizing earlier with
  | available lap | expired lap | failed lap =>
    exact lap.soon began takes (by simp [split])
  | @again start middle finish made others ended lap rest ih =>
    rcases split_append split with ⟨more, front⟩ | ⟨more, -, back⟩
    · -- A lookup of this lap is not the last one, for another lap follows.
      obtain ⟨next, behind, first, isNext, -⟩ := rest.begins
      have same : more ++ others = later := by simpa [front] using split
      exact absurd isNext (last next (by simp [← same, first]))
    · exact ih lap.again_le (fun exchange member => takes exchange (List.mem_append_right _ member))
        back

/-- Without the image and without any delay or failure a wait is over at the deadline. -/
theorem punctual (laps : wanted.Laps interval deadline start made finish ended)
    (began : start ≤ deadline)
    (misses : ∀ look ∈ made, look.method = .images →
      look.presence = .ok false ∧ look.outcome.delay = 0)
    (answers : ∀ pull ∈ made, pull.method = .pull → pull.due < deadline → pull.pulled = .ok ()) :
    ended = .error wanted.late ∧ finish = deadline := by
  -- No lap finds the image or fails, so that they go on until one of them runs out of time.
  induction laps with
  | available lap | failed lap =>
    rcases lap.punctual began misses answers with ⟨other, -⟩ | other
    · cases other
    · cases other
  | expired lap =>
    rcases lap.punctual began misses answers with ⟨-, there⟩ | other
    · exact ⟨rfl, there⟩
    · cases other
  | again lap rest ih =>
    exact ih lap.again_le (fun look member => misses look (List.mem_append_right _ member))
      (fun pull member => answers pull (List.mem_append_right _ member))

/-- A wait keeps all that is promised of its times. -/
theorem timing (laps : wanted.Laps interval deadline start made finish ended)
    (positive : 0 < interval) (began : start ≤ deadline)
    (takes : ∀ exchange ∈ made, 0 ≤ exchange.outcome.delay) :
    wanted.Timing start deadline made ended finish where
  -- Each promise is kept lap by lap.
  begins := laps.begins
  looks _ := laps.looks began
  pulls _ _ _ := laps.pulls positive
  late _ _ := laps.late
  soon _ _ _ split _ := laps.soon began takes split
  punctual := laps.punctual began

end Laps

/-- On an exact clock a wait with a finite interval and a finite timeout keeps its times, whatever
the daemon answers and however long that takes. -/
theorem ensure_timing (wanted : Availability) {interval timeout : Rat}
    (every : wanted.interval.toRat? = some interval)
    (atMost : wanted.timeout.toRat? = some timeout) (positive : 0 < interval)
    (patient : 0 < timeout) (world : World) (exact : world.clock.IsExact)
    (takes : world.script.TakesTime) :
    let final := after wanted.ensure world
    ∃ made, Exchanged made world final ∧
      wanted.Timing world.clock.time (world.clock.time + timeout) made
        (result wanted.ensure world) final.clock.time := by
  intro final
  -- The clock is exact, so the wait is a row of laps whose times are those of the calls.
  obtain ⟨made, exchanged, laps⟩ :=
    (wanted.ensure_waits every atMost positive exact takes).laps every positive exact
  have delays := fun exchange member =>
    exchanged.takesTime takes member (laps.asks exchange member)
  exact ⟨made, exchanged, laps.timing positive (le_add_of_nonneg_right patient.le) delays⟩

/-- A daemon that takes a second to say that it does not have the image, and ends every pull at
once. -/
def slowInVain : Script
  | .images, _ => some ⟨1, .ok (.value (.array []))⟩
  | .pull, _ => some (.immediate .null)
  | _, _ => none

/-- A wait whose last lookup begins at the deadline is over when that lookup is. -/
theorem ensure_timing_attained :
    let wanted := { of { name := "retirejs" } .standard (.named loggerName) with
      interval := .finite false 2 0
      timeout := .finite false 3 0 }
    let world : World := { settings := .standard, clock := .exact, script := slowInVain }
    let final := after wanted.ensure world
    ∃ made, Exchanged made world final ∧ wanted.Timing 0 3 made (.error wanted.late) 4 := by
  -- The second lookup begins at the deadline and takes a second.
  intro wanted world final
  have every : wanted.interval.toRat? = some 2 := by decide +kernel
  have atMost : wanted.timeout.toRat? = some 3 := by decide +kernel
  have takes : world.script.TakesTime := .of_delays (fun _ => zero_le_one) fun _ => le_rfl
  obtain ⟨made, exchanged, timing⟩ :=
    ensure_timing wanted every atMost (by decide) (by decide) world (fun _ => rfl) takes
  have late : result wanted.ensure world = .error wanted.late := by decide +kernel
  have ends : (after wanted.ensure world).clock.time = 4 := by decide +kernel
  have deadline : world.clock.time + 3 = 3 := by decide +kernel
  rw [late, ends, deadline] at timing
  exact ⟨made, exchanged, timing⟩

/-- Though the image never appears and lookups take no time, a wait is over before its deadline if a
pull fails. -/
theorem ensure_refused_early :
    let wanted := of { name := "x" } .standard (.named loggerName)
    let script : Script := fun
      | .images, _ => some (.immediate (.array []))
      | .pull, _ => some ⟨0, .error (.daemon .rejected "denied")⟩
      | _, _ => none
    let world : World := { settings := .standard, clock := .exact, script := script }
    let final := after wanted.ensure world
    (∀ number, script.outcome .images number = .immediate (.array [])) ∧ script.TakesTime ∧
      wanted.deadline world.clock = .at 900 ∧ final.clock.time = 0 ∧
      result wanted.ensure world = .error (.operation "image pull" "denied" .null) := by
  intro wanted script world final
  exact ⟨fun _ => rfl, .of_delays (fun _ => le_rfl) fun _ => le_rfl, by decide +kernel,
    by decide +kernel, by decide +kernel⟩

end Availability

end ContainerScan
