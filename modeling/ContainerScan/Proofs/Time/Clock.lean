import ContainerScan.Proofs.Time.Moments
import ContainerScan.Time.Clock

/-! What the clocks keep of the seconds that are counted until a deadline, and which clocks never go
back. -/

namespace ContainerScan

/-- A moment in universal time; one whose offset is not known is taken as it is shown. -/
def Timestamp.instant (moment : Timestamp) : Int :=
  moment.micros - moment.offset.getD 0

namespace Clock

/-- A clock that has time left only if there is time left. -/
def Counts (clock : Clock) : Prop :=
  ∀ seconds, 0 < clock.kept seconds → 0 < seconds

/-- The time at which a clock cuts off what begins at a time and may last until another one. -/
def cutOff (clock : Clock) (start deadline : Rat) : Rat :=
  clock.kept (start + clock.kept (deadline - start))

/-- The exact clock counts. -/
theorem exact_counts : exact.Counts :=
  fun _ positive => positive

/-- The clock in double precision counts. -/
theorem double_counts : double.Counts :=
  fun _ positive => Binary64.pos_of_rounded_pos positive

/-- A clock that keeps every number of seconds as it is cuts off at the deadline itself. -/
theorem cutOff_of_kept {clock : Clock} (kept : ∀ seconds, clock.kept seconds = seconds)
    (start deadline : Rat) : clock.cutOff start deadline = deadline := by
  rw [cutOff, kept, kept]
  exact add_sub_cancel start deadline

/-- A clock after some stretches of time, one after the other. -/
def pass (clock : Clock) (stretches : List Rat) : Clock :=
  stretches.foldl Clock.after clock

/-- A clock that never shows an earlier moment later: whatever time it has come to, some seconds on it
shows the same moment or a later one. -/
def NeverGoesBack (clock : Clock) : Prop :=
  ∀ stretches seconds, 0 ≤ seconds →
    (clock.pass stretches).now.instant ≤ ((clock.pass stretches).after seconds).now.instant

/-- A clock that never goes back shows no earlier moment some seconds on. -/
theorem NeverGoesBack.le {clock : Clock} (forward : clock.NeverGoesBack) {seconds : Rat}
    (later : 0 ≤ seconds) : clock.now.instant ≤ (clock.after seconds).now.instant :=
  forward [] seconds later

/-- A clock that never goes back has not been brought to do so by any stretch of time. -/
theorem NeverGoesBack.after {clock : Clock} (forward : clock.NeverGoesBack) (seconds : Rat) :
    (clock.after seconds).NeverGoesBack :=
  fun stretches => forward (seconds :: stretches)

/-- What stays of a clock over some stretches of time: it shows time as it did, and keeps what it has
kept. -/
structure Running (clock : Clock) : Prop where
  moment : clock.moment = .ofClock
  ordered : Monotone clock.kept
  settled : clock.kept clock.time = clock.time
  again : ∀ seconds, clock.kept (clock.kept seconds) = clock.kept seconds

/-- A clock goes on running. -/
theorem Running.pass {clock : Clock} (running : clock.Running) (stretches : List Rat) :
    (clock.pass stretches).Running := by
  -- Each stretch leaves a clock that still runs.
  induction stretches generalizing clock with
  | nil => exact running
  | cons seconds rest following =>
    exact following ⟨running.moment, running.ordered, running.again _, running.again⟩

/-- A clock that shows time in the usual way, and keeps it without changing its order, never goes
back. -/
theorem Running.neverGoesBack {clock : Clock} (running : clock.Running) : clock.NeverGoesBack := by
  -- The time that is kept is not before the one it was kept from, and moments are shown in order.
  intro stretches seconds later
  obtain ⟨moment, ordered, settled, -⟩ := running.pass stretches
  generalize clock.pass stretches = clock at *
  have time : clock.time ≤ clock.timeAfter seconds := by
    calc clock.time = clock.kept clock.time := settled.symm
      _ ≤ clock.kept (clock.time + seconds) := ordered (le_add_of_nonneg_right later)
  have shown := Timestamp.microseconds_mono time
  simp only [now, after, moment, Timestamp.ofClock, Timestamp.instant]
  omega

/-- The exact clock never goes back. -/
theorem exact_neverGoesBack : exact.NeverGoesBack :=
  Running.neverGoesBack ⟨rfl, monotone_id, rfl, fun _ => rfl⟩

/-- The clock in double precision never goes back. -/
theorem double_neverGoesBack : double.NeverGoesBack :=
  Running.neverGoesBack
    ⟨rfl, Binary64.rounded_monotone, Binary64.rounded_zero, Binary64.rounded_rounded⟩

end Clock

end ContainerScan
