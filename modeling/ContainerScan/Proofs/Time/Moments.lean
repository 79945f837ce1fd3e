import ContainerScan.Proofs.Number.Rounding
import ContainerScan.Time.Timestamp
import Mathlib.Data.Rat.Floor

/-! Seconds that are shown as a moment: a later time is never shown as an earlier moment. -/

namespace ContainerScan.Timestamp

open Binary64

/-- A number of microseconds is the nearest whole number. -/
theorem nearestInt_nearest :
    IsNearest (Set.range Int.cast) fun value => (nearestInt value : ℚ) := by
  -- The whole numbers are a symmetric grid, on which half away is near enough.
  have symmetric : ∀ point ∈ Set.range (Int.cast : Int → ℚ), -point ∈ Set.range Int.cast := by
    rintro _ ⟨count, rfl⟩
    exact ⟨-count, Int.cast_neg count⟩
  have mem : ∀ dividend divisor, 0 < divisor →
      (nearest dividend divisor : ℚ) ∈ Set.range (Int.cast : Int → ℚ) :=
    fun dividend divisor _ => ⟨nearest dividend divisor, Int.cast_natCast _⟩
  -- For a size this is the rounding of a fraction, whose error is at most a half.
  have close : ∀ dividend divisor, 0 < divisor → ∀ point ∈ Set.range (Int.cast : Int → ℚ),
      |(nearest dividend divisor : ℚ) - dividend / divisor| ≤ |point - dividend / divisor| := by
    rintro dividend divisor positive _ ⟨other, rfl⟩
    have half := nearest_close dividend positive
    rw [← Int.cast_natCast (nearest dividend divisor)] at half ⊢
    exact whole_close half other
  convert IsNearest.signed symmetric mem close using 2 with value
  unfold nearestInt
  dsimp only
  split_ifs
  · rw [Int.cast_neg, Int.cast_natCast]
  · rw [Int.cast_natCast]

/-- Whole numbers are in the order of the numbers that they are nearest to. -/
theorem nearestInt_mono {one two : ℚ} (ordered : one ≤ two) : nearestInt one ≤ nearestInt two :=
  Int.cast_le.mp (nearestInt_nearest.monotone ordered)

/-- A time in whole seconds, of which none is begun. -/
def whole (seconds : ℚ) : Int :=
  seconds.num.tdiv seconds.den

/-- A part of a second in microseconds. -/
def part (rest : ℚ) : Int :=
  nearestInt (rounded (rest * 1000000))

/-- A time in microseconds is made of its seconds and the part of a second. -/
theorem microseconds_eq (seconds : ℚ) :
    microseconds seconds = whole seconds * second + part (seconds - whole seconds) := rfl

/-- From zero on the whole seconds are those below. -/
theorem whole_of_nonneg {seconds : ℚ} (later : 0 ≤ seconds) : whole seconds = ⌊seconds⌋ := by
  rw [whole, Rat.floor_def', Int.tdiv_eq_ediv_of_nonneg (Rat.num_nonneg.mpr later)]

/-- Up to zero the whole seconds are those above. -/
theorem whole_of_nonpos {seconds : ℚ} (earlier : seconds ≤ 0) : whole seconds = ⌈seconds⌉ := by
  have other := whole_of_nonneg (neg_nonneg.mpr earlier)
  rw [Int.floor_neg, whole, Rat.num_neg_eq_neg_num, Rat.den_neg_eq_den, Int.neg_tdiv] at other
  exact neg_injective other

/-- Whole seconds are in the order of the times. -/
theorem whole_mono {one two : ℚ} (ordered : one ≤ two) : whole one ≤ whole two := by
  -- Towards zero is down above it and up below it.
  rcases le_total 0 one with later | earlier
  · rw [whole_of_nonneg later, whole_of_nonneg (later.trans ordered)]
    exact Int.floor_mono ordered
  · rw [whole_of_nonpos earlier]
    rcases le_total two 0 with still | later
    · rw [whole_of_nonpos still]
      exact Int.ceil_mono ordered
    · rw [whole_of_nonneg later]
      exact (Int.ceil_nonpos.mpr earlier).trans (Int.floor_nonneg.mpr later)

/-- Parts of a second are in the order of their microseconds. -/
theorem part_mono {one two : ℚ} (ordered : one ≤ two) : part one ≤ part two :=
  nearestInt_mono (rounded_monotone (mul_le_mul_of_nonneg_right ordered (by norm_num)))

/-- Nothing, a second after and a second before are shown exactly. -/
theorem part_whole : part 0 = 0 ∧ part 1 = second ∧ part (-1) = -second := by
  decide +kernel

/-- From zero on no part of a second is below zero, or more than a second. -/
theorem part_of_nonneg {seconds : ℚ} (later : 0 ≤ seconds) :
    0 ≤ part (seconds - whole seconds) ∧ part (seconds - whole seconds) ≤ second := by
  -- The rest is between nothing and a second, and so is its part.
  rw [whole_of_nonneg later]
  have low := part_mono (sub_nonneg.mpr (Int.floor_le seconds))
  have high := part_mono (sub_le_iff_le_add'.mpr (Int.lt_floor_add_one seconds).le)
  rw [part_whole.1] at low
  rw [part_whole.2.1] at high
  exact ⟨low, high⟩

/-- Up to zero no part of a second is above zero, or less than a second before it. -/
theorem part_of_nonpos {seconds : ℚ} (earlier : seconds ≤ 0) :
    -second ≤ part (seconds - whole seconds) ∧ part (seconds - whole seconds) ≤ 0 := by
  -- The rest is between a second back and nothing, and so is its part.
  rw [whole_of_nonpos earlier]
  have low := part_mono (show -1 ≤ seconds - ⌈seconds⌉ by
    have above := Int.ceil_lt_add_one seconds
    linarith)
  have high := part_mono (sub_nonpos.mpr (Int.le_ceil seconds))
  rw [part_whole.2.2] at low
  rw [part_whole.1] at high
  exact ⟨low, high⟩

/-- A later time does not have fewer microseconds. -/
theorem microseconds_mono {one two : ℚ} (ordered : one ≤ two) :
    microseconds one ≤ microseconds two := by
  rw [microseconds_eq, microseconds_eq]
  rcases (whole_mono ordered).eq_or_lt with same | seconds
  · -- In one and the same second the parts decide.
    rw [same]
    exact Int.add_le_add_left (part_mono (sub_le_sub_right ordered _)) _
  · -- A part makes up for no more than the second that lies between.
    have between : (whole one + 1) * second ≤ whole two * second :=
      Int.mul_le_mul_of_nonneg_right seconds (by decide)
    rw [Int.add_mul, Int.one_mul] at between
    rcases le_total 0 two with later | earlier
    · have most : part (one - whole one) ≤ second := by
        rcases le_total 0 one with from_ | until_
        · exact (part_of_nonneg from_).2
        · exact (part_of_nonpos until_).2.trans (by decide)
      have least := (part_of_nonneg later).1
      omega
    · have most := (part_of_nonpos (ordered.trans earlier)).2
      have least := (part_of_nonpos earlier).1
      omega

end ContainerScan.Timestamp
