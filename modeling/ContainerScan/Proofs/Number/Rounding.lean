import ContainerScan.Number.Binary64
import Mathlib.Algebra.Order.Field.Power
import Mathlib.Data.Rat.Lemmas
import Mathlib.Tactic.Linarith
import Mathlib.Tactic.Positivity
import Mathlib.Tactic.Ring

/-! Rounding takes a number to the nearest one that can be kept, and so it never changes an order. -/

namespace ContainerScan

/-- A function that takes every number to a point of a set that is nearest to it. -/
structure IsNearest (points : Set ℚ) (near : ℚ → ℚ) : Prop where
  mem : ∀ value, near value ∈ points
  close : ∀ value, ∀ point ∈ points, |near value - value| ≤ |point - value|

namespace IsNearest

variable {points : Set ℚ} {near : ℚ → ℚ}

/-- A point is nearest to itself. -/
theorem fixes (nearest : IsNearest points near) {value : ℚ} (point : value ∈ points) :
    near value = value := by
  have close := nearest.close value value point
  rw [sub_self, abs_zero, abs_nonpos_iff] at close
  exact sub_eq_zero.mp close

/-- A number that is no nearer to a lower point than to a higher one lies above their middle. -/
theorem middle_le {value lower higher : ℚ} (ordered : lower < higher)
    (close : |higher - value| ≤ |lower - value|) : lower + higher ≤ 2 * value := by
  rcases abs_cases (higher - value) with ⟨one, _⟩ | ⟨one, _⟩ <;>
    rcases abs_cases (lower - value) with ⟨two, _⟩ | ⟨two, _⟩ <;>
    rw [one, two] at close <;> linarith

/-- A number that is no nearer to a higher point than to a lower one lies below their middle. -/
theorem le_middle {value lower higher : ℚ} (ordered : lower < higher)
    (close : |lower - value| ≤ |higher - value|) : 2 * value ≤ lower + higher := by
  rcases abs_cases (higher - value) with ⟨one, _⟩ | ⟨one, _⟩ <;>
    rcases abs_cases (lower - value) with ⟨two, _⟩ | ⟨two, _⟩ <;>
    rw [one, two] at close <;> linarith

/-- What takes numbers to the nearest points never changes their order. -/
theorem monotone (nearest : IsNearest points near) : Monotone near := by
  intro one two ordered
  by_contra crossed
  rw [not_le] at crossed
  -- Each number would lie on the far side of the middle of the two points, or on it.
  have high := middle_le crossed (nearest.close one _ (nearest.mem two))
  have low := le_middle crossed (nearest.close two _ (nearest.mem one))
  obtain rfl : one = two := by linarith
  exact crossed.false

/-- A rational number is the quotient of its counts, with its sign. -/
theorem eq_quotient (value : ℚ) :
    value = if value < 0 then -(value.num.natAbs / value.den : ℚ)
      else value.num.natAbs / value.den := by
  -- The quotient is that of the absolute value, so the sign decides about the rest.
  have absolute : (value.num.natAbs : ℚ) / value.den = |value| := by
    conv_rhs => rw [← value.num_div_den, abs_div, Nat.abs_cast]
    rw [Nat.cast_natAbs, Int.cast_abs]
  rw [absolute]
  split_ifs with below
  · rw [abs_of_neg below, neg_neg]
  · rw [abs_of_nonneg (not_lt.mp below)]

/-- What takes fractions of counts to the nearest points does so with both signs. -/
theorem signed (symmetric : ∀ point ∈ points, -point ∈ points) {size : Nat → Nat → ℚ}
    (mem : ∀ dividend divisor, 0 < divisor → size dividend divisor ∈ points)
    (close : ∀ dividend divisor, 0 < divisor → ∀ point ∈ points,
      |size dividend divisor - dividend / divisor| ≤ |point - dividend / divisor|) :
    IsNearest points fun value =>
      if value < 0 then -size value.num.natAbs value.den else size value.num.natAbs value.den where
  -- A grid that is symmetric has the nearest point of the opposite value at the opposite point.
  mem value := by
    split_ifs
    · exact symmetric _ (mem _ _ value.den_pos)
    · exact mem _ _ value.den_pos
  close value point member := by
    have quotient := eq_quotient value
    split_ifs at quotient ⊢
    · have near := close value.num.natAbs _ value.den_pos _ (symmetric point member)
      rw [neg_eq_iff_eq_neg.mp quotient.symm] at near
      calc |-size value.num.natAbs value.den - value|
          = |size value.num.natAbs value.den - -value| := by rw [← abs_neg]; congr 1; ring
        _ ≤ |-point - -value| := near
        _ = |point - value| := by rw [← abs_neg]; congr 1; ring
    · have near := close value.num.natAbs _ value.den_pos point member
      rwa [← quotient] at near

end IsNearest

namespace Binary64

/-- The nearest whole number to a quotient is at most one half away from it. -/
theorem nearest_close (dividend : Nat) {divisor : Nat} (positive : 0 < divisor) :
    |(nearest dividend divisor : ℚ) - dividend / divisor| ≤ 1 / 2 := by
  have split := Nat.div_add_mod dividend divisor
  have rest := Nat.mod_lt dividend positive
  have next := Nat.mul_add_one divisor (dividend / divisor)
  -- The same in whole numbers, before the division.
  have whole : 2 * (divisor * nearest dividend divisor) ≤ 2 * dividend + divisor ∧
      2 * dividend ≤ 2 * (divisor * nearest dividend divisor) + divisor := by
    unfold nearest
    dsimp only
    split_ifs <;> omega
  have above : (0 : ℚ) < divisor := by exact_mod_cast positive
  have upper : 2 * ((divisor : ℚ) * nearest dividend divisor) ≤ 2 * dividend + divisor := by
    exact_mod_cast whole.1
  have lower : 2 * (dividend : ℚ) ≤ 2 * (divisor * nearest dividend divisor) + divisor := by
    exact_mod_cast whole.2
  rw [abs_sub_le_iff, sub_le_iff_le_add, sub_le_iff_le_add, ← sub_le_iff_le_add',
    le_div_iff₀ above, div_le_iff₀ above]
  constructor <;> linarith

/-- A power of two that is counted is the same among the fractions. -/
theorem power_cast {exponent : Int} (up : 0 ≤ exponent) :
    ((2 ^ exponent.toNat : Nat) : ℚ) = 2 ^ exponent := by
  conv_rhs => rw [← Int.toNat_of_nonneg up, zpow_natCast]
  exact Nat.cast_pow 2 _

/-- A quotient over a power of two is at most one half away from where it is rounded to. -/
theorem scaledNearest_close (dividend : Nat) {divisor : Nat} (positive : 0 < divisor)
    (exponent : Int) :
    |(scaledNearest dividend divisor exponent : ℚ) - dividend / divisor / 2 ^ exponent| ≤ 1 / 2 := by
  simp only [scaledNearest, Nat.pow_eq]
  split_ifs with up
  · -- The power goes to the divisor.
    have close := nearest_close dividend (Nat.mul_pos positive (Nat.two_pow_pos exponent.toNat))
    rwa [Nat.cast_mul, power_cast up, ← div_div] at close
  · -- The power goes to the dividend.
    have close := nearest_close (dividend * 2 ^ (-exponent).toNat) positive
    rwa [Nat.cast_mul, power_cast (by omega), zpow_neg, mul_div_right_comm, ← div_eq_mul_inv]
      at close

/-- The exponent that leaves a fraction fifty-three bits, or fewer where the exponents end. -/
def exponentOf (dividend divisor : Nat) : Int :=
  let low : Int := (dividend.log2 : Int) - divisor.log2 - 53
  max (if fullMantissa ≤ scaledNearest dividend divisor low then low + 1 else low) (-1074)

/-- An exponent with which a number is rounded: fifty-three bits are enough for it, and above the
lowest exponent they are used. -/
structure Suits (value : ℚ) (exponent : Int) : Prop where
  lowest : -1074 ≤ exponent
  enough : value ≤ fullMantissa * 2 ^ exponent
  used : -1074 < exponent → (fullMantissa - 1 / 2) * 2 ^ (exponent - 1) ≤ value

/-- The first count of more than fifty-three bits is a power of two. -/
theorem fullMantissa_cast : (fullMantissa : ℚ) = 2 ^ (53 : Int) := by
  norm_num [fullMantissa]

/-- Full mantissas reach from one power of two to another. -/
theorem fullMantissa_mul (exponent : Int) :
    (fullMantissa : ℚ) * 2 ^ exponent = 2 ^ (exponent + 53) := by
  rw [fullMantissa_cast, ← zpow_add₀ two_ne_zero, add_comm]

/-- A count lies between two powers of two that follow each other. -/
theorem log2_bounds {count : Nat} (some : count ≠ 0) :
    (2 : ℚ) ^ (count.log2 : Int) ≤ count ∧ (count : ℚ) ≤ 2 ^ ((count.log2 : Int) + 1) := by
  -- The logarithm is rounded down, so the next power is above.
  constructor
  · rw [zpow_natCast]
    exact_mod_cast Nat.log2_self_le some
  · rw [zpow_add_one₀ two_ne_zero, zpow_natCast, ← pow_succ]
    exact_mod_cast Nat.lt_log2_self.le

/-- A fraction lies between two powers of two that its counts tell. -/
theorem fraction_bounds {dividend divisor : Nat} (some : dividend ≠ 0) (positive : 0 < divisor) :
    (2 : ℚ) ^ ((dividend.log2 : Int) - divisor.log2 - 1) ≤ dividend / divisor ∧
      (dividend : ℚ) / divisor ≤ 2 ^ ((dividend.log2 : Int) - divisor.log2 + 1) := by
  -- The bounds of both parts are put into the quotient, crosswise.
  have above := log2_bounds some
  have below := log2_bounds positive.ne'
  have divides : (0 : ℚ) < divisor := by exact_mod_cast positive
  constructor
  · rw [sub_sub, zpow_sub₀ two_ne_zero]
    exact div_le_div₀ (Nat.cast_nonneg _) above.1 divides below.2
  · rw [sub_add_eq_add_sub, zpow_sub₀ two_ne_zero]
    exact div_le_div₀ (by positivity) above.2 (by positivity) below.1

/-- The exponent of a fraction suits it. -/
theorem exponentOf_suits {dividend divisor : Nat} (some : dividend ≠ 0) (positive : 0 < divisor) :
    Suits (dividend / divisor) (exponentOf dividend divisor) := by
  obtain ⟨least, most⟩ := fraction_bounds some positive
  let low : Int := (dividend.log2 : Int) - divisor.log2 - 53
  have power : (0 : ℚ) < 2 ^ low := zpow_pos two_pos low
  have close := abs_le.mp (scaledNearest_close dividend positive low)
  -- First without regard to the end of the range.
  obtain ⟨base, chosen, enough, used⟩ : ∃ base : Int,
      exponentOf dividend divisor = max base (-1074) ∧
      (dividend / divisor : ℚ) ≤ fullMantissa * 2 ^ base ∧
      (fullMantissa - 1 / 2 : ℚ) * 2 ^ (base - 1) ≤ dividend / divisor := by
    refine ⟨_, rfl, ?_⟩
    split_ifs with full
    · have many : (fullMantissa : ℚ) ≤ scaledNearest dividend divisor low := Nat.cast_le.mpr full
      rw [fullMantissa_mul, show low + 1 + 53 = (dividend.log2 : Int) - divisor.log2 + 1 by omega,
        add_sub_cancel_right, ← le_div_iff₀ power]
      exact ⟨most, by linarith [close.2]⟩
    · have few : (scaledNearest dividend divisor low : ℚ) + 1 ≤ fullMantissa := by
        rw [← Nat.cast_add_one]
        exact Nat.cast_le.mpr (not_le.mp full)
      have start : (2 : ℚ) ^ ((dividend.log2 : Int) - divisor.log2 - 1) =
          fullMantissa * 2 ^ (low - 1) := by
        rw [fullMantissa_mul, show low - 1 + 53 = (dividend.log2 : Int) - divisor.log2 - 1 by omega]
      rw [start] at least
      rw [← div_le_iff₀ power]
      have half : (0 : ℚ) < 2 ^ (low - 1) := zpow_pos two_pos _
      exact ⟨by linarith [close.1], by linarith⟩
  -- At the end of the range the steps are no finer, and only the upper bound is left.
  rw [chosen]
  refine ⟨le_max_right _ _, ?_, ?_⟩
  · have wider : (2 : ℚ) ^ base ≤ 2 ^ max base (-1074) :=
      zpow_le_zpow_right₀ one_le_two (le_max_left _ _)
    exact enough.trans (mul_le_mul_of_nonneg_left wider (Nat.cast_nonneg _))
  · intro inside
    rwa [max_eq_left (by omega)]

/-- A whole number that is at most one half away from a number is nearest to it. -/
theorem whole_close {value : ℚ} {count : Int} (half : |count - value| ≤ 1 / 2) (other : Int) :
    |count - value| ≤ |other - value| := by
  -- Another whole number is at least one away, and half of that is the near one's share.
  by_cases same : count = other
  · rw [same]
  · have apart : (1 : ℚ) ≤ |(count : ℚ) - other| := by
      exact_mod_cast Int.one_le_abs (sub_ne_zero.mpr same)
    have between := abs_sub_le (count : ℚ) value other
    rw [abs_sub_comm value] at between
    linarith

/-- The numbers that double precision would have if the range of exponents had no upper end. -/
def grid : Set ℚ :=
  {value | ∃ mantissa exponent : Int,
    |mantissa| ≤ fullMantissa ∧ -1074 ≤ exponent ∧ value = mantissa * 2 ^ exponent}

/-- Numbers on both sides of zero can be kept. -/
theorem neg_mem_grid {value : ℚ} (member : value ∈ grid) : -value ∈ grid := by
  obtain ⟨mantissa, exponent, few, lowest, rfl⟩ := member
  exact ⟨-mantissa, exponent, by rwa [abs_neg], lowest, by rw [Int.cast_neg, neg_mul]⟩

/-- A full mantissa is a multiple of the next power of two. -/
theorem fullMantissa_halved (exponent : Int) :
    (fullMantissa : ℚ) * 2 ^ (exponent - 1) = (2 ^ 52 : Int) * 2 ^ exponent := by
  -- A full mantissa is twice the least one, which moves the exponent by one.
  have half : ((2 ^ 52 : Int) : ℚ) = 2 ^ (52 : Int) := by norm_num
  rw [fullMantissa_mul, half, ← zpow_add₀ two_ne_zero]
  congr 1
  omega

/-- A number of the grid that is no multiple of a power of two has fewer bits than a full mantissa of
half that power. -/
theorem grid_cases {point : ℚ} (member : point ∈ grid) (exponent : Int) :
    (∃ count : Int, point = count * 2 ^ exponent) ∨
      (-1074 < exponent ∧ point ≤ (fullMantissa - 1) * 2 ^ (exponent - 1)) := by
  obtain ⟨mantissa, own, few, lowest, rfl⟩ := member
  have most : mantissa ≤ fullMantissa := (le_abs_self mantissa).trans few
  have positive : (0 : ℚ) < 2 ^ (exponent - 1) := zpow_pos two_pos _
  rcases lt_trichotomy own (exponent - 1) with finer | rfl | coarser
  · -- Its power of two is smaller by so much that no mantissa makes up for it.
    have power : (2 : ℚ) ^ own ≤ 2 ^ (exponent - 2) := zpow_le_zpow_right₀ one_le_two (by omega)
    have half : (2 : ℚ) ^ (exponent - 1) = 2 * 2 ^ (exponent - 2) := by
      rw [← zpow_one_add₀ two_ne_zero]
      congr 1
      omega
    refine Or.inr ⟨by omega, ?_⟩
    calc (mantissa : ℚ) * 2 ^ own
        ≤ fullMantissa * 2 ^ own :=
          mul_le_mul_of_nonneg_right (by exact_mod_cast most) (zpow_pos two_pos _).le
      _ ≤ fullMantissa * 2 ^ (exponent - 2) := mul_le_mul_of_nonneg_left power (Nat.cast_nonneg _)
      _ ≤ (fullMantissa - 1) * 2 ^ (exponent - 1) := by
          rw [half]
          norm_num [fullMantissa]
          linarith
  · -- A full mantissa stands on the coarser grid as well, and any other is a step below it.
    by_cases full : mantissa = fullMantissa
    · subst full
      exact Or.inl ⟨2 ^ 52, fullMantissa_halved exponent⟩
    · have fewer : (mantissa : ℚ) ≤ fullMantissa - 1 := by
        have below : mantissa + 1 ≤ fullMantissa := by omega
        have cast : (mantissa : ℚ) + 1 ≤ fullMantissa := by exact_mod_cast below
        linarith
      exact Or.inr ⟨by omega, mul_le_mul_of_nonneg_right fewer positive.le⟩
  · -- What is on a coarser grid is on each finer one.
    refine Or.inl ⟨mantissa * 2 ^ (own - exponent).toNat, ?_⟩
    have power := power_cast (show 0 ≤ own - exponent by omega)
    push_cast at power ⊢
    rw [power, mul_assoc, ← zpow_add₀ two_ne_zero, sub_add_cancel]

/-- Rounding with an exponent that suits a number takes it to the nearest one on the grid. -/
theorem grid_close {value : ℚ} {exponent : Int} (suits : Suits value exponent) {count : Nat}
    (half : |(count : ℚ) - value / 2 ^ exponent| ≤ 1 / 2) {point : ℚ} (member : point ∈ grid) :
    |count * 2 ^ exponent - value| ≤ |point - value| := by
  have power : (0 : ℚ) < 2 ^ exponent := zpow_pos two_pos exponent
  -- Among the multiples of the power the count is nearest, by the rounding to a whole number.
  have multiples : ∀ other : Int,
      |count * 2 ^ exponent - value| ≤ |other * 2 ^ exponent - value| := by
    intro other
    have scaled : ∀ whole : ℚ,
        |whole * 2 ^ exponent - value| = |whole - value / 2 ^ exponent| * 2 ^ exponent := by
      intro whole
      rw [← abs_of_pos power, ← abs_mul, abs_of_pos power, sub_mul, div_mul_cancel₀ _ power.ne']
    rw [scaled, scaled]
    exact mul_le_mul_of_nonneg_right (whole_close half other) power.le
  rcases grid_cases member exponent with ⟨other, rfl⟩ | ⟨inside, low⟩
  · exact multiples other
  · -- The full mantissa of half the power is a multiple, and nearer than anything with fewer bits.
    have near := multiples (2 ^ 52)
    rw [← fullMantissa_halved] at near
    have used := suits.used inside
    refine near.trans (le_trans ?_ (neg_le_abs _))
    rw [abs_sub_le_iff]
    constructor <;> linarith [zpow_pos (two_pos : (0 : ℚ) < 2) (exponent - 1)]

/-- The size of a fraction once it is rounded. -/
def size (dividend divisor : Nat) : ℚ :=
  scaledNearest dividend divisor (exponentOf dividend divisor) *
    2 ^ exponentOf dividend divisor

/-- Nothing remains of nothing. -/
theorem size_zero {divisor : Nat} (positive : 0 < divisor) : size 0 divisor = 0 := by
  -- The nearest whole number to nothing is less than one.
  have half := scaledNearest_close 0 positive (exponentOf 0 divisor)
  have none : scaledNearest 0 divisor (exponentOf 0 divisor) = 0 := by
    rw [Nat.cast_zero, zero_div, zero_div, sub_zero, Nat.abs_cast] at half
    have few : ((scaledNearest 0 divisor (exponentOf 0 divisor) : Nat) : ℚ) < 1 := by linarith
    exact Nat.lt_one_iff.mp (by exact_mod_cast few)
  rw [size, none, Nat.cast_zero, zero_mul]

/-- A mantissa has no more than fifty-three bits, unless it is the first count that has more. -/
theorem mantissa_le {value : ℚ} {exponent : Int} (suits : Suits value exponent) {count : Nat}
    (half : |(count : ℚ) - value / 2 ^ exponent| ≤ 1 / 2) : count ≤ fullMantissa := by
  -- The value is at most a full mantissa, and rounding adds no more than a half.
  have enough := (div_le_iff₀ (zpow_pos two_pos exponent)).mpr suits.enough
  have close := (abs_le.mp half).2
  have below : (count : ℚ) < fullMantissa + 1 := by linarith
  exact Nat.lt_succ_iff.mp (by exact_mod_cast below)

/-- The size of a fraction is on the grid. -/
theorem size_mem (dividend divisor : Nat) (positive : 0 < divisor) :
    size dividend divisor ∈ grid := by
  -- The count is at most a full mantissa, and one exponent suits it.
  by_cases some : dividend = 0
  · rw [some, size_zero positive]
    exact ⟨0, 0, by simp [fullMantissa], by omega, by simp⟩
  · have suits := exponentOf_suits some positive
    refine ⟨scaledNearest dividend divisor (exponentOf dividend divisor), _, ?_, suits.lowest, rfl⟩
    rw [Nat.abs_cast]
    exact_mod_cast mantissa_le suits (scaledNearest_close dividend positive _)

/-- The size of a fraction is the nearest one to it on the grid. -/
theorem size_close (dividend divisor : Nat) (positive : 0 < divisor) (point : ℚ)
    (member : point ∈ grid) :
    |size dividend divisor - dividend / divisor| ≤ |point - dividend / divisor| := by
  -- Nothing is exact; of the rest the exponent suits, and the count is the nearest one.
  by_cases some : dividend = 0
  · rw [some, size_zero positive]
    simp
  · exact grid_close (exponentOf_suits some positive) (scaledNearest_close dividend positive _) member

/-- The number that another one is rounded to where no exponent is too large. -/
def near (value : ℚ) : ℚ :=
  if value < 0 then -size value.num.natAbs value.den else size value.num.natAbs value.den

/-- Rounding takes every number to the nearest one on the grid. -/
theorem near_nearest : IsNearest grid near :=
  .signed (fun _ => neg_mem_grid) size_mem size_close

/-- The number that a finite mantissa and exponent stand for. -/
theorem toRat?_finite (negative : Bool) (mantissa : Nat) (exponent : Int) :
    (finite negative mantissa exponent).toRat? =
      some (if negative then -((mantissa : ℚ) * 2 ^ exponent) else mantissa * 2 ^ exponent) := by
  -- The power stands above or below, whichever keeps both parts whole.
  have quotient : ((fraction mantissa exponent).1 : ℚ) / (fraction mantissa exponent).2 =
      mantissa * 2 ^ exponent := by
    simp only [fraction, Nat.pow_eq]
    split_ifs with up
    · rw [Nat.cast_mul, power_cast up, Nat.cast_one, div_one]
    · rw [power_cast (by omega), zpow_neg, div_inv_eq_mul]
  simp only [toRat?, Rat.mkRat_eq_div]
  rw [← quotient]
  split_ifs
  · rw [Int.cast_neg, neg_div, Int.cast_natCast]
  · rw [Int.cast_natCast]

/-- The first power of two that is too large for double precision. -/
def limit : ℚ := 2 ^ (1024 : Int)

/-- A number is too large exactly if its exponent is, or if its mantissa is with the last exponent. -/
theorem limit_le_size {dividend divisor : Nat} (some : dividend ≠ 0) (positive : 0 < divisor) :
    limit ≤ size dividend divisor ↔
      971 < exponentOf dividend divisor ∨ (exponentOf dividend divisor = 971 ∧
        fullMantissa ≤ scaledNearest dividend divisor (exponentOf dividend divisor)) := by
  have suits := exponentOf_suits some positive
  have half := scaledNearest_close dividend positive (exponentOf dividend divisor)
  have few := mantissa_le suits half
  have last : limit = fullMantissa * 2 ^ (971 : Int) := (fullMantissa_mul 971).symm
  rw [last, size]
  generalize exponentOf dividend divisor = exponent at *
  generalize scaledNearest dividend divisor exponent = mantissa at *
  have power : (0 : ℚ) < 2 ^ exponent := zpow_pos two_pos exponent
  rcases lt_trichotomy exponent 971 with below | rfl | above
  · -- Even a full mantissa stays below the limit here.
    refine iff_of_false (not_le.mpr ?_) (by omega)
    calc (mantissa : ℚ) * 2 ^ exponent
        ≤ fullMantissa * 2 ^ exponent :=
          mul_le_mul_of_nonneg_right (Nat.cast_le.mpr few) power.le
      _ < fullMantissa * 2 ^ (971 : Int) :=
          mul_lt_mul_of_pos_left (zpow_lt_zpow_right₀ one_lt_two below) (by norm_num [fullMantissa])
  · rw [mul_le_mul_iff_left₀ power, Nat.cast_le]
    simp
  · refine iff_of_true ?_ (Or.inl above)
    -- All bits of the mantissa are used, so it is at least half a full one.
    have used := suits.used (by omega)
    rw [zpow_sub_one₀ two_ne_zero, ← mul_assoc, mul_right_comm, ← le_div_iff₀ power] at used
    have many : fullMantissa ≤ 2 * mantissa := by
      have close := (abs_le.mp half).1
      have count : (fullMantissa : ℚ) < 2 * mantissa + 2 := by linarith
      have whole : fullMantissa < 2 * mantissa + 2 := by exact_mod_cast count
      have even : fullMantissa = 2 * 2 ^ 52 := by norm_num [fullMantissa]
      omega
    calc (fullMantissa : ℚ) * 2 ^ (971 : Int)
        ≤ (2 * mantissa) * 2 ^ (971 : Int) :=
          mul_le_mul_of_nonneg_right (by exact_mod_cast many) (zpow_pos two_pos _).le
      _ = mantissa * 2 ^ (971 + 1 : Int) := by rw [zpow_add_one₀ two_ne_zero]; ring
      _ ≤ mantissa * 2 ^ exponent :=
          mul_le_mul_of_nonneg_left (zpow_le_zpow_right₀ one_le_two above) (Nat.cast_nonneg _)

/-- Zero is less than every number that is too large. -/
theorem limit_pos : 0 < limit :=
  zpow_pos two_pos _

/-- A zero stands for nothing, whatever its sign. -/
theorem toRat?_zero (negative : Bool) : (zero negative).toRat? = some 0 := by
  rw [zero, toRat?_finite, Nat.cast_zero, zero_mul, neg_zero, ite_self]

/-- A fraction in double precision is its size with the sign, unless that is too large. -/
theorem ofFraction_toRat? (negative : Bool) (dividend : Nat) {divisor : Nat}
    (positive : 0 < divisor) :
    (ofFraction negative dividend divisor).toRat? =
      if limit ≤ size dividend divisor then none
      else some (if negative then -size dividend divisor else size dividend divisor) := by
  -- The cases of the definition are those of a size: nothing, too large, and all others.
  have opened : ofFraction negative dividend divisor =
      if dividend = 0 then zero negative
      else if scaledNearest dividend divisor (exponentOf dividend divisor) = 0 then zero negative
      else if 971 < exponentOf dividend divisor ∨ (exponentOf dividend divisor = 971 ∧
          fullMantissa ≤ scaledNearest dividend divisor (exponentOf dividend divisor)) then
        .infinite negative
      else .finite negative (scaledNearest dividend divisor (exponentOf dividend divisor))
        (exponentOf dividend divisor) := rfl
  have nothing : size dividend divisor = 0 → (zero negative).toRat? =
      if limit ≤ size dividend divisor then none
      else some (if negative then -size dividend divisor else size dividend divisor) := by
    intro none
    rw [none, if_neg (not_le.mpr limit_pos), neg_zero, ite_self, toRat?_zero]
  rw [opened]
  -- Both ways of being nothing give the zero of the sign.
  by_cases empty : dividend = 0
  · rw [if_pos empty]
    exact nothing (by rw [empty, size_zero positive])
  by_cases vanishing : scaledNearest dividend divisor (exponentOf dividend divisor) = 0
  · rw [if_neg empty, if_pos vanishing]
    exact nothing (by rw [size, vanishing, Nat.cast_zero, zero_mul])
  rw [if_neg empty, if_neg vanishing]
  by_cases large : limit ≤ size dividend divisor
  · rw [if_pos large, if_pos ((limit_le_size empty positive).mp large)]
    rfl
  · rw [if_neg large, if_neg (large ∘ (limit_le_size empty positive).mpr), toRat?_finite]
    rfl

/-- No size is below zero. -/
theorem size_nonneg (dividend divisor : Nat) : 0 ≤ size dividend divisor :=
  mul_nonneg (Nat.cast_nonneg _) (zpow_pos two_pos _).le

/-- A number in double precision is the nearest one on the grid, unless that is too large. -/
theorem rounded_eq (value : ℚ) :
    rounded value = if limit ≤ |near value| then value else near value := by
  -- The limit is compared with the size, whatever the sign.
  have absolute : |near value| = size value.num.natAbs value.den := by
    unfold near
    split_ifs
    · rw [abs_neg, abs_of_nonneg (size_nonneg _ _)]
    · exact abs_of_nonneg (size_nonneg _ _)
  rw [absolute, rounded, ofRat, ofFraction_toRat? _ _ value.den_pos]
  by_cases large : limit ≤ size value.num.natAbs value.den
  · rw [if_pos large, if_pos large]
    rfl
  · rw [if_neg large, if_neg large, Option.getD_some]
    simp only [decide_eq_true_eq]
    rfl

/-- A number of the grid is kept as it is. -/
theorem rounded_of_mem {value : ℚ} (member : value ∈ grid) : rounded value = value := by
  rw [rounded_eq, near_nearest.fixes member, ite_self]

/-- What double precision has kept is kept as it is. -/
theorem rounded_rounded (value : ℚ) : rounded (rounded value) = rounded value := by
  -- A value beyond the limit stays as it is, and any other one is on the grid by now.
  by_cases large : limit ≤ |near value|
  · rw [rounded_eq value, if_pos large, rounded_eq value, if_pos large]
  · rw [rounded_eq value, if_neg large]
    exact rounded_of_mem (near_nearest.mem value)

/-- Rounding to double precision never changes the order of two numbers. -/
theorem rounded_monotone : Monotone rounded := by
  intro one two ordered
  have kept := near_nearest.monotone ordered
  rw [rounded_eq, rounded_eq]
  split_ifs with large high high
  · exact ordered
  · -- If the second were taken below the first, both would be taken to the same point.
    by_contra below
    have back := near_nearest.monotone (not_le.mp below).le
    rw [near_nearest.fixes (near_nearest.mem two)] at back
    exact high (le_antisymm kept back ▸ large)
  · by_contra above
    have back := near_nearest.monotone (not_le.mp above).le
    rw [near_nearest.fixes (near_nearest.mem one)] at back
    exact large (le_antisymm kept back ▸ high)
  · exact kept

/-- Nothing is kept as nothing. -/
theorem rounded_zero : rounded 0 = 0 := by
  decide +kernel

/-- A number of seconds that double precision has above zero was above zero. -/
theorem pos_of_rounded_pos {value : ℚ} (positive : 0 < rounded value) : 0 < value := by
  -- Rounding is monotone and keeps nothing, so it makes nothing positive of what is not.
  by_contra below
  have kept := rounded_monotone (not_lt.mp below)
  rw [rounded_zero] at kept
  exact positive.not_ge kept

end Binary64

end ContainerScan
