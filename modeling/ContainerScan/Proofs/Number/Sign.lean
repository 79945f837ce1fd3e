import ContainerScan.Proofs.Number.Rounding

/-! Which numbers in double precision are greater than zero. -/

namespace ContainerScan.Binary64

/-- A number in double precision that is greater than zero. -/
def IsPositive (value : Binary64) : Prop :=
  value = .infinite false ∨ ∃ rational, value.toRat? = some rational ∧ 0 < rational

/-- A finite number is greater than zero if it has digits that count and no minus. -/
theorem isPositive_finite_iff {negative : Bool} {mantissa : Nat} {exponent : Int} :
    (finite negative mantissa exponent).IsPositive ↔ negative = false ∧ 0 < mantissa := by
  -- The power is positive, so the sign is that of the mantissa.
  have scale : (0 : ℚ) < 2 ^ exponent := by positivity
  have size : (0 : ℚ) ≤ mantissa * 2 ^ exponent := by positivity
  simp only [IsPositive, reduceCtorEq, false_or, toRat?_finite, Option.some.injEq,
    exists_eq_left']
  cases negative with
  | true => simpa using size
  | false => simp [mul_pos_iff_of_pos_right scale]

/-- What is not at most zero is greater than zero or compares with nothing. -/
theorem atMostZero_eq_false_iff {value : Binary64} :
    value.atMostZero = false ↔ value.IsPositive ∨ value = .unordered := by
  -- Infinity has its sign, and the unordered value none.
  cases value with
  | finite negative mantissa exponent =>
    rw [isPositive_finite_iff]
    simp [atMostZero, Nat.pos_iff_ne_zero]
  | infinite negative => simp [atMostZero, IsPositive, toRat?]
  | unordered => simp [atMostZero]

end ContainerScan.Binary64
