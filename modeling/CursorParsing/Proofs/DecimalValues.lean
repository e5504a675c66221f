import CursorParsing.Number.Decimal
import Mathlib.Algebra.Order.Field.Power
import Mathlib.Data.Rat.Cast.Order
import Mathlib.Tactic.Linarith
import Mathlib.Tactic.Positivity
import Mathlib.Tactic.Ring

/-!
# The values of decimals

An operation gives the decimal nearest to its exact result among those of `Decimal.precision` digits. So
negation is exact for a number exactly where no digit of it lies below the place that is kept.
-/

namespace CursorParsing

/-! ## Digits and quotients -/

namespace Number

theorem digitCount_le_iff {number count : Nat} (positive : 0 < count) :
    digitCount number ≤ count ↔ number < 10 ^ count :=
  Nat.length_toDigits_le_iff (by decide) positive

theorem digitCount_pos (number : Nat) : 0 < digitCount number :=
  List.length_pos_iff.mpr Nat.toDigits_ne_nil

theorem lt_pow_digitCount (number : Nat) : number < 10 ^ digitCount number :=
  (digitCount_le_iff (digitCount_pos number)).mp le_rfl

theorem roundHalfEven_eq (numerator denominator : Nat) :
    roundHalfEven numerator denominator = numerator / denominator ∧
        2 * (numerator % denominator) ≤ denominator ∨
      roundHalfEven numerator denominator = numerator / denominator + 1 ∧
        denominator ≤ 2 * (numerator % denominator) := by
  unfold roundHalfEven
  simp only []
  split
  · omega
  · split <;> omega

/-- A quotient is not further than a half from the integer nearest to it. -/
theorem roundHalfEven_near (numerator : Nat) {denominator : Nat} (positive : 0 < denominator) :
    2 * numerator ≤ 2 * (denominator * roundHalfEven numerator denominator) + denominator ∧
      2 * (denominator * roundHalfEven numerator denominator) ≤ 2 * numerator + denominator := by
  have parts := Nat.div_add_mod numerator denominator
  have remainder := Nat.mod_lt numerator positive
  rcases roundHalfEven_eq numerator denominator with ⟨down, small⟩ | ⟨up, large⟩
  · rw [down]
    omega
  · rw [up, Nat.mul_add_one]
    omega

theorem abs_roundHalfEven_sub_le (numerator : Nat) {denominator : Nat} (positive : 0 < denominator) :
    |(denominator * roundHalfEven numerator denominator : ℚ) - numerator| ≤ denominator / 2 := by
  rcases roundHalfEven_near numerator positive with ⟨upper, lower⟩
  generalize roundHalfEven numerator denominator = quotient at *
  have upperRat : 2 * (numerator : ℚ) ≤ 2 * (denominator * quotient) + denominator := by
    exact_mod_cast upper
  have lowerRat : 2 * (denominator * quotient : ℚ) ≤ 2 * numerator + denominator := by
    exact_mod_cast lower
  exact abs_le.mpr ⟨by linarith, by linarith⟩

theorem roundHalfEven_le {numerator denominator bound : Nat} (positive : 0 < denominator)
    (within : numerator ≤ denominator * bound) : roundHalfEven numerator denominator ≤ bound := by
  have near := (roundHalfEven_near numerator positive).2
  by_contra! beyond
  have more := Nat.mul_le_mul_left denominator (Nat.succ_le_of_lt beyond)
  rw [Nat.succ_eq_add_one, Nat.mul_add_one] at more
  omega

end Number

open Number

namespace Decimal

/-! ## Values -/

/-- The absolute value. -/
def size (number : Decimal) : ℚ := number.coefficient * 10 ^ number.exponent

def toRat (number : Decimal) : ℚ := if number.negative then -number.size else number.size

theorem cast_power_mul {place exponent : Int} (below : exponent ≤ place) :
    (power 10 (place - exponent) : ℚ) * 10 ^ exponent = 10 ^ place := by
  have distance : ((place - exponent).toNat : Int) = place - exponent := by omega
  change (((10 : Nat) ^ (place - exponent).toNat : Nat) : ℚ) * 10 ^ exponent = 10 ^ place
  rw [Nat.cast_pow, Nat.cast_ofNat, ← zpow_natCast, distance, ← zpow_add₀ (by norm_num),
    sub_add_cancel]

theorem abs_toRat_sub {left right : Decimal} (same : left.negative = right.negative) :
    |left.toRat - right.toRat| = |left.size - right.size| := by
  rw [toRat, toRat, same]
  split
  · rw [neg_sub_neg, abs_sub_comm]
  · rfl

theorem toRat_eq_iff {left right : Decimal} (same : left.negative = right.negative) :
    left.toRat = right.toRat ↔ left.size = right.size := by
  rw [← sub_eq_zero, ← abs_eq_zero, abs_toRat_sub same, abs_eq_zero, sub_eq_zero]

theorem size_nonneg (number : Decimal) : 0 ≤ number.size :=
  mul_nonneg (Nat.cast_nonneg _) (zpow_nonneg (by norm_num) _)

theorem size_lt_magnitude (number : Decimal) : number.size < 10 ^ number.magnitude := by
  have bound : (number.coefficient : ℚ) < 10 ^ digitCount number.coefficient := by
    exact_mod_cast lt_pow_digitCount number.coefficient
  have unit : (0 : ℚ) < 10 ^ number.exponent := zpow_pos (by norm_num) _
  calc number.size < 10 ^ digitCount number.coefficient * 10 ^ number.exponent :=
        mul_lt_mul_of_pos_right bound unit
    _ = 10 ^ number.magnitude := by
        rw [magnitude, zpow_add₀ (by norm_num), zpow_natCast, mul_comm]

/-- No digit of the number lies below a power of ten. -/
def EndsAt (place : Int) (number : Decimal) : Prop := ∃ count : Nat, number.size = count * 10 ^ place

theorem endsAt_of_le {number : Decimal} {place : Int} (above : place ≤ number.exponent) :
    number.EndsAt place := by
  refine ⟨number.coefficient * power 10 (number.exponent - place), ?_⟩
  rw [Nat.cast_mul, mul_assoc, cast_power_mul above, size]

/-! ## Rounding -/

section Rounding

variable (place : Int) (number : Decimal)

theorem negative_roundedAt : (number.roundedAt place).negative = number.negative := by
  unfold roundedAt
  split
  · rfl
  · split <;> rfl

/-- Rounding either keeps a number or moves it to the place, by no more than a half there. -/
theorem roundedAt_cases :
    number.roundedAt place = number ∧ place ≤ number.exponent ∨
      (number.roundedAt place).exponent = place ∧
        |(number.roundedAt place).size - number.size| ≤ 10 ^ place / 2 := by
  have unit : (0 : ℚ) < 10 ^ place := zpow_pos (by norm_num) _
  unfold roundedAt
  split
  · rename_i above
    exact .inl ⟨rfl, above⟩
  · rename_i above
    right
    split
    · rename_i small
      refine ⟨rfl, ?_⟩
      have bound : number.size ≤ 10 ^ (place - 1) :=
        number.size_lt_magnitude.le.trans (zpow_le_zpow_right₀ (by norm_num) (by omega))
      have tenth : (10 : ℚ) ^ (place - 1) = 10 ^ place / 10 := by
        rw [zpow_sub_one₀ (by norm_num), div_eq_mul_inv]
      have nonneg := number.size_nonneg
      simp only [size, Nat.cast_zero, zero_mul, zero_sub, abs_neg] at *
      rw [abs_of_nonneg nonneg]
      linarith
    · refine ⟨rfl, ?_⟩
      have positive : 0 < power 10 (place - number.exponent) := Nat.pow_pos (by decide)
      have half := abs_roundHalfEven_sub_le number.coefficient positive
      have scaled := @cast_power_mul place number.exponent (by omega)
      generalize power 10 (place - number.exponent) = denominator at *
      generalize roundHalfEven number.coefficient denominator = quotient at *
      have digit : (0 : ℚ) < 10 ^ number.exponent := zpow_pos (by norm_num) _
      simp only [size, ← scaled]
      calc |(quotient : ℚ) * (denominator * 10 ^ number.exponent) -
              number.coefficient * 10 ^ number.exponent|
          = |(denominator * quotient : ℚ) - number.coefficient| * 10 ^ number.exponent := by
            rw [← abs_of_pos digit, ← abs_mul, abs_of_pos digit]
            congr 1
            ring
        _ ≤ denominator / 2 * 10 ^ number.exponent := mul_le_mul_of_nonneg_right half digit.le
        _ = denominator * 10 ^ number.exponent / 2 := by ring

/-- A number is kept as it is exactly if it ends at the place: of two numbers that do so, only equal ones
are not further apart than a half. -/
theorem size_roundedAt_eq_iff :
    (number.roundedAt place).size = number.size ↔ number.EndsAt place := by
  rcases number.roundedAt_cases place with ⟨same, above⟩ | ⟨atPlace, near⟩
  · exact iff_of_true (by rw [same]) (endsAt_of_le above)
  · have unit : (0 : ℚ) < 10 ^ place := zpow_pos (by norm_num) _
    rw [size, atPlace] at near ⊢
    constructor
    · intro same
      exact ⟨_, same.symm⟩
    · intro ends
      rcases ends with ⟨count, counted⟩
      rw [counted, ← sub_mul, abs_mul, abs_of_pos unit] at near
      have apart : |((number.roundedAt place).coefficient : ℚ) - count| < 1 := by
        refine lt_of_mul_lt_mul_right ?_ unit.le
        linarith
      rcases abs_lt.mp apart with ⟨notLess, notMore⟩
      rw [neg_lt_sub_iff_lt_add] at notLess
      rw [sub_lt_iff_lt_add] at notMore
      norm_cast at notLess notMore
      have equal : (number.roundedAt place).coefficient = count := by omega
      rw [counted, equal]

variable {place number}

theorem coefficient_roundedAt_le (kept : number.magnitude - precision ≤ place) :
    (number.roundedAt place).coefficient ≤ 10 ^ precision := by
  have bound := lt_pow_digitCount number.coefficient
  unfold roundedAt
  split
  · rename_i above
    have few : digitCount number.coefficient ≤ precision := by
      rw [magnitude] at kept
      omega
    exact bound.le.trans (Nat.pow_le_pow_right (by decide) few)
  · split
    · exact Nat.zero_le _
    · apply roundHalfEven_le (Nat.pow_pos (by decide))
      have few : digitCount number.coefficient ≤ (place - number.exponent).toNat + precision := by
        rw [magnitude] at kept
        omega
      calc number.coefficient
          ≤ 10 ^ ((place - number.exponent).toNat + precision) :=
            bound.le.trans (Nat.pow_le_pow_right (by decide) few)
        _ = power 10 (place - number.exponent) * 10 ^ precision := Nat.pow_add _ _ _

theorem negative_withoutCarry : number.withoutCarry.negative = number.negative := by
  unfold withoutCarry
  split <;> rfl

theorem size_withoutCarry (within : number.coefficient ≤ 10 ^ precision) :
    number.withoutCarry.size = number.size := by
  unfold withoutCarry
  split
  · rename_i long
    have carried : number.coefficient = 10 ^ precision :=
      within.antisymm (not_lt.mp fun below => long.not_ge ((digitCount_le_iff (by decide)).mpr below))
    have shorter : number.coefficient = number.coefficient / 10 * 10 := by
      rw [carried]
      decide
    calc ((number.coefficient / 10 : Nat) : ℚ) * 10 ^ (number.exponent + 1)
        = (number.coefficient / 10 * 10 : Nat) * 10 ^ number.exponent := by
          rw [zpow_add_one₀ (by norm_num)]
          push_cast
          ring
      _ = number.size := by rw [← shorter, size]
  · rfl

theorem exponent_withoutCarry_le : number.withoutCarry.exponent ≤ number.exponent + 1 := by
  unfold withoutCarry
  split
  · exact le_rfl
  · omega

theorem coefficient_withoutCarry_lt (within : number.coefficient ≤ 10 ^ precision) :
    number.withoutCarry.coefficient < 10 ^ precision := by
  unfold withoutCarry
  split
  · exact lt_of_le_of_lt (Nat.div_le_div_right within) (by decide)
  · rename_i short
    exact (digitCount_le_iff (by decide)).mp (not_lt.mp short)

end Rounding

/-! ## Operations -/

section Fitting

variable {number result : Decimal}

/-- The place of the last digit that an operation keeps. -/
def keptPlace (number : Decimal) : Int := max (number.magnitude - precision) leastPlace

theorem size_of_isZero (isZero : number.isZero = true) : number.size = 0 := by
  rw [size, beq_iff_eq.mp isZero, Nat.cast_zero, zero_mul]

/-- What an operation gives has no more digits than are kept. -/
def fitted (number : Decimal) : Decimal := (number.roundedAt number.keptPlace).withoutCarry

theorem negative_fitted : number.fitted.negative = number.negative :=
  negative_withoutCarry.trans (negative_roundedAt _ number)

theorem size_fitted : number.fitted.size = (number.roundedAt number.keptPlace).size :=
  size_withoutCarry (coefficient_roundedAt_le (le_max_left _ _))

theorem magnitude_fitted_le (small : number.magnitude ≤ greatestLeading) :
    number.fitted.magnitude ≤ greatestLeading + 1 := by
  have within : (number.roundedAt number.keptPlace).coefficient ≤ 10 ^ precision :=
    coefficient_roundedAt_le (le_max_left _ _)
  have few : digitCount number.fitted.coefficient ≤ precision :=
    (digitCount_le_iff (by decide)).mpr (coefficient_withoutCarry_lt within)
  rcases number.roundedAt_cases number.keptPlace with ⟨same, above⟩ | ⟨atPlace, _⟩
  · have kept : number.fitted = number := by
      rw [fitted, same, withoutCarry, if_neg]
      rw [keptPlace, magnitude] at above
      omega
    rw [kept]
    omega
  · have moved : number.fitted.exponent ≤ number.keptPlace + 1 :=
      exponent_withoutCarry_le.trans (by rw [atPlace])
    have place : number.keptPlace ≤ greatestLeading - precision :=
      max_le (by omega) (by decide)
    rw [magnitude]
    omega

theorem fit?_of_isZero_eq_false (nonzero : number.isZero = false) :
    number.fit? =
      if number.fitted.magnitude > greatestLeading + 1 then none else some number.fitted := by
  rw [fit?, nonzero]
  rfl

/-- What an operation gives is nearest to the exact result at the place that is kept, and equal to it if
that ends there. -/
theorem fit?_near (fits : number.fit? = some result) :
    |result.toRat - number.toRat| ≤ 10 ^ number.keptPlace / 2 ∧
      (result.toRat = number.toRat ↔ number.EndsAt number.keptPlace) := by
  have half : (0 : ℚ) < 10 ^ number.keptPlace / 2 := by positivity
  rcases zero : number.isZero with _ | _
  · rw [fit?_of_isZero_eq_false zero] at fits
    split at fits
    · cases fits
    · cases fits
      rw [abs_toRat_sub negative_fitted, toRat_eq_iff negative_fitted, size_fitted]
      refine ⟨?_, number.size_roundedAt_eq_iff _⟩
      rcases number.roundedAt_cases number.keptPlace with ⟨same, _⟩ | ⟨_, near⟩
      · rw [same, sub_self, abs_zero]
        exact half.le
      · exact near
  · rw [fit?, zero] at fits
    cases fits
    have nothing := size_of_isZero zero
    have same (exponent : Int) : toRat { number with exponent } = number.toRat := by
      rw [toRat_eq_iff (by rfl), nothing]
      exact size_of_isZero zero
    rw [same, sub_self, abs_zero]
    exact ⟨half.le, iff_of_true rfl ⟨0, by rw [nothing, Nat.cast_zero, zero_mul]⟩⟩

theorem greatestLeading_lt_of_fit? (overflows : number.fit? = none) :
    greatestLeading < number.magnitude := by
  by_contra! small
  rcases zero : number.isZero with _ | _
  · rw [fit?_of_isZero_eq_false zero, if_neg (not_lt.mpr (magnitude_fitted_le small))] at overflows
    cases overflows
  · rw [fit?, zero] at overflows
    cases overflows

/-- The number of the other sign, but for zero. -/
def opposite (number : Decimal) : Decimal :=
  ⟨!number.negative && !number.isZero, number.coefficient, number.exponent⟩

theorem toRat_opposite : number.opposite.toRat = -number.toRat := by
  rcases zero : number.isZero with _ | _
  · simp only [toRat, opposite, zero, size]
    cases number.negative <;> simp
  · have nothing : number.opposite.size = 0 := size_of_isZero zero
    rw [toRat, toRat, size_of_isZero zero, nothing]
    simp

/-- Negation is exact for a number that ends at the place that is kept, and only for such a number; any
other is rounded to the nearest there. -/
theorem neg?_near (fits : number.neg? = some result) :
    |result.toRat + number.toRat| ≤ 10 ^ number.keptPlace / 2 ∧
      (result.toRat = -number.toRat ↔ number.EndsAt number.keptPlace) := by
  have near : |result.toRat - number.opposite.toRat| ≤ 10 ^ number.keptPlace / 2 ∧
      (result.toRat = number.opposite.toRat ↔ number.EndsAt number.keptPlace) := fit?_near fits
  rwa [toRat_opposite, sub_neg_eq_add] at near

theorem greatestLeading_lt_of_neg? (overflows : number.neg? = none) :
    greatestLeading < number.magnitude := by
  have beyond : greatestLeading < number.opposite.magnitude := greatestLeading_lt_of_fit? overflows
  exact beyond

end Fitting

end Decimal

end CursorParsing
