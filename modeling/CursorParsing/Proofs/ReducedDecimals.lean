import CursorParsing.Proofs.DecimalValues

/-!
# Decimals without trailing zeros

A decimal keeps its value when its trailing zeros are left out, and when an operation keeps all its digits.
What is left of its coefficient and its power of ten depends on the value alone.
-/

namespace CursorParsing

open Number

namespace Number

theorem pow_digitCount_le {number : Nat} (nonzero : number ≠ 0) : 10 ^ (digitCount number - 1) ≤ number := by
  rcases Nat.eq_zero_or_pos (digitCount number - 1) with single | more
  · rw [single]
    omega
  · refine not_lt.mp fun below => ?_
    have shorter := (digitCount_le_iff more).mpr below
    omega

end Number

namespace Decimal

/-! ## Places of a fraction -/

/-- The number `count / 10 ^ places`. -/
def ofPlaces (count places : Nat) : Decimal := ⟨false, count, -places⟩

theorem size_ofPlaces (count places : Nat) : (ofPlaces count places).size = count / 10 ^ places := by
  rw [size, ofPlaces, zpow_neg, zpow_natCast, div_eq_mul_inv]

theorem size_ofPlaces_lt (count places : Nat) :
    (ofPlaces count places).size < 10 ^ (digitCount (count / 10 ^ places) : Int) := by
  have bound : count < 10 ^ digitCount (count / 10 ^ places) * 10 ^ places :=
    (Nat.div_lt_iff_lt_mul (Nat.pow_pos (by decide))).mp (lt_pow_digitCount _)
  rw [size_ofPlaces, zpow_natCast, div_lt_iff₀ (by positivity)]
  exact_mod_cast bound

/-- A number whose leading digit is below a power of ten has its magnitude at most there. -/
theorem magnitude_le_of_size_lt {number : Decimal} {bound : Int} (nonzero : number.coefficient ≠ 0)
    (small : number.size < 10 ^ bound) : number.magnitude ≤ bound := by
  have leading : (10 : ℚ) ^ (digitCount number.coefficient - 1) ≤ number.coefficient := by
    exact_mod_cast pow_digitCount_le nonzero
  have positive := digitCount_pos number.coefficient
  have unit : (0 : ℚ) < 10 ^ number.exponent := zpow_pos (by norm_num) _
  have below : (10 : ℚ) ^ (number.magnitude - 1) < 10 ^ bound :=
    calc (10 : ℚ) ^ (number.magnitude - 1)
        = 10 ^ (digitCount number.coefficient - 1) * 10 ^ number.exponent := by
          rw [← zpow_natCast, ← zpow_add₀ (by norm_num), magnitude]
          congr 1
          omega
      _ ≤ number.size := mul_le_mul_of_nonneg_right leading unit.le
      _ < 10 ^ bound := small
  have exponents := (zpow_lt_zpow_iff_right₀ (by norm_num)).mp below
  omega

/-! ## Rounding -/

theorem endsAt_iff_of_size_eq {number other : Decimal} (place : Int) (same : number.size = other.size) :
    number.EndsAt place ↔ other.EndsAt place := by
  rw [EndsAt, EndsAt, same]

/-- An operation keeps what has few enough digits in front of the point and behind it. -/
theorem exists_fit?_of_places {number : Decimal} {count places : Nat}
    (value : number.size = (ofPlaces count places).size)
    (fits : digitCount (count / 10 ^ places) + places ≤ precision) :
    ∃ kept, number.fit? = some kept ∧ kept.size = number.size := by
  rcases zero : number.isZero with _ | _
  · have nonzero : number.coefficient ≠ 0 := beq_eq_false_iff_ne.mp zero
    have low : number.magnitude ≤ digitCount (count / 10 ^ places) :=
      magnitude_le_of_size_lt nonzero (value ▸ size_ofPlaces_lt count places)
    have digits : (precision : Int) = 28 := rfl
    have small : number.magnitude ≤ greatestLeading := by
      rw [greatestLeading]
      omega
    have above : number.keptPlace ≤ (ofPlaces count places).exponent := by
      change max (number.magnitude - precision) (-1000026) ≤ -(places : Int)
      omega
    have ends : number.EndsAt number.keptPlace :=
      (endsAt_iff_of_size_eq _ value).mpr (endsAt_of_le above)
    refine ⟨number.fitted, ?_, ?_⟩
    · rw [fit?_of_isZero_eq_false zero, if_neg (not_lt.mpr (magnitude_fitted_le small))]
    · rw [size_fitted]
      exact (number.size_roundedAt_eq_iff _).mpr ends
  · rw [fit?, zero]
    refine ⟨_, rfl, ?_⟩
    rw [size_of_isZero zero]
    exact size_of_isZero zero

/-! ## Trailing zeros -/

/-- The zeros that leave the coefficient are counted in the power of ten. -/
theorem exists_stripZeros (steps coefficient : Nat) (exponent : Int) :
    ∃ zeros : Nat, coefficient = (stripZeros steps coefficient exponent).1 * 10 ^ zeros ∧
      (stripZeros steps coefficient exponent).2 = exponent + zeros := by
  induction steps, coefficient, exponent using stripZeros.induct with
  | case1 coefficient exponent => exact ⟨0, (Nat.mul_one _).symm, (Int.add_zero _).symm⟩
  | case2 steps coefficient exponent divisible induction =>
      rw [stripZeros, if_pos divisible]
      rcases induction with ⟨zeros, split, counted⟩
      refine ⟨zeros + 1, ?_, by rw [counted]; omega⟩
      rw [Nat.pow_succ, ← Nat.mul_assoc, ← split]
      omega
  | case3 steps coefficient exponent notDivisible =>
      rw [stripZeros, if_neg notDivisible]
      exact ⟨0, (Nat.mul_one _).symm, (Int.add_zero _).symm⟩

/-- A step for each digit is enough. -/
theorem stripZeros_mod_ne_zero {steps coefficient : Nat} {exponent : Int} (nonzero : coefficient ≠ 0)
    (short : coefficient < 10 ^ steps) : (stripZeros steps coefficient exponent).1 % 10 ≠ 0 := by
  induction steps, coefficient, exponent using stripZeros.induct with
  | case1 coefficient exponent => omega
  | case2 steps coefficient exponent divisible induction =>
      rw [stripZeros, if_pos divisible]
      rw [Nat.pow_succ] at short
      exact induction (by omega) (by omega)
  | case3 steps coefficient exponent notDivisible =>
      rwa [stripZeros, if_neg notDivisible]

section Reduced

variable {number other : Decimal}

theorem size_reduced (number : Decimal) : number.reduced.size = number.size := by
  unfold reduced
  split
  · rename_i zero
    rw [size, size, zero, Nat.cast_zero, zero_mul, zero_mul]
  · rcases exists_stripZeros (digitCount number.coefficient) number.coefficient number.exponent with
      ⟨zeros, split, counted⟩
    simp only [size, counted]
    generalize (stripZeros (digitCount number.coefficient) number.coefficient number.exponent).1 =
      kept at split
    calc (kept : ℚ) * 10 ^ (number.exponent + zeros) = (kept * 10 ^ zeros : Nat) * 10 ^ number.exponent := by
          rw [zpow_add₀ (by norm_num), zpow_natCast]
          push_cast
          ring
      _ = number.coefficient * 10 ^ number.exponent := by rw [← split]

theorem reduced_cases (number : Decimal) :
    number.reduced = ⟨false, 0, 0⟩ ∨ number.reduced.coefficient % 10 ≠ 0 := by
  unfold reduced
  split
  · exact .inl rfl
  · rename_i nonzero
    exact .inr (stripZeros_mod_ne_zero nonzero (lt_pow_digitCount _))

/-- Of two decimals of one value, that with the smaller power of ten has the other's coefficient with
zeros behind it. -/
theorem coefficient_eq_of_size_eq (same : number.size = other.size)
    (below : number.exponent ≤ other.exponent) :
    number.coefficient = other.coefficient * power 10 (other.exponent - number.exponent) := by
  have unit : (10 : ℚ) ^ number.exponent ≠ 0 := zpow_ne_zero _ (by norm_num)
  rw [size, size, ← cast_power_mul below, ← mul_assoc] at same
  exact_mod_cast mul_right_cancel₀ unit same

theorem power_mod_ten {exponent : Int} (positive : 0 < exponent) (factor : Nat) :
    factor * power 10 exponent % 10 = 0 := by
  have more : exponent.toNat = exponent.toNat - 1 + 1 := by omega
  change factor * 10 ^ exponent.toNat % 10 = 0
  rw [more, Nat.pow_succ, ← Nat.mul_assoc, Nat.mul_mod_left]

/-- Without trailing zeros the power of ten is as great as it can be. -/
theorem exponent_le_of_size_eq (same : number.size = other.size) (lastDigit : number.coefficient % 10 ≠ 0) :
    other.exponent ≤ number.exponent := by
  by_contra! below
  have divisible := power_mod_ten (by omega : 0 < other.exponent - number.exponent) other.coefficient
  rw [← coefficient_eq_of_size_eq same below.le] at divisible
  exact lastDigit divisible

theorem power_of_nonpos {exponent : Int} (nonpos : exponent ≤ 0) : power 10 exponent = 1 := by
  change 10 ^ exponent.toNat = 1
  rw [Int.toNat_eq_zero.mpr nonpos, Nat.pow_zero]

/-- If the last place of a fraction is no zero, those are the places that are left, and the count in them
is what the coefficient comes to. -/
theorem reduced_of_places {count places : Nat} (value : number.size = (ofPlaces count places).size)
    (lowest : 0 < places → count % 10 ≠ 0) :
    (-number.reduced.exponent).toNat = places ∧
      number.reduced.coefficient * power 10 number.reduced.exponent = count := by
  rw [← size_reduced] at value
  rcases number.reduced_cases with zero | lastDigit
  · rw [zero] at value ⊢
    have noCount : count = 0 := by
      have nothing : (count : ℚ) / 10 ^ places = 0 := by
        rw [← size_ofPlaces, ← value, size, Nat.cast_zero, zero_mul]
      simpa using nothing
    have noPlaces : places = 0 := by
      by_contra some
      exact lowest (Nat.pos_of_ne_zero some) (by rw [noCount])
    rw [noCount, noPlaces]
    exact ⟨rfl, rfl⟩
  · generalize number.reduced = kept at *
    have above : -(places : Int) ≤ kept.exponent := exponent_le_of_size_eq value lastDigit
    have counted : count = kept.coefficient * power 10 (kept.exponent - -places) :=
      coefficient_eq_of_size_eq value.symm above
    rcases Nat.eq_zero_or_pos places with none | some
    · rw [none, Nat.cast_zero, neg_zero] at above counted
      rw [sub_zero] at counted
      exact ⟨by omega, counted.symm⟩
    · have same : kept.exponent = -places :=
        le_antisymm (exponent_le_of_size_eq value.symm (lowest some)) above
      rw [same, sub_self, power_of_nonpos le_rfl] at counted
      rw [same, power_of_nonpos (by omega), counted]
      exact ⟨by omega, rfl⟩

end Reduced

end Decimal

end CursorParsing
