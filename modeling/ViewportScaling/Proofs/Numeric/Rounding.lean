import Mathlib.Data.Int.Log
import ViewportScaling.Proofs.Numeric.Exactness

/-!
# Rounding by value

A fraction has an order of magnitude and a nearest natural number that depend on its value alone, however it
is written. So the double nearest to a fraction depends on its value alone, it is finite up to the largest
double, and the double nearest to the value of a double is that double. Hence a whole number that is the
value of a double may stand for that double in a ratio: dividing the whole numbers before rounding comes to
dividing the doubles.
-/

namespace ViewportScaling.Numeric

namespace Fraction

/-! ### Values -/

/-- A fraction is positive just if its numerator is. -/
theorem value_pos_iff {a : Fraction} : 0 < a.value ↔ 0 < a.numerator := by
  unfold value
  rw [div_pos_iff_of_pos_right a.denominator_cast_pos]
  exact Nat.cast_pos

/-- Fractions are ordered by their values. -/
theorem lt_iff_value_lt {a b : Fraction} : a < b ↔ a.value < b.value := by
  unfold value
  rw [div_lt_div_iff₀ a.denominator_cast_pos b.denominator_cast_pos, lt_iff]
  exact_mod_cast Iff.rfl

/-- So it is with at most. -/
theorem le_iff_value_le {a b : Fraction} : a ≤ b ↔ a.value ≤ b.value := by
  unfold value
  rw [div_le_div_iff₀ a.denominator_cast_pos b.denominator_cast_pos, le_iff]
  exact_mod_cast Iff.rfl

/-- The value of a quotient is the quotient of the values. -/
theorem value_div (a b : Fraction) (positive : 0 < b.numerator) :
    (a.div b positive).value = a.value / b.value := by
  simp only [value, div, Nat.cast_mul]
  rw [div_div_div_eq]

/-- One with a binary exponent is that power of two. -/
theorem value_binary_one (exponent : Int) : (binary 1 exponent).value = 2 ^ exponent := by
  rw [value_binary, Nat.cast_one, one_mul]

/-- Scaling a fraction by a power of two divides its value. -/
theorem value_scaled (a : Fraction) (exponent : Int) :
    (a.mul (.binary 1 (-exponent))).value = a.value / 2 ^ exponent := by
  rw [value_mul, value_binary_one, zpow_neg, div_eq_mul_inv]

/-! ### Orders of magnitude -/

/-- The binary order is the logarithm of the value. -/
theorem binaryOrder_eq_log {a : Fraction} (positive : 0 < a.numerator) :
    a.binaryOrder = Int.log 2 a.value := by
  have two : (1 : Nat) < 2 := by decide
  have high : 0 < a.value := value_pos_iff.2 positive
  -- The logarithms of both parts leave two orders to choose from, and the guess is the higher one.
  have above : (2 : ℚ) ^ a.numerator.log2 ≤ a.numerator := by
    exact_mod_cast Nat.log2_self_le positive.ne'
  have above' : (a.numerator : ℚ) < 2 ^ (a.numerator.log2 + 1) := by
    exact_mod_cast Nat.lt_log2_self
  have below : (2 : ℚ) ^ a.denominator.log2 ≤ a.denominator := by
    exact_mod_cast Nat.log2_self_le a.denominator_pos.ne'
  have below' : (a.denominator : ℚ) < 2 ^ (a.denominator.log2 + 1) := by
    exact_mod_cast Nat.lt_log2_self
  have least : (2 : ℚ) ^ ((a.numerator.log2 : Int) - a.denominator.log2 - 1) ≤ a.value := by
    have split : (2 : ℚ) ^ ((a.numerator.log2 : Int) - a.denominator.log2 - 1) =
        2 ^ a.numerator.log2 / 2 ^ (a.denominator.log2 + 1) := by
      rw [sub_sub, zpow_sub₀ two_ne_zero]
      norm_cast
    rw [split]
    exact div_le_div₀ (Nat.cast_nonneg _) above a.denominator_cast_pos below'.le
  have greatest : a.value < (2 : ℚ) ^ ((a.numerator.log2 : Int) - a.denominator.log2 + 1) := by
    have split : (2 : ℚ) ^ ((a.numerator.log2 : Int) - a.denominator.log2 + 1) =
        2 ^ (a.numerator.log2 + 1) / 2 ^ a.denominator.log2 := by
      rw [sub_add_eq_add_sub, zpow_sub₀ two_ne_zero]
      norm_cast
    rw [split]
    exact div_lt_div₀ above' below (by positivity) (by positivity)
  unfold binaryOrder
  simp only [lt_iff_value_lt, value_binary_one]
  generalize (a.numerator.log2 : Int) - a.denominator.log2 = guess at least greatest ⊢
  have lower := (Int.zpow_le_iff_le_log two high).1 (mod_cast least)
  have upper := (Int.lt_zpow_iff_log_lt two high).1 (mod_cast greatest)
  split
  · rename_i small
    have := (Int.lt_zpow_iff_log_lt two high).1 (mod_cast small)
    omega
  · rename_i large
    have := (Int.zpow_le_iff_le_log two high).1 (mod_cast not_lt.1 large)
    omega

/-! ### Nearest natural numbers -/

/-- The whole part is that of the value. -/
theorem floor_eq (a : Fraction) : (a.floor : Int) = ⌊a.value⌋ :=
  (Rat.floor_natCast_div_natCast a.numerator a.denominator).symm

/-- The rest is what the numerator leaves over the denominator. -/
theorem fract_value (a : Fraction) :
    Int.fract a.value = (a.numerator % a.denominator : Nat) / a.denominator :=
  Int.fract_div_natCast_eq_div_natCast_mod

/-- The nearest natural number depends on the value alone. -/
theorem nearestEven_eq (a : Fraction) : a.nearestEven =
    if 2 * Int.fract a.value < 1 then a.floor
    else if 2 * Int.fract a.value = 1 then a.floor + a.floor % 2
    else a.floor + 1 := by
  have positive := a.denominator_cast_pos
  have less : 2 * (a.numerator % a.denominator) < a.denominator ↔ 2 * Int.fract a.value < 1 := by
    rw [fract_value, ← mul_div_assoc, div_lt_one positive]
    exact_mod_cast Iff.rfl
  have half : 2 * (a.numerator % a.denominator) = a.denominator ↔ 2 * Int.fract a.value = 1 := by
    rw [fract_value, ← mul_div_assoc, div_eq_one_iff_eq positive.ne']
    exact_mod_cast Iff.rfl
  unfold nearestEven
  simp only [less, half]

/-- Fractions with one value are rounded to one number. -/
theorem nearestEven_congr {a b : Fraction} (same : a.value = b.value) :
    a.nearestEven = b.nearestEven := by
  have floors : a.floor = b.floor := by
    have := a.floor_eq
    rw [same, ← b.floor_eq] at this
    exact_mod_cast this
  rw [nearestEven_eq, nearestEven_eq, same, floors]

/-- A bound that is a natural number is kept by rounding, from below and from above. -/
theorem le_nearestEven {a : Fraction} {n : Nat} (low : (n : ℚ) ≤ a.value) : n ≤ a.nearestEven := by
  refine le_trans ?_ a.nearestEven_bounds.1
  have below : (n : Int) ≤ ⌊a.value⌋ := Int.le_floor.2 (mod_cast low)
  rw [← floor_eq] at below
  exact_mod_cast below

/-- Rounding does not go beyond a natural number that bounds the fraction. -/
theorem nearestEven_le {a : Fraction} {n : Nat} (high : a.value ≤ n) : a.nearestEven ≤ n := by
  have below : a.floor ≤ n := by
    have := (Int.floor_le a.value).trans high
    rw [← floor_eq] at this
    exact_mod_cast this
  rcases below.lt_or_eq with less | same
  · exact a.nearestEven_bounds.2.trans less
  · -- Nothing is left over, so the value is the natural number itself.
    have whole : Int.fract a.value = 0 := by
      refine le_antisymm ?_ (Int.fract_nonneg _)
      have parts := Int.floor_add_fract a.value
      rw [← floor_eq, same] at parts
      push_cast at parts
      linarith
    rw [nearestEven_eq, whole, mul_zero, if_pos zero_lt_one, same]

/-- A natural number is rounded to itself. -/
theorem nearestEven_of_value {a : Fraction} {n : Nat} (exact : a.value = n) : a.nearestEven = n :=
  le_antisymm (nearestEven_le exact.le) (le_nearestEven exact.ge)

end Fraction

namespace Double

/-! ### The nearest double -/

/-- The nearest double depends on the value alone. -/
theorem round_congr (negative : Bool) {a b : Fraction} (same : a.value = b.value) :
    round negative a = round negative b := by
  by_cases zero : a.numerator = 0
  · have zero' : b.numerator = 0 := by
      by_contra nonzero
      have := Fraction.value_pos_iff.2 (Nat.pos_of_ne_zero nonzero)
      rw [← same, Fraction.value_pos_iff, zero] at this
      exact absurd this (lt_irrefl 0)
    rw [round, round, if_pos zero, if_pos zero']
  · have positive := Nat.pos_of_ne_zero zero
    have positive' : 0 < b.numerator := by
      rw [← Fraction.value_pos_iff, ← same, Fraction.value_pos_iff]
      exact positive
    have order : a.binaryOrder = b.binaryOrder := by
      rw [Fraction.binaryOrder_eq_log positive, Fraction.binaryOrder_eq_log positive', same]
    have nearest (exponent : Int) : (a.mul (.binary 1 exponent)).nearestEven =
        (b.mul (.binary 1 exponent)).nearestEven := by
      refine Fraction.nearestEven_congr ?_
      rw [Fraction.value_mul, Fraction.value_mul, same]
    rw [round, round, if_neg zero, if_neg positive'.ne', order]
    simp only [nearest]

/-- At the exponent of the nearest double a fraction has 53 bits at most, and as many except at the bottom of
the range. -/
theorem exponent_bounds {a : Fraction} (positive : 0 < a.numerator) {exponent : Int}
    (same : max (a.binaryOrder - 52) (-1074) = exponent) :
    a.value ≤ 2 ^ 53 * 2 ^ exponent ∧ (2 ^ 52 * 2 ^ exponent ≤ a.value ∨ exponent = -1074) := by
  have two : (1 : Nat) < 2 := by decide
  have order := Fraction.binaryOrder_eq_log positive
  have least : (2 : ℚ) ^ a.binaryOrder ≤ a.value := by
    rw [order]
    exact_mod_cast Int.zpow_log_le_self two (Fraction.value_pos_iff.2 positive)
  have greatest : a.value < 2 ^ (a.binaryOrder + 1) := by
    rw [order]
    exact_mod_cast Int.lt_zpow_succ_log_self two a.value
  have power (places : Nat) : (2 : ℚ) ^ places * 2 ^ exponent = 2 ^ (places + exponent) := by
    rw [zpow_add₀ two_ne_zero, zpow_natCast]
  rw [power, power]
  refine ⟨greatest.le.trans (zpow_le_zpow_right₀ one_le_two (by omega)), ?_⟩
  by_cases bottom : exponent = -1074
  · exact .inr bottom
  · exact .inl ((zpow_le_zpow_right₀ one_le_two (by omega)).trans least)

/-- Rounding the significand keeps its bounds. -/
theorem significand_bounds {a : Fraction} (positive : 0 < a.numerator) {exponent : Int}
    (same : max (a.binaryOrder - 52) (-1074) = exponent) :
    (a.mul (.binary 1 (-exponent))).nearestEven ≤ 2 ^ 53 ∧
      (2 ^ 52 ≤ (a.mul (.binary 1 (-exponent))).nearestEven ∨ exponent = -1074) := by
  obtain ⟨highest, lowest⟩ := exponent_bounds positive same
  have power : (0 : ℚ) < 2 ^ exponent := zpow_pos two_pos _
  constructor
  · refine Fraction.nearestEven_le ?_
    rw [Fraction.value_scaled, div_le_iff₀ power]
    exact_mod_cast highest
  · refine lowest.imp_left fun low => Fraction.le_nearestEven ?_
    rw [Fraction.value_scaled, le_div_iff₀ power]
    exact_mod_cast low

/-- The value of the largest double. -/
def largest : ℚ := (2 ^ 53 - 1) * 2 ^ (971 : Int)

/-- No finite double is larger than the largest. -/
theorem binary_le_largest {significand : Nat} {exponent : Int} (canonical : Canonical significand exponent) :
    (Fraction.binary significand exponent).value ≤ largest := by
  obtain ⟨short, -, high, -⟩ := canonical
  have significands : (significand : ℚ) ≤ 2 ^ 53 - 1 := by
    rw [le_sub_iff_add_le]
    exact_mod_cast short
  have powers : (2 : ℚ) ^ exponent ≤ 2 ^ (971 : Int) := zpow_le_zpow_right₀ one_le_two high
  rw [Fraction.value_binary]
  exact mul_le_mul significands powers (zpow_pos two_pos _).le (by norm_num)

/-- Up to the largest double, the exponent of the nearest double is no higher than a double may have, and at
the top there is no carry. -/
theorem exponent_le {a : Fraction} (positive : 0 < a.numerator) (bounded : a.value ≤ largest) {exponent : Int}
    (same : max (a.binaryOrder - 52) (-1074) = exponent) :
    exponent ≤ 971 ∧
      (exponent = 971 → (a.mul (.binary 1 (-exponent))).nearestEven ≤ 2 ^ 53 - 1) := by
  constructor
  · by_contra high
    rcases (exponent_bounds positive same).2 with low | bottom
    · have more : (2 : ℚ) ^ (972 : Int) ≤ 2 ^ exponent := zpow_le_zpow_right₀ one_le_two (by omega)
      have beyond : largest < 2 ^ 52 * 2 ^ (972 : Int) := by
        have unit_pos : (0 : ℚ) < 2 ^ (971 : Int) := zpow_pos two_pos _
        rw [largest, show (972 : Int) = 971 + 1 by rfl, zpow_add_one₀ two_ne_zero]
        generalize (2 : ℚ) ^ (971 : Int) = unit at unit_pos ⊢
        linarith
      exact absurd ((mul_le_mul_of_nonneg_left more (by norm_num)).trans (low.trans bounded))
        (not_le.2 beyond)
    · omega
  · intro top
    refine Fraction.nearestEven_le ?_
    rw [Fraction.value_scaled, div_le_iff₀ (zpow_pos two_pos _), top]
    exact bounded.trans_eq (by rw [largest]; norm_num)

/-- Up to the largest double, the nearest double is finite. -/
theorem isInfinite_round (negative : Bool) {a : Fraction} (bounded : a.value ≤ largest) :
    (round negative a).isInfinite = false := by
  unfold round
  by_cases zero : a.numerator = 0
  · rw [if_pos zero]
    rfl
  have positive := Nat.pos_of_ne_zero zero
  rw [if_neg zero]
  dsimp only
  generalize binary : max (a.binaryOrder - 52) (-1074) = exponent
  obtain ⟨most, some⟩ := significand_bounds positive binary
  obtain ⟨high, noCarry⟩ := exponent_le positive bounded binary
  generalize (a.mul (.binary 1 (-exponent))).nearestEven = nearest at most some noCarry ⊢
  by_cases carried : nearest = Nat.pow 2 53
  · have fits : Canonical (Nat.pow 2 52) (exponent + 1) := by
      refine ⟨by decide, by omega, ?_, .inl le_rfl⟩
      by_contra top
      have less := noCarry (by omega)
      rw [carried] at less
      exact absurd less (by decide)
    simp only [if_pos carried, dif_pos fits]
    rfl
  · have fits : Canonical nearest exponent :=
      ⟨lt_of_le_of_ne most carried, by omega, high, some⟩
    simp only [if_neg carried, dif_pos fits]
    rfl

/-- The double nearest to the value of a double is that double. -/
theorem round_binary (negative : Bool) {significand : Nat} {exponent : Int}
    (canonical : Canonical significand exponent) (positive : 0 < significand) :
    round negative (.binary significand exponent) = .finite negative significand exponent canonical := by
  have numerator : 0 < (Fraction.binary significand exponent).numerator :=
    Nat.mul_pos positive (Nat.pow_pos (by decide))
  have two : (1 : Nat) < 2 := by decide
  have value := Fraction.value_binary significand exponent
  have high := Fraction.value_pos_iff.2 numerator
  have order : max ((Fraction.binary significand exponent).binaryOrder - 52) (-1074) = exponent := by
    obtain ⟨short, lowest, -, normal⟩ := canonical
    rw [Fraction.binaryOrder_eq_log numerator]
    have less : Int.log 2 (Fraction.binary significand exponent).value < exponent + 53 := by
      refine (Int.lt_zpow_iff_log_lt two high).1 ?_
      rw [value, Nat.cast_ofNat, zpow_add₀ two_ne_zero, mul_comm]
      exact mul_lt_mul_of_pos_left (mod_cast short) (zpow_pos two_pos _)
    rcases normal with long | bottom
    · have long' : (2 : ℚ) ^ 52 ≤ significand := mod_cast long
      have more : exponent + 52 ≤ Int.log 2 (Fraction.binary significand exponent).value := by
        refine (Int.zpow_le_iff_le_log two high).1 ?_
        rw [value, Nat.cast_ofNat, zpow_add₀ two_ne_zero, mul_comm]
        exact mul_le_mul_of_nonneg_right (mod_cast long') (zpow_pos two_pos _).le
      omega
    · omega
  have nearest : ((Fraction.binary significand exponent).mul (.binary 1 (-exponent))).nearestEven =
      significand := by
    refine Fraction.nearestEven_of_value ?_
    rw [Fraction.value_scaled, value, mul_div_cancel_right₀ _ (zpow_ne_zero _ two_ne_zero)]
  have apart : significand ≠ Nat.pow 2 53 := canonical.1.ne
  rw [round, if_neg numerator.ne']
  simp only [order, nearest, if_neg apart, dif_pos canonical]

end Double

end ViewportScaling.Numeric
