import Mathlib.Algebra.Order.Round
import Mathlib.Data.Nat.Digits.Lemmas
import Mathlib.Data.Rat.Floor
import Mathlib.Tactic.FieldSimp
import Mathlib.Tactic.Positivity
import Mathlib.Tactic.Ring
import ViewportScaling.Numeric.Number

/-!
# Exact values and their thousandths

A fraction and a finite double stand for a rational number. Rounding a fraction to the nearest natural
number is the rounding of that rational number, a half going up. So a double has a text of three places
exactly if it is not infinite and the number of thousandths nearest to it, a half away from zero, has no
more than twenty-eight digits.
-/

namespace ViewportScaling.Numeric

namespace Fraction

/-- The rational number that a fraction stands for. -/
def value (a : Fraction) : ℚ := a.numerator / a.denominator

/-- The denominator is positive among the rationals too. -/
theorem denominator_cast_pos (a : Fraction) : (0 : ℚ) < a.denominator := by
  exact_mod_cast a.denominator_pos

/-- No fraction is negative. -/
theorem value_nonneg (a : Fraction) : 0 ≤ a.value := by
  unfold value
  positivity

theorem value_ofNat (n : Nat) : (ofNat n).value = n := by
  simp [value, ofNat]

theorem value_mul (a b : Fraction) : (a.mul b).value = a.value * b.value := by
  simp only [value, mul, Nat.cast_mul]
  exact (div_mul_div_comm _ _ _ _).symm

/-- A power is the quotient of the powers above and below the line, of which one is trivial. -/
theorem zpow_eq_pow_div_pow {base : ℚ} (nonzero : base ≠ 0) (exponent : Int) :
    base ^ exponent = base ^ exponent.toNat / base ^ (-exponent).toNat := by
  have split : exponent = (exponent.toNat : Int) - ((-exponent).toNat : Int) := by omega
  conv_lhs => rw [split]
  rw [zpow_sub₀ nonzero, zpow_natCast, zpow_natCast]

/-- A significand with a binary exponent is multiplied with that power of two. -/
theorem value_binary (significand : Nat) (exponent : Int) :
    (binary significand exponent).value = significand * (2 : ℚ) ^ exponent := by
  rw [zpow_eq_pow_div_pow two_ne_zero]
  simp only [value, binary, Nat.pow_eq, Nat.cast_mul, Nat.cast_pow, Nat.cast_ofNat]
  exact mul_div_assoc _ _ _

/-- A significand with a decimal exponent is multiplied with that power of ten. -/
theorem value_decimal (significand : Nat) (exponent : Int) :
    (decimal significand exponent).value = significand * (10 : ℚ) ^ exponent := by
  rw [zpow_eq_pow_div_pow (by norm_num)]
  simp only [value, decimal, Nat.pow_eq, Nat.cast_mul, Nat.cast_pow, Nat.cast_ofNat]
  exact mul_div_assoc _ _ _

/-- Rounding a fraction is rounding the number it stands for. -/
theorem nearestUp_eq_round (a : Fraction) : (a.nearestUp : Int) = round a.value := by
  have positive := a.denominator_cast_pos
  have halves : a.value + 1 / 2 =
      ((2 * a.numerator + a.denominator : Nat) : ℚ) / ((2 * a.denominator : Nat) : ℚ) := by
    unfold value
    push_cast
    field_simp
  rw [round_eq, halves, Rat.floor_natCast_div_natCast]
  rfl

end Fraction

/-- The number of thousandths nearest to a number, apart from its sign; a half goes away from zero. -/
def thousandthsOf (x : ℚ) : Nat := (round (1000 * |x|)).toNat

namespace Double

/-- The rational number that a finite double stands for. -/
def value? : Double → Option ℚ
  | .finite negative significand exponent _ =>
    some (if negative then -(significand * 2 ^ exponent) else significand * 2 ^ exponent)
  | _ => none

/-- A double is too large for three decimal places: it is infinite, or the number of its thousandths has
more digits than such a text may have. -/
def IsTooLarge (d : Double) : Prop :=
  d.isInfinite = true ∨
    ∃ x, d.value? = some x ∧ fixedDigits < (Nat.digits 10 (thousandthsOf x)).length

/-- The magnitude of a finite double as a fraction has the thousandths of the double. -/
theorem nearestUp_thousandths {negative : Bool} {significand : Nat} {exponent : Int}
    {canonical : Canonical significand exponent} {x : ℚ}
    (found : (finite negative significand exponent canonical).value? = some x) :
    ((Fraction.binary significand exponent).mul (.ofNat 1000)).nearestUp = thousandthsOf x := by
  have magnitude : |x| = (Fraction.binary significand exponent).value := by
    have nonneg := (Fraction.binary significand exponent).value_nonneg
    rw [value?, Option.some.injEq] at found
    rw [Fraction.value_binary] at nonneg ⊢
    rw [← found]
    split
    · rw [abs_neg, abs_of_nonneg nonneg]
    · rw [abs_of_nonneg nonneg]
  have rounded := ((Fraction.binary significand exponent).mul (.ofNat 1000)).nearestUp_eq_round
  rw [Fraction.value_mul, Fraction.value_ofNat, ← magnitude, mul_comm, Nat.cast_ofNat] at rounded
  rw [thousandthsOf, ← rounded, Int.toNat_natCast]

/-- A double has no text with three places exactly if it is too large. -/
theorem fixedText_eq_error_iff (d : Double) :
    (∃ error, d.fixedText = .error error) ↔ d.IsTooLarge := by
  cases d with
  | finite negative significand exponent canonical =>
    obtain ⟨x, found⟩ : ∃ x, (finite negative significand exponent canonical).value? = some x :=
      ⟨_, rfl⟩
    have count := nearestUp_thousandths found
    have digits : fixedDigits < (Nat.digits 10 (thousandthsOf x)).length ↔
        Nat.pow 10 fixedDigits ≤ thousandthsOf x :=
      Nat.lt_digits_length_iff (by decide) _
    unfold fixedText fixedOfMagnitude IsTooLarge
    simp only [count, found, isInfinite, Bool.false_eq_true, false_or, Option.some.injEq,
      exists_eq_left', digits]
    split
    · rename_i short
      simpa using short
    · rename_i long
      exact ⟨fun _ => Nat.le_of_not_lt long, fun _ => ⟨_, rfl⟩⟩
  | infinite negative =>
    constructor
    · intro _
      exact .inl rfl
    · intro _
      exact ⟨_, rfl⟩
  | notANumber =>
    constructor
    · rintro ⟨error, stopped⟩
      cases stopped
    · rintro (infinite | ⟨x, found, -⟩)
      · cases infinite
      · cases found

end Double

end ViewportScaling.Numeric
