/-!
# Nonnegative fractions

Every number of this library has an exact value, and every operation on numbers computes with exact
values and rounds once. A fraction here need not be in lowest terms: only its quotient and the order
between two fractions are ever looked at.
-/

namespace ViewportScaling.Numeric

/-- A nonnegative fraction, not necessarily in lowest terms. -/
structure Fraction where
  /-- The part above the line. -/
  numerator : Nat
  /-- The part below the line. -/
  denominator : Nat
  /-- The part below the line is not zero. -/
  denominator_pos : 0 < denominator

namespace Fraction

/-- A natural number as a fraction. -/
def ofNat (n : Nat) : Fraction := ⟨n, 1, Nat.one_pos⟩

/-- The number `significand` times two to the power `exponent`. -/
def binary (significand : Nat) (exponent : Int) : Fraction :=
  ⟨significand * Nat.pow 2 exponent.toNat, Nat.pow 2 (-exponent).toNat, Nat.two_pow_pos _⟩

/-- The number `significand` times ten to the power `exponent`. -/
def decimal (significand : Nat) (exponent : Int) : Fraction :=
  ⟨significand * Nat.pow 10 exponent.toNat, Nat.pow 10 (-exponent).toNat,
    Nat.pow_pos (by decide)⟩

/-- The product of two fractions. -/
def mul (a b : Fraction) : Fraction :=
  ⟨a.numerator * b.numerator, a.denominator * b.denominator,
    Nat.mul_pos a.denominator_pos b.denominator_pos⟩

/-- The quotient of a fraction by one that is not zero. -/
def div (a b : Fraction) (h : 0 < b.numerator) : Fraction :=
  ⟨a.numerator * b.denominator, a.denominator * b.numerator, Nat.mul_pos a.denominator_pos h⟩

/-- The order of the values, by multiplying out. -/
instance : LE Fraction where
  le a b := a.numerator * b.denominator ≤ b.numerator * a.denominator

/-- The strict order of the values. -/
instance : LT Fraction where
  lt a b := a.numerator * b.denominator < b.numerator * a.denominator

instance (a b : Fraction) : Decidable (a ≤ b) :=
  inferInstanceAs (Decidable (a.numerator * b.denominator ≤ b.numerator * a.denominator))

instance (a b : Fraction) : Decidable (a < b) :=
  inferInstanceAs (Decidable (a.numerator * b.denominator < b.numerator * a.denominator))

theorem le_iff (a b : Fraction) :
    a ≤ b ↔ a.numerator * b.denominator ≤ b.numerator * a.denominator := Iff.rfl

theorem lt_iff (a b : Fraction) :
    a < b ↔ a.numerator * b.denominator < b.numerator * a.denominator := Iff.rfl

/-- The greatest natural number that is at most the fraction. -/
def floor (a : Fraction) : Nat := a.numerator / a.denominator

/-- The natural number nearest to the fraction; a half goes to the even neighbour. -/
def nearestEven (a : Fraction) : Nat :=
  let rest := 2 * (a.numerator % a.denominator)
  if rest < a.denominator then a.floor
  else if rest = a.denominator then a.floor + a.floor % 2
  else a.floor + 1

/-- The natural number nearest to the fraction; a half goes up. -/
def nearestUp (a : Fraction) : Nat := (2 * a.numerator + a.denominator) / (2 * a.denominator)

/-- A natural number is at most the whole part just if it is at most the fraction. -/
theorem floor_le_iff (a : Fraction) (n : Nat) :
    n ≤ a.floor ↔ n * a.denominator ≤ a.numerator :=
  Nat.le_div_iff_mul_le a.denominator_pos

/-- Rounding goes to one of the two neighbours. -/
theorem nearestEven_bounds (a : Fraction) :
    a.floor ≤ a.nearestEven ∧ a.nearestEven ≤ a.floor + 1 := by
  simp only [nearestEven]
  have := Nat.mod_lt a.floor (show 0 < 2 by decide)
  split
  · omega
  · split <;> omega

/-- For a positive fraction, the exponent of the greatest power of two that is at most the
fraction. -/
def binaryOrder (a : Fraction) : Int :=
  let guess := (a.numerator.log2 : Int) - a.denominator.log2
  if a < binary 1 guess then guess - 1 else guess

/-- For a positive fraction, the exponent of the greatest power of ten that is at most the
fraction. -/
def decimalOrder (a : Fraction) : Int :=
  if a.denominator ≤ a.numerator then (Nat.toDigits 10 a.floor).length - 1
  else
    let digits := (Nat.toDigits 10 (a.denominator / a.numerator)).length
    if decimal 1 (1 - digits) ≤ a then 1 - digits else -digits

example : (⟨1, 1000, by decide⟩ : Fraction).decimalOrder = -3 := by decide +kernel

example : (⟨1, 1001, by decide⟩ : Fraction).decimalOrder = -4 := by decide +kernel

end Fraction

end ViewportScaling.Numeric
