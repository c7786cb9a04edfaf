import ViewportScaling.Numeric.Fraction

/-!
# Double-precision numbers

A double is a binary fraction with a significand below 2^53 and a bounded exponent, one of two
infinities, or not a number. Zero has a sign. The operations compute the exact result and round it
once, to the nearest double, a half to the even significand; a result beyond the largest double is
infinite. Only the operations that lengths and ratios need are here.
-/

namespace ViewportScaling.Numeric

/-- The pairs of significand and exponent that a double may hold: each value has exactly one. -/
def Canonical (significand : Nat) (exponent : Int) : Prop :=
  significand < Nat.pow 2 53 ∧ -1074 ≤ exponent ∧ exponent ≤ 971 ∧
    (Nat.pow 2 52 ≤ significand ∨ exponent = -1074)

instance (significand : Nat) (exponent : Int) : Decidable (Canonical significand exponent) :=
  inferInstanceAs (Decidable (_ ∧ _ ∧ _ ∧ _))

/-- A double-precision number. -/
inductive Double where
  /-- The value `significand` times two to the power `exponent`, with a sign. -/
  | finite (negative : Bool) (significand : Nat) (exponent : Int)
      (canonical : Canonical significand exponent)
  /-- One of the two infinities. -/
  | infinite (negative : Bool)
  /-- The result of an operation that has none. -/
  | notANumber
deriving DecidableEq, Repr

namespace Double

/-- Zero with a sign. -/
def zero (negative : Bool) : Double := .finite negative 0 (-1074) (by decide)

/-- The double with a given sign that is nearest to a fraction. The exponent is chosen so that the
significand has 53 bits, or fewer at the bottom of the range; rounding may carry into one more
bit. -/
def round (negative : Bool) (magnitude : Fraction) : Double :=
  if magnitude.numerator = 0 then zero negative
  else
    let exponent := max (magnitude.binaryOrder - 52) (-1074)
    let scaled := (magnitude.mul (.binary 1 (-exponent))).nearestEven
    let carried := scaled = Nat.pow 2 53
    let significand := if carried then Nat.pow 2 52 else scaled
    let place := if carried then exponent + 1 else exponent
    if h : Canonical significand place then .finite negative significand place h
    else .infinite negative

/-- The double nearest to an integer. -/
def ofInt (n : Int) : Double := round (n < 0) (.ofNat n.natAbs)

/-- The double nearest to a product; infinity times zero is not a number. -/
def mul : Double → Double → Double
  | .notANumber, _ => .notANumber
  | _, .notANumber => .notANumber
  | .infinite s, .infinite t => .infinite (s != t)
  | .infinite s, .finite t n _ _ => if n = 0 then .notANumber else .infinite (s != t)
  | .finite s m _ _, .infinite t => if m = 0 then .notANumber else .infinite (s != t)
  | .finite s m e _, .finite t n f _ => round (s != t) ((Fraction.binary m e).mul (.binary n f))

/-- The double nearest to a quotient. A number over zero is infinite; zero over zero and infinity
over infinity are not numbers. -/
def div : Double → Double → Double
  | .notANumber, _ => .notANumber
  | _, .notANumber => .notANumber
  | .infinite _, .infinite _ => .notANumber
  | .infinite s, .finite t _ _ _ => .infinite (s != t)
  | .finite s _ _ _, .infinite t => zero (s != t)
  | .finite s m e _, .finite t n f _ =>
    if h : 0 < (Fraction.binary n f).numerator then
      round (s != t) ((Fraction.binary m e).div (.binary n f) h)
    else if m = 0 then .notANumber else .infinite (s != t)

/-- Whether a double is at most zero. What is not a number is not. -/
def isAtMostZero : Double → Bool
  | .finite negative significand _ _ => negative || significand == 0
  | .infinite negative => negative
  | .notANumber => false

/-- Whether a double is infinite. -/
def isInfinite : Double → Bool
  | .infinite _ => true
  | _ => false

/-- The value of a double that is a whole number. -/
def toInt? : Double → Option Int
  | .finite negative significand exponent _ =>
    let value := Fraction.binary significand exponent
    if value.numerator % value.denominator = 0 then
      some (if negative then -(value.floor : Int) else value.floor)
    else none
  | _ => none

example : ofInt 3 = .finite false (3 * Nat.pow 2 51) (-51) (by decide) := by decide +kernel

example : (ofInt 1).div (ofInt 3) = .finite false 6004799503160661 (-54) (by decide) := by
  decide +kernel

end Double

end ViewportScaling.Numeric
