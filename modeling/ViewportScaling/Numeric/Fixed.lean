import ViewportScaling.Numeric.Double

/-!
# Three decimal places

Scaled lengths are written with exactly three decimal places, from the exact value of the number: the
nearest thousandth, a half away from zero. A number that rounds to zero keeps its sign. The digits
written are limited to twenty-eight, so large numbers have no such text.
-/

namespace ViewportScaling.Numeric

/-- The number of digits that a text of three places may have. -/
def fixedDigits : Nat := 28

/-- A number was too large for a text of three places. -/
structure FixedOverflow where
deriving DecidableEq, Repr

/-- The text of a whole number of thousandths, with a sign. -/
def thousandthsText (negative : Bool) (thousandths : Nat) : String :=
  let places := Nat.toDigits 10 (thousandths % 1000)
  String.ofList ((if negative then ['-'] else []) ++ Nat.toDigits 10 (thousandths / 1000) ++ '.' ::
    (List.replicate (3 - places.length) '0' ++ places))

/-- The text with three places of a number given by sign and magnitude. -/
def fixedOfMagnitude (negative : Bool) (magnitude : Fraction) : Except FixedOverflow String :=
  let thousandths := (magnitude.mul (.ofNat 1000)).nearestUp
  if thousandths < Nat.pow 10 fixedDigits then .ok (thousandthsText negative thousandths)
  else .error {}

/-- The text of a double with three places. -/
def Double.fixedText : Double → Except FixedOverflow String
  | .finite negative significand exponent _ =>
    fixedOfMagnitude negative (.binary significand exponent)
  | .infinite _ => .error {}
  | .notANumber => .ok "NaN"

end ViewportScaling.Numeric
