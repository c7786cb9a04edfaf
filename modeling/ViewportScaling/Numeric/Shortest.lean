import ViewportScaling.Numeric.Double

/-!
# Shortest decimal texts

A double is written with the fewest digits that read back as the same double, and with the nearest of
those. A decimal reads back as a double if it lies between the midpoints to its two neighbours; the
midpoints themselves do so if the significand is even. The point is placed positionally for orders
of magnitude from -4 to 15, and a whole number written so keeps one zero behind the point.
-/

namespace ViewportScaling.Numeric

/-- A decimal number: `digits` times ten to the power `exponent`. -/
structure Decimal where
  /-- The digits, as a number. -/
  digits : Nat
  /-- The power of ten of the last digit. -/
  exponent : Int
deriving DecidableEq, Repr

/-- The exact value of a decimal. -/
def Decimal.value (d : Decimal) : Fraction := .decimal d.digits d.exponent

/-- The decimals between two bounds, which count only if they are included. -/
structure Span where
  /-- The lower bound. -/
  lower : Fraction
  /-- The upper bound. -/
  upper : Fraction
  /-- Whether the bounds count. -/
  closed : Bool

/-- Whether a fraction lies in the span. -/
def Span.holds (span : Span) (a : Fraction) : Bool :=
  if span.closed then span.lower ≤ a && a ≤ span.upper else span.lower < a && a < span.upper

/-- The span of the values that round to a positive double: up to the midpoints of the gaps on both
sides. The gap below a power of two is half as wide. -/
def roundingSpan (significand : Nat) (exponent : Int) : Span where
  lower :=
    if significand = Nat.pow 2 52 ∧ -1074 < exponent then .binary (4 * significand - 1) (exponent - 2)
    else .binary (2 * significand - 1) (exponent - 1)
  upper := .binary (2 * significand + 1) (exponent - 1)
  closed := significand % 2 == 0

/-- Of the two decimals around a value on the grid of a power of ten, the nearest that lies in a
span; a tie goes to the even digit. -/
def Decimal.around? (value : Fraction) (span : Span) (exponent : Int) : Option Decimal :=
  let below := (value.mul (.decimal 1 (-exponent))).floor
  let nearest := (value.mul (.decimal 1 (-exponent))).nearestEven
  let furthest := if nearest = below then below + 1 else below
  [nearest, furthest].findSome? fun digits =>
    let candidate : Decimal := ⟨digits, exponent⟩
    if span.holds candidate.value then some candidate else none

/-- The shortest decimal that rounds to a positive double. Seventeen digits always suffice. -/
def Decimal.shortest (significand : Nat) (exponent : Int) : Decimal :=
  let value := Fraction.binary significand exponent
  let order := value.decimalOrder
  let span := roundingSpan significand exponent
  ((List.range 17).findSome? fun (places : Nat) => around? value span (order - places)).getD
    ⟨(value.mul (.decimal 1 (16 - order))).nearestEven, order - 16⟩

/-- The text of a positive decimal, with the point where its order of magnitude puts it. -/
def Decimal.text (d : Decimal) : List Char :=
  let all := Nat.toDigits 10 d.digits
  let order := all.length - 1 + d.exponent
  let digits := (all.reverse.dropWhile (· == '0')).reverse
  if -4 ≤ order ∧ order < 0 then
    '0' :: '.' :: List.replicate (-order - 1).toNat '0' ++ digits
  else if 0 ≤ order ∧ order < 16 then
    let whole := order.toNat + 1
    let padded := digits ++ List.replicate (whole - digits.length) '0'
    let places := padded.drop whole
    padded.take whole ++ '.' :: (if places = [] then ['0'] else places)
  else
    let places := digits.drop 1
    let power := Nat.toDigits 10 order.natAbs
    digits.take 1 ++ (if places = [] then [] else '.' :: places) ++ 'e' ::
      (if order < 0 then '-' else '+') :: (List.replicate (2 - power.length) '0' ++ power)

/-- The shortest text that reads back as the double. -/
def Double.shortestText : Double → String
  | .finite negative significand exponent _ =>
    String.ofList ((if negative then ['-'] else []) ++
      if significand = 0 then ['0', '.', '0'] else (Decimal.shortest significand exponent).text)
  | .infinite negative => if negative then "-inf" else "inf"
  | .notANumber => "nan"

example : (Double.ofInt 600).shortestText = "600.0" := by decide +kernel

example : ((Double.ofInt 1).div (Double.ofInt 10)).shortestText = "0.1" := by decide +kernel

end ViewportScaling.Numeric
