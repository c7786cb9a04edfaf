import ViewportScaling.Numeric.Fixed
import ViewportScaling.Numeric.Shortest

/-!
# Numbers of two kinds

Settings hold whole numbers of any size, which are exact, or doubles. The two kinds are told apart in
messages and in how an operation may fail; a ratio is always a double.
-/

namespace ViewportScaling.Numeric

/-- A whole number or a double. -/
inductive Number where
  /-- An exact integer. -/
  | whole (n : Int)
  /-- A double-precision number. -/
  | double (d : Double)
deriving DecidableEq, Repr

/-- Why an operation on numbers has no result. -/
inductive ArithmeticError where
  /-- The quotient of two integers lies beyond the largest double. -/
  | quotientOverflow
  /-- An integer that meets a double lies beyond the largest double. -/
  | integerOverflow
  /-- A number has too many digits for three decimal places. -/
  | fixedOverflow
deriving DecidableEq, Repr

namespace Number

/-- The double nearest to a number. -/
def toDouble : Number → Except ArithmeticError Double
  | .whole n =>
    let d := Double.ofInt n
    if d.isInfinite then .error .integerOverflow else .ok d
  | .double d => .ok d

/-- The ratio of two numbers. Two integers are divided exactly before rounding; an integer beside a
double is rounded first. -/
def ratio (a b : Number) : Except ArithmeticError Double :=
  match a, b with
  | .whole m, .whole n =>
    if h : 0 < n.natAbs then
      let quotient := Double.round (decide (m < 0) != decide (n < 0))
        ((Fraction.ofNat m.natAbs).div (.ofNat n.natAbs) h)
      if quotient.isInfinite then .error .quotientOverflow else .ok quotient
    else (Double.ofInt m).div (Double.ofInt n) |> .ok
  | _, _ => do return (← a.toDouble).div (← b.toDouble)

/-- Whether a number is at most zero. -/
def isAtMostZero : Number → Bool
  | .whole n => n ≤ 0
  | .double d => d.isAtMostZero

/-- The text of a number that reads back as the same number of the same kind. -/
def text : Number → String
  | .whole n => toString n
  | .double d => d.shortestText

/-- The text of a number in a stylesheet: a double that is a whole number is written as one. -/
def plainText : Number → String
  | .whole n => toString n
  | .double d => match d.toInt? with
    | some n => toString n
    | none => d.shortestText

/-- The text of a number with three decimal places. -/
def fixedText (number : Number) : Except ArithmeticError String :=
  let text := match number with
    | .whole n => fixedOfMagnitude (n < 0) (.ofNat n.natAbs)
    | .double d => d.fixedText
  text.mapError fun _ => .fixedOverflow

end Number

end ViewportScaling.Numeric
