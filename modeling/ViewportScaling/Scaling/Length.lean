import ViewportScaling.Numeric.Number
import ViewportScaling.Numeric.Reading

/-!
# Lengths in pixels

A length is a number in front of `px`: digits, or digits with a point among or before them, ending in
a digit. It must be complete: no digit or point stands before it. A value is scaled by multiplying each
of its lengths by a ratio and writing the products with three decimal places; all other text is kept.
-/

namespace ViewportScaling.Scaling

open Unicode Numeric

/-- Whether a text starts with the unit. -/
def startsWithUnit : List Char → Bool
  | 'p' :: 'x' :: _ => true
  | _ => false

/-- Whether some digit stands directly before the unit. -/
def hasLength : List Char → Bool
  | [] => false
  | c :: rest => isDigit c && startsWithUnit rest || hasLength rest

/-- Splits a number that is directly before the unit off the front of a text. -/
def number? (text : List Char) : Option (List Char × List Char) :=
  let whole := text.takeWhile isDigit
  match text.dropWhile isDigit with
  | '.' :: behind =>
    let places := behind.takeWhile isDigit
    let rest := behind.dropWhile isDigit
    if places ≠ [] ∧ startsWithUnit rest then some (whole ++ '.' :: places, rest) else none
  | rest => if whole ≠ [] ∧ startsWithUnit rest then some (whole, rest) else none

/-- A number is not empty and stands at the front of the text, with its unit left behind. -/
theorem append_of_number? {text number rest : List Char} (h : number? text = some (number, rest)) :
    number ++ rest = text ∧ number ≠ [] := by
  have whole : text.takeWhile isDigit ++ text.dropWhile isDigit = text :=
    List.takeWhile_append_dropWhile
  unfold number? at h
  split at h
  · rename_i behind point
    have places : behind.takeWhile isDigit ++ behind.dropWhile isDigit = behind :=
      List.takeWhile_append_dropWhile
    simp only at h
    split at h
    · cases h
      rw [point] at whole
      simp [places, whole]
    · simp at h
  · simp only at h
    split at h
    · rename_i complete
      cases h
      exact ⟨whole, complete.1⟩
    · simp at h

/-- A part of a value: a number with the unit behind it, or any other character. -/
inductive Part where
  /-- A number directly before the unit. -/
  | number (digits : List Char)
  /-- Any other character. -/
  | other (c : Char)
deriving DecidableEq, Repr

/-- Whether a number may start behind a character. -/
def allowsNumber (before : Option Char) : Bool := before.all fun c => !(isDigit c || c = '.')

/-- The parts of a text that stands behind a given character. -/
def partsBehind (before : Option Char) (text : List Char) : List Part :=
  match _found : if allowsNumber before then number? text else none with
  | some (digits, rest) => .number digits :: partsBehind digits.getLast? rest
  | none =>
    match text with
    | [] => []
    | c :: rest => .other c :: partsBehind (some c) rest
termination_by text.length
decreasing_by
  · have taken : number? text = some (digits, rest) := by
      split at _found
      · exact _found
      · simp at _found
    obtain ⟨whole, nonempty⟩ := append_of_number? taken
    have := List.length_pos_iff.2 nonempty
    rw [← whole]
    simp
    omega
  · simp

/-- The parts of a value. -/
def parts (value : List Char) : List Part := partsBehind none value

/-- The product of a number in a value and a ratio, with three decimal places. -/
def scaleNumber (ratio : Number) (digits : List Char) : Except ArithmeticError String := do
  let number := (Double.read? (String.ofList digits)).getD .notANumber
  (Number.double (number.mul (← ratio.toDouble))).fixedText

/-- A part with its number, if it is one, scaled. -/
def Part.scale (ratio : Number) : Part → Except ArithmeticError (List Char)
  | .number digits => String.toList <$> scaleNumber ratio digits
  | .other c => .ok [c]

/-- The value with every length scaled. -/
def scaleValue (ratio : Number) (value : String) : Except ArithmeticError String := do
  let scaled ← (parts value.toList).mapM (Part.scale ratio)
  return String.ofList scaled.flatten

end ViewportScaling.Scaling
