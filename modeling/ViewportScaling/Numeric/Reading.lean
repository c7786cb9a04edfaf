import ViewportScaling.Numeric.Double
import ViewportScaling.Unicode.Blank
import ViewportScaling.Unicode.Digit

/-!
# Reading decimal numerals

A numeral is an optional sign, digits with at most one point among them and an optional exponent, or
one of the words for infinity and for what is not a number, in either case. A low line may separate
two digits. Blanks around it are ignored, and digits of every script count. The number read is the
double nearest to the exact value.
-/

namespace ViewportScaling.Numeric

open Unicode

/-- The natural number that a list of digit values spells. -/
def ofDigits (digits : List Nat) : Nat := digits.foldl (fun n digit => 10 * n + digit) 0

/-- The double nearest to digits times a power of ten. An order of magnitude far outside the range of
doubles gives zero or infinity without the power being computed. -/
def Double.ofDecimal (negative : Bool) (digits : Nat) (exponent : Int) : Double :=
  let order := (Nat.toDigits 10 digits).length + exponent
  if digits = 0 ∨ order < -330 then zero negative
  else if 330 < order then .infinite negative
  else round negative (.decimal digits exponent)

/-- Reads a run of decimal digits, with single low lines between digits; the values of the digits and
the rest. -/
def digitRun (text : List Char) : List Nat × List Char :=
  match text with
  | [] => ([], [])
  | c :: rest =>
    match digitValue? c with
    | none => ([], c :: rest)
    | some value =>
      let (values, after) := continued rest
      (value :: values, after)
where
  /-- The part of the run behind its first digit. -/
  continued : List Char → List Nat × List Char
    | [] => ([], [])
    | '_' :: c :: rest =>
      match digitValue? c with
      | none => ([], '_' :: c :: rest)
      | some value =>
        let (values, after) := continued rest
        (value :: values, after)
    | c :: rest =>
      match digitValue? c with
      | none => ([], c :: rest)
      | some value =>
        let (values, after) := continued rest
        (value :: values, after)

/-- Splits a sign off a text; whether it is a minus, and the rest. -/
def signed : List Char → Bool × List Char
  | '-' :: rest => (true, rest)
  | '+' :: rest => (false, rest)
  | text => (false, text)

/-- Reads an exponent part that takes up the whole text; an empty text counts as exponent zero. -/
def exponentPart? : List Char → Option Int
  | [] => some 0
  | e :: rest =>
    if e = 'e' ∨ e = 'E' then
      let (negative, digits) := signed rest
      match digitRun digits with
      | ([], _) => none
      | (values, []) => some (if negative then -(ofDigits values : Int) else ofDigits values)
      | _ => none
    else none

/-- Reads an unsigned numeral with digits. -/
def unsigned? (negative : Bool) (text : List Char) : Option Double := do
  let (whole, afterWhole) := digitRun text
  let (places, afterPlaces) :=
    match afterWhole with
    | '.' :: rest => digitRun rest
    | _ => ([], afterWhole)
  if whole = [] ∧ places = [] then none
  else
    let exponent ← exponentPart? afterPlaces
    some (.ofDecimal negative (ofDigits (whole ++ places)) (exponent - places.length))

/-- The lower-case form of an ASCII letter; every other character is kept. -/
def lowerAscii (c : Char) : Char := if 'A' ≤ c ∧ c ≤ 'Z' then Char.ofNat (c.toNat + 32) else c

/-- Whether a character is cut off at the ends of a numeral: the blanks, except for the four separators
among the control characters. -/
def blankAround (c : Char) : Bool :=
  isBlank c && !('\x1c' ≤ c && c ≤ '\x1f')

/-- Reads a numeral. -/
def Double.read? (text : String) : Option Double :=
  let start := text.toList.dropWhile blankAround
  let trimmed := (start.reverse.dropWhile blankAround).reverse
  let (negative, body) := signed trimmed
  let word := String.ofList (body.map lowerAscii)
  if word = "inf" ∨ word = "infinity" then some (.infinite negative)
  else if word = "nan" then some .notANumber
  else unsigned? negative body

end ViewportScaling.Numeric
