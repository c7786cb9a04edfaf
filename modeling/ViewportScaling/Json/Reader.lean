import ViewportScaling.Entries
import ViewportScaling.Json.Value
import ViewportScaling.Numeric.Reading
import ViewportScaling.Text.Position

/-!
# Reading JSON texts

The text of a value is read from left to right, and the first thing that does not fit is reported with
its place. Besides the standard's values the words for infinity and for what is not a number are
numbers. An integer without point and exponent is exact; any other number is a double. A reader takes a
text and gives a value and the rest, which is shorter.
-/

namespace ViewportScaling.Json

open Numeric Text

/-- What is wrong with a JSON text. -/
inductive Problem where
  /-- The text starts with a byte order mark. -/
  | byteOrderMark
  /-- No value starts here. -/
  | noValue
  /-- Something follows the value. -/
  | extraData
  /-- No quoted name stands here. -/
  | noName
  /-- A name is not followed by a colon. -/
  | noColon
  /-- An item is followed neither by a comma nor by the end of its list. -/
  | noComma
  /-- A text has no closing quote. -/
  | unterminated
  /-- A control character stands in a text. -/
  | controlCharacter
  /-- A backslash is followed by no escape. -/
  | invalidEscape
  /-- An escape with a code lacks four hexadecimal digits. -/
  | invalidCode
deriving DecidableEq, Repr

/-- The words for a problem. -/
def Problem.text : Problem → String
  | .byteOrderMark => "Unexpected UTF-8 BOM (decode using utf-8-sig)"
  | .noValue => "Expecting value"
  | .extraData => "Extra data"
  | .noName => "Expecting property name enclosed in double quotes"
  | .noColon => "Expecting ':' delimiter"
  | .noComma => "Expecting ',' delimiter"
  | .unterminated => "Unterminated string starting at"
  | .controlCharacter => "Invalid control character at"
  | .invalidEscape => "Invalid \\escape"
  | .invalidCode => "Invalid \\uXXXX escape"

/-- A problem, placed by the number of characters from there to the end of the text. -/
structure Fault where
  /-- What is wrong. -/
  problem : Problem
  /-- The number of characters that are left. -/
  left : Nat
deriving DecidableEq, Repr

/-- The message about a fault in a text. -/
def Fault.message (source : List Char) (fault : Fault) : String :=
  let offset := source.length - fault.left
  let position := Position.ofOffset source offset
  fault.problem.text ++ ": line " ++ toString position.line ++ " column " ++
    toString position.column ++ " (char " ++ toString offset ++ ")"

/-- A text that is shorter than another. -/
abbrev Rest (input : List Char) := { rest : List Char // rest.length < input.length }

/-- Whether a character may stand between the parts of a value. -/
def isSpacing (c : Char) : Bool := c = ' ' || c = '\t' || c = '\n' || c = '\r'

/-- The text from its next character that is not spacing. -/
def skipSpacing (input : List Char) : List Char := input.dropWhile isSpacing

/-- Skipping spacing adds nothing. -/
theorem length_skipSpacing_le (input : List Char) :
    (skipSpacing input).length ≤ input.length :=
  (List.dropWhile_sublist _).length_le

/-- The value of a hexadecimal digit. -/
def hexValue? (c : Char) : Option Nat :=
  if '0' ≤ c && c ≤ '9' then some (c.toNat - '0'.toNat)
  else if 'a' ≤ c && c ≤ 'f' then some (c.toNat - 'a'.toNat + 10)
  else if 'A' ≤ c && c ≤ 'F' then some (c.toNat - 'A'.toNat + 10)
  else none

/-- The number that hexadecimal digits spell, if all are digits. -/
def hexNumber? (digits : List Char) : Option Nat :=
  digits.foldlM (fun n c => (n * 16 + ·) <$> hexValue? c) 0

/-- The character of an escape with one letter. -/
def escaped? : Char → Option Char
  | '"' => some '"'
  | '\\' => some '\\'
  | '/' => some '/'
  | 'b' => some '\x08'
  | 'f' => some '\x0c'
  | 'n' => some '\n'
  | 'r' => some '\r'
  | 't' => some '\t'
  | _ => none

/-- The code of an escape with four digits at the front of a text, if another character follows. -/
def code? (input : List Char) : Option Nat :=
  if 4 < input.length then hexNumber? (input.take 4) else none

/-- The code at the front of a text that holds the second half of a surrogate pair. -/
def lowSurrogate? : List Char → Option Nat
  | '\\' :: 'u' :: rest => (code? rest).filter fun code => 0xDC00 ≤ code && code < 0xE000
  | _ => none

/-- Behind an escaped code there is less left than at its backslash. -/
theorem length_drop_lt (rest : List Char) (n : Nat) :
    (rest.drop n).length < ('\\' :: 'u' :: rest).length := by
  rw [List.length_drop, List.length_cons, List.length_cons]
  omega

/-- Reads the rest of a text whose opening quote had `start` characters left. An escaped code that is one
half of a surrogate pair without the other is no character of a text here, and is read as U+FFFD. Where texts
may hold such halves, two names or classes that differ in them alone are different; here they come out the
same. -/
def readText (start : Nat) (input : List Char) : Except Fault (List Char × Rest input) :=
  match input with
  | [] => .error ⟨.unterminated, start⟩
  | '"' :: rest => .ok ([], ⟨rest, Nat.lt_succ_self _⟩)
  | '\\' :: [] => .error ⟨.unterminated, start⟩
  | '\\' :: 'u' :: rest =>
    match code? rest with
    | none => .error ⟨.invalidCode, rest.length + 1⟩
    | some code =>
      match if 0xD800 ≤ code && code < 0xDC00 then lowSurrogate? (rest.drop 4) else none with
      | some low => do
        let joined := 0x10000 + (code - 0xD800) * 0x400 + (low - 0xDC00)
        let (text, ⟨after, shorter⟩) ← readText start (rest.drop 10)
        return (Char.ofNat joined :: text, ⟨after, Nat.lt_trans shorter (length_drop_lt rest _)⟩)
      | none => do
        let c := if 0xD800 ≤ code && code < 0xE000 then '\uFFFD' else Char.ofNat code
        let (text, ⟨after, shorter⟩) ← readText start (rest.drop 4)
        return (c :: text, ⟨after, Nat.lt_trans shorter (length_drop_lt rest _)⟩)
  | '\\' :: letter :: rest =>
    match escaped? letter with
    | none => .error ⟨.invalidEscape, rest.length + 2⟩
    | some c => do
      let (text, ⟨after, shorter⟩) ← readText start rest
      return (c :: text, ⟨after, Nat.lt_succ_of_lt (Nat.lt_succ_of_lt shorter)⟩)
  | c :: rest =>
    if c.toNat < 0x20 then .error ⟨.controlCharacter, rest.length + 1⟩
    else do
      let (text, ⟨after, shorter⟩) ← readText start rest
      return (c :: text, ⟨after, Nat.lt_succ_of_lt shorter⟩)
termination_by input.length
decreasing_by
  · exact length_drop_lt _ _
  · exact length_drop_lt _ _
  · exact Nat.lt_succ_of_lt (Nat.lt_succ_self _)
  · exact Nat.lt_succ_self _

/-- Whether a character is one of the ten digits of ASCII. -/
def isAsciiDigit (c : Char) : Bool := '0' ≤ c && c ≤ '9'

/-- The number that digits of ASCII spell. -/
def spelled (digits : List Char) : Nat := ofDigits (digits.map fun c => c.toNat - '0'.toNat)

/-- Reads a number with digits; the number and how many characters it takes. -/
def number? (input : List Char) : Option (Number × Nat) :=
  let (negative, body) := match input with
    | '-' :: rest => (true, rest)
    | _ => (false, input)
  let whole := match body with
    | '0' :: _ => ['0']
    | _ => body.takeWhile isAsciiDigit
  if whole = [] then none
  else
    let behind := body.drop whole.length
    let places := match behind with
      | '.' :: rest => rest.takeWhile isAsciiDigit
      | _ => []
    let afterPlaces := if places = [] then behind else behind.drop (places.length + 1)
    let exponent : Option (Int × Nat) := match afterPlaces with
      | e :: rest =>
        let (below, digits) := signed rest
        let power := digits.takeWhile isAsciiDigit
        if (e = 'e' ∨ e = 'E') ∧ power ≠ [] then
          let size := 1 + (rest.length - digits.length) + power.length
          some (if below then -(spelled power : Int) else spelled power, size)
        else none
      | [] => none
    let size := (if negative then 1 else 0) + whole.length +
      (if places = [] then 0 else places.length + 1) + (exponent.map Prod.snd).getD 0
    if places = [] ∧ exponent = none then
      some (.whole (if negative then -(spelled whole : Int) else spelled whole), size)
    else
      let power := (exponent.map Prod.fst).getD 0
      some (.double (.ofDecimal negative (spelled (whole ++ places)) (power - places.length)), size)

/-- The words that are values. -/
def words : List (List Char × Value) :=
  [("null".toList, .null), ("true".toList, .flag true), ("false".toList, .flag false),
    ("NaN".toList, .number (.double .notANumber)),
    ("Infinity".toList, .number (.double (.infinite false))),
    ("-Infinity".toList, .number (.double (.infinite true)))]

/-- Reads a value that is neither a text nor a list nor a record. -/
def readScalar (input : List Char) : Except Fault (Value × Rest input) :=
  let scalar := match words.find? fun word => word.1.isPrefixOf input with
    | some (word, value) => some (value, word.length)
    | none => (number? input).map fun (n, size) => (.number n, size)
  match scalar with
  | none => .error ⟨.noValue, input.length⟩
  | some (value, size) =>
    if h : 0 < size ∧ 0 < input.length then
      .ok (value, ⟨input.drop size, by simp; omega⟩)
    else .error ⟨.noValue, input.length⟩

mutual

/-- Reads a value. -/
def readValue (input : List Char) : Except Fault (Value × Rest input) :=
  match input with
  | '"' :: rest => do
    let (text, ⟨after, shorter⟩) ← readText (rest.length + 1) rest
    return (.text (String.ofList text), ⟨after, by simp; omega⟩)
  | '[' :: rest => do
    match close : skipSpacing rest with
    | ']' :: after =>
      have := length_skipSpacing_le rest
      return (.list [], ⟨after, by simp [close] at this ⊢; omega⟩)
    | _ =>
      have := length_skipSpacing_le rest
      let (items, ⟨after, shorter⟩) ← readItems (skipSpacing rest)
      return (.list items, ⟨after, by simp; omega⟩)
  | '\x7b' :: rest => do
    match close : skipSpacing rest with
    | '\x7d' :: after =>
      have := length_skipSpacing_le rest
      return (.record [], ⟨after, by simp [close] at this ⊢; omega⟩)
    | _ =>
      have := length_skipSpacing_le rest
      let (entries, ⟨after, shorter⟩) ← readEntries (skipSpacing rest)
      return (.record (entriesOf entries), ⟨after, by simp; omega⟩)
  | other => readScalar other
termination_by (input.length, 0)
decreasing_by all_goals have := length_skipSpacing_le rest; rw [List.length_cons]; omega

/-- Reads the items of a list up to its closing bracket. -/
def readItems (input : List Char) : Except Fault (List Value × Rest input) := do
  let (value, ⟨rest, shorter⟩) ← readValue input
  have := length_skipSpacing_le rest
  match found : skipSpacing rest with
  | ']' :: after => return ([value], ⟨after, by simp [found] at this; omega⟩)
  | ',' :: more =>
    have := length_skipSpacing_le more
    let (values, ⟨after, _⟩) ← readItems (skipSpacing more)
    return (value :: values, ⟨after, by simp [found] at *; omega⟩)
  | other => .error ⟨.noComma, other.length⟩
termination_by (input.length, 1)
decreasing_by
  · omega
  · simp [found] at *; omega

/-- Reads the entries of a record up to its closing brace. -/
def readEntries (input : List Char) :
    Except Fault (List (String × Value) × Rest input) :=
  match input with
  | '"' :: rest => do
    let (name, ⟨named, _⟩) ← readText (rest.length + 1) rest
    have := length_skipSpacing_le named
    match colon : skipSpacing named with
    | ':' :: behind =>
      have := length_skipSpacing_le behind
      let (value, ⟨valued, _⟩) ← readValue (skipSpacing behind)
      have := length_skipSpacing_le valued
      match found : skipSpacing valued with
      | '\x7d' :: after =>
        return ([(String.ofList name, value)], ⟨after, by simp [colon, found] at *; omega⟩)
      | ',' :: more =>
        have := length_skipSpacing_le more
        let (entries, ⟨after, _⟩) ← readEntries (skipSpacing more)
        return ((String.ofList name, value) :: entries,
          ⟨after, by simp [colon, found] at *; omega⟩)
      | other => .error ⟨.noComma, other.length⟩
    | other => .error ⟨.noColon, other.length⟩
  | other => .error ⟨.noName, other.length⟩
termination_by (input.length, 1)
decreasing_by
  · simp [colon] at *; omega
  · simp [colon, found] at *; omega

end

/-- Reads a whole text that is one value. -/
def readAll (source : List Char) : Except Fault Value :=
  if source.head? = some '\uFEFF' then .error ⟨.byteOrderMark, source.length⟩
  else do
    let (value, ⟨rest, _⟩) ← readValue (skipSpacing source)
    match skipSpacing rest with
    | [] => return value
    | other => .error ⟨.extraData, other.length⟩

end ViewportScaling.Json
