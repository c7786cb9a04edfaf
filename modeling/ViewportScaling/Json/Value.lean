import ViewportScaling.Numeric.Number
import ViewportScaling.Text.Quotation

/-!
# Values of options

Options are given as values of any kind, from a JSON text or by a caller, and only some kinds are valid
for each option. A value can be shown in a message.
-/

namespace ViewportScaling.Json

open Numeric Text

/-- A value of any kind. -/
inductive Value where
  /-- The absent value. -/
  | null
  /-- A truth value. -/
  | flag (b : Bool)
  /-- A number. -/
  | number (n : Number)
  /-- A text. -/
  | text (s : String)
  /-- A list of values. -/
  | list (items : List Value)
  /-- Values with names. -/
  | record (entries : List (String × Value))

mutual

/-- The value as messages show it. -/
def Value.description : Value → String
  | .null => "None"
  | .flag b => if b then "True" else "False"
  | .number n => n.text
  | .text s => quotation s
  | .list items => "[" ++ ", ".intercalate (Value.descriptions items) ++ "]"
  | .record entries => "\x7b" ++ ", ".intercalate (Value.entryDescriptions entries) ++ "\x7d"

/-- The values of a list as messages show them. -/
def Value.descriptions : List Value → List String
  | [] => []
  | value :: values => value.description :: Value.descriptions values

/-- The entries of a record as messages show them. -/
def Value.entryDescriptions : List (String × Value) → List String
  | [] => []
  | (name, value) :: entries =>
    (quotation name ++ ": " ++ value.description) :: Value.entryDescriptions entries

end

end ViewportScaling.Json
