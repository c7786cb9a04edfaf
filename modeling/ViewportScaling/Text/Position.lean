/-!
# Positions in a text

A position is a line and a column, both from one and counted in characters. Only a line feed ends a
line.
-/

namespace ViewportScaling.Text

/-- A place in a text. -/
structure Position where
  /-- The line, from one. -/
  line : Nat := 1
  /-- The column within the line, from one. -/
  column : Nat := 1
deriving DecidableEq, Repr

namespace Position

/-- The place after one more character. -/
def advance (position : Position) (c : Char) : Position :=
  if c = '\n' then ⟨position.line + 1, 1⟩ else { position with column := position.column + 1 }

/-- The place just after a text. -/
def after (text : List Char) : Position := text.foldl advance {}

/-- The place of the character with the given number of characters before it. -/
def ofOffset (text : List Char) (offset : Nat) : Position := after (text.take offset)

/-- The place after a text moves on with each character behind it. -/
theorem after_append_singleton (text : List Char) (c : Char) :
    after (text ++ [c]) = (after text).advance c := by
  simp [after]

end Position

end ViewportScaling.Text
