import ViewportScaling.Css.Segment
import ViewportScaling.Text.Trim

/-!
# Cleaning the text of tokens

Comments inside a token are dropped, but not inside quoted strings, and in selectors and preludes a run
of blanks counts as one space. Here a quoted string may hold line ends, and an address is ordinary
text.
-/

namespace ViewportScaling.Css

open Unicode Text

/-- A part of the text of a token. -/
inductive Piece where
  /-- A quoted string with its quotes. -/
  | quoted (text : List Char)
  /-- A comment with its marks. -/
  | comment (text : List Char)
  /-- A run of blanks. -/
  | blanks (text : List Char)
  /-- Any other character. -/
  | plain (c : Char)
deriving DecidableEq, Repr

/-- The text of a piece. -/
def Piece.text : Piece → List Char
  | .quoted text => text
  | .comment text => text
  | .blanks text => text
  | .plain c => [c]

/-- Splits one piece off a text. -/
def Piece.next? (input : List Char) : Option (Piece × List Char) :=
  match quoted? true input with
  | some (text, rest) => some (.quoted text, rest)
  | none =>
    match comment? input with
    | some (text, rest) => some (.comment text, rest)
    | none =>
      match input with
      | [] => none
      | c :: rest =>
        if isBlank c then
          some (.blanks (c :: rest.takeWhile isBlank), rest.dropWhile isBlank)
        else some (.plain c, rest)

/-- A piece and the rest make up the text, and the piece is not empty. -/
theorem Piece.append_of_next? {input rest : List Char} {piece : Piece}
    (h : next? input = some (piece, rest)) : piece.text ++ rest = input ∧ piece.text ≠ [] := by
  unfold next? at h
  split at h
  · rename_i found
    cases h
    exact ⟨append_of_quoted? found, ne_nil_of_quoted? found⟩
  · split at h
    · rename_i found
      cases h
      refine ⟨append_of_comment? found, ?_⟩
      intro empty
      have shorter := length_lt_of_comment? found
      have whole := append_of_comment? found
      simp only [text] at empty
      rw [empty] at whole
      simp [← whole] at shorter
    · split at h
      · simp at h
      · split at h
        · cases h
          simp [text]
        · cases h
          simp [text]

/-- A piece takes at least one character. -/
theorem Piece.length_lt_of_next? {input rest : List Char} {piece : Piece}
    (h : next? input = some (piece, rest)) : rest.length < input.length := by
  obtain ⟨whole, nonempty⟩ := append_of_next? h
  have := List.length_pos_iff.2 nonempty
  rw [← whole]
  simp
  omega

/-- The pieces of a text. -/
def pieces (input : List Char) : List Piece :=
  match _found : Piece.next? input with
  | none => []
  | some (piece, rest) => piece :: pieces rest
termination_by input.length
decreasing_by exact Piece.length_lt_of_next? ‹_›

/-- What is kept of a piece where blanks are kept. -/
def Piece.uncommented : Piece → List Char
  | .comment _ => []
  | piece => piece.text

/-- What is kept of a piece where a run of blanks counts as one space. -/
def Piece.spaced : Piece → List Char
  | .comment _ => []
  | .blanks _ => [' ']
  | piece => piece.text

/-- The text without its comments and without blanks at the ends. -/
def uncommented (text : List Char) : List Char := trim ((pieces text).flatMap Piece.uncommented)

/-- The text without its comments, with single spaces, and without blanks at the ends. -/
def clean (text : List Char) : List Char := trim ((pieces text).flatMap Piece.spaced)

/-- The pieces of a text spell the text. -/
theorem flatMap_pieces (input : List Char) : (pieces input).flatMap Piece.text = input := by
  fun_induction pieces input with
  | case1 input none =>
    unfold Piece.next? at none
    split at none
    · simp at none
    · split at none
      · simp at none
      · split at none
        · rfl
        · split at none <;> simp at none
  | case2 input piece rest found ih =>
    rw [List.flatMap_cons, ih]
    exact (Piece.append_of_next? found).1

end ViewportScaling.Css
