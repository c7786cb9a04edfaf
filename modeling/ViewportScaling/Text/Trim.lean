import ViewportScaling.Unicode.Blank

/-!
# Trimming

Blank characters are cut off at both ends of a text and kept inside it.
-/

namespace ViewportScaling.Text

open Unicode

/-- The text from its first character that is not blank. -/
def trimStart (text : List Char) : List Char := text.dropWhile isBlank

/-- The text up to its last character that is not blank. -/
def trimEnd (text : List Char) : List Char := (text.reverse.dropWhile isBlank).reverse

/-- The text without the blank characters at its ends. -/
def trim (text : List Char) : List Char := trimEnd (trimStart text)

/-- A text that does not start with a blank stays as it is. -/
theorem trimStart_of_head {text : List Char} (h : ∀ c ∈ text.head?, isBlank c = false) :
    trimStart text = text := by
  cases text with
  | nil => rfl
  | cons c rest =>
    have : isBlank c = false := h c (by simp)
    simp [trimStart, this]

/-- A text that does not end with a blank stays as it is. -/
theorem trimEnd_of_getLast {text : List Char} (h : ∀ c ∈ text.getLast?, isBlank c = false) :
    trimEnd text = text := by
  have head : ∀ c ∈ text.reverse.head?, isBlank c = false := by
    simpa [List.head?_reverse] using h
  have := trimStart_of_head head
  unfold trimStart at this
  simp [trimEnd, this]

/-- A text that neither starts nor ends with a blank is its own trimming. -/
theorem trim_of_ends {text : List Char} (head : ∀ c ∈ text.head?, isBlank c = false)
    (last : ∀ c ∈ text.getLast?, isBlank c = false) : trim text = text := by
  rw [trim, trimStart_of_head head, trimEnd_of_getLast last]

end ViewportScaling.Text
