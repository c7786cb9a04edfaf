import Mathlib.Data.List.Basic
import Mathlib.Data.List.TakeWhile
import ViewportScaling.Text.Trim

/-!
# Characters of texts

Trimming is turned around here: a text is its trimming with blanks around it. There are finitely many
characters, so whether something holds of all characters of a text could be decided by trying every
character there is; here it is decided by going through the text.
-/

namespace ViewportScaling.Text

open Unicode

/-! ### Members of a text -/

/-- What is asked of all characters of a text is decided by going through the text. -/
instance decidableForallMem {p : Char → Prop} [DecidablePred p] (text : List Char) :
    Decidable (∀ c ∈ text, p c) :=
  List.decidableBAll p text

/-- What is asked of some character of a text is decided by going through the text. -/
instance decidableExistsMem {p : Char → Prop} [DecidablePred p] (text : List Char) :
    Decidable (∃ c ∈ text, p c) :=
  List.decidableBEx p text

/-- What is asked of the character at an end of a text is decided by looking at it. -/
instance decidableForallEnd {p : Char → Prop} [DecidablePred p] (last : Option Char) :
    Decidable (∀ c ∈ last, p c) :=
  match last with
  | none => isTrue nofun
  | some c => decidable_of_iff (p c) (by simp)

/-! ### Trimming -/

/-- Blanks in front are dropped together with those that follow. -/
theorem dropWhile_blanks_append {blanks : List Char} (all : ∀ c ∈ blanks, isBlank c = true)
    (text : List Char) : (blanks ++ text).dropWhile isBlank = text.dropWhile isBlank := by
  induction blanks with
  | nil => rfl
  | cons c rest ih =>
    obtain ⟨first, others⟩ := List.forall_mem_cons.1 all
    rw [List.cons_append, List.dropWhile_cons_of_pos first, ih others]

theorem trimStart_blanks_append {blanks : List Char} (all : ∀ c ∈ blanks, isBlank c = true)
    (text : List Char) : trimStart (blanks ++ text) = trimStart text :=
  dropWhile_blanks_append all text

theorem trimEnd_append_blanks {blanks : List Char} (all : ∀ c ∈ blanks, isBlank c = true)
    (text : List Char) : trimEnd (text ++ blanks) = trimEnd text := by
  have reversed : ∀ c ∈ blanks.reverse, isBlank c = true := by simpa using all
  rw [trimEnd, List.reverse_append, dropWhile_blanks_append reversed, trimEnd]

/-- Behind a character that is not blank, a text is trimmed on its own. -/
theorem trimEnd_append_cons (front : List Char) {c : Char} (solid : isBlank c = false)
    (rest : List Char) : trimEnd (front ++ c :: rest) = front ++ c :: trimEnd rest := by
  have stop : ∀ text : List Char, (c :: text).dropWhile isBlank = c :: text := by
    intro text
    rw [List.dropWhile_cons_of_neg (by simp [solid])]
  rw [trimEnd, trimEnd, List.reverse_append, List.reverse_cons, List.append_assoc,
    List.dropWhile_append, List.singleton_append, stop]
  split
  · rename_i none
    simp [List.isEmpty_iff.1 none]
  · simp

/-- A text that starts with no blank is left as it is in front. -/
theorem trimStart_cons {c : Char} (solid : isBlank c = false) (rest : List Char) :
    trimStart (c :: rest) = c :: rest :=
  List.dropWhile_cons_of_neg (by simp [solid])

/-- A text that starts with a character that is not blank is trimmed at its end alone. -/
theorem trim_cons {c : Char} (solid : isBlank c = false) (rest : List Char) :
    trim (c :: rest) = c :: trimEnd rest := by
  rw [trim, trimStart_cons solid]
  exact trimEnd_append_cons [] solid rest

/-- A text is its trimming at the end with blanks behind it. -/
theorem exists_trimEnd (text : List Char) : ∃ back, (∀ c ∈ back, isBlank c = true) ∧
    text = trimEnd text ++ back := by
  have back := List.takeWhile_append_dropWhile (p := isBlank) (l := text.reverse)
  refine ⟨(text.reverse.takeWhile isBlank).reverse, fun c mem => ?_, ?_⟩
  · rw [List.mem_reverse] at mem
    exact List.mem_takeWhile_imp mem
  · have ends := congrArg List.reverse back
    rw [List.reverse_append, List.reverse_reverse] at ends
    exact ends.symm

/-- A text is its trimming with blanks at both ends. -/
theorem exists_trim (text : List Char) : ∃ front back, (∀ c ∈ front, isBlank c = true) ∧
    (∀ c ∈ back, isBlank c = true) ∧ text = front ++ trim text ++ back := by
  have front : text.takeWhile isBlank ++ trimStart text = text := List.takeWhile_append_dropWhile
  obtain ⟨back, blank, whole⟩ := exists_trimEnd (trimStart text)
  refine ⟨text.takeWhile isBlank, back, fun c mem => List.mem_takeWhile_imp mem, blank, ?_⟩
  rw [trim, List.append_assoc, ← whole, front]

/-- Of blanks trimming leaves nothing. -/
theorem trimEnd_blanks {blanks : List Char} (all : ∀ c ∈ blanks, isBlank c = true) :
    trimEnd blanks = [] :=
  trimEnd_append_blanks all []

/-- Blanks around a text do not matter to its trimming. -/
theorem trim_blanks {front back : List Char} (left : ∀ c ∈ front, isBlank c = true)
    (right : ∀ c ∈ back, isBlank c = true) (text : List Char) :
    trim (front ++ text ++ back) = trim text := by
  rw [List.append_assoc, trim, trimStart_blanks_append left, trim]
  unfold trimStart
  rw [List.dropWhile_append]
  split
  · rename_i none
    rw [List.isEmpty_iff.1 none,
      trimEnd_blanks fun c mem => right c ((List.dropWhile_sublist _).subset mem)]
    rfl
  · exact trimEnd_append_blanks right _

/-- Blanks in front make no difference to a trimmed text. -/
theorem trim_blanks_append {front : List Char} (left : ∀ c ∈ front, isBlank c = true)
    (text : List Char) : trim (front ++ text) = trim text := by
  rw [trim, trimStart_blanks_append left, trim]

theorem trim_append_blanks {back : List Char} (right : ∀ c ∈ back, isBlank c = true)
    (text : List Char) : trim (text ++ back) = trim text :=
  trim_blanks (List.forall_mem_nil _) right text

/-- A trimmed text is trimmed already. -/
theorem trim_trim (text : List Char) : trim (trim text) = trim text := by
  obtain ⟨front, back, left, right, whole⟩ := exists_trim text
  have := trim_blanks left right (trim text)
  rw [← whole] at this
  exact this.symm

end ViewportScaling.Text
