import Mathlib.Data.List.DropRight
import ViewportScaling.Proofs.Css.Pieces

/-!
# Normal forms of texts

A text is in normal form if outside its strings it has no comment, and no blanks but single spaces between other
characters. These are the texts that cleaning leaves as they are. A cleaned text is what is kept of the pieces of
the text, without the blanks at its ends, and it is in normal form if no two runs of blanks came to stand side by
side there and no slash came to stand in front of a star and opens a comment with it. Quotes that were open may
be closed by what moved up to them, but only as far as a quote that was open, too.
-/

namespace ViewportScaling.Css

open Unicode Text

/-! ### Normal forms -/

/-- Whether a piece is a run of blanks. -/
def Piece.isBlanks : Piece → Bool
  | .blanks _ => true
  | _ => false

/-- Whether a piece may occur in a normal form. -/
def Piece.IsNormal : Piece → Prop
  | .comment _ => False
  | .blanks text => text = [' ']
  | _ => True

/-- A text without comments and without blanks but single spaces between other characters, all this outside of
strings. -/
structure IsNormal (text : List Char) : Prop where
  /-- There is no comment, and runs of blanks are single spaces. -/
  pieces : ∀ piece ∈ Css.pieces text, piece.IsNormal
  /-- There is no blank at the start. -/
  head : ∀ c ∈ text.head?, isBlank c = false
  /-- There is no blank at the end. -/
  last : ∀ c ∈ text.getLast?, isBlank c = false

namespace Piece

/-- A piece of a normal form is kept as it is. -/
theorem spaced_of_isNormal {piece : Piece} (normal : piece.IsNormal) : piece.spaced = piece.text := by
  cases piece with
  | comment text => exact normal.elim
  | blanks text => exact Eq.symm normal
  | quoted text => rfl
  | plain c => rfl

/-- A piece that cleaning leaves as it is may occur in a normal form. -/
theorem IsWhole.isNormal {piece : Piece} (whole : piece.IsWhole) (same : piece.spaced = piece.text) :
    piece.IsNormal := by
  cases whole with
  | quoted => exact trivial
  | comment complete =>
    have : _ = [] := Eq.symm same
    rw [text] at this
    rw [this] at complete
    cases complete
  | blanks all => exact Eq.symm same
  | plain => exact trivial

/-- Cleaning makes no piece longer. -/
theorem IsWhole.length_spaced_le {piece : Piece} (whole : piece.IsWhole) :
    piece.spaced.length ≤ piece.text.length := by
  cases whole with
  | quoted => exact Nat.le_refl _
  | comment => exact Nat.zero_le _
  | blanks all => exact Nat.succ_le_succ (Nat.zero_le _)
  | plain => exact Nat.le_refl _

end Piece

/-- Runs of blanks get no longer when they become single spaces. -/
theorem length_flatMap_spaced_le {found : List Piece} (whole : ∀ piece ∈ found, piece.IsWhole) :
    (found.flatMap Piece.spaced).length ≤ (found.flatMap Piece.text).length := by
  induction found with
  | nil => exact Nat.le_refl _
  | cons piece found ih =>
    obtain ⟨first, others⟩ := List.forall_mem_cons.1 whole
    rw [List.flatMap_cons, List.flatMap_cons, List.length_append, List.length_append]
    exact Nat.add_le_add first.length_spaced_le (ih others)

/-- What cleaning leaves as it is, it leaves as it is piece by piece. -/
theorem isNormal_of_flatMap_spaced {found : List Piece} (whole : ∀ piece ∈ found, piece.IsWhole)
    (same : found.flatMap Piece.spaced = found.flatMap Piece.text) : ∀ piece ∈ found, piece.IsNormal := by
  induction found with
  | nil => exact List.forall_mem_nil _
  | cons piece found ih =>
    obtain ⟨first, others⟩ := List.forall_mem_cons.1 whole
    rw [List.flatMap_cons, List.flatMap_cons] at same
    have length : piece.spaced.length = piece.text.length := by
      have total := congrArg List.length same
      rw [List.length_append, List.length_append] at total
      have := first.length_spaced_le
      have := length_flatMap_spaced_le others
      omega
    obtain ⟨here, behind⟩ := List.append_inj same length
    exact List.forall_mem_cons.2 ⟨first.isNormal here, ih others behind⟩

/-- A trimmed text starts with no blank. -/
theorem isBlank_of_head?_trim (text : List Char) : ∀ c ∈ (trim text).head?, isBlank c = false := by
  intro c mem
  cases start : trimStart text with
  | nil =>
    rw [trim, start] at mem
    cases mem
  | cons d rest =>
    have solid := List.head?_dropWhile_not isBlank text
    rw [← trimStart, start] at solid
    have solid : isBlank d = false := by simpa using solid
    rw [trim, start, ← List.nil_append (d :: rest), trimEnd_append_cons [] solid] at mem
    cases mem
    exact solid

/-- The texts in normal form are those that cleaning leaves as they are. -/
theorem clean_eq_self_iff {text : List Char} : clean text = text ↔ IsNormal text := by
  have whole := (isCutting_pieces text).isWhole
  constructor
  · intro same
    have le := length_flatMap_spaced_le whole
    rw [flatMap_pieces] at le
    -- Nothing is cut off, since nothing is longer than the text.
    obtain ⟨front, back, -, -, parts⟩ := exists_trim ((pieces text).flatMap Piece.spaced)
    rw [← clean, same] at parts
    have length := congrArg List.length parts
    rw [List.length_append, List.length_append] at length
    obtain rfl : front = [] := List.length_eq_zero_iff.1 (by omega)
    obtain rfl : back = [] := List.length_eq_zero_iff.1 (by omega)
    rw [List.nil_append, List.append_nil] at parts
    refine ⟨isNormal_of_flatMap_spaced whole (by rw [parts, flatMap_pieces]), ?_, ?_⟩
    · have head := isBlank_of_head?_trim ((pieces text).flatMap Piece.spaced)
      rwa [← clean, same] at head
    · have last := isBlank_of_getLast?_trimEnd (trimStart ((pieces text).flatMap Piece.spaced))
      rwa [← trim, ← clean, same] at last
  · intro normal
    have same : (pieces text).flatMap Piece.spaced = text := by
      rw [List.flatMap_congr fun piece mem => Piece.spaced_of_isNormal (normal.pieces piece mem),
        flatMap_pieces]
    rw [clean, same, trim_of_ends normal.head normal.last]

/-! ### What is kept -/

/-- What cleaning keeps of a piece. -/
def Piece.kept? : Piece → Option Piece
  | .comment _ => none
  | .blanks _ => some (.blanks [' '])
  | piece => some piece

/-- The pieces that cleaning keeps, with single spaces for runs of blanks. -/
def kept (found : List Piece) : List Piece := found.filterMap Piece.kept?

/-- The pieces that cleaning keeps of a text, from the first to the last that is no run of blanks. -/
def core (text : List Char) : List Piece :=
  ((kept (pieces text)).dropWhile Piece.isBlanks).rdropWhile Piece.isBlanks

/-- The kept pieces make up the text in which runs of blanks count as single spaces. -/
theorem flatMap_kept (found : List Piece) :
    (kept found).flatMap Piece.text = found.flatMap Piece.spaced := by
  induction found with
  | nil => rfl
  | cons piece found ih =>
    rw [List.flatMap_cons, ← ih]
    cases piece <;> rfl

/-- A piece that is kept of a whole piece is whole and may occur in a normal form. -/
theorem isWhole_of_mem_kept {found : List Piece} (whole : ∀ piece ∈ found, piece.IsWhole) {piece : Piece}
    (mem : piece ∈ kept found) : piece.IsWhole ∧ piece.IsNormal := by
  obtain ⟨before, among, same⟩ := List.mem_filterMap.1 mem
  have here := whole before among
  cases before with
  | comment text => cases same
  | blanks text =>
    cases same
    exact ⟨.blanks (by decide), rfl⟩
  | quoted text =>
    cases same
    exact ⟨here, trivial⟩
  | plain c =>
    cases same
    exact ⟨here, trivial⟩

/-- Around the core there are only runs of blanks. -/
theorem exists_core (text : List Char) : ∃ front back, kept (pieces text) = front ++ core text ++ back ∧
    (∀ piece ∈ front, piece.isBlanks = true) ∧ ∀ piece ∈ back, piece.isBlanks = true := by
  refine ⟨(kept (pieces text)).takeWhile Piece.isBlanks,
    ((kept (pieces text)).dropWhile Piece.isBlanks).rtakeWhile Piece.isBlanks, ?_, ?_, ?_⟩
  · rw [core, List.append_assoc, List.rdropWhile_append_rtakeWhile, List.takeWhile_append_dropWhile]
  · exact fun piece mem => List.mem_takeWhile_imp mem
  · exact fun piece mem => List.mem_rtakeWhile_imp mem

/-- A piece that is no run of blanks starts with no blank. -/
theorem Piece.IsWhole.exists_head {piece : Piece} (whole : piece.IsWhole)
    (solid : piece.isBlanks = false) : ∃ c tail, piece.text = c :: tail ∧ isBlank c = false := by
  cases whole with
  | @quoted quote body closed => exact ⟨_, _, rfl, by cases quote <;> decide⟩
  | comment complete =>
    obtain ⟨⟨tail, rfl⟩, -⟩ := exists_of_comment? complete
    exact ⟨_, _, rfl, by decide⟩
  | blanks all => cases solid
  | plain first => exact ⟨_, _, rfl, first⟩

/-- A piece that is no run of blanks ends with no blank. -/
theorem Piece.IsWhole.exists_last {piece : Piece} (whole : piece.IsWhole)
    (solid : piece.isBlanks = false) : ∃ front c, piece.text = front ++ [c] ∧ isBlank c = false := by
  cases whole with
  | @quoted quote body closed =>
    obtain ⟨front, rfl⟩ := List.getLast?_eq_some_iff.1 (getLast?_of_behindString? closed)
    exact ⟨quote.mark :: front, quote.mark, rfl, by cases quote <;> decide⟩
  | comment complete =>
    obtain ⟨-, front, rfl⟩ := exists_of_comment? complete
    exact ⟨front, _, rfl, by decide⟩
  | blanks all => cases solid
  | plain first => exact ⟨[], _, rfl, first⟩

/-- A text whose first piece is no run of blanks starts with no blank. -/
theorem isBlank_of_head? {found : List Piece} (whole : ∀ piece ∈ found, piece.IsWhole)
    (solid : ∀ piece ∈ found.head?, piece.isBlanks = false) :
    ∀ c ∈ (found.flatMap Piece.text).head?, isBlank c = false := by
  intro c mem
  cases found with
  | nil => cases mem
  | cons piece others =>
    obtain ⟨d, tail, first, solid⟩ := (whole piece List.mem_cons_self).exists_head (solid piece rfl)
    rw [List.flatMap_cons, first] at mem
    cases mem
    exact solid

/-- Runs of blanks hold blanks only. -/
theorem isBlank_of_mem_blanks {found : List Piece} (whole : ∀ piece ∈ found, piece.IsWhole)
    (blanks : ∀ piece ∈ found, piece.isBlanks = true) : ∀ c ∈ found.flatMap Piece.text, isBlank c = true := by
  intro c mem
  obtain ⟨piece, among, inside⟩ := List.mem_flatMap.1 mem
  have kind := blanks piece among
  cases whole piece among with
  | blanks all => exact all c inside
  | _ => cases kind

/-- What cleaning keeps are whole pieces of normal forms. -/
theorem isWhole_of_mem_core {text : List Char} {piece : Piece} (mem : piece ∈ core text) :
    piece.IsWhole ∧ piece.IsNormal := by
  obtain ⟨front, back, parts, -, -⟩ := exists_core text
  refine isWhole_of_mem_kept (isCutting_pieces text).isWhole ?_
  rw [parts]
  simp [mem]

/-- The core neither starts nor ends with a run of blanks. -/
theorem isBlanks_of_core_ends (text : List Char) : (∀ piece ∈ (core text).head?, piece.isBlanks = false) ∧
    ∀ piece ∈ (core text).getLast?, piece.isBlanks = false := by
  constructor
  · intro piece mem
    have starts := List.head?_dropWhile_not Piece.isBlanks (kept (pieces text))
    obtain ⟨behind, parts⟩ : core text <+: (kept (pieces text)).dropWhile Piece.isBlanks :=
      List.rdropWhile_prefix Piece.isBlanks _
    obtain ⟨others, same⟩ := List.head?_eq_some_iff.1 mem
    rw [← parts, same] at starts
    simpa using starts
  · intro piece mem
    obtain ⟨others, same⟩ := List.getLast?_eq_some_iff.1 mem
    have nonempty : core text ≠ [] := by simp [same]
    have ends : ¬((core text).getLast nonempty).isBlanks := List.rdropWhile_last_not Piece.isBlanks _ nonempty
    have last : (core text).getLast nonempty = piece := by simp [same]
    rw [last] at ends
    simpa using ends

/-- The text of the core neither starts nor ends with a blank. -/
theorem isBlank_of_core_ends (text : List Char) :
    (∀ c ∈ ((core text).flatMap Piece.text).head?, isBlank c = false) ∧
      ∀ c ∈ ((core text).flatMap Piece.text).getLast?, isBlank c = false := by
  obtain ⟨starts, ends⟩ := isBlanks_of_core_ends text
  refine ⟨isBlank_of_head? (fun piece mem => (isWhole_of_mem_core mem).1) starts, ?_⟩
  · intro c mem
    cases parts : (core text).getLast? with
    | none =>
      rw [List.getLast?_eq_none_iff.1 parts] at mem
      cases mem
    | some piece =>
      obtain ⟨others, same⟩ := List.getLast?_eq_some_iff.1 parts
      have whole := (isWhole_of_mem_core (List.mem_of_getLast? parts)).1
      obtain ⟨front, d, last, solid⟩ := whole.exists_last (ends piece parts)
      rw [same, List.flatMap_append, List.flatMap_singleton, last, ← List.append_assoc,
        List.getLast?_concat] at mem
      cases mem
      exact solid

/-- A cleaned text is made of the core. -/
theorem clean_eq (text : List Char) : clean text = (core text).flatMap Piece.text := by
  have whole : ∀ piece ∈ kept (pieces text), piece.IsWhole :=
    fun piece mem => (isWhole_of_mem_kept (isCutting_pieces text).isWhole mem).1
  obtain ⟨front, back, parts, left, right⟩ := exists_core text
  obtain ⟨starts, ends⟩ := isBlank_of_core_ends text
  rw [clean, ← flatMap_kept, parts, List.flatMap_append, List.flatMap_append]
  rw [parts] at whole
  have blanks : ∀ {found : List Piece}, found ⊆ front ++ core text ++ back →
      (∀ piece ∈ found, piece.isBlanks = true) → ∀ c ∈ found.flatMap Piece.text, isBlank c = true :=
    fun inside => isBlank_of_mem_blanks fun piece mem => whole piece (inside mem)
  rw [trim_blanks (blanks (by simp) left) (blanks (by simp) right), trim_of_ends starts ends]

end ViewportScaling.Css
