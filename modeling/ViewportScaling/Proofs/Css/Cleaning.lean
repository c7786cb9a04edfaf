import Mathlib.Data.List.Forall2
import ViewportScaling.Css.Reader
import ViewportScaling.Proofs.Text.Characters

/-!
# Texts behind their cleaning

Reading a token looks for comments in its text and, in a declaration, splits off a mark of importance.
Both are turned around here: a text without comments is spelled by its pieces, and a text has a mark of
importance exactly if it is the rest followed by an exclamation mark and the word, with blanks where
they may stand.
-/

namespace ViewportScaling.Css

open Unicode Text

/-! ### Pieces -/

/-- Whether a piece is a comment. -/
def Piece.isComment : Piece → Bool
  | .comment _ => true
  | _ => false

/-- There is a piece in every text but the empty one. -/
theorem Piece.next?_eq_none {input : List Char} (none : next? input = none) : input = [] := by
  unfold next? at none
  split at none
  · cases none
  · split at none
    · cases none
    · split at none
      · rfl
      · split at none <;> cases none

/-- A run of blanks holds nothing else. -/
theorem isBlank_of_mem_pieces {text blanks : List Char} (mem : Piece.blanks blanks ∈ pieces text) :
    ∀ c ∈ blanks, isBlank c = true := by
  fun_induction pieces text with
  | case1 => cases mem
  | case2 input piece rest found ih =>
    rcases List.mem_cons.1 mem with same | mem
    · unfold Piece.next? at found
      split at found
      · cases found
        cases same
      · split at found
        · cases found
          cases same
        · split at found
          · cases found
          · split at found
            · rename_i first
              cases found
              cases same
              exact List.forall_mem_cons.2 ⟨first, fun c mem => List.mem_takeWhile_imp mem⟩
            · cases found
              cases same
    · exact ih mem

/-- The comment marks stand nowhere in a text. -/
def NoComment (text : List Char) : Prop := ¬['/', '*'] <:+: text

/-- In a part of a text there are no more comment marks than in the text. -/
theorem NoComment.of_infix {text part : List Char} (plain : NoComment text) (inside : part <:+: text) :
    NoComment part :=
  fun found => plain (found.trans inside)

/-- A comment starts with the comment mark. -/
theorem comment?_of_not_prefix {text : List Char} (plain : ¬['/', '*'] <+: text) :
    comment? text = none := by
  unfold comment?
  split
  · exact absurd ⟨_, rfl⟩ plain
  · rfl

/-- A text without comment marks has no comments. -/
theorem comment?_of_noComment {text : List Char} (plain : NoComment text) : comment? text = none :=
  comment?_of_not_prefix fun starts => plain starts.isInfix

/-- A text without comment marks has no comments among its pieces. -/
theorem NoComment.pieces {text : List Char} (plain : NoComment text) :
    ∀ piece ∈ Css.pieces text, piece.isComment = false := by
  fun_induction Css.pieces text with
  | case1 => simp
  | case2 input piece rest found ih =>
    have whole := (Piece.append_of_next? found).1
    have rest_infix : rest <:+: input := ⟨piece.text, [], by rw [List.append_nil, whole]⟩
    refine List.forall_mem_cons.2 ⟨?_, ih (plain.of_infix rest_infix)⟩
    unfold Piece.next? at found
    rw [comment?_of_noComment plain] at found
    split at found
    · cases found
      rfl
    · simp only at found
      split at found
      · cases found
      · split at found <;> cases found <;> rfl

/-- Where there are no comments, the pieces that are kept spell the text. -/
theorem flatMap_uncommented {text : List Char}
    (plain : ∀ piece ∈ pieces text, piece.isComment = false) :
    (pieces text).flatMap Piece.uncommented = text := by
  have same : ∀ piece ∈ pieces text, piece.uncommented = piece.text := by
    intro piece mem
    have := plain piece mem
    cases piece <;> first | rfl | cases this
  rw [List.flatMap_congr same, flatMap_pieces]

/-- Where there is no comment to drop, a text is only trimmed. -/
theorem uncommented_eq_trim {text : List Char}
    (plain : ∀ piece ∈ pieces text, piece.isComment = false) : uncommented text = trim text := by
  rw [uncommented, flatMap_uncommented plain]

/-! ### The mark of importance -/

/-- Whether a text is the word of the mark of importance, in any case. -/
def IsMarkWord (word : List Char) : Prop :=
  List.Forall₂ (fun letter c => isLetter letter c = true) "important".toList word

/-- Each character of the word is one of its letters, in some case. -/
theorem IsMarkWord.exists_letter {word : List Char} (matched : IsMarkWord word) {c : Char}
    (mem : c ∈ word) : ∃ letter ∈ "important".toList, isLetter letter c = true := by
  have each : ∀ {letters word : List Char}, List.Forall₂ (fun letter c => isLetter letter c = true)
      letters word → c ∈ word → ∃ letter ∈ letters, isLetter letter c = true := by
    intro letters word matched mem
    induction matched with
    | nil => cases mem
    | cons first others ih =>
      rcases List.mem_cons.1 mem with rfl | mem
      · exact ⟨_, List.mem_cons_self, first⟩
      · obtain ⟨letter, among, same⟩ := ih mem
        exact ⟨letter, List.mem_cons_of_mem _ among, same⟩
  exact each matched mem

/-- The rest stands behind a word that has the letters in some case. -/
theorem afterWord?_eq_some_iff {letters text rest : List Char} :
    afterWord? letters text = some rest ↔ ∃ word, text = word ++ rest ∧
      List.Forall₂ (fun letter c => isLetter letter c = true) letters word := by
  induction letters generalizing text with
  | nil =>
    rw [afterWord?, Option.some.injEq]
    constructor
    · rintro rfl
      exact ⟨[], rfl, .nil⟩
    · rintro ⟨word, rfl, same⟩
      cases same
      rfl
  | cons letter letters ih =>
    cases text with
    | nil =>
      simp only [afterWord?]
      constructor
      · nofun
      · rintro ⟨word, same, matched⟩
        cases matched
        cases same
    | cons c text =>
      simp only [afterWord?]
      split
      · rename_i matched
        rw [ih]
        constructor
        · rintro ⟨word, rfl, others⟩
          exact ⟨c :: word, rfl, .cons matched others⟩
        · rintro ⟨word, same, others⟩
          cases others with
          | cons first others =>
            rw [List.cons_append, List.cons.injEq] at same
            exact ⟨_, same.2, others⟩
      · rename_i different
        constructor
        · nofun
        · rintro ⟨word, same, others⟩
          cases others with
          | cons first others =>
            rw [List.cons_append, List.cons.injEq] at same
            exact absurd (same.1 ▸ first) different

/-- A value is split at a mark of importance exactly if it ends in one. -/
theorem splitImportance_eq_true_iff {value rest : List Char} :
    splitImportance value = (rest, true) ↔ ∃ front blanks word,
      value = front ++ '!' :: blanks ++ word ∧ (∀ c ∈ blanks, isBlank c = true) ∧
        IsMarkWord word ∧ rest = trim front := by
  have solid : isBlank '!' = false := by decide
  unfold splitImportance
  constructor
  · intro split
    split at split
    · simp at split
    · rename_i before found
      obtain ⟨word, whole, matched⟩ := afterWord?_eq_some_iff.1 found
      have blanks : before.takeWhile isBlank ++ before.dropWhile isBlank = before :=
        List.takeWhile_append_dropWhile
      split at split
      · rename_i marked marks
        rw [marks] at blanks
        rw [Prod.mk.injEq] at split
        refine ⟨marked.reverse, (before.takeWhile isBlank).reverse, word.reverse, ?_, ?_, ?_,
          split.1.symm⟩
        · rw [← List.reverse_inj, whole]
          conv_lhs => rw [← blanks]
          simp
        · intro c mem
          rw [List.mem_reverse] at mem
          exact List.mem_takeWhile_imp mem
        · unfold IsMarkWord
          rwa [← List.forall₂_reverse_iff, List.reverse_reverse]
      · simp at split
  · rintro ⟨front, blanks, word, rfl, all, matched, rfl⟩
    have found : afterWord? "important".toList.reverse (front ++ '!' :: blanks ++ word).reverse =
        some (blanks.reverse ++ '!' :: front.reverse) := by
      refine afterWord?_eq_some_iff.2 ⟨word.reverse, by simp, List.forall₂_reverse_iff.2 matched⟩
    have reversed : ∀ c ∈ blanks.reverse, isBlank c = true := by simpa using all
    rw [found]
    simp only
    rw [dropWhile_blanks_append reversed, List.dropWhile_cons_of_neg (by simp [solid])]
    simp

/-- A value without a mark of importance stays as it is. -/
theorem splitImportance_eq_false {value rest : List Char}
    (split : splitImportance value = (rest, false)) : rest = value := by
  unfold splitImportance at split
  split at split
  · exact (congrArg Prod.fst split).symm
  · split at split
    · simp at split
    · exact (congrArg Prod.fst split).symm

/-! ### Declarations -/

/-- The first character of a kind splits a text. -/
theorem split_of_dropWhile {mark first : Char} {text behind : List Char}
    (found : text.dropWhile (!· = mark) = first :: behind) :
    text = text.takeWhile (!· = mark) ++ mark :: behind ∧ mark ∉ text.takeWhile (!· = mark) := by
  have whole : text.takeWhile (!· = mark) ++ text.dropWhile (!· = mark) = text :=
    List.takeWhile_append_dropWhile
  have stop := List.head?_dropWhile_not (fun c : Char => !c = mark) text
  rw [found] at whole stop
  have same : first = mark := by simpa using stop
  rw [same] at whole
  refine ⟨whole.symm, fun mem => ?_⟩
  simpa using List.mem_takeWhile_imp mem

/-- The parts of a declaration: the text of its token is the property, a colon and what stands behind it,
with blanks around each, and that is the value with or without a mark of importance. -/
theorem Declaration.of_ofToken {token : Token} {declaration : Declaration}
    (plain : ∀ piece ∈ pieces token.text, piece.isComment = false)
    (found : ofToken token = .ok declaration) :
    ∃ before behind, trim token.text = before ++ ':' :: behind ∧ ':' ∉ before ∧
      declaration.property.toList = trim before ∧ trim before ≠ [] ∧
      splitImportance (trim behind) = (declaration.value.toList, declaration.important) := by
  unfold ofToken at found
  rw [uncommented_eq_trim plain] at found
  simp only at found
  split at found
  · cases found
  · rename_i first behind rest
    obtain ⟨whole, absent⟩ := split_of_dropWhile rest
    split at found
    · cases found
    · rename_i named
      cases found
      exact ⟨_, behind, whole, absent, by simp, named, by simp⟩

end ViewportScaling.Css
