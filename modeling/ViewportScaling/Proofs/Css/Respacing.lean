import Mathlib.Logic.Relation
import ViewportScaling.Proofs.Css.Settling

/-!
# Texts that differ in their spacing

Runs of blanks may be made longer or shorter, and a comment beside a run of blanks may be dropped, and the other
pieces of a text are cut as before: a run of blanks is still there, and neither a string nor a comment that was
open in front of it is closed behind it. So texts that differ in nothing else are cleaned to the same text. A
comment between two runs of blanks is the exception: both of them are kept, and the cleaned text is in no normal
form.
-/

namespace ViewportScaling.Css

open Unicode Text

/-! ### Other pieces behind a place -/

/-- Some pieces may stand for others: they close no string and no comment that those leave open. -/
structure StandsFor (new old : List Piece) : Prop where
  /-- They start with a blank if they are any. -/
  starts : ∀ c ∈ (new.flatMap Piece.text).head?, isBlank c = true
  /-- They close no string that the others leave open. -/
  strings : ∀ (quote : Quote) (escaped : Bool), behindString? quote.mark escaped (old.flatMap Piece.text) = none →
    behindString? quote.mark escaped (new.flatMap Piece.text) = none
  /-- They close no comment that the others leave open. -/
  comments : ∀ text, commentEnd? (text ++ old.flatMap Piece.text) = none →
    commentEnd? (text ++ new.flatMap Piece.text) = none

/-- A text with a whole run of blanks in front starts with a blank. -/
theorem Piece.IsWhole.starts {blanks : List Char} (run : (Piece.blanks blanks).IsWhole) (rest : List Char) :
    ∀ c ∈ (blanks ++ rest).head?, isBlank c = true := by
  intro c head
  cases run with
  | blanks all =>
    cases head
    exact all c List.mem_cons_self

namespace StandsFor

/-- One run of blanks stands for another. -/
theorem run {left right : List Char} (old : (Piece.blanks left).IsWhole) (new : (Piece.blanks right).IsWhole)
    (found : List Piece) : StandsFor (.blanks right :: found) (.blanks left :: found) := by
  refine ⟨new.starts _, fun quote escaped none => ?_, fun text none => ?_⟩
  · exact (behindString?_blanks new escaped _).trans ((behindString?_blanks old escaped _).symm.trans none)
  · cases old with
    | blanks all =>
      cases new with
      | blanks all' =>
        exact (commentEnd?_blanks (List.cons_ne_nil _ _) all' _ _).2
          ((commentEnd?_blanks (List.cons_ne_nil _ _) all _ _).1 none)

variable {blanks comment : List Char} {found : List Piece}

/-- A run of blanks stands for itself with a comment in front. -/
theorem before (run : (Piece.blanks blanks).IsWhole) (whole : (Piece.comment comment).IsWhole) :
    StandsFor (.blanks blanks :: found) (.comment comment :: .blanks blanks :: found) := by
  have complete := whole.complete
  refine ⟨run.starts _, fun quote escaped none => ?_, fun text none => ?_⟩
  · rw [List.flatMap_cons, List.flatMap_cons] at none
    obtain ⟨-, behind⟩ := behindString?_of_append none
    exact (behindString?_blanks run escaped _).trans ((behindString?_blanks run _ _).symm.trans behind)
  · exact absurd none (commentEnd?_comment complete _ _)

/-- A run of blanks stands for itself with a comment behind. -/
theorem behind (run : (Piece.blanks blanks).IsWhole) (whole : (Piece.comment comment).IsWhole) :
    StandsFor (.blanks blanks :: found) (.blanks blanks :: .comment comment :: found) := by
  have complete := whole.complete
  refine ⟨run.starts _, fun quote escaped none => ?_, fun text none => ?_⟩
  · have none := (behindString?_blanks run escaped _).symm.trans none
    obtain ⟨-, behind⟩ := behindString?_of_append none
    obtain ⟨-, front, whole⟩ := exists_of_comment? complete
    rw [Piece.text, whole, endsEscaped_concat (by decide)] at behind
    exact (behindString?_blanks run escaped _).trans behind
  · rw [List.flatMap_cons, List.flatMap_cons, ← List.append_assoc] at none
    exact absurd none (commentEnd?_comment complete _ _)

/-- Nothing stands for anything. -/
theorem nothing (old : List Piece) : StandsFor [] old := by
  refine ⟨fun c head => ?_, fun quote escaped none => ?_, fun text none => ?_⟩
  · cases head
  · cases escaped <;> rfl
  · rw [List.flatMap_nil, List.append_nil, commentEnd?_eq_none_iff]
    rw [commentEnd?_eq_none_iff] at none
    exact fun inside => none (inside.trans (List.prefix_append _ _).isInfix)

end StandsFor

/-- A character opens no comment in front of pieces that stand for others in front of which it opened none. -/
theorem StandsFor.comment?_eq_none {new old : List Piece} (stands : StandsFor new old) {c : Char}
    {text : List Char} (none : comment? (c :: (text ++ old.flatMap Piece.text)) = .none) :
    comment? (c :: (text ++ new.flatMap Piece.text)) = .none := by
  by_cases opens : ['/', '*'] <+: c :: text
  · obtain ⟨rest, same⟩ := opens
    cases same
    exact comment?_eq_none_iff.2 (stands.comments rest (comment?_eq_none_iff.1 none))
  · refine comment?_of_not_prefix ?_
    rintro ⟨rest, same⟩
    obtain ⟨rfl, behind⟩ := List.cons.inj same
    cases text with
    | nil =>
      -- The star would be a blank.
      have blank := stands.starts '*' (by rw [← List.nil_append (List.flatMap _ new), ← behind]; rfl)
      cases blank
    | cons d text =>
      obtain ⟨rfl, -⟩ := List.cons.inj behind
      exact opens (List.prefix_append ['/', '*'] text)

namespace IsCutting

variable {front back : List Piece}

/-- Behind a place, pieces may stand for others if there are no blanks in front of it. -/
theorem replace {new old : List Piece} (cut : IsCutting (front ++ old)) (behind : IsCutting new)
    (stands : StandsFor new old) (apart : ∀ piece ∈ front.getLast?, piece.isBlanks = false) :
    IsCutting (front ++ new) := by
  induction front with
  | nil => exact behind
  | cons piece front ih =>
    rw [List.cons_append, isCutting_cons_iff] at cut ⊢
    obtain ⟨leads, others⟩ := cut
    refine ⟨?_, ih others fun last mem => apart last ?_⟩
    · rw [List.flatMap_append] at leads ⊢
      cases leads with
      | quoted closed => exact .quoted closed _
      | comment complete => exact .comment complete _
      | blanks all stop =>
        refine .blanks all ?_
        cases front with
        | nil => cases apart _ rfl
        | cons second front =>
          have some : (second :: front).flatMap Piece.text ≠ [] := by
            rw [List.flatMap_cons]
            exact List.append_ne_nil_of_left_ne_nil (others.isWhole second List.mem_cons_self).text_ne_nil _
          rw [List.head?_append_of_ne_nil _ some] at stop ⊢
          exact stop
      | mark none =>
        obtain ⟨early, late⟩ := behindString?_of_append none
        exact .mark (by rw [behindString?_append_of_none early, stands.strings _ _ late])
      | plain noQuote solid noComment =>
        exact .plain noQuote solid (stands.comment?_eq_none noComment)
    · rw [List.getLast?_cons, mem]
      rfl

/-- There is no run of blanks in front of another. -/
theorem apart {blanks : List Char} (cut : IsCutting (front ++ .blanks blanks :: back)) :
    ∀ piece ∈ front.getLast?, piece.isBlanks = false := by
  intro piece mem
  obtain ⟨others, rfl⟩ := List.getLast?_eq_some_iff.1 mem
  cases piece with
  | blanks inner =>
    rw [List.append_assoc] at cut
    exact absurd cut not_blanks
  | _ => rfl

end IsCutting

/-! ### Differences in spacing -/

/-- What the pieces of a text may be replaced by without a difference to the cleaned text. -/
inductive Respaced : List Piece → List Piece → Prop
  /-- A run of blanks may be any other. -/
  | run (front back : List Piece) {left right : List Char} (new : (Piece.blanks right).IsWhole) :
      Respaced (front ++ .blanks left :: back) (front ++ .blanks right :: back)
  /-- A comment in front of a run of blanks may be dropped if there are no blanks in front of it. -/
  | before (front back : List Piece) {comment blanks : List Char}
      (apart : ∀ piece ∈ front.getLast?, piece.isBlanks = false) :
      Respaced (front ++ .comment comment :: .blanks blanks :: back) (front ++ .blanks blanks :: back)
  /-- A comment behind a run of blanks may be dropped if there are no blanks behind it. -/
  | behind (front back : List Piece) {comment blanks : List Char}
      (apart : ∀ piece ∈ back.head?, piece.isBlanks = false) :
      Respaced (front ++ .blanks blanks :: .comment comment :: back) (front ++ .blanks blanks :: back)
  /-- Blanks at the start may be dropped. -/
  | first (back : List Piece) {blanks : List Char} : Respaced (.blanks blanks :: back) back
  /-- Blanks at the end may be dropped. -/
  | last (front : List Piece) {blanks : List Char} : Respaced (front ++ [.blanks blanks]) front

namespace Respaced

variable {old new : List Piece}

/-- The other pieces of the text are cut as before. -/
theorem isCutting (respaced : Respaced old new) (cut : IsCutting old) : IsCutting new := by
  have whole := cut.isWhole
  cases respaced with
  | @run front back left right new =>
    have old := whole (.blanks left) (by simp)
    obtain ⟨leads, onward⟩ := isCutting_cons_iff.1 cut.of_append
    exact cut.replace (.blanks new onward leads.stops) (.run old new back) cut.apart
  | @before front back comment blanks apart =>
    have run := whole (.blanks blanks) (by simp)
    have whole := whole (.comment comment) (by simp)
    exact cut.replace (isCutting_cons_iff.1 cut.of_append).2 (.before run whole) apart
  | @behind front back comment blanks apart =>
    have run := whole (.blanks blanks) (by simp)
    have whole := whole (.comment comment) (by simp)
    obtain ⟨-, onward⟩ := isCutting_cons_iff.1 cut.of_append
    have onward := (isCutting_cons_iff.1 onward).2
    have stop := isBlank_of_head? onward.isWhole apart
    exact cut.replace (.blanks run onward stop) (.behind run whole) cut.apart
  | first back => exact (isCutting_cons_iff.1 cut).2
  | last front =>
    have rest := cut.replace isCutting_nil (.nothing _) cut.apart
    rwa [List.append_nil] at rest

/-- Pieces that may replace each other are cleaned to the same text. -/
theorem trim_eq (respaced : Respaced old new) :
    trim (new.flatMap Piece.spaced) = trim (old.flatMap Piece.spaced) := by
  cases respaced with
  | run | before | behind => simp [Piece.spaced]
  | first => exact (trim_blanks_append (by decide : ∀ c ∈ [' '], isBlank c = true) _).symm
  | last front =>
    rw [List.flatMap_append]
    exact (trim_append_blanks (by decide : ∀ c ∈ [' '], isBlank c = true) _).symm

end Respaced

/-- A text is another one but for one difference in spacing. -/
def DiffersInSpacing (text text' : List Char) : Prop :=
  ∃ found, Respaced (pieces text) found ∧ text' = found.flatMap Piece.text

/-- Texts that differ in spacing only are cleaned to the same text. -/
theorem DiffersInSpacing.clean_eq {text text' : List Char} (differs : DiffersInSpacing text text') :
    clean text' = clean text := by
  obtain ⟨found, respaced, rfl⟩ := differs
  rw [clean, respaced.isCutting (isCutting_pieces text), respaced.trim_eq, clean]

/-- Texts that differ in nothing but their spacing are cleaned to the same text. -/
theorem clean_eq_of_eqvGen {text text' : List Char} (alike : Relation.EqvGen DiffersInSpacing text text') :
    clean text' = clean text := by
  induction alike with
  | rel text text' differs => exact differs.clean_eq
  | refl text => rfl
  | symm text text' _ ih => exact ih.symm
  | trans text middle text' _ _ early late => exact late.trans early

/-! ### What cleaning makes of a text -/

/-- What cleaning makes of a text. -/
structure IsCleaned (text cleaned : List Char) : Prop where
  /-- It is cleaned to itself exactly if it is in normal form. -/
  fixed : clean cleaned = cleaned ↔ IsNormal cleaned
  /-- It is in normal form if comments stand neither between two runs of blanks nor between a slash and a star. -/
  apart : (∀ left right, ¬Around (pieces text) (.blanks left) (.blanks right)) →
    ¬Around (pieces text) (.plain '/') (.plain '*') → IsNormal cleaned
  /-- It is in normal form if the pieces that are kept are settled. -/
  settled : IsSettled (core text) → IsNormal cleaned
  /-- If no quote is open, then it is in normal form only if they are. -/
  paired : (∀ quote : Quote, .plain quote.mark ∉ core text) → IsNormal cleaned → IsSettled (core text)
  /-- All texts that differ in nothing but their spacing are cleaned to it. -/
  alike : ∀ other, Relation.EqvGen DiffersInSpacing text other → clean other = cleaned

/-- Every text is cleaned to a normal form unless comments parted what then comes to stand side by side. -/
theorem isCleaned_clean (text : List Char) : IsCleaned text (clean text) where
  fixed := clean_eq_self_iff
  apart blanks marks := isNormal_clean_of_isSettled (isSettled_core blanks marks)
  settled := isNormal_clean_of_isSettled
  paired := isSettled_of_isNormal_clean
  alike _ := clean_eq_of_eqvGen

/-- A comment in front of blanks is dropped and the blanks are made a single space. -/
theorem isCleaned_clean_tab : Relation.EqvGen DiffersInSpacing "a b".toList "a/**/ \tb".toList ∧
    clean "a/**/ \tb".toList = "a b".toList ∧ IsNormal "a b".toList := by
  have single : pieces "a b".toList = [.plain 'a'] ++ .blanks [' '] :: [.plain 'b'] := by decide +kernel
  have commented : pieces "a/**/ \tb".toList =
      [.plain 'a'] ++ .comment "/**/".toList :: .blanks [' ', '\t'] :: [.plain 'b'] := by decide +kernel
  have run : (Piece.blanks [' ', '\t']).IsWhole := .blanks (by decide)
  have first : DiffersInSpacing "a b".toList "a \tb".toList := ⟨_, by rw [single]; exact .run _ _ run, rfl⟩
  have second : DiffersInSpacing "a/**/ \tb".toList "a \tb".toList :=
    ⟨_, by rw [commented]; exact .before _ _ (by simp [Piece.isBlanks]), rfl⟩
  have alike := Relation.EqvGen.trans _ _ _ (.rel _ _ first) (.symm _ _ (.rel _ _ second))
  have itself : clean "a b".toList = "a b".toList := by decide +kernel
  have cleaned := isCleaned_clean "a b".toList
  refine ⟨alike, (cleaned.alike _ alike).trans itself, ?_⟩
  rw [itself] at cleaned
  exact cleaned.fixed.1 itself

/-- Of a run of blanks that a comment parts two spaces are left, and a slash and a star that a comment parts open
another one. -/
theorem not_isNormal_clean :
    (clean "a /**/ b".toList = "a  b".toList ∧ ¬IsNormal "a  b".toList ∧ clean "a  b".toList = "a b".toList ∧
      Stylesheet.read "a /**/ b \x7b\x7d" = .ok [.rule "a  b" []] ∧
      Stylesheet.read "a b \x7b\x7d" = .ok [.rule "a b" []]) ∧
    clean "//**/* c */a".toList = "/* c */a".toList ∧ ¬IsNormal "/* c */a".toList ∧
      clean "/* c */a".toList = "a".toList := by
  have changes : clean "a  b".toList = "a b".toList ∧ clean "/* c */a".toList = "a".toList := by decide +kernel
  refine ⟨⟨by decide +kernel, fun normal => ?_, changes.1, by decide +kernel, by decide +kernel⟩,
    by decide +kernel, fun normal => ?_, changes.2⟩
  · have same := clean_eq_self_iff.2 normal
    rw [changes.1] at same
    exact absurd same (by decide)
  · have same := clean_eq_self_iff.2 normal
    rw [changes.2] at same
    exact absurd same (by decide)

end ViewportScaling.Css
