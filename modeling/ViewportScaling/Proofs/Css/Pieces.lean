import ViewportScaling.Proofs.Css.CommentedTokens

/-!
# Pieces and what follows them

Whether a text starts with a piece depends on the piece and, but for strings and comments, on what follows it: a
run of blanks goes on as long as there are blanks, and a single quote or the mark of a comment is a character as
any other if what it opens is not closed. Whether a string is closed is read off what follows with one bit of
memory, whether the place is behind a backslash, and that is forgotten at the next character that is neither a
backslash nor the quote.
-/

namespace ViewportScaling.Css

open Unicode Text

/-! ### Where strings are closed -/

/-- What stands behind the end of a string, for a text that is read inside of one. The text may be read behind a
backslash, which takes its first character with it. -/
def behindString? (mark : Char) : Bool → List Char → Option (List Char)
  | _, [] => none
  | true, _ :: rest => behindString? mark false rest
  | false, c :: rest => if c = mark then some rest else behindString? mark (c = '\\') rest

/-- Whether what follows a text that is read inside of a string is read behind a backslash. -/
def endsEscaped : Bool → List Char → Bool
  | escaped, [] => escaped
  | true, _ :: rest => endsEscaped false rest
  | false, c :: rest => endsEscaped (c = '\\') rest

section

variable {mark : Char} {escaped : Bool} {front back text rest : List Char}

/-- A string that is closed stays closed whatever is put behind. -/
theorem behindString?_append_of_some (found : behindString? mark escaped front = some rest) (back : List Char) :
    behindString? mark escaped (front ++ back) = some (rest ++ back) := by
  fun_induction behindString? mark escaped front with
  | case1 => cases found
  | case2 c front ih => exact ih found
  | case3 front =>
    cases found
    rw [List.cons_append, behindString?, if_pos rfl]
  | case4 c front other ih => rw [List.cons_append, behindString?, if_neg other, ih found]

/-- A string that is not closed goes on in what is put behind. -/
theorem behindString?_append_of_none (none : behindString? mark escaped front = .none) (back : List Char) :
    behindString? mark escaped (front ++ back) = behindString? mark (endsEscaped escaped front) back := by
  fun_induction behindString? mark escaped front with
  | case1 escaped => cases escaped <;> rfl
  | case2 c front ih => exact ih none
  | case3 => cases none
  | case4 c front other ih => rw [List.cons_append, behindString?, if_neg other, ih none, endsEscaped]

/-- A string that stays open to the end of a text stays open in each of its parts from the start. -/
theorem behindString?_of_append (none : behindString? mark escaped (front ++ back) = .none) :
    behindString? mark escaped front = .none ∧ behindString? mark (endsEscaped escaped front) back = .none := by
  cases early : behindString? mark escaped front with
  | some rest =>
    rw [behindString?_append_of_some early] at none
    cases none
  | none => exact ⟨rfl, by rwa [behindString?_append_of_none early] at none⟩

/-- Behind a character that is no backslash nothing is read behind a backslash. -/
theorem endsEscaped_concat {c : Char} (other : c ≠ '\\') (escaped : Bool) (front : List Char) :
    endsEscaped escaped (front ++ [c]) = false := by
  induction front generalizing escaped with
  | nil =>
    cases escaped with
    | true => rfl
    | false => exact decide_eq_false other
  | cons d front ih => cases escaped <;> exact ih _

/-- Behind most characters it does not matter whether there was a backslash in front. -/
theorem behindString?_cons {c : Char} (other : c ≠ mark) (backslash : c ≠ '\\') (escaped : Bool)
    (rest : List Char) : behindString? mark escaped (c :: rest) = behindString? mark false rest := by
  cases escaped with
  | true => rfl
  | false => rw [behindString?, if_neg other, decide_eq_false backslash]

/-- A string ends in its quote. -/
theorem getLast?_of_behindString? (found : behindString? mark escaped text = some []) :
    text.getLast? = some mark := by
  fun_induction behindString? mark escaped text with
  | case1 => cases found
  | case2 c text ih => rw [List.getLast?_cons, ih found, Option.getD_some]
  | case3 text =>
    cases found
    rfl
  | case4 c text other ih => rw [List.getLast?_cons, ih found, Option.getD_some]

/-- Behind the end of a string there is less. -/
theorem length_lt_of_behindString? (found : behindString? mark escaped text = some rest) :
    rest.length < text.length := by
  fun_induction behindString? mark escaped text with
  | case1 => cases found
  | case2 c text ih => exact Nat.lt_succ_of_lt (ih found)
  | case3 text =>
    cases found
    exact Nat.lt_succ_self _
  | case4 c text other ih => exact Nat.lt_succ_of_lt (ih found)

end

/-- The end of a string is found where a scan for it finds it. -/
theorem map_closing? (quote : Quote) (text : List Char) :
    (closing? true quote.mark text).map Prod.snd = behindString? quote.mark false text := by
  fun_induction closing? true quote.mark text with
  | case1 => rfl
  | case2 c rest broken => simp at broken
  | case3 c rest whole ih =>
    rw [Option.map_map, behindString?, if_neg (Scan.mark_ne_backslash quote), decide_eq_true rfl,
      behindString?, ← ih]
    rfl
  | case4 rest other => rw [behindString?, if_pos rfl, Option.map_some]
  | case5 c rest other different stop =>
    obtain rfl : c = '\\' := by simpa using stop
    cases rest with
    | nil => rw [behindString?, if_neg different, decide_eq_true rfl]; rfl
    | cons d rest => exact absurd rfl (other d rest rfl)
  | case6 c rest other different goesOn ih =>
    rw [Option.map_map, behindString?, if_neg different, decide_eq_false (by simpa using goesOn), ← ih]
    rfl

/-- A string that may go over several lines has no end just if no quote closes it. -/
theorem closing?_eq_none_iff {quote : Quote} {text : List Char} :
    closing? true quote.mark text = none ↔ behindString? quote.mark false text = none := by
  rw [← map_closing?, Option.map_eq_none_iff]

/-- If a quote closes it, the string ends there and what is behind is left. -/
theorem closing?_of_behindString? {quote : Quote} {text rest : List Char}
    (found : behindString? quote.mark false text = some rest) :
    ∃ body, closing? true quote.mark text = some (body, rest) ∧ body ++ rest = text := by
  rw [← map_closing?] at found
  obtain ⟨⟨body, after⟩, closed, rfl⟩ := Option.map_eq_some_iff.1 found
  exact ⟨body, closed, append_of_closing? closed⟩

/-! ### Where comments are closed -/

/-- What opens as a comment is none just if it does not end. -/
theorem comment?_eq_none_iff {rest : List Char} :
    comment? ('/' :: '*' :: rest) = none ↔ commentEnd? rest = none :=
  Option.map_eq_none_iff

/-- A comment that is closed is the comment alone with anything behind it. -/
theorem comment?_self {input comment rest : List Char} (found : comment? input = some (comment, rest)) :
    comment? comment = some (comment, []) := by
  have ends : ∀ {input text rest}, commentEnd? input = some (text, rest) →
      commentEnd? text = some (text, []) := by
    intro input text rest found
    fun_induction commentEnd? input generalizing text rest with
    | case1 => cases found
    | case2 tail =>
      cases found
      rfl
    | case3 c tail other ih =>
      obtain ⟨⟨inner, after⟩, split, same⟩ := Option.map_eq_some_iff.1 found
      cases same
      have whole := append_of_commentEnd? split
      rw [commentEnd?, ih split]
      · rfl
      · rintro rest' rfl rfl
        exact other _ rfl whole.symm
  unfold comment? at found
  split at found
  · obtain ⟨⟨inner, after⟩, split, same⟩ := Option.map_eq_some_iff.1 found
    cases same
    rw [comment?, ends split]
    rfl
  · cases found

/-- A comment ends where its end mark stands. -/
theorem commentEnd?_eq_none_iff {text : List Char} : commentEnd? text = none ↔ ¬['*', '/'] <:+: text := by
  fun_induction commentEnd? text with
  | case1 => simp
  | case2 tail =>
    refine iff_of_false (by simp) (not_not_intro ?_)
    exact (List.prefix_append ['*', '/'] tail).isInfix
  | case3 c tail other ih =>
    have starts : ¬['*', '/'] <+: c :: tail := by
      rintro ⟨rest, same⟩
      obtain ⟨star, slash⟩ := List.cons.inj same
      exact other rest star.symm slash.symm
    rw [Option.map_eq_none_iff, ih, List.infix_cons_iff, or_iff_right starts]

/-- A text in which a comment does not end has no comment in it. -/
theorem commentEnd?_comment {comment : List Char} (complete : comment? comment = some (comment, []))
    (front back : List Char) : commentEnd? (front ++ (comment ++ back)) ≠ none := by
  rw [Ne, commentEnd?_eq_none_iff, not_not]
  exact (suffix_of_comment? complete).isInfix.trans ⟨front, back, List.append_assoc _ _ _⟩

/-- An end mark does not go over a character that is none of its own. -/
theorem commentEnd?_append_cons {c : Char} (star : c ≠ '*') (slash : c ≠ '/') (front back : List Char) :
    commentEnd? (front ++ c :: back) = none ↔ commentEnd? front = none ∧ commentEnd? back = none := by
  fun_induction commentEnd? front with
  | case1 =>
    rw [List.nil_append, commentEnd?, Option.map_eq_none_iff]
    · simp
    · exact fun _ same _ => star same
  | case2 tail => simp [commentEnd?]
  | case3 d tail other ih =>
    rw [List.cons_append, commentEnd?, Option.map_eq_none_iff, ih, Option.map_eq_none_iff]
    rintro rest' rfl same
    cases tail with
    | nil => exact slash (List.cons.inj same).1
    | cons e tail => exact other tail rfl (by rw [(List.cons.inj same).1])

/-- A run of blanks parts an end mark as one blank does. -/
theorem commentEnd?_blanks {blanks : List Char} (nonempty : blanks ≠ [])
    (all : ∀ c ∈ blanks, isBlank c = true) (front back : List Char) :
    commentEnd? (front ++ (blanks ++ back)) = none ↔ commentEnd? front = none ∧ commentEnd? back = none := by
  induction blanks generalizing front with
  | nil => exact absurd rfl nonempty
  | cons c blanks ih =>
    obtain ⟨first, others⟩ := List.forall_mem_cons.1 all
    have plain := Scan.notMem_special_of_isBlank first
    have star : c ≠ '*' := by
      rintro rfl
      cases first
    have slash : c ≠ '/' := by
      rintro rfl
      cases first
    rw [List.cons_append, commentEnd?_append_cons star slash]
    cases blanks with
    | nil => rfl
    | cons d blanks =>
      have inner := ih (List.cons_ne_nil _ _) others []
      rw [List.nil_append] at inner
      rw [inner]
      simp [commentEnd?]

/-! ### Whole pieces -/

/-- The text of a piece is of its kind, and there is nothing behind it. -/
inductive Piece.IsWhole : Piece → Prop
  /-- A string ends at its first quote that stands behind no backslash. -/
  | quoted {quote : Quote} {body : List Char} (closed : behindString? quote.mark false body = some []) :
      IsWhole (.quoted (quote.mark :: body))
  /-- A comment ends at its first end mark. -/
  | comment {text : List Char} (complete : comment? text = some (text, [])) : IsWhole (.comment text)
  /-- A run of blanks holds blanks only, at least one. -/
  | blanks {c : Char} {others : List Char} (all : ∀ d ∈ c :: others, isBlank d = true) :
      IsWhole (.blanks (c :: others))
  /-- Any other character is no blank. -/
  | plain {c : Char} (solid : isBlank c = false) : IsWhole (.plain c)

/-- Behind a run of blanks it does not matter whether there was a backslash in front. -/
theorem behindString?_blanks {quote : Quote} {blanks : List Char} (run : (Piece.blanks blanks).IsWhole)
    (escaped : Bool) (rest : List Char) :
    behindString? quote.mark escaped (blanks ++ rest) = behindString? quote.mark false rest := by
  have solid : isBlank quote.mark = false ∧ isBlank '\\' = false := by cases quote <;> decide
  have step : ∀ {c : Char} (escaped : Bool) (rest : List Char), isBlank c = true →
      behindString? quote.mark escaped (c :: rest) = behindString? quote.mark false rest := by
    intro c escaped rest blank
    refine behindString?_cons ?_ ?_ escaped rest
    · rintro rfl
      rw [blank] at solid
      cases solid.1
    · rintro rfl
      cases blank
  cases run with
  | @blanks c others all =>
    induction others generalizing c escaped with
    | nil => exact step escaped rest (all c List.mem_cons_self)
    | cons d others ih =>
      obtain ⟨first, following⟩ := List.forall_mem_cons.1 all
      rw [List.cons_append, step escaped _ first]
      exact ih false following

namespace Piece

theorem IsWhole.text_ne_nil {piece : Piece} (whole : piece.IsWhole) : piece.text ≠ [] := by
  cases whole with
  | comment complete =>
    obtain ⟨⟨tail, rfl⟩, -⟩ := exists_of_comment? complete
    exact List.cons_ne_nil _ _
  | _ => exact List.cons_ne_nil _ _

/-- A whole comment is complete. -/
theorem IsWhole.complete {comment : List Char} (whole : (Piece.comment comment).IsWhole) :
    comment? comment = some (comment, []) := by
  cases whole with
  | comment complete => exact complete

/-- A quote opens a string that goes on to its end. -/
theorem exists_next?_quoted {quote : Quote} {text rest : List Char}
    (closed : behindString? quote.mark false text = some rest) :
    ∃ body, text = body ++ rest ∧ next? (quote.mark :: text) = some (.quoted (quote.mark :: body), rest) := by
  obtain ⟨body, found, rfl⟩ := closing?_of_behindString? closed
  refine ⟨body, rfl, ?_⟩
  unfold next?
  rw [quoted?_mark, found]
  rfl

/-- A string that is whole is a piece whatever follows. -/
theorem next?_of_closed {quote : Quote} {body : List Char}
    (closed : behindString? quote.mark false body = some []) (rest : List Char) :
    next? (quote.mark :: body ++ rest) = some (.quoted (quote.mark :: body), rest) := by
  obtain ⟨body', same, found⟩ := exists_next?_quoted (behindString?_append_of_some closed rest)
  rw [List.nil_append] at same found
  obtain rfl := List.append_cancel_right same
  exact found

/-- A quote that opens a string that is not closed is a character as any other. -/
theorem next?_mark {quote : Quote} {rest : List Char} (none : behindString? quote.mark false rest = .none) :
    next? (quote.mark :: rest) = some (.plain quote.mark, rest) := by
  have noString : quoted? true (quote.mark :: rest) = .none := by
    rw [quoted?_mark, closing?_eq_none_iff.2 none]
    rfl
  have noComment : comment? (quote.mark :: rest) = .none :=
    comment?_of_not_prefix (by rintro ⟨_, same⟩; cases quote <;> cases same)
  have solid : isBlank quote.mark = false := by cases quote <;> decide
  unfold next?
  rw [noString, noComment]
  simp [solid]

/-- So is a character that is no quote and starts no comment. -/
theorem next?_plain {c : Char} {rest : List Char} (noQuote : Quote.of? c = none) (solid : isBlank c = false)
    (noComment : comment? (c :: rest) = none) : next? (c :: rest) = some (.plain c, rest) := by
  unfold next?
  rw [quoted?_other true noQuote, noComment]
  simp [solid]

/-- How a text starts with a piece, by what follows it. -/
inductive Leads : Piece → List Char → Prop
  /-- What follows a string does not matter. -/
  | quoted {quote : Quote} {body : List Char} (closed : behindString? quote.mark false body = some [])
      (rest : List Char) : Leads (.quoted (quote.mark :: body)) rest
  /-- Nor does what follows a comment. -/
  | comment {text : List Char} (complete : comment? text = some (text, [])) (rest : List Char) :
      Leads (.comment text) rest
  /-- Behind a run of blanks there is no blank. -/
  | blanks {c : Char} {others rest : List Char} (all : ∀ d ∈ c :: others, isBlank d = true)
      (stop : ∀ d ∈ rest.head?, isBlank d = false) : Leads (.blanks (c :: others)) rest
  /-- Behind a single quote there is no end of a string. -/
  | mark {quote : Quote} {rest : List Char} (none : behindString? quote.mark false rest = .none) :
      Leads (.plain quote.mark) rest
  /-- Any other character is no blank and starts no comment. -/
  | plain {c : Char} {rest : List Char} (noQuote : Quote.of? c = none) (solid : isBlank c = false)
      (noComment : comment? (c :: rest) = none) : Leads (.plain c) rest

/-- A piece that a text starts with is whole. -/
theorem Leads.isWhole {piece : Piece} {rest : List Char} (leads : Leads piece rest) : piece.IsWhole := by
  cases leads with
  | quoted closed => exact .quoted closed
  | comment complete => exact .comment complete
  | blanks all => exact .blanks all
  | @mark quote => exact .plain (by cases quote <;> decide)
  | plain noQuote solid => exact .plain solid

/-- Behind a run of blanks there is no blank. -/
theorem Leads.stops {blanks rest : List Char} (leads : (Piece.blanks blanks).Leads rest) :
    ∀ c ∈ rest.head?, isBlank c = false := by
  cases leads with
  | blanks _ stop => exact stop

/-- Behind a quote on its own there is no end of a string. -/
theorem Leads.behindString?_eq_none {quote : Quote} {c : Char} {rest : List Char}
    (leads : (Piece.plain c).Leads rest) (mark : Quote.of? c = some quote) :
    behindString? quote.mark false rest = none := by
  cases leads with
  | mark none =>
    rw [Quote.of?_mark] at mark
    cases mark
    exact none
  | plain noQuote =>
    rw [noQuote] at mark
    cases mark

/-- Any other character of its own opens no comment. -/
theorem Leads.comment?_eq_none {c : Char} {rest : List Char} (leads : (Piece.plain c).Leads rest)
    (noQuote : Quote.of? c = none) : comment? (c :: rest) = none := by
  cases leads with
  | mark =>
    rw [Quote.of?_mark] at noQuote
    cases noQuote
  | plain _ _ noComment => exact noComment

/-- A text starts with a piece exactly if the piece and what follows are as they should. -/
theorem next?_eq_some_iff {piece : Piece} {input rest : List Char} :
    next? input = some (piece, rest) ↔ input = piece.text ++ rest ∧ Leads piece rest := by
  constructor
  · intro found
    refine ⟨(append_of_next? found).1.symm, ?_⟩
    unfold next? at found
    split at found
    · rename_i string
      cases found
      obtain ⟨quote, tail, body, rfl, rfl, closed⟩ := exists_of_quoted? string
      obtain rfl := append_of_closing? closed
      have ends := map_closing? quote (body ++ rest)
      rw [closed, Option.map_some] at ends
      refine .quoted ?_ rest
      cases early : behindString? quote.mark false body with
      | none =>
        rw [behindString?_append_of_none early] at ends
        exact absurd (length_lt_of_behindString? ends.symm) (Nat.lt_irrefl _)
      | some after =>
        rw [behindString?_append_of_some early, Option.some.injEq] at ends
        rw [List.self_eq_append_left.1 ends]
    · rename_i noString
      split at found
      · rename_i split
        cases found
        exact .comment (comment?_self split) rest
      · rename_i noComment
        split at found
        · cases found
        · rename_i c tail
          split at found
          · rename_i blank
            cases found
            refine .blanks (List.forall_mem_cons.2 ⟨blank, fun d mem => List.mem_takeWhile_imp mem⟩) ?_
            intro d mem
            have stop := List.head?_dropWhile_not isBlank tail
            rw [mem] at stop
            simpa using stop
          · rename_i solid
            cases found
            cases isQuote : Quote.of? c with
            | none => exact .plain isQuote (by simpa using solid) noComment
            | some quote =>
              obtain rfl := Quote.of?_eq_some_iff.1 isQuote
              rw [quoted?_mark, Option.map_eq_none_iff, closing?_eq_none_iff] at noString
              exact .mark noString
  · rintro ⟨rfl, leads⟩
    cases leads with
    | quoted closed => exact next?_of_closed closed rest
    | comment complete => exact next?_comment complete rest
    | blanks all stop => exact next?_blanks all stop
    | mark none => exact next?_mark none
    | plain noQuote solid noComment => exact next?_plain noQuote solid noComment

end Piece

/-! ### Texts made of pieces -/

/-- Some pieces are those that their text is cut in. -/
def IsCutting (found : List Piece) : Prop := pieces (found.flatMap Piece.text) = found

/-- The pieces of a text are those that it is cut in. -/
theorem isCutting_pieces (text : List Char) : IsCutting (pieces text) := by
  rw [IsCutting, flatMap_pieces]

theorem isCutting_nil : IsCutting [] := by
  rw [IsCutting, List.flatMap_nil, pieces]
  rfl

/-- Pieces are a cutting if the first one is split off in front of the others. -/
theorem isCutting_cons_iff {piece : Piece} {found : List Piece} :
    IsCutting (piece :: found) ↔ piece.Leads (found.flatMap Piece.text) ∧ IsCutting found := by
  constructor
  · intro cut
    cases next : Piece.next? ((piece :: found).flatMap Piece.text) with
    | none =>
      rw [IsCutting, Piece.next?_eq_none next] at cut
      rw [pieces, Piece.next?] at cut
      cases cut
    | some split =>
      obtain ⟨first, rest⟩ := split
      rw [IsCutting, Scan.pieces_of_next? next, List.cons.injEq] at cut
      obtain ⟨rfl, others⟩ := cut
      obtain ⟨-, leads⟩ := Piece.next?_eq_some_iff.1 next
      rw [← others, flatMap_pieces]
      exact ⟨leads, isCutting_pieces rest⟩
  · rintro ⟨leads, cut⟩
    rw [IsCutting, Scan.pieces_of_next? (Piece.next?_eq_some_iff.2 ⟨List.flatMap_cons, leads⟩), cut]

namespace IsCutting

variable {front back found : List Piece}

/-- The last pieces of a cutting are a cutting. -/
theorem of_append (cut : IsCutting (front ++ back)) : IsCutting back := by
  induction front with
  | nil => exact cut
  | cons piece front ih => exact ih (isCutting_cons_iff.1 cut).2

/-- Each piece is split off in front of those behind it. -/
theorem leads {piece : Piece} (cut : IsCutting (front ++ piece :: back)) :
    piece.Leads (back.flatMap Piece.text) :=
  (isCutting_cons_iff.1 cut.of_append).1

/-- All pieces of a cutting are whole. -/
theorem isWhole (cut : IsCutting found) : ∀ piece ∈ found, piece.IsWhole := by
  intro piece mem
  obtain ⟨front, back, rfl⟩ := List.append_of_mem mem
  exact cut.leads.isWhole

/-- A run of blanks is one in front of anything that does not start with a blank. -/
theorem blanks {blanks : List Char} (run : (Piece.blanks blanks).IsWhole) (cut : IsCutting back)
    (stop : ∀ c ∈ (back.flatMap Piece.text).head?, isBlank c = false) : IsCutting (.blanks blanks :: back) := by
  refine isCutting_cons_iff.2 ⟨?_, cut⟩
  cases run with
  | blanks all => exact .blanks all stop

/-- No text is cut between two blanks. -/
theorem not_blanks {left right : List Char} :
    ¬IsCutting (front ++ .blanks left :: .blanks right :: back) := by
  intro cut
  cases cut.isWhole (.blanks right) (by simp) with
  | @blanks c others all =>
    cases cut.leads with
    | blanks _ stop =>
      have solid := stop c rfl
      rw [all c List.mem_cons_self] at solid
      cases solid

end IsCutting

end ViewportScaling.Css
