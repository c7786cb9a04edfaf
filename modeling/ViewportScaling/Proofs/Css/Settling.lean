import ViewportScaling.Proofs.Css.NormalForm

/-!
# Pieces that settle

When comments are dropped, what stood on their two sides comes to stand side by side. The kept pieces are settled
if no two runs of blanks did so, nor a slash and a star with an end mark behind them. The text of settled pieces is
in normal form: the only pieces that may be cut otherwise are quotes that were open, and a string that one of them
opens now ends where a piece ends, since its end was not found where the pieces that were kept stood before.
-/

namespace ViewportScaling.Css

open Unicode Text

/-! ### Settled pieces -/

/-- No runs of blanks stand side by side, and no slash and star open a comment. -/
structure IsSettled (found : List Piece) : Prop where
  /-- Runs of blanks are apart. -/
  blanks : ¬[.blanks [' '], .blanks [' ']] <:+: found
  /-- Behind a comment mark there is no end mark. -/
  marks : ∀ back, .plain '/' :: .plain '*' :: back <:+ found → commentEnd? (back.flatMap Piece.text) = none

/-- The last pieces of a settled row are settled. -/
theorem IsSettled.of_suffix {found back : List Piece} (settled : IsSettled found) (suffix : back <:+ found) :
    IsSettled back :=
  ⟨fun inside => settled.blanks (inside.trans suffix.isInfix),
    fun behind inside => settled.marks behind (inside.trans suffix)⟩

/-- Comments are what cleaning does not keep. -/
theorem Piece.kept?_eq_none_iff {piece : Piece} : piece.kept? = none ↔ piece.isComment = true := by
  cases piece <;> simp [kept?, isComment]

/-- What is kept is found again among the pieces that it is kept of. -/
theorem exists_of_kept_eq {found front back : List Piece} {piece : Piece}
    (parts : kept found = front ++ piece :: back) : ∃ before first behind, found = before ++ first :: behind ∧
      first.kept? = some piece ∧ kept behind = back := by
  obtain ⟨before, rest, rfl, -, same⟩ := List.filterMap_eq_append_iff.1 parts
  obtain ⟨skipped, first, behind, rfl, -, here, onward⟩ := List.filterMap_eq_cons_iff.1 same
  exact ⟨before ++ skipped, first, behind, (List.append_assoc _ _ _).symm, here, onward⟩

/-- Between what is kept side by side there are comments. -/
theorem exists_of_kept_eq_two {found front back : List Piece} {left right : Piece}
    (parts : kept found = front ++ left :: right :: back) : ∃ before first comments second behind,
      found = before ++ first :: (comments ++ second :: behind) ∧ first.kept? = some left ∧
        (∀ piece ∈ comments, piece.isComment = true) ∧ second.kept? = some right ∧ kept behind = back := by
  obtain ⟨before, first, rest, rfl, here, onward⟩ := exists_of_kept_eq parts
  obtain ⟨comments, second, behind, rfl, skipped, there, further⟩ := List.filterMap_eq_cons_iff.1 onward
  exact ⟨before, first, comments, second, behind, rfl, here,
    fun piece mem => Piece.kept?_eq_none_iff.1 (skipped piece mem), there, further⟩

/-! ### Where open quotes are closed -/

section

variable {quote : Quote} {before : Bool}

/-- A piece in which a string stays open closes it nowhere but at its own end when the piece is read from another
state. -/
theorem Piece.IsWhole.behindString?_kept {piece left : Piece} (whole : piece.IsWhole)
    (here : piece.kept? = some left) (none : behindString? quote.mark before piece.text = .none) (after : Bool) :
    behindString? quote.mark after left.text = .none ∨ behindString? quote.mark after left.text = some [] := by
  cases whole with
  | @quoted opening body closed =>
    cases here
    have backslash := (Scan.mark_ne_backslash opening).symm
    rw [text] at none ⊢
    by_cases same : opening = quote
    · -- The string would close the other one.
      subst same
      cases before with
      | false =>
        rw [behindString?, if_pos rfl] at none
        cases none
      | true =>
        rw [behindString?, closed] at none
        cases none
    · have other : opening.mark ≠ quote.mark := by
        cases opening <;> cases quote <;> first | exact absurd rfl same | decide
      rw [behindString?_cons other backslash] at none ⊢
      exact .inl none
  | comment complete => cases here
  | blanks all =>
    cases here
    rw [text, behindString?_cons (by cases quote <;> decide) (by decide)]
    exact .inl rfl
  | @plain c solid =>
    cases here
    rw [text]
    cases after with
    | true => exact .inl rfl
    | false =>
      by_cases closing : c = quote.mark
      · rw [behindString?, if_pos closing]
        exact .inr rfl
      · rw [behindString?, if_neg closing]
        exact .inl rfl

/-- A string that stays open through some pieces ends where a piece ends in what is kept of them. -/
theorem exists_suffix_of_behindString? {after : Bool} {found inner : List Piece} {rest : List Char}
    (whole : ∀ piece ∈ found, piece.IsWhole) (part : inner <+: kept found)
    (none : behindString? quote.mark before (found.flatMap Piece.text) = .none)
    (closed : behindString? quote.mark after (inner.flatMap Piece.text) = some rest) :
    ∃ others, others <:+ inner ∧ rest = others.flatMap Piece.text := by
  induction found generalizing inner before after with
  | nil =>
    obtain rfl := List.prefix_nil.1 part
    cases closed
  | cons piece found ih =>
    obtain ⟨first, following⟩ := List.forall_mem_cons.1 whole
    rw [List.flatMap_cons] at none
    obtain ⟨inside, onward⟩ := behindString?_of_append none
    cases here : piece.kept? with
    | none =>
      rw [kept, List.filterMap_cons_none here] at part
      exact ih following part onward closed
    | some left =>
      rw [kept, List.filterMap_cons_some here, ← kept] at part
      cases inner with
      | nil => cases closed
      | cons piece' inner =>
        obtain ⟨rfl, behind⟩ := List.cons_prefix_cons.1 part
        rw [List.flatMap_cons] at closed
        rcases first.behindString?_kept here inside after with open' | ends
        · rw [behindString?_append_of_none open'] at closed
          obtain ⟨others, suffix, same⟩ := ih following behind onward closed
          exact ⟨others, suffix.trans (List.suffix_cons piece' inner), same⟩
        · rw [behindString?_append_of_some ends] at closed
          cases closed
          exact ⟨inner, List.suffix_cons piece' inner, rfl⟩

end

/-- The string that a quote of the core opens ends where a piece ends. -/
theorem exists_suffix_of_core {text rest : List Char} {quote : Quote} {back : List Piece}
    (suffix : .plain quote.mark :: back <:+ core text)
    (closed : behindString? quote.mark false (back.flatMap Piece.text) = some rest) :
    ∃ others, others <:+ back ∧ rest = others.flatMap Piece.text := by
  obtain ⟨front, inside⟩ := suffix
  obtain ⟨left, right, parts, -, -⟩ := exists_core text
  rw [← inside, List.append_assoc, List.append_assoc, List.cons_append, ← List.append_assoc] at parts
  obtain ⟨before, first, behind, whole, here, onward⟩ := exists_of_kept_eq parts
  have cut := isCutting_pieces text
  rw [whole] at cut
  have none : behindString? quote.mark false (behind.flatMap Piece.text) = .none := by
    cases first with
    | plain c =>
      cases here
      exact cut.leads.behindString?_eq_none (Quote.of?_mark quote)
    | _ => cases here
  exact exists_suffix_of_behindString? (fun piece mem => cut.isWhole piece (by simp [mem]))
    ⟨right, onward.symm⟩ none closed

/-! ### Texts of settled pieces -/

/-- Only a star on its own starts with a star. -/
theorem Piece.IsWhole.eq_plain_star {piece : Piece} (whole : piece.IsWhole) {rest : List Char}
    (head : (piece.text ++ rest).head? = some '*') : piece = .plain '*' := by
  cases whole with
  | @quoted quote body closed => cases quote <;> cases head
  | comment complete =>
    obtain ⟨⟨tail, rfl⟩, -⟩ := exists_of_comment? complete
    cases head
  | blanks all =>
    cases head
    exact absurd (all '*' List.mem_cons_self) (by decide)
  | plain solid =>
    cases head
    rfl

/-- In front of settled pieces no character opens a comment. -/
theorem IsSettled.comment?_eq_none {found : List Piece} {c : Char} (settled : IsSettled (.plain c :: found))
    (whole : ∀ piece ∈ found, piece.IsWhole) : comment? (c :: found.flatMap Piece.text) = none := by
  cases found with
  | nil => exact comment?_of_not_prefix (by rintro ⟨_, same⟩; simp at same)
  | cons piece found =>
    rw [List.flatMap_cons]
    by_cases opens : c = '/' ∧ (piece.text ++ found.flatMap Piece.text).head? = some '*'
    · obtain ⟨rfl, star⟩ := opens
      obtain rfl := (whole piece List.mem_cons_self).eq_plain_star star
      exact comment?_eq_none_iff.2 (settled.marks found (List.suffix_refl _))
    · refine comment?_of_not_prefix ?_
      rintro ⟨rest, same⟩
      obtain ⟨slash, star⟩ := List.cons.inj same
      exact opens ⟨slash.symm, by rw [← star]; rfl⟩

/-- The text of settled pieces of a core starts with a piece that may occur in a normal form, and goes on with the
text of some of the pieces. -/
theorem exists_next?_of_suffix {text : List Char} {piece : Piece} {found : List Piece}
    (settled : IsSettled (piece :: found)) (suffix : piece :: found <:+ core text) :
    ∃ first others, others <:+ found ∧
      Piece.next? ((piece :: found).flatMap Piece.text) = some (first, others.flatMap Piece.text) ∧
      first.IsNormal := by
  have whole := fun piece mem => isWhole_of_mem_core (suffix.subset (a := piece) mem)
  obtain ⟨⟨kind, normal⟩, others⟩ := List.forall_mem_cons.1 whole
  rw [List.flatMap_cons]
  cases kind with
  | quoted closed => exact ⟨_, found, List.suffix_refl _, Piece.next?_of_closed closed _, trivial⟩
  | comment complete => exact normal.elim
  | blanks all =>
    have stop : ∀ second ∈ found.head?, second.isBlanks = false := by
      intro second head
      obtain ⟨behind, rfl⟩ := List.head?_eq_some_iff.1 head
      cases second with
      | blanks inner =>
        -- Two runs of blanks would stand side by side.
        obtain rfl : inner = [' '] := (others _ List.mem_cons_self).2
        rw [show _ :: _ = [' '] from normal] at settled
        exact absurd (List.prefix_append [.blanks [' '], .blanks [' ']] behind).isInfix settled.blanks
      | _ => rfl
    have next := Piece.next?_blanks all (isBlank_of_head? (fun piece mem => (others piece mem).1) stop)
    exact ⟨_, found, List.suffix_refl _, next, normal⟩
  | @plain c solid =>
    cases isQuote : Quote.of? c with
    | none =>
      have noComment := settled.comment?_eq_none fun piece mem => (others piece mem).1
      exact ⟨_, found, List.suffix_refl _, Piece.next?_plain isQuote solid noComment, trivial⟩
    | some quote =>
      obtain rfl := Quote.of?_eq_some_iff.1 isQuote
      cases closed : behindString? quote.mark false (found.flatMap Piece.text) with
      | none => exact ⟨_, found, List.suffix_refl _, Piece.next?_mark closed, trivial⟩
      | some rest =>
        obtain ⟨behind, inside, rfl⟩ := exists_suffix_of_core suffix closed
        obtain ⟨body, -, next⟩ := Piece.exists_next?_quoted closed
        exact ⟨_, behind, inside, next, trivial⟩

/-- The text of settled pieces of a core is cut into pieces that may occur in a normal form. -/
theorem isNormal_of_suffix {text : List Char} {found : List Piece} (settled : IsSettled found)
    (suffix : found <:+ core text) : ∀ piece ∈ pieces (found.flatMap Piece.text), piece.IsNormal := by
  -- A string may be read over several pieces at once, so the induction is on how many there are.
  induction size : found.length using Nat.strong_induction_on generalizing found with
  | _ length ih =>
    cases found with
    | nil =>
      intro piece mem
      rw [List.flatMap_nil, pieces] at mem
      cases mem
    | cons piece found =>
      obtain ⟨first, others, inside, next, normal⟩ := exists_next?_of_suffix settled suffix
      have behind : others <:+ piece :: found := inside.trans (List.suffix_cons piece found)
      have less : others.length < length := by
        rw [← size]
        exact Nat.lt_succ_of_le inside.length_le
      rw [Scan.pieces_of_next? next]
      exact List.forall_mem_cons.2 ⟨normal, ih _ less (settled.of_suffix behind) (behind.trans suffix) rfl⟩

/-- A cleaned text is in normal form if the pieces that are kept are settled. -/
theorem isNormal_clean_of_isSettled {text : List Char} (settled : IsSettled (core text)) :
    IsNormal (clean text) := by
  obtain ⟨head, last⟩ := isBlank_of_core_ends text
  rw [clean_eq]
  exact ⟨isNormal_of_suffix settled (List.suffix_refl _), head, last⟩

/-! ### Where the pieces settle -/

/-- The pieces that a text is cut in are settled. -/
theorem IsCutting.isSettled {found : List Piece} (cut : IsCutting found) : IsSettled found := by
  constructor
  · rintro ⟨front, back, rfl⟩
    rw [List.append_assoc] at cut
    exact IsCutting.not_blanks cut
  · rintro back ⟨front, rfl⟩
    exact comment?_eq_none_iff.1 (cut.leads.comment?_eq_none rfl)

/-- A text that starts with a run of blanks of a normal form has something else behind it. -/
theorem stops_of_isNormal {text : List Char} (normal : ∀ piece ∈ pieces (' ' :: text), piece.IsNormal) :
    ∀ c ∈ text.head?, isBlank c = false := by
  intro c head
  obtain ⟨rest, rfl⟩ := List.head?_eq_some_iff.1 head
  by_contra blank
  have next : Piece.next? (' ' :: c :: rest) = _ :=
    Piece.next?_other (by decide) (by rintro ⟨_, same⟩; simp at same)
  rw [if_pos (by decide), List.takeWhile_cons_of_pos (by simpa using blank)] at next
  rw [Scan.pieces_of_next? next] at normal
  have single : _ = [' '] := (List.forall_mem_cons.1 normal).1
  cases single

/-- A text in normal form does not start with a comment. -/
theorem comment?_of_isNormal {text : List Char} (normal : ∀ piece ∈ pieces text, piece.IsNormal) :
    comment? text = none := by
  cases found : comment? text with
  | none => rfl
  | some split =>
    obtain ⟨comment, rest⟩ := split
    have whole := append_of_comment? found
    have next := Piece.next?_comment (comment?_self found) rest
    rw [whole] at next
    rw [Scan.pieces_of_next? next] at normal
    exact (List.forall_mem_cons.1 normal).1.elim

/-- Without open quotes a text in normal form is cut as it is put together. -/
theorem isCutting_of_isNormal {found : List Piece} (whole : ∀ piece ∈ found, piece.IsWhole ∧ piece.IsNormal)
    (paired : ∀ quote : Quote, .plain quote.mark ∉ found)
    (normal : ∀ piece ∈ pieces (found.flatMap Piece.text), piece.IsNormal) : IsCutting found := by
  induction found with
  | nil => exact isCutting_nil
  | cons piece found ih =>
    obtain ⟨⟨kind, normal'⟩, others⟩ := List.forall_mem_cons.1 whole
    rw [List.flatMap_cons] at normal
    have leads : piece.Leads (found.flatMap Piece.text) := by
      cases kind with
      | quoted closed => exact .quoted closed _
      | comment complete => exact normal'.elim
      | blanks all =>
        have single : _ = [' '] := normal'
        cases single
        exact .blanks all (stops_of_isNormal normal)
      | @plain c solid =>
        cases isQuote : Quote.of? c with
        | none => exact .plain isQuote solid (comment?_of_isNormal normal)
        | some quote =>
          obtain rfl := Quote.of?_eq_some_iff.1 isQuote
          exact absurd List.mem_cons_self (paired quote)
    refine isCutting_cons_iff.2 ⟨leads, ih others (fun quote mem => ?_) fun piece' mem => ?_⟩
    · exact paired quote (List.mem_cons_of_mem piece mem)
    · refine normal piece' ?_
      rw [Scan.pieces_of_next? (Piece.next?_eq_some_iff.2 ⟨rfl, leads⟩)]
      exact List.mem_cons_of_mem piece mem

/-- Without open quotes a cleaned text is in normal form only if the pieces that are kept are settled. -/
theorem isSettled_of_isNormal_clean {text : List Char} (paired : ∀ quote : Quote, .plain quote.mark ∉ core text)
    (normal : IsNormal (clean text)) : IsSettled (core text) := by
  rw [clean_eq] at normal
  exact (isCutting_of_isNormal (fun piece mem => isWhole_of_mem_core mem) paired normal.pieces).isSettled

/-! ### Comments between other pieces -/

/-- Two pieces stand around comments, at least one. -/
def Around (found : List Piece) (left right : Piece) : Prop :=
  ∃ front comments back, found = front ++ left :: (comments ++ right :: back) ∧ comments ≠ [] ∧
    ∀ piece ∈ comments, piece.isComment = true

/-- A comment that does not end in some pieces does not end in what is kept of them. -/
theorem commentEnd?_kept {found : List Piece} (whole : ∀ piece ∈ found, piece.IsWhole) (front : List Char)
    (none : commentEnd? (front ++ found.flatMap Piece.text) = .none) :
    commentEnd? (front ++ (kept found).flatMap Piece.text) = .none := by
  induction found generalizing front with
  | nil => exact none
  | cons piece found ih =>
    obtain ⟨first, others⟩ := List.forall_mem_cons.1 whole
    rw [List.flatMap_cons] at none
    have same : piece.kept? = some piece →
        commentEnd? (front ++ (kept (piece :: found)).flatMap Piece.text) = .none := by
      intro here
      rw [kept, List.filterMap_cons_some here, ← kept, List.flatMap_cons, ← List.append_assoc]
      rw [← List.append_assoc] at none
      exact ih others _ none
    cases first with
    | comment complete => exact absurd none (commentEnd?_comment complete _ _)
    | blanks all =>
      obtain ⟨early, late⟩ := (commentEnd?_blanks (List.cons_ne_nil _ _) all _ _).1 none
      exact (commentEnd?_blanks (List.cons_ne_nil ' ' []) (by decide) _ _).2 ⟨early, ih others [] late⟩
    | quoted closed => exact same rfl
    | plain solid => exact same rfl

/-- The pieces that are kept are settled if comments stand neither between two runs of blanks nor between a slash
and a star. -/
theorem isSettled_core {text : List Char}
    (blanks : ∀ left right, ¬Around (pieces text) (.blanks left) (.blanks right))
    (marks : ¬Around (pieces text) (.plain '/') (.plain '*')) : IsSettled (core text) := by
  have cut := isCutting_pieces text
  obtain ⟨left, right, parts, -, -⟩ := exists_core text
  constructor
  · rintro ⟨front, back, inside⟩
    have split : kept (pieces text) = (left ++ front) ++ .blanks [' '] :: .blanks [' '] :: (back ++ right) := by
      rw [parts, ← inside]
      simp
    obtain ⟨before, first, comments, second, behind, whole, here, skipped, there, -⟩ :=
      exists_of_kept_eq_two split
    cases first with
    | blanks one =>
      cases second with
      | blanks other =>
        obtain rfl : comments = [] :=
          by_contra fun some => blanks one other ⟨before, comments, behind, whole, some, skipped⟩
        rw [whole] at cut
        exact IsCutting.not_blanks cut
      | _ => cases there
    | _ => cases here
  · rintro back ⟨front, inside⟩
    have split : kept (pieces text) = (left ++ front) ++ .plain '/' :: .plain '*' :: (back ++ right) := by
      rw [parts, ← inside]
      simp
    obtain ⟨before, first, comments, second, behind, whole, here, skipped, there, onward⟩ :=
      exists_of_kept_eq_two split
    cases first with
    | plain slash =>
      cases here
      cases second with
      | plain star =>
        cases there
        obtain rfl : comments = [] :=
          by_contra fun some => marks ⟨before, comments, behind, whole, some, skipped⟩
        rw [whole] at cut
        -- The two stood side by side, so no comment ended behind them, and less is kept of what stood there.
        have open' := comment?_eq_none_iff.1 (cut.leads.comment?_eq_none rfl)
        have less := commentEnd?_kept (fun piece mem => cut.isWhole piece (by simp [mem])) [] open'
        rw [onward, List.nil_append, List.flatMap_append, commentEnd?_eq_none_iff] at less
        exact commentEnd?_eq_none_iff.2 fun inside => less (inside.trans (List.prefix_append _ _).isInfix)
      | _ => cases there
    | _ => cases here

/-- So a text without comments is cleaned to a normal form. -/
theorem isNormal_clean_of_uncommented {text : List Char}
    (plain : ∀ piece ∈ pieces text, piece.isComment = false) : IsNormal (clean text) := by
  have none : ∀ {left right : Piece}, ¬Around (pieces text) left right := by
    rintro left right ⟨front, comments, back, whole, some, all⟩
    obtain ⟨comment, mem⟩ := List.exists_mem_of_ne_nil comments some
    have kind := plain comment (by rw [whole]; simp [mem])
    rw [all comment mem] at kind
    cases kind
  exact isNormal_clean_of_isSettled (isSettled_core (fun _ _ => none) none)

end ViewportScaling.Css
