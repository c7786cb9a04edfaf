import ViewportScaling.Proofs.Css.InertComments

/-!
# Tokens with a comment put in

An inert comment that is put between two segments of a plain token leaves a token of the same kind, which
ends at the same place. Cleaning cuts the new text into the pieces of what stands before the comment, the
comment, and the pieces of what stands behind it. So a declaration does not change, and a selector or
prelude does not unless the comment parts a run of blanks.
-/

namespace ViewportScaling.Css

open Unicode Text

/-! ### Pieces of texts one behind the other -/

/-- Neither a run of blanks nor a comment mark goes over the place between two texts. -/
def Separate (first second : List Char) : Prop :=
  ∀ last ∈ first.getLast?, ∀ c ∈ second.head?,
    ¬(isBlank last = true ∧ isBlank c = true) ∧ ¬(last = '/' ∧ c = '*')

/-- What is separate from the end of a text is separate from the end of that end. -/
theorem Separate.of_suffix {first second part : List Char} (separate : Separate first second)
    (behind : part <:+ first) : Separate part second := by
  intro last mem
  obtain ⟨front, rfl⟩ := behind
  refine separate last ?_
  rw [List.getLast?_append, mem]
  rfl

/-- No comment opens across the place between separate texts. -/
theorem Separate.not_opening {c : Char} {tail more : List Char} (separate : Separate (c :: tail) more)
    (plain : ¬['/', '*'] <+: c :: tail) : ¬['/', '*'] <+: c :: (tail ++ more) := by
  rintro ⟨rest, same⟩
  cases tail with
  | nil =>
    obtain ⟨first, following⟩ := List.cons.inj same
    exact (separate c rfl '*' (by rw [← show '*' :: rest = more from following]; rfl)).2 ⟨first.symm, rfl⟩
  | cons d tail =>
    obtain ⟨first, following⟩ := List.cons.inj same
    refine plain ⟨tail, ?_⟩
    rw [← first, ← (List.cons.inj following).1]
    rfl

namespace Piece

theorem next?_string {quote : Quote} {body tail after : List Char}
    (closes : closing? false quote.mark tail = some (body, after)) (rest : List Char) :
    next? (quote.mark :: body ++ rest) = some (.quoted (quote.mark :: body), rest) := by
  unfold next?
  rw [List.cons_append, quoted?_mark, closing?_swap closes true rest]
  rfl

theorem next?_comment {comment : List Char} (complete : comment? comment = some (comment, []))
    (rest : List Char) : next? (comment ++ rest) = some (.comment comment, rest) := by
  have split := comment?_append_of_some complete rest
  obtain ⟨⟨tail, rfl⟩, -⟩ := exists_of_comment? complete
  have noString : quoted? true ('/' :: tail ++ rest) = none := quoted?_other true rfl _
  unfold next?
  rw [noString, split]
  rfl

theorem next?_other {c : Char} {rest : List Char} (noQuote : Quote.of? c = none)
    (plain : ¬['/', '*'] <+: c :: rest) : next? (c :: rest) =
      if isBlank c then some (.blanks (c :: rest.takeWhile isBlank), rest.dropWhile isBlank)
      else some (.plain c, rest) := by
  unfold next?
  rw [quoted?_other true noQuote, comment?_of_not_prefix plain]

/-- A run of blanks is one piece if something else follows. -/
theorem next?_blanks {c : Char} {others rest : List Char} (all : ∀ d ∈ c :: others, isBlank d = true)
    (stop : ∀ d ∈ rest.head?, isBlank d = false) :
    next? (c :: others ++ rest) = some (.blanks (c :: others), rest) := by
  obtain ⟨first, further⟩ := List.forall_mem_cons.1 all
  have plain := Scan.notMem_special_of_isBlank first
  have noQuote : Quote.of? c = none := by
    rw [Quote.of?_eq_none_iff]
    constructor <;> rintro rfl <;> exact plain (by decide)
  have noComment : ¬['/', '*'] <+: c :: (others ++ rest) := by
    rintro ⟨_, same⟩
    exact plain (by rw [← (List.cons.inj same).1]; decide)
  have none : rest.takeWhile isBlank = [] ∧ rest.dropWhile isBlank = rest := by
    cases rest with
    | nil => exact ⟨rfl, rfl⟩
    | cons d rest =>
      have solid := stop d rfl
      exact ⟨List.takeWhile_cons_of_neg (by simp [solid]), List.dropWhile_cons_of_neg (by simp [solid])⟩
  rw [List.cons_append, next?_other noQuote noComment, if_pos first,
    List.takeWhile_append_of_pos further, List.dropWhile_append_of_pos further, none.1, none.2,
    List.append_nil]

end Piece

/-- A front of texts is cut into pieces that are no comments, whatever follows it. -/
structure IsCut (front : List Char) : Prop where
  /-- What follows starts with a piece of its own. -/
  append : ∀ {more : List Char}, Separate front more → pieces (front ++ more) = pieces front ++ pieces more
  /-- There is no comment in it. -/
  uncommented : ∀ piece ∈ pieces front, piece.isComment = false

namespace Scan

variable {rules : Rules} {scan final : Scan}

/-- What a scan reads from outside strings to outside strings is cut in pieces whatever follows. -/
theorem isCut {text : List Char} (opened : scan.mode.isOpen = true)
    (read : run rules scan text = some final) (ends : final.mode.isOpen = true) : IsCut text := by
  refine ⟨fun {more} separate => ?_, isComment_of_run opened read ends⟩
  fun_induction pieces text generalizing scan with
  | case1 input none => rw [Piece.next?_eq_none none, List.nil_append, List.nil_append]
  | case2 input piece rest found ih =>
    obtain ⟨whole, nonempty⟩ := Piece.append_of_next? found
    have behind := separate.of_suffix ⟨piece.text, whole⟩
    have later : ∀ {middle : Scan}, middle.mode.isOpen = true → run rules middle rest = some final →
        Piece.next? (input ++ more) = some (piece, rest ++ more) →
        pieces (input ++ more) = piece :: pieces rest ++ pieces more := by
      intro middle opened' onward found'
      rw [pieces_of_next? found', ih opened' onward behind, List.cons_append]
    have noComment := not_prefix_of_run opened read
    have next := pieceRead read opened ends found
    rw [← whole] at later separate noComment ⊢
    cases next with
    | string opens closes onward =>
      refine later rfl onward ?_
      rw [List.append_assoc]
      exact Piece.next?_string closes _
    | blanks all stop early opened' onward =>
      rename_i c others middle
      refine later opened' onward ?_
      rw [List.append_assoc]
      refine Piece.next?_blanks all fun d head => ?_
      -- If the run is all of the text, then no run goes over its end.
      cases rest with
      | cons e rest => exact stop d head
      | nil =>
        rw [Piece.text, List.append_nil] at separate
        obtain ⟨last, mem⟩ := Option.ne_none_iff_exists'.1 (mt List.getLast?_eq_none_iff.1 nonempty)
        have blank := all last (List.mem_of_getLast? mem)
        by_contra loose
        exact (separate last mem d head).1 ⟨blank, by simpa using loose⟩
    | plain solid noQuote early opened' onward =>
      rename_i c middle
      refine later opened' onward ?_
      have started : (Piece.plain c).text ++ rest ++ more = c :: (rest ++ more) := rfl
      have plain : ¬['/', '*'] <+: c :: (rest ++ more) := separate.not_opening noComment
      rw [started, Piece.next?_other noQuote plain, if_neg (by simp [solid])]

/-- Whether a slash was read last is remembered. -/
theorem slash_of_run {text : List Char} {last : Char} (mem : last ∈ text.getLast?)
    (read : run rules scan text = some final) : final.slash = (last = '/' : Bool) := by
  obtain ⟨front, rfl⟩ := List.getLast?_eq_some_iff.1 mem
  obtain ⟨middle, -, taken⟩ := run_append_eq_some.1 read
  obtain ⟨next, stepped, same⟩ := run_cons_eq_some.1 taken
  obtain ⟨-, mode, -, rfl⟩ := step_eq_some_iff.1 stepped
  cases same
  rfl

/-- Behind a slash a scan does not read a star. -/
theorem ne_star_of_run {c : Char} {text : List Char} (opened : scan.mode.isOpen = true)
    (slash : scan.slash = true) (read : run rules scan text = some final) (head : c ∈ text.head?) :
    c ≠ '*' := by
  rintro rfl
  obtain ⟨tail, rfl⟩ := List.head?_eq_some_iff.1 head
  obtain ⟨next, stepped, -⟩ := run_cons_eq_some.1 read
  obtain ⟨kept, -⟩ := step_eq_some_iff.1 stepped
  simp [refuses, opened, slash] at kept

/-- Between two segments a scan is in no string. -/
theorem isOpen_of_isBetween (between : scan.isBetween = true) : scan.mode.isOpen = true := by
  unfold isBetween at between
  split at between <;> first | (rename_i mode; rw [mode]; rfl) | cases between

/-- A scan reads the segments of a text up to any place between two of them, and on from there. -/
theorem run_front {urls : Bool} {first second : List Segment} {input rest : List Char}
    (split : segments urls input = (first ++ second, rest)) (between : scan.isBetween = true)
    (plain : NoComment (scan.slashText ++ (first ++ second).flatMap Segment.masked)) :
    ∃ middle final, run (loose urls) scan (Segment.textAll first) = some middle ∧
      middle.isBetween = true ∧ run (loose urls) middle (Segment.textAll second) = some final ∧
      final.isBetween = true := by
  induction first generalizing scan input with
  | nil =>
    rw [List.nil_append] at split plain
    have plain' : NoComment (scan.slashText ++ (segments urls input).1.flatMap Segment.masked) := by
      rw [split]
      exact plain
    obtain ⟨final, read, ends⟩ := run_segments between plain'
    rw [split] at read
    exact ⟨scan, final, rfl, between, read, ends⟩
  | cons segment first ih =>
    obtain ⟨tail, next, others⟩ := next?_of_segments split
    obtain ⟨later, read, between', following⟩ := run_segment next between plain
    obtain ⟨middle, final, early, between'', late, ends⟩ := ih others between' following
    refine ⟨middle, final, ?_, between'', late, ends⟩
    rw [Segment.textAll_cons, run_append, read]
    exact early

end Scan

/-! ### Texts parted in two -/

/-- A text is parted in two at a place outside strings, and there is no comment in it. -/
structure IsParted (first second : List Char) : Prop where
  /-- The front is cut in pieces whatever follows. -/
  front : IsCut first
  /-- There is no comment in the back. -/
  back : ∀ piece ∈ pieces second, piece.isComment = false
  /-- There is no comment in the whole. -/
  whole : ∀ piece ∈ pieces (first ++ second), piece.isComment = false
  /-- No comment mark stands at the start. -/
  starts : ¬['/', '*'] <+: first
  /-- No comment mark goes over the place. -/
  marks : ∀ last ∈ first.getLast?, ∀ c ∈ second.head?, ¬(last = '/' ∧ c = '*')

/-- A prelude is parted at any place between two segments. -/
theorem isParted_of_segments {urls : Bool} {first second : List Segment} {input rest : List Char}
    (split : segments urls input = (first ++ second, rest))
    (plain : NoComment ((first ++ second).flatMap Segment.masked)) :
    IsParted (Segment.textAll first) (Segment.textAll second) := by
  obtain ⟨middle, final, read, between, onward, ends⟩ := Scan.run_front split
    (show Scan.start.isBetween = true from rfl) plain
  have opened := Scan.isOpen_of_isBetween between
  have ends := Scan.isOpen_of_isBetween ends
  refine ⟨Scan.isCut rfl read opened, Scan.isComment_of_run opened onward ends,
    Scan.isComment_of_run rfl (Scan.run_append_eq_some.2 ⟨middle, read, onward⟩) ends,
    Scan.not_prefix_of_run rfl read, ?_⟩
  rintro last mem c head ⟨rfl, rfl⟩
  exact Scan.ne_star_of_run opened (by rw [Scan.slash_of_run mem read]; rfl) onward head rfl

/-- A selector or declaration is parted at any place between two segments behind its first character. -/
theorem isParted_of_startsText {urls : Bool} {c : Char} {first second : List Segment}
    {tail rest : List Char} (starts : startsText c = true)
    (split : segments urls tail = (first ++ second, rest))
    (plain : NoComment (c :: (first ++ second).flatMap Segment.masked)) :
    IsParted (c :: Segment.textAll first) (Segment.textAll second) := by
  have plain : NoComment ((Scan.behind c).slashText ++ (first ++ second).flatMap Segment.masked) := by
    by_cases slash : c = '/'
    · simpa [Scan.slashText, Scan.behind, slash] using plain
    · exact plain.of_infix ⟨[c], [], by simp [Scan.slashText, Scan.behind, slash]⟩
  obtain ⟨middle, final, read, between, onward, ends⟩ := Scan.run_front split
    (show (Scan.behind c).isBetween = true from rfl) plain
  have opened := Scan.isOpen_of_isBetween between
  have ends := Scan.isOpen_of_isBetween ends
  have whole := Scan.run_append_eq_some.2 ⟨middle, read, onward⟩
  have cut := Scan.isCut rfl read opened
  have noComment := Scan.not_prefix_of_run_behind read
  refine ⟨⟨fun {more} separate => ?_, ?_⟩, Scan.isComment_of_run opened onward ends, ?_,
    noComment, ?_⟩
  · rw [List.cons_append, pieces_of_startsText starts (separate.not_opening noComment),
      cut.append (separate.of_suffix (List.suffix_cons c _)), pieces_cons starts read, List.cons_append]
  · rw [pieces_cons starts read]
    exact List.forall_mem_cons.2 ⟨rfl, cut.uncommented⟩
  · rw [List.cons_append, pieces_cons starts whole]
    exact List.forall_mem_cons.2 ⟨rfl, Scan.isComment_of_run rfl whole ends⟩
  · rintro last mem d head ⟨rfl, rfl⟩
    refine Scan.ne_star_of_run opened ?_ onward head rfl
    generalize Segment.textAll first = front at mem read
    cases front with
    | nil =>
      cases mem
      cases read
      rfl
    | cons e front =>
      rw [List.getLast?_cons_cons] at mem
      rw [Scan.slash_of_run mem read]
      rfl

/-- A comment starts a piece of its own behind any text. -/
theorem separate_comment {comment : List Char} (complete : comment? comment = some (comment, []))
    (first more : List Char) : Separate first (comment ++ more) := by
  obtain ⟨⟨tail, rfl⟩, -⟩ := exists_of_comment? complete
  rintro last mem c head
  cases head
  exact ⟨fun blank => absurd blank.2 (by decide), fun star => absurd star.2 (by decide)⟩

namespace IsParted

variable {first second comment : List Char}

/-- A comment at the place is a piece of its own. -/
theorem pieces_insert (parted : IsParted first second)
    (complete : comment? comment = some (comment, [])) :
    pieces (first ++ (comment ++ second)) = pieces first ++ .comment comment :: pieces second := by
  rw [parted.front.append (separate_comment complete first second), Scan.pieces_of_next? (Piece.next?_comment complete second)]

/-- Where blanks are kept, a comment at the place is dropped without a trace. -/
theorem uncommented_insert (parted : IsParted first second)
    (complete : comment? comment = some (comment, [])) :
    uncommented (first ++ (comment ++ second)) = uncommented (first ++ second) := by
  rw [uncommented, parted.pieces_insert complete, uncommented_eq_trim parted.whole, List.flatMap_append,
    List.flatMap_cons, flatMap_uncommented parted.front.uncommented, flatMap_uncommented parted.back]
  rfl

/-- Where runs of blanks are single spaces, it is if it parts no such run. -/
theorem clean_insert (parted : IsParted first second)
    (complete : comment? comment = some (comment, []))
    (apart : ∀ last ∈ first.getLast?, ∀ c ∈ second.head?, ¬(isBlank last = true ∧ isBlank c = true)) :
    clean (first ++ (comment ++ second)) = clean (first ++ second) := by
  have separate : Separate first second := fun last mem c head =>
    ⟨apart last mem c head, parted.marks last mem c head⟩
  rw [clean, parted.pieces_insert complete, clean, parted.front.append separate, List.flatMap_append,
    List.flatMap_append, List.flatMap_cons]
  rfl

/-- The comment is not skipped together with what stands before it. -/
theorem skipIgnored_insert (parted : IsParted first second)
    (complete : comment? comment = some (comment, [])) {c : Char} (head : c ∈ first.head?)
    (solid : isBlank c = false) (more : List Char) :
    skipIgnored (first ++ (comment ++ more)) = first ++ (comment ++ more) := by
  obtain ⟨tail, rfl⟩ := List.head?_eq_some_iff.1 head
  have noComment := (separate_comment complete _ more).not_opening parted.starts
  have first := comment?_of_not_prefix noComment
  exact skipIgnored_of_head first (isSpacing_of_not_isBlank solid)

/-- A token with a comment at the place says what it says without, in a selector or prelude if the comment
parts no run of blanks. -/
theorem agrees (parted : IsParted first second) (complete : comment? comment = some (comment, []))
    {token token' : Token} (text : token.text = first ++ second)
    (text' : token'.text = first ++ (comment ++ second)) {role : Terminal} (kind : role.isText = true)
    (apart : role ≠ .declaration →
      ∀ last ∈ first.getLast?, ∀ c ∈ second.head?, ¬(isBlank last = true ∧ isBlank c = true)) :
    token.Agrees role token' := by
  have cleaned : role ≠ .declaration → token'.cleaned = token.cleaned := by
    intro other
    rw [Token.cleaned, Token.cleaned, text, text', parted.clean_insert complete (apart other)]
  cases role with
  | declaration =>
    refine fun content => Declaration.ofToken_congr ?_
    rw [text, text', parted.uncommented_insert complete]
  | selector => exact cleaned (by decide)
  | «prelude» => exact cleaned (by decide)
  | _ => cases kind

end IsParted

/-! ### Tokens that are found with a comment -/

namespace IsInert

variable {comment : List Char} {c : Char} {first second : List Segment} {tail input rest : List Char}

/-- A comment in a selector leaves a selector, and no declaration. -/
theorem selector?_insert (inert : IsInert comment) (starts : startsText c = true)
    (split : segments false tail = (first ++ second, rest)) (head : rest.head? = some '\x7b')
    (closes : ClosesAddresses (Segment.textAll first ++ Segment.textAll second)) :
    let text := c :: (Segment.textAll first ++ (comment ++ Segment.textAll second))
    declaration? (text ++ rest) = none ∧
      ∃ found, selector? (text ++ rest) = some (found, rest) ∧ Segment.textAll found = text := by
  obtain ⟨found, split', spelled⟩ := inert.segments_insert split
  obtain ⟨after, rfl⟩ := List.head?_eq_some_iff.1 head
  have stops : Stops ('\x7b' :: after) := stops_of_head (.inl rfl) after
  obtain ⟨found', addresses, open'⟩ :=
    exists_segments_true split' (by rw [spelled]; exact inert.closesAddresses closes) stops
  have ends : endsDeclaration '\x7b' = false := by decide
  refine ⟨?_, .plain c :: found, ?_, by rw [Segment.textAll_cons, spelled]; rfl⟩
  · simp [declaration?, opening?_cons starts, addresses, ends, reopen?_eq_none open']
  · simp [selector?, opening?_cons starts, split']

/-- A comment in a declaration leaves a declaration. -/
theorem declaration?_insert (inert : IsInert comment) (starts : startsText c = true)
    (split : segments true tail = (first ++ second, rest))
    (ends : rest.head?.any endsDeclaration = true) :
    let text := c :: (Segment.textAll first ++ (comment ++ Segment.textAll second))
    ∃ found, declaration? (text ++ rest) = some (found, rest) ∧ Segment.textAll found = text := by
  obtain ⟨found, split', spelled⟩ := inert.segments_insert split
  refine ⟨.plain c :: found, ?_, by rw [Segment.textAll_cons, spelled]; rfl⟩
  simp [declaration?, opening?_cons starts, split', ends]

/-- A comment in a prelude leaves a prelude. -/
theorem prelude?_insert (inert : IsInert comment)
    (split : segments true input = (first ++ second, rest)) (head : c ∈ (Segment.textAll first).head?)
    (solid : isBlank c = false) :
    let text := Segment.textAll first ++ (comment ++ Segment.textAll second)
    ∃ found, prelude? (text ++ rest) = some (found, rest) ∧ Segment.textAll found = text := by
  obtain ⟨found, split', spelled⟩ := inert.segments_insert split
  obtain ⟨front, starts⟩ := List.head?_eq_some_iff.1 head
  cases found with
  | nil =>
    rw [starts] at spelled
    cases spelled
  | cons segment following =>
    obtain ⟨after, next, others⟩ := next?_of_segments split'
    have notBlank : segment.text.all isBlank = false := by
      cases first' : segment.text with
      | nil => exact absurd first' (Segment.text_ne_nil_of_next? next)
      | cons d inner =>
        rw [Segment.textAll_cons, first', starts] at spelled
        rw [(List.cons.inj spelled).1]
        simp [solid]
    refine ⟨segment :: following, ?_, spelled⟩
    simp [prelude?, next, others, notBlank]

end IsInert

/-- The first character of segments is that of the first of them. -/
theorem head?_of_segments {urls : Bool} {input rest : List Char} {first second : List Segment}
    (split : segments urls input = (first ++ second, rest)) (nonempty : first ≠ []) :
    (Segment.textAll first).head? = (Segment.textAll (first ++ second)).head? := by
  cases first with
  | nil => exact absurd rfl nonempty
  | cons segment others =>
    obtain ⟨tail, next, -⟩ := next?_of_segments split
    have some := Segment.text_ne_nil_of_next? next
    rw [textAll_append, Segment.textAll_cons, List.append_assoc, List.head?_append_of_ne_nil _ some,
      List.head?_append_of_ne_nil _ some]

/-- A plain selector, prelude or declaration is found with an inert comment between two of its segments,
and is parted there. -/
theorem Token.foundAs_insert {stage : Stage} {offset : Nat} {input rest comment : List Char} {token : Token}
    {first second : List Segment} (found : next? stage.sought offset input = some (token, rest))
    (text : token.terminal.isText = true) (plain : token.IsPlain) (cut : token.segments = first ++ second)
    (nonempty : first ≠ []) (inert : IsInert comment) (offset' : Nat) :
    IsParted (Segment.textAll first) (Segment.textAll second) ∧
      FoundAs stage offset' token.terminal
        (Segment.textAll first ++ (comment ++ Segment.textAll second)) rest := by
  obtain ⟨mem, matched, -⟩ := next?_eq_some found
  obtain ⟨uncommented, closed⟩ := id plain
  rw [Token.text, cut, textAll_append] at closed
  rw [cut] at uncommented
  -- Nothing is skipped, whatever the kind: the text starts as it did without the comment.
  have starts : ∀ {c : Char}, IsParted (Segment.textAll first) (Segment.textAll second) →
      c ∈ (Segment.textAll first).head? → isBlank c = false →
      let text := Segment.textAll first ++ (comment ++ Segment.textAll second)
      skipIgnored (text ++ rest) = text ++ rest := by
    intro c parted head solid
    dsimp only
    rw [List.append_assoc, List.append_assoc]
    exact parted.skipIgnored_insert inert.complete head solid _
  cases kind : token.terminal with
  | selector =>
    rw [kind] at matched mem
    obtain ⟨c, tail, following, opens, split, whole, head⟩ := exists_of_selector? matched
    obtain ⟨first, rfl, rfl⟩ :=
      (List.append_eq_cons_iff.1 (cut.symm.trans whole)).resolve_left fun none => nonempty none.1
    have parted := isParted_of_startsText opens split uncommented
    obtain ⟨none, split'⟩ := inert.selector?_insert opens split head closed.tail
    refine ⟨parted, foundAs_of_match? mem (.inl rfl) (starts parted rfl (isBlank_of_startsText opens))
      (fun other tried => ?_) split' offset'⟩
    rw [List.mem_singleton.1 tried]
    exact none
  | declaration =>
    rw [kind] at matched mem
    obtain ⟨c, tail, following, opens, split, whole, ends⟩ := plain.exists_of_declaration? matched
    obtain ⟨first, rfl, rfl⟩ :=
      (List.append_eq_cons_iff.1 (cut.symm.trans whole)).resolve_left fun none => nonempty none.1
    have parted := isParted_of_startsText opens split uncommented
    exact ⟨parted, foundAs_of_match? mem (.inl rfl) (starts parted rfl (isBlank_of_startsText opens))
      (by simp [Terminal.triedBefore]) (inert.declaration?_insert opens split ends) offset'⟩
  | «prelude» =>
    rw [kind] at matched mem
    obtain ⟨split, c, head, solid⟩ := exists_of_prelude? matched
    rw [cut] at split head
    have parted := isParted_of_segments split uncommented
    rw [← head?_of_segments split nonempty] at head
    exact ⟨parted, foundAs_of_match? mem (.inl rfl) (starts parted head solid)
      (by simp [Terminal.triedBefore]) (inert.prelude?_insert split head solid) offset'⟩
  | _ =>
    rw [kind] at text
    cases text

end ViewportScaling.Css
