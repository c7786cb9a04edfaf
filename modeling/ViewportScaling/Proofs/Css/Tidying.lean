import ViewportScaling.Proofs.Css.Splitting

/-!
# Tidied texts

Cleaning goes by pieces, which are not the segments that a token was read in. But where a scan reads a
text, both see the same strings, and there are no comments. So cleaning only makes runs of blanks into
single spaces, and the scan comes to the same end as before, now also if it is asked to be tight. A text
that is read tightly is kept by cleaning, with or without a space behind it.
-/

namespace ViewportScaling.Css

open Unicode Text

namespace Scan

variable {rules : Rules} {scan final : Scan}

/-! ### Pieces of scanned texts -/

/-- Outside strings, a character that is no quote does not lead into one. -/
theorem isOpen_next {c : Char} {next : Scan} (noQuote : Quote.of? c = none)
    (opened : scan.mode.isOpen = true) (taken : scan.step rules c = some next) :
    next.mode.isOpen = true := by
  obtain ⟨-, mode, stepped, rfl⟩ := step_eq_some_iff.1 taken
  cases before : scan.mode with
  | outside stem =>
    rw [before] at stepped
    simp only [Mode.step, noQuote] at stepped
    split at stepped <;> cases stepped
    unfold Stem.read
    split
    · rfl
    split
    · rfl
    split
    · rfl
    split <;> rfl
  | address clean =>
    rw [before] at stepped
    simp only [Mode.step, noQuote] at stepped
    split at stepped
    · cases stepped
      rfl
    split at stepped
    · split at stepped <;> cases stepped
      rfl
    · cases stepped
      rfl
  | quoted quote =>
    rw [before] at opened
    cases opened
  | escaped quote =>
    rw [before] at opened
    cases opened

/-- Outside strings, a quote leads into one. -/
theorem mode_of_mark {quote : Quote} {addresses : Bool} {mode next : Mode} (opened : mode.isOpen = true)
    (stepped : mode.step addresses quote.mark = some next) : next = .quoted quote := by
  cases mode with
  | outside stem =>
    simp only [Mode.step, Quote.of?_mark, Option.some.injEq] at stepped
    exact stepped.symm
  | address clean =>
    simp only [Mode.step, Quote.of?_mark] at stepped
    split at stepped <;> cases stepped
    rfl
  | quoted quote => cases opened
  | escaped quote => cases opened

/-- A quote that is read outside of strings opens one. -/
theorem next_of_mark {quote : Quote} {next : Scan} (opened : scan.mode.isOpen = true)
    (taken : scan.step rules quote.mark = some next) : next = ⟨.quoted quote, false, false⟩ := by
  obtain ⟨-, mode, stepped, rfl⟩ := step_eq_some_iff.1 taken
  have solid : isBlank quote.mark = false := by cases quote <;> decide
  have slash : quote.mark ≠ '/' := by cases quote <;> decide
  simp [mode_of_mark opened stepped, solid, slash]

/-- A piece that a scanned text starts with, by what the scan says of it. -/
inductive PieceRead (rules : Rules) (scan final : Scan) (rest : List Char) : Piece → Prop where
  /-- A string is read from outside it to outside it. -/
  | string {quote : Quote} {body tail after : List Char}
      (opens : scan.step rules quote.mark = some ⟨.quoted quote, false, false⟩)
      (closes : closing? false quote.mark tail = some (body, after))
      (onward : run rules start rest = some final) :
      PieceRead rules scan final rest (.quoted (quote.mark :: body))
  /-- A run of blanks goes on until something else follows. -/
  | blanks {c : Char} {others : List Char} {middle : Scan}
      (all : ∀ d ∈ c :: others, isBlank d = true)
      (ends : ∀ d ∈ rest.head?, isBlank d = false)
      (read : run rules scan (c :: others) = some middle) (opened : middle.mode.isOpen = true)
      (onward : run rules middle rest = some final) :
      PieceRead rules scan final rest (.blanks (c :: others))
  /-- Any other character is no quote. -/
  | plain {c : Char} {middle : Scan} (solid : isBlank c = false) (noQuote : Quote.of? c = none)
      (read : scan.step rules c = some middle) (opened : middle.mode.isOpen = true)
      (onward : run rules middle rest = some final) :
      PieceRead rules scan final rest (.plain c)

/-- Blanks open no string. -/
theorem isOpen_of_run_blanks {blanks : List Char} (all : ∀ c ∈ blanks, isBlank c = true)
    (opened : scan.mode.isOpen = true) (read : run rules scan blanks = some final) :
    final.mode.isOpen = true := by
  induction blanks generalizing scan with
  | nil =>
    cases read
    exact opened
  | cons c rest ih =>
    obtain ⟨first, others⟩ := List.forall_mem_cons.1 all
    obtain ⟨next, taken, following⟩ := run_cons_eq_some.1 read
    have plain := notMem_special_of_isBlank first
    have noQuote : Quote.of? c = none := by
      rw [Quote.of?_eq_none_iff]
      constructor <;> rintro rfl <;> exact plain (by decide)
    exact ih others (isOpen_next noQuote opened taken) following

/-- No comment starts where a scan reads on. -/
theorem not_prefix_of_run {text : List Char} (opened : scan.mode.isOpen = true)
    (read : run rules scan text = some final) : ¬['/', '*'] <+: text := by
  rintro ⟨rest, rfl⟩
  obtain ⟨next, taken, following⟩ := run_cons_eq_some.1 read
  obtain ⟨later, refused, -⟩ := run_cons_eq_some.1 following
  have opened' := isOpen_next rfl opened taken
  obtain ⟨-, mode, -, rfl⟩ := step_eq_some_iff.1 taken
  obtain ⟨kept, -⟩ := step_eq_some_iff.1 refused
  simp only at opened'
  simp [refuses, opened'] at kept

/-- No comment starts at the character that a scan starts behind. -/
theorem not_prefix_of_run_behind {c : Char} {tail : List Char}
    (read : run rules (.behind c) tail = some final) : ¬['/', '*'] <+: c :: tail := by
  rintro ⟨rest, same⟩
  cases same
  obtain ⟨next, taken, -⟩ := run_cons_eq_some.1 read
  obtain ⟨kept, -⟩ := step_eq_some_iff.1 taken
  simp [refuses, behind, Mode.isOpen] at kept

/-- Each piece that a scanned text starts with is read by the scan. -/
theorem pieceRead {text rest : List Char} {piece : Piece} (read : run rules scan text = some final)
    (opened : scan.mode.isOpen = true) (ends : final.mode.isOpen = true)
    (found : Piece.next? text = some (piece, rest)) : PieceRead rules scan final rest piece := by
  have noComment := comment?_of_not_prefix (not_prefix_of_run opened read)
  cases text with
  | nil => cases found
  | cons c tail =>
    obtain ⟨next, taken, following⟩ := run_cons_eq_some.1 read
    unfold Piece.next? at found
    cases isQuote : Quote.of? c with
    | some quote =>
      obtain rfl := Quote.of?_eq_some_iff.1 isQuote
      have quoted := next_of_mark opened taken
      rw [quoted] at following taken
      obtain ⟨body, after, rfl, onward, -, closed⟩ := exists_closing? following ends
      have string : quoted? true (quote.mark :: (body ++ after)) = some (quote.mark :: body, after) := by
        have closes := closed true []
        rw [List.append_nil, List.append_nil] at closes
        rw [quoted?_mark, closes]
        rfl
      rw [string] at found
      cases found
      exact .string taken (closed false []) onward
    | none =>
      have string := quoted?_other true isQuote tail
      rw [string, noComment] at found
      simp only at found
      split at found
      · rename_i blank
        cases found
        have whole : c :: tail = (c :: tail.takeWhile isBlank) ++ tail.dropWhile isBlank := by
          rw [List.cons_append, List.takeWhile_append_dropWhile]
        have all : ∀ d ∈ c :: tail.takeWhile isBlank, isBlank d = true :=
          List.forall_mem_cons.2 ⟨blank, fun d mem => List.mem_takeWhile_imp mem⟩
        rw [whole] at read
        obtain ⟨middle, early, late⟩ := run_append_eq_some.1 read
        refine .blanks all ?_ early (isOpen_of_run_blanks all opened early) late
        intro d mem
        have := List.head?_dropWhile_not isBlank tail
        rw [mem] at this
        simpa using this
      · rename_i solid
        cases found
        exact .plain (by simpa using solid) isQuote taken (isOpen_next isQuote opened taken) following

/-- The first piece is cut off before the others. -/
theorem pieces_of_next? {text rest : List Char} {piece : Piece}
    (found : Piece.next? text = some (piece, rest)) : pieces text = piece :: pieces rest := by
  rw [pieces]
  split
  · rename_i none
    rw [found] at none
    cases none
  · rename_i some
    rw [found] at some
    cases some
    rfl

/-- A scanned text holds no comments. -/
theorem isComment_of_run {text : List Char} (opened : scan.mode.isOpen = true)
    (read : run rules scan text = some final) (ends : final.mode.isOpen = true) :
    ∀ piece ∈ pieces text, piece.isComment = false := by
  fun_induction pieces text generalizing scan with
  | case1 => simp
  | case2 input piece rest found ih =>
    rw [List.forall_mem_cons]
    cases pieceRead read opened ends found with
    | string opens closes onward => exact ⟨rfl, ih rfl onward⟩
    | blanks all next early opened' onward => exact ⟨rfl, ih opened' onward⟩
    | plain solid noQuote early opened' onward => exact ⟨rfl, ih opened' onward⟩

/-! ### Tight rules -/

/-- The rules that make runs of blanks single spaces. -/
def narrow (addresses : Bool) : Rules := ⟨addresses, true⟩

/-- A character that is not blank is read under tight rules as under loose ones. -/
theorem step_narrow {addresses : Bool} {c : Char} {next : Scan} (solid : isBlank c = false)
    (taken : scan.step (loose addresses) c = some next) (blank : Bool) :
    step (narrow addresses) { scan with blank } c = some next := by
  obtain ⟨kept, mode, stepped, rfl⟩ := step_eq_some_iff.1 taken
  refine step_eq_some_iff.2 ⟨?_, mode, stepped, ?_⟩
  · simpa [refuses, loose, narrow, solid] using kept
  · simp [loose, narrow, solid]

/-- A single space is read where none was read before it. -/
theorem step_narrow_space (addresses : Bool) {scan : Scan} (solid : scan.blank = false) :
    scan.step (narrow addresses) ' ' = some ⟨scan.mode.settle, false, true⟩ := by
  refine step_eq_some_iff.2 ⟨?_, _, mode_step_of_notMem scan.mode (by decide) (by decide), ?_⟩
  · simp [refuses, narrow, solid]
  · rfl

/-- What is read under tight rules is read under loose ones. -/
theorem run_loose {addresses : Bool} {text : List Char}
    (read : run (narrow addresses) scan text = some final) :
    run (loose addresses) { scan with blank := false } text = some { final with blank := false } := by
  induction text generalizing scan with
  | nil =>
    cases read
    rfl
  | cons c rest ih =>
    obtain ⟨next, taken, following⟩ := run_cons_eq_some.1 read
    obtain ⟨kept, mode, stepped, rfl⟩ := step_eq_some_iff.1 taken
    refine run_cons_eq_some.2 ⟨_, step_eq_some_iff.2 ⟨?_, mode, stepped, rfl⟩, ih following⟩
    simp only [refuses, Bool.and_eq_false_iff, Bool.or_eq_false_iff] at kept ⊢
    rcases kept with closed | ⟨mark, -⟩
    · exact .inl closed
    · exact .inr ⟨mark, .inl (.inl rfl)⟩

/-- Whether a blank was read last is remembered. -/
theorem blank_of_run {text : List Char} {last : Char} (mem : last ∈ text.getLast?)
    (read : run rules scan text = some final) : final.blank = (rules.tight && isBlank last) := by
  obtain ⟨front, rfl⟩ := List.getLast?_eq_some_iff.1 mem
  obtain ⟨middle, -, taken⟩ := run_append_eq_some.1 read
  obtain ⟨next, stepped, same⟩ := run_cons_eq_some.1 taken
  obtain ⟨-, mode, -, rfl⟩ := step_eq_some_iff.1 stepped
  cases same
  rfl

/-- Single spaces for runs of blanks bring a scan to the same end. -/
theorem run_spaced {addresses : Bool} {text : List Char} (opened : scan.mode.isOpen = true)
    (read : run (loose addresses) scan text = some final) (ends : final.mode.isOpen = true)
    (blank : Bool) (single : blank = true → ∀ c ∈ text.head?, isBlank c = false) :
    ∃ later, run (narrow addresses) { scan with blank } ((pieces text).flatMap Piece.spaced) =
        some { final with blank := later } := by
  fun_induction pieces text generalizing scan blank with
  | case1 input none =>
    rw [Piece.next?_eq_none none] at read
    cases read
    exact ⟨blank, rfl⟩
  | case2 input piece rest found ih =>
    have whole := (Piece.append_of_next? found).1
    rw [List.flatMap_cons, run_append]
    cases pieceRead read opened ends found with
    | string opens closes onward =>
      rename_i quote body tail after
      have solid : isBlank quote.mark = false := by cases quote <;> decide
      obtain ⟨later, others⟩ := ih rfl onward false (absurd · Bool.false_ne_true)
      refine ⟨later, ?_⟩
      change (run _ _ (quote.mark :: body)).bind _ = _
      rw [run_cons, step_narrow solid opens, Option.bind_some, run_of_closing? _ _ closes,
        Option.bind_some]
      exact others
    | blanks all next early opened' onward =>
      rename_i c others middle
      -- One space brings the scan where the whole run does; nothing refuses it, as no blank is before it.
      have settled := run_blanks all (by simp) early
      obtain ⟨later, following⟩ := ih opened' onward true fun _ => next
      have before : blank = false := by
        by_contra loose
        rw [Bool.not_eq_false] at loose
        have solid := single loose c (by rw [← whole]; rfl)
        rw [all c List.mem_cons_self] at solid
        cases solid
      refine ⟨later, ?_⟩
      change (run _ _ [' ']).bind _ = _
      rw [run_cons, step_narrow_space addresses before, Option.bind_some, run_nil, Option.bind_some]
      rw [settled] at following
      exact following
    | plain solid noQuote early opened' onward =>
      obtain ⟨later, following⟩ := ih opened' onward false (absurd · Bool.false_ne_true)
      refine ⟨later, ?_⟩
      change (run _ _ [_]).bind _ = _
      rw [run_cons, step_narrow solid early, Option.bind_some, run_nil, Option.bind_some]
      obtain ⟨-, mode, -, rfl⟩ := step_eq_some_iff.1 early
      exact following

/-- What is read under tight rules holds single spaces only. -/
theorem spaced_of_run {addresses : Bool} {text : List Char} (opened : scan.mode.isOpen = true)
    (read : run (narrow addresses) scan text = some final) (ends : final.mode.isOpen = true) :
    (pieces text).flatMap Piece.spaced = text := by
  fun_induction pieces text generalizing scan with
  | case1 input none => exact (Piece.next?_eq_none none).symm
  | case2 input piece rest found ih =>
    have whole := (Piece.append_of_next? found).1
    rw [List.flatMap_cons, ← whole]
    cases pieceRead read opened ends found with
    | string opens closes onward =>
      rw [ih rfl onward]
      rfl
    | blanks all next early opened' onward =>
      rename_i c others middle
      rw [ih opened' onward]
      have first := all c List.mem_cons_self
      obtain ⟨next, taken, following⟩ := run_cons_eq_some.1 early
      have opened'' := isOpen_of_run_blanks (show ∀ d ∈ [c], isBlank d = true by simp [first]) opened
        (run_cons_eq_some.2 ⟨next, taken, rfl⟩)
      obtain ⟨kept, mode, -, rfl⟩ := step_eq_some_iff.1 taken
      have space : c = ' ' := by
        by_contra other
        simp [refuses, opened, narrow, first, other] at kept
      have alone : others = [] := by
        cases others with
        | nil => rfl
        | cons d others =>
          obtain ⟨later, second, -⟩ := run_cons_eq_some.1 following
          obtain ⟨kept', -⟩ := step_eq_some_iff.1 second
          have blank : isBlank d = true := all d (by simp)
          simp only at opened''
          simp [refuses, opened'', narrow, first, blank] at kept'
      rw [space, alone]
      rfl
    | plain solid noQuote early opened' onward =>
      rw [ih opened' onward]
      rfl

/-- A text is read under tight rules to outside, and does not end in a blank. -/
def Tidies (addresses : Bool) (scan : Scan) (text : List Char) : Prop :=
  ∃ final, run (narrow addresses) scan text = some final ∧ final.mode.isOutside = true ∧
    final.blank = false

/-- What closes neither a string nor an address leads outside from outside only. -/
theorem isOutside_of_run {text : List Char} (closes : ∀ c ∈ text, isAddressChar c = true)
    (read : run rules scan text = some final) (ends : final.mode.isOutside = true) :
    scan.mode.isOutside = true := by
  induction text generalizing scan with
  | nil =>
    cases read
    exact ends
  | cons c rest ih =>
    obtain ⟨first, others⟩ := List.forall_mem_cons.1 closes
    obtain ⟨next, taken, following⟩ := run_cons_eq_some.1 read
    have behind := ih others following
    obtain ⟨-, mode, stepped, rfl⟩ := step_eq_some_iff.1 taken
    simp only [isAddressChar, Bool.not_eq_true', Bool.or_eq_false_iff, decide_eq_false_iff_not] at first
    obtain ⟨⟨close, double⟩, single⟩ := first
    have noQuote : Quote.of? c = none := Quote.of?_eq_none_iff.2 ⟨double, single⟩
    cases before : scan.mode with
    | outside stem => rfl
    | address clean =>
      rw [before] at stepped
      simp only [Mode.step, noQuote, if_neg close] at stepped
      split at stepped
      · split at stepped <;> cases stepped
        cases behind
      · cases stepped
        cases behind
    | quoted quote =>
      rw [before] at stepped
      simp only [Mode.step, if_neg (Quote.ne_mark noQuote quote)] at stepped
      split at stepped
      · cases stepped
        cases behind
      · split at stepped <;> cases stepped
        cases behind
    | escaped quote =>
      rw [before] at stepped
      simp only [Mode.step] at stepped
      split at stepped <;> cases stepped
      cases behind

end Scan

/-- Blanks may stand in an address. -/
theorem isAddressChar_of_isBlank {c : Char} (blank : isBlank c = true) : isAddressChar c = true := by
  have plain := Scan.notMem_special_of_isBlank blank
  simp only [Scan.special, List.mem_cons, List.not_mem_nil, or_false, not_or] at plain
  simp [isAddressChar, plain]

/-- A text that is trimmed at its end does not end with a blank. -/
theorem isBlank_of_getLast?_trimEnd (text : List Char) :
    ∀ c ∈ (trimEnd text).getLast?, isBlank c = false := by
  intro c mem
  rw [trimEnd, List.getLast?_reverse] at mem
  have := List.head?_dropWhile_not isBlank text.reverse
  rw [mem] at this
  simpa using this

namespace Scan

variable {scan final : Scan}

/-- Tidying what a scan reads makes it tidy. -/
theorem tidies_spaced {addresses : Bool} {text : List Char} (opened : scan.mode.isOpen = true)
    (read : run (loose addresses) scan text = some final) (ends : final.mode.isOutside = true) :
    Tidies addresses { scan with blank := false } (trimEnd ((pieces text).flatMap Piece.spaced)) := by
  obtain ⟨later, tight⟩ := run_spaced opened read (Mode.isOpen_of_isOutside ends) false
    (absurd · Bool.false_ne_true)
  obtain ⟨back, blank, whole⟩ := exists_trimEnd ((pieces text).flatMap Piece.spaced)
  rw [whole] at tight
  obtain ⟨middle, early, late⟩ := run_append_eq_some.1 tight
  refine ⟨middle, early, ?_, ?_⟩
  · exact isOutside_of_run (fun c mem => isAddressChar_of_isBlank (blank c mem)) late ends
  · cases last : (trimEnd ((pieces text).flatMap Piece.spaced)).getLast? with
    | none =>
      rw [List.getLast?_eq_none_iff] at last
      rw [last] at early
      cases early
      rfl
    | some c => rw [blank_of_run last early, isBlank_of_getLast?_trimEnd _ c last, Bool.and_false]

/-- What is tidy is not changed by tidying, with or without a space behind it. -/
theorem Tidies.spaced {addresses : Bool} {text : List Char} (tidy : Tidies addresses scan text)
    (opened : scan.mode.isOpen = true) : (pieces text).flatMap Piece.spaced = text ∧
      (pieces (text ++ [' '])).flatMap Piece.spaced = text ++ [' '] := by
  obtain ⟨final, read, outside, solid⟩ := tidy
  refine ⟨spaced_of_run opened read (Mode.isOpen_of_isOutside outside), ?_⟩
  have further : run (narrow addresses) scan (text ++ [' ']) = some ⟨final.mode.settle, false, true⟩ := by
    rw [run_append, read, Option.bind_some, run_cons, step_narrow_space addresses solid]
    rfl
  refine spaced_of_run opened further ?_
  cases mode : final.mode <;> rw [mode] at outside <;> first | rfl | cases outside

/-- What is tidy is read under loose rules, too, with or without a space behind it. -/
theorem Tidies.run {addresses : Bool} {text : List Char} (tidy : Tidies addresses scan text)
    (solid : scan.blank = false) : ∃ final, run (loose addresses) scan text = some final ∧
      final.mode.isOutside = true ∧ run (loose addresses) scan (text ++ [' ']) =
        some ⟨.outside .none, false, false⟩ := by
  obtain ⟨final, read, outside, -⟩ := tidy
  have wide := run_loose read
  rw [← solid] at wide
  refine ⟨_, wide, outside, ?_⟩
  rw [run_append, wide, Option.bind_some, run_cons, step_space, Option.bind_some, run_nil]
  cases mode : final.mode <;> rw [mode] at outside <;> first | rfl | cases outside

end Scan

/-! ### Selectors -/

theorem isBlank_of_startsText {c : Char} (starts : startsText c = true) : isBlank c = false := by
  simp only [startsText, Bool.not_eq_true', Bool.or_eq_false_iff] at starts
  exact starts.1.1

theorem of?_of_startsText {c : Char} (starts : startsText c = true) : Quote.of? c = none := by
  simp only [startsText, isDelimiter, Bool.not_eq_true', Bool.or_eq_false_iff,
    decide_eq_false_iff_not] at starts
  exact Quote.of?_eq_none_iff.2 ⟨starts.1.2.1.2, starts.1.2.2⟩

/-- The first character of a selector or declaration is a piece of its own. -/
theorem pieces_of_startsText {c : Char} {tail : List Char} (starts : startsText c = true)
    (plain : ¬['/', '*'] <+: c :: tail) : pieces (c :: tail) = .plain c :: pieces tail := by
  refine Scan.pieces_of_next? ?_
  have string := quoted?_other true (of?_of_startsText starts) tail
  rw [Piece.next?, string, comment?_of_not_prefix plain]
  simp [isBlank_of_startsText starts]

/-- The first character of a text that is read to its end is a piece by itself. -/
theorem pieces_cons {rules : Rules} {final : Scan} {c : Char} {tail : List Char}
    (starts : startsText c = true) (read : Scan.run rules (.behind c) tail = some final) :
    pieces (c :: tail) = .plain c :: pieces tail :=
  pieces_of_startsText starts (Scan.not_prefix_of_run_behind read)

/-- A selector or declaration that is scanned holds no comments. -/
theorem IsOpened.isComment {addresses : Bool} {text : List Char} (opened : IsOpened addresses text) :
    ∀ piece ∈ pieces text, piece.isComment = false := by
  obtain ⟨c, tail, final, rfl, starts, read, ends⟩ := opened.scanned
  rw [pieces_cons starts read]
  exact List.forall_mem_cons.2 ⟨rfl, Scan.isComment_of_run rfl read (Mode.isOpen_of_isOutside ends)⟩

/-- A text starts as a selector does, and the rest of it is tidy. -/
structure IsTidySelector (text : List Char) : Prop where
  /-- The first character and the rest. -/
  tidied : ∃ c tail, text = c :: tail ∧ startsText c = true ∧ Scan.Tidies false (.behind c) tail

/-- The cleaning of a selector is tidy. -/
theorem IsOpened.clean {text : List Char} (opened : IsOpened false text) :
    IsTidySelector (clean text) := by
  obtain ⟨c, tail, final, rfl, starts, read, ends⟩ := opened.scanned
  refine ⟨c, trimEnd ((pieces tail).flatMap Piece.spaced), ?_, starts,
    Scan.tidies_spaced rfl read ends⟩
  rw [Css.clean, pieces_cons starts read, List.flatMap_cons]
  exact trim_cons (isBlank_of_startsText starts) _

/-- A tidy text neither starts nor ends with a blank. -/
theorem Scan.Tidies.trimEnd {addresses : Bool} {scan : Scan} {text : List Char}
    (tidy : Tidies addresses scan text) : Text.trimEnd text = text := by
  obtain ⟨final, read, -, solid⟩ := tidy
  refine trimEnd_of_getLast fun last mem => ?_
  have same := blank_of_run mem read
  rw [solid] at same
  simpa [narrow] using same.symm

namespace IsTidySelector

variable {text : List Char}

/-- A tidy selector is its own cleaning, with or without a space behind it. -/
theorem clean_eq (tidy : IsTidySelector text) :
    clean text = text ∧ clean (text ++ [' ']) = text := by
  obtain ⟨c, tail, rfl, starts, inner⟩ := tidy.tidied
  obtain ⟨final, read, -, further⟩ := inner.run rfl
  obtain ⟨same, spaced⟩ := inner.spaced rfl
  have solid := isBlank_of_startsText starts
  constructor
  · rw [clean, pieces_cons starts read, List.flatMap_cons, same]
    change trim (c :: tail) = _
    rw [trim_cons solid, inner.trimEnd]
  · rw [clean, List.cons_append, pieces_cons starts further, List.flatMap_cons, spaced]
    change trim (c :: (tail ++ [' '])) = _
    rw [trim_cons solid, trimEnd_append_blanks (by decide), inner.trimEnd]

/-- A tidy selector is split off whole with the space behind it. -/
theorem opened (tidy : IsTidySelector text) : IsOpened false (text ++ [' ']) := by
  obtain ⟨c, tail, rfl, starts, inner⟩ := tidy.tidied
  obtain ⟨final, -, -, further⟩ := inner.run rfl
  exact ⟨c, tail ++ [' '], _, rfl, starts, further, rfl⟩

end IsTidySelector

/-! ### Preludes -/

/-- A text does not start with a blank and is tidy. -/
structure IsTidyPrelude (text : List Char) : Prop where
  /-- The text is not empty, and its first character is not blank. -/
  solid : ∃ c ∈ text.head?, isBlank c = false
  /-- The text is tidy. -/
  tidied : Scan.Tidies true .start text

/-- Cleaning keeps a first character that is not blank. -/
theorem head?_spaced {rules : Rules} {scan final : Scan} {c : Char} {text : List Char}
    (head : c ∈ text.head?) (solid : isBlank c = false) (opened : scan.mode.isOpen = true)
    (read : Scan.run rules scan text = some final) (ends : final.mode.isOpen = true) :
    c ∈ ((pieces text).flatMap Piece.spaced).head? := by
  cases found : Piece.next? text with
  | none =>
    rw [Piece.next?_eq_none found] at head
    cases head
  | some next =>
    obtain ⟨piece, rest⟩ := next
    have whole := (Piece.append_of_next? found).1
    rw [Scan.pieces_of_next? found, List.flatMap_cons]
    rw [← whole] at head
    cases Scan.pieceRead read opened ends found with
    | string opens closes onward => exact head
    | plain solid' noQuote early opened' onward => exact head
    | blanks all next early opened' onward =>
      cases head
      rw [all c List.mem_cons_self] at solid
      cases solid

/-- The cleaning of a prelude is tidy. -/
theorem IsPrelude.clean {text : List Char} (scanned : IsPrelude text) : IsTidyPrelude (clean text) := by
  obtain ⟨final, read, ends⟩ := scanned.scanned
  obtain ⟨c, head, solid⟩ := scanned.solid
  have first := head?_spaced head solid rfl read (Mode.isOpen_of_isOutside ends)
  have tidy := Scan.tidies_spaced rfl read ends
  obtain ⟨tail, whole⟩ := List.head?_eq_some_iff.1 first
  have trimmed : Css.clean text = trimEnd ((pieces text).flatMap Piece.spaced) := by
    rw [Css.clean, trim, whole, trimStart_cons solid]
  rw [trimmed]
  refine ⟨⟨c, ?_, solid⟩, tidy⟩
  rw [whole]
  have := trimEnd_append_cons [] solid tail
  rw [List.nil_append, List.nil_append] at this
  rw [this]
  rfl

namespace IsTidyPrelude

variable {text : List Char}

/-- A tidy prelude is trimmed. -/
theorem trim_eq (tidy : IsTidyPrelude text) : trim text = text := by
  obtain ⟨c, head, solid⟩ := tidy.solid
  have start : trimStart text = text := trimStart_of_head fun d mem => by
    rw [Option.mem_unique mem head]
    exact solid
  rw [trim, start, tidy.tidied.trimEnd]

/-- A tidy prelude is its own cleaning, with or without a space behind it. -/
theorem clean_eq (tidy : IsTidyPrelude text) : clean text = text ∧ clean (text ++ [' ']) = text := by
  obtain ⟨same, spaced⟩ := tidy.tidied.spaced rfl
  constructor
  · rw [clean, same, tidy.trim_eq]
  · rw [clean, spaced, trim_append_blanks (by decide), tidy.trim_eq]

/-- A tidy prelude is split off whole, with or without a space behind it. -/
theorem isPrelude (tidy : IsTidyPrelude text) : IsPrelude text ∧ IsPrelude (text ++ [' ']) := by
  obtain ⟨c, head, solid⟩ := tidy.solid
  obtain ⟨final, read, outside, further⟩ := tidy.tidied.run rfl
  refine ⟨⟨⟨c, head, solid⟩, final, read, outside⟩, ⟨⟨c, ?_, solid⟩, _, further, rfl⟩⟩
  rw [List.head?_append, head]
  rfl

end IsTidyPrelude

end ViewportScaling.Css
