import ViewportScaling.Proofs.Css.Recognition

/-!
# Scanned texts are split off whole

A text that a scan reads from outside to outside is split off in segments in front of a brace or a
semicolon, and nothing behind it matters. While the segments are split off, the scan may stand in what
looks like an address to it but not to the splitting, because a quote comes before the end; that the
splitting will not find an end there is the invariant of the induction. From this follow what selectors,
preludes and declarations are split off, and that no selector is taken for a declaration.
-/

namespace ViewportScaling.Css

open Unicode

/-- Whether a text starts with a brace or a semicolon. -/
def Stops (rest : List Char) : Prop := ∃ c ∈ rest.head?, isDelimiter c = true ∧ Quote.of? c = none

/-! ### One segment -/

namespace Segment

/-- No segment starts with a brace or semicolon. -/
theorem next?_stop (urls : Bool) {rest : List Char} (stops : Stops rest) : next? urls rest = none := by
  obtain ⟨c, head, delimiter, quote⟩ := stops
  cases rest with
  | nil => cases head
  | cons d tail =>
    cases head
    have noString := quoted?_other false quote tail
    have noAddress : url? (c :: tail) = none := by
      unfold url?
      split
      · rename_i same
        cases same
        cases delimiter
      · rfl
    simp [next?, noString, noAddress, delimiter]

end Segment

/-- The first segment is split off before the others. -/
theorem segments_of_next? {urls : Bool} {input rest after : List Char} {segment : Segment}
    {following : List Segment} (found : Segment.next? urls input = some (segment, rest))
    (others : segments urls rest = (following, after)) :
    segments urls input = (segment :: following, after) := by
  rw [segments]
  split
  · rename_i none
    rw [found] at none
    cases none
  · rename_i some
    rw [found] at some
    cases some
    rw [others]

namespace Scan

/-- What may be an address ends in a text that is read from it to outside. If it does not end in its
closing mark, it was clean up to the quote that ends it. -/
theorem exists_end {addresses clean slash : Bool} {final : Scan} :
    ∀ {text : List Char}, run (loose addresses) ⟨.address clean, slash, false⟩ text = some final →
      final.mode.isOutside = true → ∃ content c after, text = content ++ c :: after ∧
        (∀ d ∈ content, isAddressChar d = true) ∧
        (addresses = false → ∀ d ∈ content, isDelimiter d = false) ∧
        (c = ')' ∧ run (loose addresses) start after = some final ∨ Quote.of? c ≠ none ∧ clean = true) := by
  intro text read ends
  induction text generalizing clean slash with
  | nil =>
    cases read
    cases ends
  | cons c rest ih =>
    obtain ⟨next, taken, following⟩ := run_cons_eq_some.1 read
    obtain ⟨-, mode, stepped, rfl⟩ := step_eq_some_iff.1 taken
    simp only [Mode.step] at stepped
    split at stepped
    · rename_i quote isQuote
      refine ⟨[], c, rest, rfl, by simp, by simp, .inr ⟨by simp [isQuote], ?_⟩⟩
      split at stepped
      · assumption
      · cases stepped
    rename_i noQuote
    by_cases close : c = ')'
    · subst close
      cases stepped
      exact ⟨[], ')', rest, rfl, by simp, by simp, .inl ⟨rfl, following⟩⟩
    rw [if_neg close] at stepped
    have inside : isAddressChar c = true := by
      rw [Quote.of?_eq_none_iff] at noQuote
      simp [isAddressChar, noQuote, close]
    split at stepped
    · split at stepped
      · cases stepped
        obtain ⟨content, d, after, rfl, all, closed, last⟩ := ih following
        rename_i allowed
        refine ⟨c :: content, d, after, rfl, List.forall_mem_cons.2 ⟨inside, all⟩, ?_, ?_⟩
        · intro never
          rw [never] at allowed
          cases allowed
        · rcases last with last | ⟨-, impossible⟩
          · exact .inl last
          · cases impossible
      · cases stepped
    · rename_i open'
      cases stepped
      obtain ⟨content, d, after, rfl, all, closed, last⟩ := ih following
      refine ⟨c :: content, d, after, rfl, List.forall_mem_cons.2 ⟨inside, all⟩, fun none => ?_, last⟩
      exact List.forall_mem_cons.2 ⟨by simpa using open', closed none⟩

end Scan

/-- What was read of an opening that may be one. -/
def Mode.pending : Mode → Option (List Char)
  | .outside .none => none
  | .outside stem => some stem.text
  | .address _ => some addressOpening
  | _ => none

/-- No address is split off where the scan might see one. -/
def Mode.Unclosed (mode : Mode) (text : List Char) : Prop :=
  ∀ front ∈ mode.pending, url? (front ++ text) = none

/-- Behind a single character there is still no address where the scan might see one. -/
theorem Stem.unclosed_read {stem : Stem} {c : Char} {text : List Char}
    (unclosed : (Mode.outside stem).Unclosed (c :: text)) (never : url? (c :: text) = Option.none) :
    (stem.read c).Unclosed text := by
  intro front mem
  unfold Stem.read at mem
  split at mem
  · rename_i same
    cases mem
    rw [same] at never
    exact never
  split at mem
  · rename_i same
    cases mem
    rw [same.1, same.2] at unclosed
    exact unclosed _ rfl
  split at mem
  · rename_i same
    cases mem
    rw [same.1, same.2] at unclosed
    exact unclosed _ rfl
  split at mem
  · rename_i same
    cases mem
    rw [same.1, same.2] at unclosed
    exact unclosed _ rfl
  · cases mem

/-- The delimiters that a splitting may hold in addresses. -/
def AddressesOpen (found : List Segment) : Prop :=
  ∀ content, Segment.url content ∈ found → ∀ c ∈ content, isDelimiter c = false

/-- What holds of the addresses of the first segment and of the others holds of all. -/
theorem AddressesOpen.cons {segment : Segment} {found : List Segment} (first : AddressesOpen [segment])
    (others : AddressesOpen found) : AddressesOpen (segment :: found) := by
  intro content mem
  rcases List.mem_cons.1 mem with same | mem
  · exact first content (same ▸ List.mem_cons_self)
  · exact others content mem

/-- A text starts with an opening if it does so together with what stops it. -/
theorem exists_opening {text rest following : List Char} (stops : Stops rest)
    (same : text ++ rest = addressOpening ++ following) : ∃ inner, text = addressOpening ++ inner := by
  rcases List.append_eq_append_iff.1 same with ⟨front, whole, back⟩ | ⟨inner, whole, -⟩
  · cases front with
    | nil => exact ⟨[], by rw [List.append_nil] at whole; rw [whole, List.append_nil]⟩
    | cons d front =>
      obtain ⟨c, head, delimiter, -⟩ := stops
      rw [back] at head
      cases head
      have inside : d ∈ addressOpening := by rw [whole]; simp
      have none : ∀ c ∈ addressOpening, isDelimiter c = false := by decide
      rw [none d inside] at delimiter
      cases delimiter
  · exact ⟨inner, whole⟩

namespace Scan

variable {addresses urls : Bool} {scan next final : Scan} {c : Char} {tail rest : List Char}

/-- Where the scan might see an address that is none, a character that is read is no delimiter: in an
address it would have to be closed. -/
theorem isDelimiter_of_unclosed (allowed : addresses = true → urls = true)
    (between : scan.isBetween = true) (noQuote : Quote.of? c = none)
    (taken : scan.step (loose addresses) c = some next)
    (following : run (loose addresses) next tail = some final) (ends : final.mode.isOutside = true)
    (unclosed : urls = true → scan.mode.Unclosed (c :: tail ++ rest)) : isDelimiter c = false := by
  by_contra delimiter
  rw [Bool.not_eq_false] at delimiter
  obtain ⟨-, mode, stepped, rfl⟩ := step_eq_some_iff.1 taken
  obtain ⟨before, slash, blank⟩ := scan
  cases before with
  | outside stem =>
    simp only [Mode.step, noQuote, delimiter, if_true] at stepped
    cases stepped
  | address clean =>
    have close : c ≠ ')' := by
      rintro rfl
      cases delimiter
    have inside : isAddressChar c = true := by
      rw [Quote.of?_eq_none_iff] at noQuote
      simp [isAddressChar, noQuote, close]
    simp only [Mode.step, noQuote, if_neg close, delimiter, if_true] at stepped
    split at stepped
    · rename_i permitted
      cases stepped
      obtain ⟨content, d, after, rfl, all, -, last⟩ := exists_end following ends
      rcases last with ⟨rfl, -⟩ | ⟨-, impossible⟩
      · have never := unclosed (allowed permitted) _ rfl
        have whole : c :: (content ++ ')' :: after) ++ rest = (c :: content) ++ ')' :: (after ++ rest) := by
          simp
        rw [whole, url?_closed (List.forall_mem_cons.2 ⟨inside, all⟩)] at never
        cases never
      · cases impossible
    · cases stepped
  | quoted quote => cases between
  | escaped quote => cases between

/-- Behind a single character there is still no address where the scan might see one. -/
theorem unclosed_next (between : scan.isBetween = true) (noQuote : Quote.of? c = none)
    (open' : isDelimiter c = false) (taken : scan.step (loose addresses) c = some next)
    (unclosed : scan.mode.Unclosed (c :: tail)) (never : url? (c :: tail) = none) :
    next.mode.Unclosed tail := by
  obtain ⟨-, mode, stepped, rfl⟩ := step_eq_some_iff.1 taken
  obtain ⟨before, slash, blank⟩ := scan
  cases before with
  | outside stem =>
    simp only [Mode.step, noQuote, open'] at stepped
    cases stepped
    exact Stem.unclosed_read unclosed never
  | address clean =>
    by_cases close : c = ')'
    · subst close
      cases stepped
      intro front mem
      cases mem
    · have inside : isAddressChar c = true := by
        rw [Quote.of?_eq_none_iff] at noQuote
        simp [isAddressChar, noQuote, close]
      simp only [Mode.step, noQuote, if_neg close, open'] at stepped
      cases stepped
      intro front mem
      cases mem
      exact url?_cons_opening inside (unclosed _ rfl)
  | quoted quote => cases between
  | escaped quote => cases between

/-- An address that is split off lies in the text that is read, and the scan reads on behind it. -/
theorem exists_address {text content after : List Char} (stops : Stops rest)
    (between : scan.isBetween = true) (read : run (loose addresses) scan text = some final)
    (ends : final.mode.isOutside = true) (unclosed : scan.mode.Unclosed (text ++ rest))
    (found : url? (text ++ rest) = some (content, after)) :
    ∃ behind, text = addressOpening ++ (content ++ ')' :: behind) ∧ after = behind ++ rest ∧
      run (loose addresses) start behind = some final ∧
      (addresses = false → ∀ d ∈ content, isDelimiter d = false) := by
  obtain ⟨inner, rfl⟩ := exists_opening stops (eq_of_url? found).1
  cases before : scan.mode with
  | outside stem =>
    rw [run_append, run_opening between, Option.bind_some] at read
    obtain ⟨content', d, behind, rfl, all, closed, ⟨rfl, onward⟩ | ⟨quote, -⟩⟩ := exists_end read ends
    · rw [List.append_assoc, List.append_assoc, List.cons_append, url?_closed all, Option.some.injEq,
        Prod.mk.injEq] at found
      obtain ⟨rfl, rfl⟩ := found
      exact ⟨behind, rfl, rfl, onward, closed⟩
    · rw [List.append_assoc, List.append_assoc, List.cons_append, url?_quoted all quote] at found
      cases found
  | address clean =>
    have never := url?_of_opening (unclosed addressOpening (by rw [before]; rfl))
    rw [never] at found
    cases found
  | quoted quote =>
    rw [isBetween, before] at between
    cases between
  | escaped quote =>
    rw [isBetween, before] at between
    cases between

/-- The invariant of the splitting: a scan stands between two segments and reads a text to outside, and
it is in no address whose end the splitting might find. -/
structure ReadsOn (addresses urls : Bool) (final : Scan) (rest : List Char) (scan : Scan)
    (text : List Char) : Prop where
  /-- The scan stands between two segments. -/
  between : scan.isBetween = true
  /-- The text is read to its end. -/
  read : run (loose addresses) scan text = some final
  /-- No address is split off where the scan might see one. -/
  unclosed : urls = true → scan.mode.Unclosed (text ++ rest)

/-- From the start nothing is pending. -/
theorem readsOn_start {text : List Char} (read : run (loose addresses) start text = some final) :
    ReadsOn addresses urls final rest start text := by
  refine ⟨rfl, read, fun _ front mem => ?_⟩
  cases mem

/-- What is split off first is part of the text, and behind it the scan reads on. -/
theorem ReadsOn.step (reads : ReadsOn addresses urls final rest scan (c :: tail))
    (allowed : addresses = true → urls = true) (stops : Stops rest)
    (ends : final.mode.isOutside = true) :
    ∃ segment behind next, Segment.next? urls (c :: tail ++ rest) = some (segment, behind ++ rest) ∧
      ReadsOn addresses urls final rest next behind ∧ (addresses = false → AddressesOpen [segment]) := by
  obtain ⟨between, read, unclosed⟩ := reads
  obtain ⟨next, taken, following⟩ := run_cons_eq_some.1 read
  cases isQuote : Quote.of? c with
  | some quote =>
    obtain rfl := Quote.of?_eq_some_iff.1 isQuote
    rw [step_quote quote between, Option.some.injEq] at taken
    rw [← taken] at following
    obtain ⟨body, behind, -, onward, -, closed⟩ :=
      exists_closing? following (Mode.isOpen_of_isOutside ends)
    exact ⟨.quoted (quote.mark :: body), behind, start, Segment.next?_string urls (closed false rest),
      readsOn_start onward, fun _ => by simp [AddressesOpen]⟩
  | none =>
    by_cases address : urls = true ∧ ∃ split, url? (c :: tail ++ rest) = some split
    · obtain ⟨holds, ⟨content, after⟩, split⟩ := address
      obtain ⟨behind, -, last, onward, clean⟩ :=
        exists_address stops between read ends (unclosed holds) split
      rw [last] at split
      rw [holds]
      refine ⟨.url content, behind, start, Segment.next?_address split, readsOn_start onward,
        fun none other mem => ?_⟩
      cases List.mem_singleton.1 mem
      exact clean none
    · -- Behind a single character the scan may look as if it were in an address.
      have never : urls = true → url? (c :: tail ++ rest) = none := by
        intro holds
        by_contra some
        exact address ⟨holds, Option.ne_none_iff_exists'.1 some⟩
      have open' := isDelimiter_of_unclosed allowed between isQuote taken following ends unclosed
      obtain ⟨kept, -⟩ := step_eq_some_iff.1 taken
      obtain ⟨mode, stepped, between'⟩ := step_plain open' between kept
      have same := Option.some.inj (taken.symm.trans stepped)
      rw [← same] at between'
      have unclosed' : urls = true → next.mode.Unclosed (tail ++ rest) := fun holds =>
        unclosed_next between isQuote open' taken (unclosed holds) (never holds)
      exact ⟨.plain c, tail, next, Segment.next?_plain isQuote never open',
        ⟨between', following, unclosed'⟩, fun _ => by simp [AddressesOpen]⟩

/-- A text that is read from between two segments to outside is split off whole. -/
theorem ReadsOn.segments {text : List Char} (reads : ReadsOn addresses urls final rest scan text)
    (allowed : addresses = true → urls = true) (stops : Stops rest)
    (ends : final.mode.isOutside = true) :
    ∃ found, Css.segments urls (text ++ rest) = (found, rest) ∧ Segment.textAll found = text ∧
      (addresses = false → AddressesOpen found) := by
  generalize whole : text ++ rest = input
  fun_induction Css.segments urls input generalizing text scan with
  | case1 input none =>
    cases text with
    | nil => exact ⟨[], by rw [← whole]; rfl, rfl, fun _ => by simp [AddressesOpen]⟩
    | cons c tail =>
      obtain ⟨segment, behind, next, found, -⟩ := reads.step allowed stops ends
      rw [whole, none] at found
      cases found
  | case2 input segment after found following final' split ih =>
    cases text with
    | nil =>
      rw [← whole, List.nil_append, Segment.next?_stop urls stops] at found
      cases found
    | cons c tail =>
      obtain ⟨segment', behind, next, first, reads', clean⟩ := reads.step allowed stops ends
      rw [whole, found, Option.some.injEq, Prod.mk.injEq] at first
      obtain ⟨rfl, rfl⟩ := first
      obtain ⟨others, same, spelled, open'⟩ := ih reads' rfl
      rw [split, Prod.mk.injEq] at same
      obtain ⟨rfl, rfl⟩ := same
      refine ⟨segment :: following, rfl, ?_, fun none => (clean none).cons (open' none)⟩
      have parts := Segment.append_of_next? found
      rw [← whole, ← List.append_assoc] at parts
      rw [Segment.textAll_cons, spelled]
      exact List.append_cancel_right parts

end Scan

/-! ### Selectors, declarations and preludes -/

/-- Whether a character may start a selector or a declaration. -/
def startsText (c : Char) : Bool := !(isBlank c || isDelimiter c || c = '@')

/-- The scan of a character that is not looked at. -/
def Scan.behind (c : Char) : Scan := ⟨.outside .none, c = '/', false⟩

/-- A text starts as a selector or a declaration does, and a scan reads the rest of it to outside. -/
structure IsOpened (addresses : Bool) (text : List Char) : Prop where
  /-- The first character and the scan of the rest. -/
  scanned : ∃ c tail final, text = c :: tail ∧ startsText c = true ∧
    Scan.run (Scan.loose addresses) (.behind c) tail = some final ∧ final.mode.isOutside = true

/-- A text does not start with a blank, and a scan reads it to outside. -/
structure IsPrelude (text : List Char) : Prop where
  /-- The text is not empty, and its first character is not blank. -/
  solid : ∃ c ∈ text.head?, isBlank c = false
  /-- The scan of the text. -/
  scanned : ∃ final, Scan.start.run (Scan.loose true) text = some final ∧ final.mode.isOutside = true

/-- A character that starts a text opens it. -/
theorem opening?_cons {c : Char} (starts : startsText c = true) (tail : List Char) :
    opening? (c :: tail) = some (c, tail) := by
  simp only [opening?]
  rw [if_neg (by simpa [startsText] using starts)]

/-- What opens a text is its first character, which may start one. -/
theorem opening?_eq_some {input tail : List Char} {c : Char}
    (found : opening? input = some (c, tail)) : input = c :: tail ∧ startsText c = true := by
  have whole := append_of_opening? found
  rw [← whole] at found
  simp only [opening?] at found
  split at found
  · cases found
  · rename_i first
    exact ⟨whole.symm, by simpa [startsText] using first⟩

/-- The segments behind the first character of a selector or declaration. -/
theorem IsOpened.exists_segments {addresses : Bool} (urls : Bool) (allowed : addresses = true → urls = true)
    {text rest : List Char} (opened : IsOpened addresses text) (stops : Stops rest) :
    ∃ c tail found, opening? (text ++ rest) = some (c, tail) ∧ segments urls tail = (found, rest) ∧
      c :: Segment.textAll found = text ∧ (addresses = false → AddressesOpen found) := by
  obtain ⟨c, tail, final, rfl, starts, read, ends⟩ := opened.scanned
  have reads : Scan.ReadsOn addresses urls final rest (.behind c) tail := by
    refine ⟨rfl, read, fun _ front mem => ?_⟩
    cases mem
  obtain ⟨found, split, spelled, clean⟩ := reads.segments allowed stops ends
  exact ⟨c, tail ++ rest, found, opening?_cons starts _, split, by rw [spelled], clean⟩

/-- A brace or semicolon stops the segments. -/
theorem stops_of_head {c : Char} (mark : c = '\x7b' ∨ endsDeclaration c = true) (tail : List Char) :
    Stops (c :: tail) := by
  refine ⟨c, rfl, ?_⟩
  rcases mark with rfl | ends
  · decide
  · simp only [endsDeclaration, Bool.or_eq_true, decide_eq_true_eq] at ends
    rcases ends with rfl | rfl <;> decide

/-- A text that is read as a selector is split off in front of a brace. -/
theorem IsOpened.selector? {text : List Char} (opened : IsOpened false text) (tail : List Char) :
    ∃ found, selector? (text ++ '\x7b' :: tail) = some (found, '\x7b' :: tail) ∧
      Segment.textAll found = text := by
  obtain ⟨c, rest, found, first, split, spelled, -⟩ :=
    opened.exists_segments false id (stops_of_head (.inl rfl) tail)
  refine ⟨.plain c :: found, ?_, spelled⟩
  simp [Css.selector?, first, split]

/-- Where no address holds a delimiter, none is given up. -/
theorem reopen?_eq_none {found : List Segment} (clean : AddressesOpen found) (after : List Char) :
    reopen? found after = none := by
  induction found with
  | nil => rfl
  | cons segment found ih =>
    have others : AddressesOpen found := fun content mem => clean content (List.mem_cons_of_mem _ mem)
    simp only [reopen?, ih others]
    cases segment with
    | plain c => rfl
    | quoted text => rfl
    | url content =>
      have none : content.dropWhile (fun c => !(c = '\x7b' || endsDeclaration c)) = [] := by
        rw [List.dropWhile_eq_nil_iff]
        intro c mem
        have open' := clean content (by simp) c mem
        simp only [isDelimiter, Bool.or_eq_false_iff, decide_eq_false_iff_not] at open'
        simp [endsDeclaration, open']
      simp only [reopenUrl?, none]
      rfl

/-- A text that is read as a selector is no declaration in front of a brace. -/
theorem IsOpened.declaration?_eq_none {text : List Char} (opened : IsOpened false text)
    (tail : List Char) : declaration? (text ++ '\x7b' :: tail) = none := by
  obtain ⟨c, rest, found, first, split, -, clean⟩ :=
    opened.exists_segments true (fun _ => rfl) (stops_of_head (.inl rfl) tail)
  have ends : endsDeclaration '\x7b' = false := by decide
  simp [declaration?, first, split, ends, reopen?_eq_none (clean rfl)]

/-- A text that is read as a declaration is split off in front of its end. -/
theorem IsOpened.declaration? {text : List Char} {mark : Char} (opened : IsOpened true text)
    (ends : endsDeclaration mark = true) (tail : List Char) :
    ∃ found, declaration? (text ++ mark :: tail) = some (found, mark :: tail) ∧
      Segment.textAll found = text := by
  obtain ⟨c, rest, found, first, split, spelled, -⟩ :=
    opened.exists_segments true (fun _ => rfl) (stops_of_head (.inr ends) tail)
  refine ⟨.plain c :: found, ?_, spelled⟩
  simp [Css.declaration?, first, split, ends]

/-- Segments are split off one by one. -/
theorem next?_of_segments {urls : Bool} {input after : List Char} {segment : Segment}
    {following : List Segment} (split : segments urls input = (segment :: following, after)) :
    ∃ rest, Segment.next? urls input = some (segment, rest) ∧ segments urls rest = (following, after) := by
  rw [segments] at split
  split at split
  · cases split
  · rename_i first rest found
    cases split
    exact ⟨rest, found, rfl⟩

/-- A text that is read as a prelude is split off in front of a brace or a semicolon. -/
theorem IsPrelude.prelude? {text rest : List Char} (scanned : IsPrelude text) (stops : Stops rest) :
    ∃ found, prelude? (text ++ rest) = some (found, rest) ∧ Segment.textAll found = text := by
  obtain ⟨final, read, ends⟩ := scanned.scanned
  obtain ⟨c, head, solid⟩ := scanned.solid
  obtain ⟨found, split, spelled, -⟩ :=
    (Scan.readsOn_start read).segments (fun _ => rfl) stops ends
  cases found with
  | nil =>
    rw [← spelled] at head
    cases head
  | cons first following =>
    obtain ⟨tail, next, others⟩ := next?_of_segments split
    have notBlank : first.text.all isBlank = false := by
      cases first' : first.text with
      | nil => exact absurd first' (Segment.text_ne_nil_of_next? next)
      | cons d inner =>
        rw [← spelled, Segment.textAll_cons, first'] at head
        cases head
        simp [solid]
    refine ⟨first :: following, ?_, spelled⟩
    simp [Css.prelude?, next, others, notBlank]

/-! ### Plain tokens -/

/-- A token is plain if it holds no comment mark outside strings and each opening of an address in it is
followed by its end or by a quote. -/
structure Token.IsPlain (token : Token) : Prop where
  /-- There is no comment mark outside strings. -/
  uncommented : NoComment (token.segments.flatMap Segment.masked)
  /-- All addresses are closed. -/
  closed : ClosesAddresses token.text

/-- Segments behind the first character of a selector or declaration, if all addresses are closed. -/
theorem isOpened_of_segments {urls : Bool} {c : Char} {tail after : List Char} {found : List Segment}
    (starts : startsText c = true) (split : segments urls tail = (found, after))
    (uncommented : NoComment (c :: found.flatMap Segment.masked))
    (closed : ClosesAddresses (c :: Segment.textAll found)) :
    IsOpened urls (c :: Segment.textAll found) := by
  have plain : NoComment ((Scan.behind c).slashText ++ (segments urls tail).1.flatMap Segment.masked) := by
    rw [split]
    by_cases slash : c = '/'
    · simpa [Scan.slashText, Scan.behind, slash] using uncommented
    · exact uncommented.of_infix ⟨[c], [], by simp [Scan.slashText, Scan.behind, slash]⟩
  obtain ⟨final, read, between⟩ :=
    Scan.run_segments (show (Scan.behind c).isBetween = true from rfl) plain
  rw [split] at read
  exact ⟨c, _, final, rfl, starts, read, Scan.isOutside_of_closes rfl read between closed.tail⟩

/-- An address that is split off holds none of the characters that end one. -/
theorem isAddressChar_of_mem_segments {urls : Bool} {input content : List Char}
    (mem : Segment.url content ∈ (segments urls input).1) :
    ∀ c ∈ content, isAddressChar c = true := by
  fun_induction segments urls input with
  | case1 => cases mem
  | case2 input segment rest found following after split ih =>
    rw [split] at ih
    rcases List.mem_cons.1 mem with same | mem
    · cases same
      cases Segment.leads_of_next? found with
      | address allowed all => exact all
    · exact ih mem

/-- A text that gives up an address ends in a part of it. -/
theorem exists_of_reopen? {following found : List Segment} {after rest : List Char}
    (given : reopen? following after = some (found, rest)) :
    ∃ content front part back, Segment.url content ∈ following ∧ content = part ++ back ∧
      Segment.textAll found = front ++ (addressOpening ++ part) := by
  induction following generalizing found rest with
  | nil => cases given
  | cons segment following ih =>
    simp only [reopen?] at given
    split at given
    · rename_i kept tail inner
      cases given
      obtain ⟨content, front, part, back, mem, whole, text⟩ := ih inner
      refine ⟨content, segment.text ++ front, part, back, List.mem_cons_of_mem _ mem, whole, ?_⟩
      rw [Segment.textAll_cons, text, List.append_assoc]
    · split at given
      · rename_i content
        obtain ⟨⟨opened, tail⟩, cut, same⟩ := Option.map_eq_some_iff.1 given
        cases same
        simp only [reopenUrl?] at cut
        split at cut
        · cases cut
          let goesOn := fun c => !(c = '\x7b' || endsDeclaration c)
          refine ⟨content, [], content.takeWhile goesOn, content.dropWhile goesOn, List.mem_cons_self,
            List.takeWhile_append_dropWhile.symm, ?_⟩
          rw [Segment.textAll_map_plain]
          rfl
        · cases cut
      · cases given

/-- A selector is its first character and the segments behind it. -/
theorem exists_of_selector? {input rest : List Char} {found : List Segment}
    (split : selector? input = some (found, rest)) :
    ∃ c tail following, startsText c = true ∧ segments false tail = (following, rest) ∧
      found = .plain c :: following ∧ rest.head? = some '\x7b' := by
  unfold selector? at split
  split at split
  · cases split
  · rename_i c tail first
    simp only at split
    split at split
    · rename_i head
      cases split
      exact ⟨c, tail, _, (opening?_eq_some first).2, rfl, rfl, head⟩
    · cases split

/-- A plain selector is opened as a text without addresses. -/
theorem Token.IsPlain.of_selector? {token : Token} (plain : token.IsPlain) {input rest : List Char}
    (found : Css.selector? input = some (token.segments, rest)) : IsOpened false token.text := by
  obtain ⟨c, tail, following, starts, split, whole, -⟩ := exists_of_selector? found
  obtain ⟨uncommented, closed⟩ := plain
  rw [Token.text, whole] at closed ⊢
  rw [whole] at uncommented
  exact isOpened_of_segments starts split uncommented closed

/-- A plain declaration is its first character and the segments behind it: no address was given up. -/
theorem Token.IsPlain.exists_of_declaration? {token : Token} (plain : token.IsPlain)
    {input rest : List Char} (found : Css.declaration? input = some (token.segments, rest)) :
    ∃ c tail following, startsText c = true ∧ Css.segments true tail = (following, rest) ∧
      token.segments = .plain c :: following ∧ rest.head?.any endsDeclaration = true := by
  obtain ⟨-, closed⟩ := plain
  unfold Css.declaration? at found
  split at found
  · cases found
  · rename_i c tail first
    simp only at found
    split at found
    · rename_i ends
      rw [Option.some.injEq, Prod.mk.injEq] at found
      obtain ⟨same, rfl⟩ := found
      exact ⟨c, tail, _, (opening?_eq_some first).2, rfl, same.symm, ends⟩
    · -- An address that was given up is never closed, so the token is not plain.
      obtain ⟨⟨kept, left⟩, given, same⟩ := Option.map_eq_some_iff.1 found
      rw [Prod.mk.injEq] at same
      obtain ⟨content, front, part, back, mem, whole, text⟩ := exists_of_reopen? given
      rw [Token.text, ← same.1, Segment.textAll_cons, text] at closed
      have inside : addressOpening ++ part ∈ ((Segment.plain c).text ++
          (front ++ (addressOpening ++ part))).tails :=
        (List.mem_tails _ _).2 ⟨(Segment.plain c).text ++ front, by simp⟩
      obtain ⟨d, mem', closes⟩ := closed _ inside (List.prefix_append _ _)
      have all := isAddressChar_of_mem_segments mem
      rw [whole] at all
      have opening : ∀ c ∈ addressOpening, isAddressChar c = true := by decide
      have none := List.forall_mem_append.2 ⟨opening, fun c mem => all c (List.mem_append_left _ mem)⟩
      rw [none d mem'] at closes
      cases closes

/-- A plain declaration is opened as a text with addresses. -/
theorem Token.IsPlain.of_declaration? {token : Token} (plain : token.IsPlain) {input rest : List Char}
    (found : Css.declaration? input = some (token.segments, rest)) : IsOpened true token.text := by
  obtain ⟨c, tail, following, starts, split, whole, -⟩ := plain.exists_of_declaration? found
  obtain ⟨uncommented, closed⟩ := plain
  rw [Token.text, whole] at closed ⊢
  rw [whole] at uncommented
  exact isOpened_of_segments starts split uncommented closed

/-- A segment that is not blank does not start with a blank. -/
theorem Segment.exists_head {urls : Bool} {input rest : List Char} {segment : Segment}
    (next : next? urls input = some (segment, rest)) (solid : ¬segment.text.all isBlank = true) :
    ∃ c ∈ segment.text.head?, isBlank c = false := by
  cases segment with
  | plain c => exact ⟨c, rfl, by simpa using solid⟩
  | url content => exact ⟨'u', rfl, by decide⟩
  | quoted text =>
    cases leads_of_next? next with
    | string closed =>
      rename_i quote _ _
      exact ⟨quote.mark, rfl, by cases quote <;> decide⟩

/-- A prelude is the segments of its text, and does not start with a blank. -/
theorem exists_of_prelude? {input rest : List Char} {found : List Segment}
    (split : prelude? input = some (found, rest)) : segments true input = (found, rest) ∧
      ∃ c ∈ (Segment.textAll found).head?, isBlank c = false := by
  unfold prelude? at split
  split at split
  · cases split
  · rename_i first tail next
    split at split
    · cases split
    · rename_i solid
      cases split
      refine ⟨segments_of_next? next rfl, ?_⟩
      obtain ⟨c, head, notBlank⟩ := Segment.exists_head next solid
      refine ⟨c, ?_, notBlank⟩
      rw [Segment.textAll_cons, List.head?_append, head]
      rfl

/-- A plain prelude is a prelude by its text alone. -/
theorem Token.IsPlain.of_prelude? {token : Token} (plain : token.IsPlain) {input rest : List Char}
    (found : Css.prelude? input = some (token.segments, rest)) : IsPrelude token.text := by
  obtain ⟨split, solid⟩ := exists_of_prelude? found
  obtain ⟨uncommented, closed⟩ := plain
  have plain : NoComment (Scan.start.slashText ++ (Css.segments true input).1.flatMap Segment.masked) := by
    rw [split]
    exact uncommented
  obtain ⟨final, read, between⟩ :=
    Scan.run_segments (show Scan.start.isBetween = true from rfl) plain
  rw [split] at read
  exact ⟨solid, final, read, Scan.isOutside_of_closes rfl read between closed⟩

end ViewportScaling.Css
