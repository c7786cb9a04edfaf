import Mathlib.Data.List.Infix
import ViewportScaling.Css.Token
import ViewportScaling.Proofs.Css.Cleaning
import ViewportScaling.Proofs.Css.Segments

/-!
# Scans recognise tokens

Splitting a text into segments looks ahead: for the end of a string, and for the end of an address,
which may be hidden by a quote. A scan does not, but it comes to the same. If a text is split off in
segments and each opening of an address in it is followed by the end or by a quote, then a scan reads
it and ends outside strings and addresses. And if a scan does, then the text is split off whole in
front of a brace or a semicolon.
-/

namespace ViewportScaling.Css

open Unicode

/-- The text of a segment with strings hidden. -/
def Segment.masked : Segment → List Char
  | .quoted _ => ['"']
  | segment => segment.text

namespace Scan

variable {rules : Rules} {scan final : Scan}

/-! ### Strings -/

/-- In a string nothing is refused. -/
theorem step_quoted (rules : Rules) (quote : Quote) (slash blank : Bool) (c : Char) :
    step rules ⟨.quoted quote, slash, blank⟩ c =
      ((Mode.quoted quote).step rules.addresses c).map fun mode =>
        ⟨mode, c = '/', rules.tight && isBlank c⟩ := by
  simp [step, refuses, Mode.isOpen]

/-- Behind a backslash in a string nothing is refused. -/
theorem step_escaped (rules : Rules) (quote : Quote) (slash blank : Bool) (c : Char) :
    step rules ⟨.escaped quote, slash, blank⟩ c =
      ((Mode.escaped quote).step rules.addresses c).map fun mode =>
        ⟨mode, c = '/', rules.tight && isBlank c⟩ := by
  simp [step, refuses, Mode.isOpen]

/-- The quote that opened a string closes it. -/
theorem step_mark (rules : Rules) (quote : Quote) (slash blank : Bool) :
    step rules ⟨.quoted quote, slash, blank⟩ quote.mark = some start := by
  have solid : isBlank quote.mark = false := by cases quote <;> decide
  have slash : quote.mark ≠ '/' := by cases quote <;> decide
  simp [step_quoted, Mode.step, solid, slash, start]

theorem mark_ne_backslash (quote : Quote) : '\\' ≠ quote.mark := by
  cases quote <;> decide

/-- The rest of a string is read to its end. -/
theorem run_of_closing? {quote : Quote} {input body rest : List Char} (slash blank : Bool)
    (found : closing? false quote.mark input = some (body, rest)) :
    run rules ⟨.quoted quote, slash, blank⟩ body = some start := by
  fun_induction closing? false quote.mark input generalizing body rest slash blank with
  | case1 => cases found
  | case2 => cases found
  | case3 c tail whole ih =>
    obtain ⟨⟨inner, after⟩, split, same⟩ := Option.map_eq_some_iff.1 found
    cases same
    have sameLine : c ≠ '\n' := by simpa using whole
    rw [run_cons, step_quoted]
    simp only [Mode.step, if_neg (mark_ne_backslash quote), if_pos, Option.map_some, Option.bind_some]
    rw [run_cons, step_escaped]
    simp only [Mode.step, if_neg sameLine, Option.map_some, Option.bind_some]
    exact ih _ _ split
  | case4 tail _ =>
    cases found
    rw [run_cons, step_mark]
    rfl
  | case5 => cases found
  | case6 c tail _ other go ih =>
    obtain ⟨⟨inner, after⟩, split, same⟩ := Option.map_eq_some_iff.1 found
    cases same
    simp only [Bool.not_false, Bool.and_true, Bool.or_eq_true, decide_eq_true_eq, not_or] at go
    rw [run_cons, step_quoted]
    simp only [Mode.step, if_neg other, if_neg go.1, if_neg go.2, Option.map_some, Option.bind_some]
    exact ih _ _ split

theorem closing?_mark (multiline : Bool) (quote : Quote) (rest : List Char) :
    closing? multiline quote.mark (quote.mark :: rest) = some ([quote.mark], rest) := by
  rw [closing?, if_pos rfl]
  exact fun _ _ same _ => mark_ne_backslash quote same.symm

theorem closing?_escape (multiline : Bool) (quote : Quote) {c : Char} (sameLine : c ≠ '\n')
    (rest : List Char) : closing? multiline quote.mark ('\\' :: c :: rest) =
      (closing? multiline quote.mark rest).map fun (text, after) => ('\\' :: c :: text, after) := by
  rw [closing?, if_neg (by simp [sameLine])]

theorem closing?_other (multiline : Bool) {quote : Quote} {c : Char} (other : c ≠ quote.mark)
    (backslash : c ≠ '\\') (sameLine : c ≠ '\n') (rest : List Char) :
    closing? multiline quote.mark (c :: rest) =
      (closing? multiline quote.mark rest).map fun (text, after) => (c :: text, after) := by
  rw [closing?, if_neg other, if_neg (by simp [backslash, sameLine])]
  exact fun _ _ same _ => backslash same

/-- A string that ends in a text is split off there, whatever follows and whether or not it might go over
several lines. -/
theorem exists_closing? {quote : Quote} : ∀ {text : List Char} {slash blank : Bool},
    run rules ⟨.quoted quote, slash, blank⟩ text = some final → final.mode.isOpen = true →
    ∃ body after, text = body ++ after ∧ run rules start after = some final ∧
      run rules ⟨.quoted quote, slash, blank⟩ body = some start ∧
      ∀ multiline rest, closing? multiline quote.mark (text ++ rest) = some (body, after ++ rest)
  | [], slash, blank, read, ends => by
    cases read
    cases ends
  | c :: tail, slash, blank, read, ends => by
    by_cases close : c = quote.mark
    · subst close
      rw [run_cons, step_mark, Option.bind_some] at read
      refine ⟨[quote.mark], tail, rfl, read, ?_, fun multiline rest => closing?_mark multiline quote _⟩
      rw [run_cons, step_mark]
      rfl
    obtain ⟨next, stepped, following⟩ := run_cons_eq_some.1 read
    have first := stepped
    rw [step_quoted] at stepped
    by_cases backslash : c = '\\'
    · subst backslash
      simp only [Mode.step, if_neg close, if_pos, Option.map_some, Option.some.injEq] at stepped
      cases tail with
      | nil =>
        cases following
        rw [← stepped] at ends
        cases ends
      | cons d tail =>
        obtain ⟨later, stepped', following⟩ := run_cons_eq_some.1 following
        have second := stepped'
        rw [← stepped, step_escaped] at stepped'
        by_cases line : d = '\n'
        · simp [Mode.step, line] at stepped'
        · simp only [Mode.step, if_neg line, Option.map_some, Option.some.injEq] at stepped'
          rw [← stepped'] at following second
          obtain ⟨body, after, rfl, onward, inside, found⟩ := exists_closing? following ends
          refine ⟨'\\' :: d :: body, after, rfl, onward, ?_, fun multiline rest => ?_⟩
          · rw [run_cons, first, Option.bind_some, run_cons, second, Option.bind_some, inside]
          · rw [List.cons_append, List.cons_append, closing?_escape multiline quote line, found]
            rfl
    · by_cases line : c = '\n'
      · simp only [Mode.step, if_neg close, if_neg backslash, if_pos line, Option.map_none] at stepped
        cases stepped
      · simp only [Mode.step, if_neg close, if_neg backslash, if_neg line, Option.map_some,
          Option.some.injEq] at stepped
        rw [← stepped] at following first
        obtain ⟨body, after, rfl, onward, inside, found⟩ := exists_closing? following ends
        refine ⟨c :: body, after, rfl, onward, ?_, fun multiline rest => ?_⟩
        · rw [run_cons, first, Option.bind_some, inside]
        · rw [List.cons_append, closing?_other multiline close backslash line, found]
          rfl

/-! ### From segments to scans -/

/-- Whether a scan may stand between two segments: outside, or in an address that a quote will turn out to
be none. -/
def isBetween (scan : Scan) : Bool :=
  match scan.mode with
  | .outside _ => true
  | .address clean => clean
  | _ => false

/-- What a scan remembers of comment marks. -/
def slashText (scan : Scan) : List Char := if scan.slash then ['/'] else []

/-- Without tightness only a star is ever refused. -/
theorem refuses_loose {addresses : Bool} {c : Char} (star : c ≠ '*') :
    scan.refuses (loose addresses) c = false := by
  simp [refuses, loose, star]

/-- What is not refused is read by the mode alone. -/
theorem step_loose {addresses : Bool} {c : Char} (taken : scan.refuses (loose addresses) c = false) :
    scan.step (loose addresses) c = (scan.mode.step addresses c).map fun mode => ⟨mode, c = '/', false⟩ := by
  unfold step
  rw [if_neg (by simp [taken])]
  rfl

/-- Where no comment starts, a character is not refused, and none starts behind it. -/
theorem refuses_of_noComment {addresses : Bool} {c : Char} {rest : List Char}
    (plain : NoComment (scan.slashText ++ c :: rest)) (mode : Mode) :
    scan.refuses (loose addresses) c = false ∧
      NoComment (slashText ⟨mode, c = '/', false⟩ ++ rest) := by
  constructor
  · by_cases star : c = '*'
    · subst star
      have slash : scan.slash = false := by
        by_contra slash
        rw [Bool.not_eq_false] at slash
        rw [slashText, if_pos slash] at plain
        exact plain ⟨[], rest, rfl⟩
      simp [refuses, loose, slash]
    · exact refuses_loose star
  · by_cases slash : c = '/'
    · subst slash
      exact plain.of_infix ⟨scan.slashText, [], by simp [slashText]⟩
    · exact plain.of_infix ⟨scan.slashText ++ [c], [], by simp [slashText, slash]⟩

/-- What cannot close an address leaves a scan in it. -/
theorem run_address {content following : List Char} (all : ∀ c ∈ content, isAddressChar c = true)
    (clean slash : Bool)
    (plain : NoComment (slashText ⟨.address clean, slash, false⟩ ++ (content ++ following))) :
    ∃ clean' slash', run (loose true) ⟨.address clean, slash, false⟩ content =
        some ⟨.address clean', slash', false⟩ ∧
      NoComment (slashText ⟨.address clean', slash', false⟩ ++ following) := by
  induction content generalizing clean slash with
  | nil => exact ⟨clean, slash, rfl, plain⟩
  | cons c content ih =>
    obtain ⟨first, others⟩ := List.forall_mem_cons.1 all
    simp only [isAddressChar, Bool.not_eq_true', Bool.or_eq_false_iff, decide_eq_false_iff_not] at first
    obtain ⟨⟨close, double⟩, single⟩ := first
    have quote : Quote.of? c = none := Quote.of?_eq_none_iff.2 ⟨double, single⟩
    have stepped : (Mode.address clean).step true c =
        some (.address (if isDelimiter c then false else clean)) := by
      simp only [Mode.step, quote, if_neg close]
      split <;> simp_all
    obtain ⟨taken, later⟩ := refuses_of_noComment plain (.address (if isDelimiter c then false else clean))
    obtain ⟨clean', slash', read, fresh⟩ := ih others _ _ later
    refine ⟨clean', slash', ?_, fresh⟩
    rw [run_cons, step_loose taken, stepped]
    exact read

/-- The opening of an address leads into one from between two segments. -/
theorem run_opening {addresses : Bool} (between : scan.isBetween = true) :
    run (loose addresses) scan addressOpening = some ⟨.address true, false, false⟩ := by
  obtain ⟨mode, slash, blank⟩ := scan
  cases mode with
  | outside stem => cases stem <;> cases slash <;> rfl
  | address clean =>
    cases clean with
    | false => cases between
    | true => cases slash <;> rfl
  | quoted quote => cases between
  | escaped quote => cases between

/-- A quote starts a string between segments. -/
theorem step_quote {addresses : Bool} (quote : Quote) (between : scan.isBetween = true) :
    scan.step (loose addresses) quote.mark = some ⟨.quoted quote, false, false⟩ := by
  have star : quote.mark ≠ '*' := by cases quote <;> decide
  have slash : quote.mark ≠ '/' := by cases quote <;> decide
  rw [step_loose (refuses_loose star)]
  obtain ⟨mode, before, blank⟩ := scan
  cases mode with
  | outside stem => simp [Mode.step, slash]
  | address clean =>
    cases clean with
    | false => cases between
    | true => simp [Mode.step, slash]
  | quoted quote => cases between
  | escaped quote => cases between

/-- A character that is no delimiter leads from one place between segments to the next. -/
theorem step_plain {addresses : Bool} {c : Char} (open' : isDelimiter c = false)
    (between : scan.isBetween = true) (taken : scan.refuses (loose addresses) c = false) :
    ∃ mode, scan.step (loose addresses) c = some ⟨mode, c = '/', false⟩ ∧
      isBetween ⟨mode, c = '/', false⟩ = true := by
  have quote := Quote.of?_of_not_isDelimiter open'
  rw [step_loose taken]
  obtain ⟨mode, before, blank⟩ := scan
  cases mode with
  | outside stem =>
    refine ⟨stem.read c, by simp [Mode.step, quote, open'], ?_⟩
    unfold Stem.read
    split
    · rfl
    split
    · rfl
    split
    · rfl
    split <;> rfl
  | address clean =>
    by_cases close : c = ')'
    · subst close
      exact ⟨.outside .none, rfl, rfl⟩
    · exact ⟨.address clean, by simp [Mode.step, quote, open', close], between⟩
  | quoted quote => cases between
  | escaped quote => cases between

/-- A segment that a text starts with is read, from one place between segments to the next. -/
theorem run_segment {urls : Bool} {input rest following : List Char} {segment : Segment}
    (found : Segment.next? urls input = some (segment, rest)) (between : scan.isBetween = true)
    (plain : NoComment (scan.slashText ++ (segment.masked ++ following))) :
    ∃ next, run (loose urls) scan segment.text = some next ∧ next.isBetween = true ∧
      NoComment (next.slashText ++ following) := by
  cases Segment.leads_of_next? found with
  | string closed =>
    rename_i quote _ body
    refine ⟨start, ?_, rfl, ?_⟩
    · rw [Segment.text, run_cons, step_quote quote between, Option.bind_some,
        run_of_closing? _ _ closed]
    · exact plain.of_infix ⟨scan.slashText ++ ['"'], [], by simp [slashText, start, Segment.masked]⟩
  | address allowed all =>
    subst allowed
    rename_i content
    have inside : NoComment (slashText ⟨.address true, false, false⟩ ++
        (content ++ ([')'] ++ following))) :=
      plain.of_infix ⟨scan.slashText ++ addressOpening, [], by
        simp [slashText, Segment.masked, Segment.text, addressOpening]⟩
    -- The opening enters the address, nothing in it leads out, and the parenthesis closes it.
    obtain ⟨clean, slash, read, later⟩ := run_address all true false inside
    refine ⟨start, ?_, rfl, ?_⟩
    · change run _ scan (addressOpening ++ (content ++ [')'])) = _
      rw [run_append, run_opening between, Option.bind_some, run_append, read, Option.bind_some,
        run_cons, step_loose (refuses_loose (by decide))]
      cases clean <;> rfl
    · exact later.of_infix ⟨slashText ⟨.address clean, slash, false⟩ ++ [')'], [], by
        simp [slashText, start]⟩
  | plain open' =>
    obtain ⟨taken, later⟩ := refuses_of_noComment plain (.outside .none)
    obtain ⟨mode, stepped, between'⟩ := step_plain open' between taken
    refine ⟨_, ?_, between', later⟩
    rw [Segment.text, run_cons, stepped]
    rfl

/-- Segments are read, from one place between segments to another. -/
theorem run_segments {urls : Bool} {input : List Char} (between : scan.isBetween = true)
    (plain : NoComment (scan.slashText ++ (segments urls input).1.flatMap Segment.masked)) :
    ∃ next, run (loose urls) scan (Segment.textAll (segments urls input).1) = some next ∧
      next.isBetween = true := by
  fun_induction segments urls input generalizing scan with
  | case1 => exact ⟨scan, rfl, between⟩
  | case2 input segment rest found following after split ih =>
    rw [split] at ih
    rw [List.flatMap_cons] at plain
    obtain ⟨next, read, between', later⟩ := run_segment found between plain
    obtain ⟨final, others, ends⟩ := ih between' later
    refine ⟨final, ?_, ends⟩
    rw [Segment.textAll_cons, run_append, read]
    exact others

end Scan

/-! ### Addresses that are never closed -/

/-- Each opening of an address in a text is followed by its end, or by a quote that shows it is none. -/
def ClosesAddresses (text : List Char) : Prop :=
  ∀ rest ∈ text.tails, addressOpening <+: rest → ∃ c ∈ rest, isAddressChar c = false

instance (text : List Char) : Decidable (ClosesAddresses text) :=
  inferInstanceAs (Decidable (∀ rest ∈ text.tails, addressOpening <+: rest →
    ∃ c ∈ rest, isAddressChar c = false))

/-- What closes its addresses does so behind its first character. -/
theorem ClosesAddresses.tail {c : Char} {text : List Char} (closes : ClosesAddresses (c :: text)) :
    ClosesAddresses text := by
  intro rest mem
  have inside := (List.mem_tails _ _).1 mem
  exact closes rest ((List.mem_tails _ _).2 (inside.trans (List.suffix_cons c text)))

/-- What was read of the opening of an address. -/
def Mode.stemText : Mode → List Char
  | outside stem => stem.text
  | _ => []

namespace Stem

/-- What is remembered of an opening outside has been read. -/
theorem exists_stemText (stem : Stem) (c : Char) :
    ∃ front, stem.text ++ [c] = front ++ (stem.read c).stemText := by
  unfold read
  split
  · rename_i same
    exact ⟨stem.text, by rw [same]; rfl⟩
  split
  · rename_i same
    exact ⟨[], by rw [same.1, same.2]; rfl⟩
  split
  · rename_i same
    exact ⟨[], by rw [same.1, same.2]; rfl⟩
  split <;> exact ⟨stem.text ++ [c], by simp [Mode.stemText, text]⟩

/-- An address is entered behind the whole opening. -/
theorem text_of_read {stem : Stem} {c : Char} {clean : Bool}
    (entered : stem.read c = .address clean) : stem.text ++ [c] = addressOpening := by
  unfold read at entered
  split at entered
  · cases entered
  split at entered
  · cases entered
  split at entered
  · cases entered
  split at entered
  · rename_i same
    rw [same.1, same.2]
    rfl
  · cases entered

end Stem

namespace Mode

/-- In strings and addresses nothing is remembered of an opening. -/
theorem stemText_of_step {addresses : Bool} {mode next : Mode} {c : Char}
    (stepped : mode.step addresses c = some next) (inside : mode.isOutside = false) :
    next.stemText = [] := by
  cases mode with
  | outside stem => cases inside
  | address clean =>
    simp only [step] at stepped
    split at stepped
    · split at stepped <;> cases stepped
      rfl
    split at stepped
    · cases stepped
      rfl
    split at stepped
    · split at stepped <;> cases stepped
      rfl
    cases stepped
    rfl
  | quoted quote =>
    simp only [step] at stepped
    split at stepped
    · cases stepped
      rfl
    split at stepped
    · cases stepped
      rfl
    split at stepped <;> cases stepped
    rfl
  | escaped quote =>
    simp only [step] at stepped
    split at stepped <;> cases stepped
    rfl

/-- What is remembered of an opening has been read. -/
theorem exists_stemText {addresses : Bool} {mode next : Mode} {c : Char}
    (stepped : mode.step addresses c = some next) :
    ∃ front, mode.stemText ++ [c] = front ++ next.stemText := by
  cases mode with
  | outside stem =>
    simp only [step] at stepped
    split at stepped
    · cases stepped
      exact ⟨stem.text ++ [c], by simp [stemText]⟩
    split at stepped <;> cases stepped
    exact stem.exists_stemText c
  | address clean => exact ⟨[c], by rw [stemText_of_step stepped rfl]; rfl⟩
  | quoted quote => exact ⟨[c], by rw [stemText_of_step stepped rfl]; rfl⟩
  | escaped quote => exact ⟨[c], by rw [stemText_of_step stepped rfl]; rfl⟩

/-- An address is entered behind its opening, or was not left. -/
theorem address_of_step {addresses clean : Bool} {mode : Mode} {c : Char}
    (stepped : mode.step addresses c = some (address clean)) :
    (∃ before, mode = address before ∧ isAddressChar c = true) ∨
      mode.stemText ++ [c] = addressOpening := by
  cases mode with
  | outside stem =>
    simp only [step] at stepped
    split at stepped
    · cases stepped
    split at stepped
    · cases stepped
    · exact .inr (Stem.text_of_read (Option.some.inj stepped))
  | address before =>
    simp only [step] at stepped
    split at stepped
    · split at stepped <;> cases stepped
    rename_i quote
    split at stepped
    · cases stepped
    rename_i close
    rw [Quote.of?_eq_none_iff] at quote
    exact .inl ⟨before, rfl, by simp [isAddressChar, quote, close]⟩
  | quoted quote =>
    simp only [step] at stepped
    split at stepped
    · cases stepped
    split at stepped
    · cases stepped
    split at stepped <;> cases stepped
  | escaped quote =>
    simp only [step] at stepped
    split at stepped <;> cases stepped

end Mode

/-- A scan that ends in an address has read an opening that nothing closes. -/
theorem Scan.exists_addressOpening {rules : Rules} {scan final : Scan} {clean : Bool} :
    ∀ {text : List Char}, scan.run rules text = some final → final.mode = .address clean →
      (∃ before, scan.mode = .address before ∧ ∀ c ∈ text, isAddressChar c = true) ∨
        ∃ front back, scan.mode.stemText ++ text = front ++ (addressOpening ++ back) ∧
          ∀ c ∈ back, isAddressChar c = true := by
  intro text read ends
  induction text generalizing scan with
  | nil =>
    cases read
    exact .inl ⟨clean, ends, by simp⟩
  | cons c rest ih =>
    obtain ⟨next, taken, following⟩ := run_cons_eq_some.1 read
    obtain ⟨-, mode, stepped, rfl⟩ := step_eq_some_iff.1 taken
    rcases ih following with ⟨before, inside, all⟩ | ⟨front, back, whole, all⟩
    · simp only at inside
      subst inside
      rcases Mode.address_of_step stepped with ⟨earlier, same, first⟩ | opened
      · exact .inl ⟨earlier, same, List.forall_mem_cons.2 ⟨first, all⟩⟩
      · refine .inr ⟨[], rest, ?_, all⟩
        rw [List.nil_append, ← opened, List.append_assoc]
        rfl
    · obtain ⟨early, same⟩ := Mode.exists_stemText stepped
      refine .inr ⟨early ++ front, back, ?_, all⟩
      rw [List.append_assoc, ← whole, ← List.append_assoc early, ← same, List.append_assoc]
      rfl

/-- A scan between segments ends outside if all addresses are closed. -/
theorem Scan.isOutside_of_closes {rules : Rules} {scan final : Scan} {text : List Char}
    (begins : scan.mode = .outside .none) (read : scan.run rules text = some final)
    (between : final.isBetween = true) (closes : ClosesAddresses text) :
    final.mode.isOutside = true := by
  cases ends : final.mode with
  | outside stem => rfl
  | address clean =>
    rcases exists_addressOpening read ends with ⟨before, same, -⟩ | ⟨front, back, whole, all⟩
    · rw [begins] at same
      cases same
    · rw [begins] at whole
      have mem : addressOpening ++ back ∈ text.tails := (List.mem_tails _ _).2 ⟨front, whole.symm⟩
      obtain ⟨c, inside, closed⟩ := closes _ mem (List.prefix_append _ _)
      have opening : ∀ c ∈ addressOpening, isAddressChar c = true := by decide
      rw [List.forall_mem_append.2 ⟨opening, all⟩ c inside] at closed
      cases closed
  | quoted quote =>
    rw [isBetween, ends] at between
    cases between
  | escaped quote =>
    rw [isBetween, ends] at between
    cases between

end ViewportScaling.Css
