import ViewportScaling.Css.Segment
import ViewportScaling.Proofs.Text.Characters

/-!
# Scanning the text of a token

Whether a text is split off whole as one token depends on the text alone, if what stands behind it is a
brace or a semicolon. It can be decided from left to right with a small memory: whether the place lies
in a string or in an address, and what was read directly before it. A scan is such a memory, and it
reads a text character by character. It refuses comment marks outside strings and, if it is asked to be
tight, all blanks outside strings but single spaces.

Texts are changed on their way through reading, scaling and printing. Because a scan forgets nearly
everything, most changes bring it to the same place: blanks, the digits of a number and other neutral
characters all leave it in the settled form of the mode it was in.
-/

namespace ViewportScaling.Css

open Unicode

/-- The two kinds of quote. -/
inductive Quote where
  /-- The quote of one stroke. -/
  | single
  /-- The quote of two strokes. -/
  | double
deriving DecidableEq, Repr

namespace Quote

/-- The character of a quote. -/
def mark : Quote → Char
  | single => '\''
  | double => '"'

/-- The quote that a character is. -/
def of? (c : Char) : Option Quote :=
  if c = '"' then some double else if c = '\'' then some single else none

@[simp] theorem of?_mark (quote : Quote) : of? quote.mark = some quote := by
  cases quote <;> rfl

/-- Only its mark opens a string with this quote. -/
theorem of?_eq_some_iff {c : Char} {quote : Quote} : of? c = some quote ↔ c = quote.mark := by
  constructor
  · intro found
    unfold of? at found
    split at found
    · rename_i same
      cases found
      exact same
    · split at found
      · rename_i same
        cases found
        exact same
      · cases found
  · rintro rfl
    exact of?_mark quote

/-- No other characters than these two open a string. -/
theorem of?_eq_none_iff {c : Char} : of? c = none ↔ c ≠ '"' ∧ c ≠ '\'' := by
  unfold of?
  split <;> simp_all

/-- A character that is no delimiter is no quote. -/
theorem of?_of_not_isDelimiter {c : Char} (open' : isDelimiter c = false) : of? c = none := by
  simp only [isDelimiter, Bool.or_eq_false_iff, decide_eq_false_iff_not] at open'
  exact of?_eq_none_iff.2 ⟨open'.1.2, open'.2⟩

/-- What opens no string is the mark of no quote. -/
theorem ne_mark {c : Char} (other : of? c = none) (quote : Quote) : c ≠ quote.mark := by
  rintro rfl
  rw [of?_mark] at other
  cases other

end Quote

/-- How much of the opening of an address was read last. -/
inductive Stem where
  /-- Nothing. -/
  | none
  /-- One letter. -/
  | u
  /-- Two letters. -/
  | ur
  /-- The whole name. -/
  | url
deriving DecidableEq, Repr

/-- What was read of the opening of an address. -/
def Stem.text : Stem → List Char
  | .none => []
  | .u => ['u']
  | .ur => ['u', 'r']
  | .url => ['u', 'r', 'l']

/-- The opening of an address. -/
def addressOpening : List Char := ['u', 'r', 'l', '(']

/-- Where a place lies. -/
inductive Mode where
  /-- Outside strings and addresses. -/
  | outside (stem : Stem)
  /-- In what may be an address. It is clean if it holds no brace and no semicolon so far. -/
  | address (clean : Bool)
  /-- In a string. -/
  | quoted (quote : Quote)
  /-- Behind a backslash in a string. -/
  | escaped (quote : Quote)
deriving DecidableEq, Repr

/-- The mode behind a character that is no quote and no delimiter. -/
def Stem.read (stem : Stem) (c : Char) : Mode :=
  if c = 'u' then .outside .u
  else if stem = .u ∧ c = 'r' then .outside .ur
  else if stem = .ur ∧ c = 'l' then .outside .url
  else if stem = .url ∧ c = '(' then .address true
  else .outside .none

namespace Mode

/-- Whether a place lies in no string. -/
def isOpen : Mode → Bool
  | outside _ | address _ => true
  | _ => false

/-- Whether a place lies in no string and no address. -/
def isOutside : Mode → Bool
  | outside _ => true
  | _ => false

/-- What lies outside of strings and addresses lies in no string. -/
theorem isOpen_of_isOutside {mode : Mode} (outside : mode.isOutside = true) : mode.isOpen = true := by
  cases mode <;> first | rfl | cases outside

/-- The mode behind a character, if the text may go on with it. A quote in an address shows that there
is none, so it may follow only where no delimiter was taken for a part of the address. -/
def step (addresses : Bool) : Mode → Char → Option Mode
  | outside stem, c =>
    match Quote.of? c with
    | some quote => some (quoted quote)
    | none => if isDelimiter c then none else some (stem.read c)
  | address clean, c =>
    match Quote.of? c with
    | some quote => if clean then some (quoted quote) else none
    | none =>
      if c = ')' then some (outside .none)
      else if isDelimiter c then if addresses then some (address false) else none
      else some (address clean)
  | quoted quote, c =>
    if c = quote.mark then some (outside .none)
    else if c = '\\' then some (escaped quote)
    else if c = '\n' then none
    else some (quoted quote)
  | escaped quote, c => if c = '\n' then none else some (quoted quote)

/-- The mode behind characters that open and close nothing. -/
def settle : Mode → Mode
  | outside _ => outside .none
  | escaped quote => quoted quote
  | mode => mode

@[simp] theorem settle_settle (mode : Mode) : mode.settle.settle = mode.settle := by
  cases mode <;> rfl

end Mode

/-- What is asked of a text. -/
structure Rules where
  /-- Whether braces and semicolons may stand in addresses. -/
  addresses : Bool
  /-- Whether runs of blanks outside strings must be single spaces. -/
  tight : Bool

/-- What is remembered of a text that has been read. -/
structure Scan where
  /-- Where the end of it lies. -/
  mode : Mode
  /-- Whether a slash was read last. -/
  slash : Bool := false
  /-- Whether a blank was read last, if that matters. -/
  blank : Bool := false
deriving DecidableEq, Repr

namespace Scan

/-- The scan of nothing. -/
def start : Scan := ⟨.outside .none, false, false⟩

/-- Whether a character would open a comment or make a run of blanks loose. -/
def refuses (rules : Rules) (scan : Scan) (c : Char) : Bool :=
  scan.mode.isOpen &&
    (scan.slash && c = '*' || rules.tight && isBlank c && (!c = ' ' || scan.blank))

/-- Reads one character on, if the text may go on with it. -/
def step (rules : Rules) (scan : Scan) (c : Char) : Option Scan :=
  if scan.refuses rules c then none
  else (scan.mode.step rules.addresses c).map fun mode => ⟨mode, c = '/', rules.tight && isBlank c⟩

/-- Reads a text on. -/
def run (rules : Rules) : Scan → List Char → Option Scan
  | scan, [] => some scan
  | scan, c :: rest => (scan.step rules c).bind fun next => run rules next rest

variable {rules : Rules} {scan final : Scan}

@[simp] theorem run_nil (rules : Rules) (scan : Scan) : run rules scan [] = some scan := rfl

theorem run_cons (rules : Rules) (scan : Scan) (c : Char) (rest : List Char) :
    run rules scan (c :: rest) = (scan.step rules c).bind fun next => run rules next rest := rfl

theorem run_append (rules : Rules) (scan : Scan) (first second : List Char) :
    run rules scan (first ++ second) =
      (run rules scan first).bind fun next => run rules next second := by
  induction first generalizing scan with
  | nil => rfl
  | cons c rest ih =>
    rw [List.cons_append, run_cons, run_cons]
    cases scan.step rules c with
    | none => rfl
    | some next => exact ih next

/-- A text is read if its first character is, and then the rest. -/
theorem run_cons_eq_some {c : Char} {rest : List Char} : run rules scan (c :: rest) = some final ↔
    ∃ next, scan.step rules c = some next ∧ run rules next rest = some final := by
  rw [run_cons, Option.bind_eq_some_iff]

/-- A text is read if its first part is, and then the second one. -/
theorem run_append_eq_some {first second : List Char} :
    run rules scan (first ++ second) = some final ↔
      ∃ middle, run rules scan first = some middle ∧ run rules middle second = some final := by
  rw [run_append, Option.bind_eq_some_iff]

/-- A character is read if it is not refused and the mode goes on with it. -/
theorem step_eq_some_iff {c : Char} {next : Scan} : scan.step rules c = some next ↔
    scan.refuses rules c = false ∧ ∃ mode, scan.mode.step rules.addresses c = some mode ∧
      next = ⟨mode, c = '/', rules.tight && isBlank c⟩ := by
  unfold step
  cases scan.refuses rules c with
  | false =>
    rw [if_neg (by simp), Option.map_eq_some_iff]
    simp [eq_comm]
  | true => simp

/-! ### Neutral characters -/

/-- The characters that may open or close something. -/
def special : List Char :=
  ['"', '\'', '\x7b', '\x7d', ';', '(', ')', '\\', 'u', 'r', 'l', '*', '/']

/-- Whether a character is not blank and opens and closes nothing. -/
def isNeutral (c : Char) : Bool := !(isBlank c || special.contains c)

/-- No blank opens or closes anything. -/
theorem notMem_special_of_isBlank {c : Char} (blank : isBlank c = true) : c ∉ special := by
  intro mem
  have none : ∀ d ∈ special, isBlank d = false := by decide
  rw [none c mem] at blank
  cases blank

/-- A character that is not special and ends no line settles the mode. -/
theorem mode_step_of_notMem {addresses : Bool} (mode : Mode) {c : Char} (plain : c ∉ special)
    (sameLine : c ≠ '\n') : mode.step addresses c = some mode.settle := by
  simp only [special, List.mem_cons, List.not_mem_nil, or_false, not_or] at plain
  obtain ⟨double, single, opening, closing, semicolon, parenthesis, close, backslash, u, r, l, -, -⟩ :=
    plain
  have noQuote : Quote.of? c = none := Quote.of?_eq_none_iff.2 ⟨double, single⟩
  have delimiter : isDelimiter c = false := by
    simp [isDelimiter, opening, closing, semicolon, double, single]
  cases mode with
  | outside stem => simp [Mode.step, noQuote, delimiter, Stem.read, u, r, l, parenthesis, Mode.settle]
  | address clean => simp [Mode.step, noQuote, delimiter, close, Mode.settle]
  | quoted quote =>
    have different := Quote.ne_mark noQuote quote
    simp [Mode.step, different, backslash, sameLine, Mode.settle]
  | escaped quote => simp [Mode.step, sameLine, Mode.settle]

/-- What is neither blank nor opens or closes anything settles the mode. -/
theorem step_neutral (rules : Rules) (scan : Scan) {c : Char} (neutral : isNeutral c = true) :
    scan.step rules c = some ⟨scan.mode.settle, false, false⟩ := by
  simp only [isNeutral, Bool.not_eq_true', Bool.or_eq_false_iff] at neutral
  obtain ⟨solid, plain⟩ := neutral
  have plain : c ∉ special := by simpa using plain
  have sameLine : c ≠ '\n' := by
    rintro rfl
    revert solid
    decide
  have star : c ≠ '*' := by
    rintro rfl
    exact plain (by decide)
  have slash : c ≠ '/' := by
    rintro rfl
    exact plain (by decide)
  refine step_eq_some_iff.2 ⟨?_, _, mode_step_of_notMem scan.mode plain sameLine, ?_⟩
  · simp [refuses, star, solid]
  · simp [slash, solid]

/-- Neutral texts all leave a scan in the same place. -/
theorem run_neutral (rules : Rules) (scan : Scan) {text : List Char} (nonempty : text ≠ [])
    (neutral : ∀ c ∈ text, isNeutral c = true) :
    run rules scan text = some ⟨scan.mode.settle, false, false⟩ := by
  induction text generalizing scan with
  | nil => exact absurd rfl nonempty
  | cons c rest ih =>
    obtain ⟨first, others⟩ := List.forall_mem_cons.1 neutral
    rw [run_cons, step_neutral rules scan first, Option.bind_some]
    cases rest with
    | nil => rfl
    | cons d rest =>
      rw [ih _ (by simp) others]
      simp

/-! ### Blanks -/

/-- The rules that leave blanks alone. -/
def loose (addresses : Bool) : Rules := ⟨addresses, false⟩

/-- A character that is not special settles the mode, if the text may go on with it. -/
theorem next_of_notMem {addresses : Bool} {c : Char} (plain : c ∉ special) {next : Scan}
    (read : scan.step (loose addresses) c = some next) : next = ⟨scan.mode.settle, false, false⟩ := by
  obtain ⟨-, mode, stepped, rfl⟩ := step_eq_some_iff.1 read
  have slash : c ≠ '/' := by
    rintro rfl
    exact plain (by decide)
  have settled : mode = scan.mode.settle := by
    by_cases line : c = '\n'
    · subst line
      cases before : scan.mode with
      | outside stem =>
        rw [before] at stepped
        cases stem <;> cases stepped <;> rfl
      | address clean =>
        rw [before] at stepped
        cases stepped
        rfl
      | quoted quote =>
        rw [before] at stepped
        cases quote <;> cases stepped
      | escaped quote =>
        rw [before] at stepped
        cases stepped
    · rw [mode_step_of_notMem scan.mode plain line] at stepped
      exact (Option.some.inj stepped).symm
  rw [settled]
  simp [loose, slash]

/-- Characters that are not special settle the mode, if the text may go on with them. -/
theorem run_notMem {addresses : Bool} {text : List Char} (plain : ∀ c ∈ text, c ∉ special)
    (nonempty : text ≠ []) (read : run (loose addresses) scan text = some final) :
    final = ⟨scan.mode.settle, false, false⟩ := by
  induction text generalizing scan with
  | nil => exact absurd rfl nonempty
  | cons c rest ih =>
    obtain ⟨first, others⟩ := List.forall_mem_cons.1 plain
    obtain ⟨next, stepped, read⟩ := run_cons_eq_some.1 read
    have settled := next_of_notMem first stepped
    cases rest with
    | nil =>
      rw [run_nil, Option.some.injEq] at read
      rw [← read, settled]
    | cons d rest =>
      rw [ih others (by simp) read, settled, Mode.settle_settle]

/-- A run of blanks settles the mode, if the text may go on with it. -/
theorem run_blanks {addresses : Bool} {blanks : List Char} (all : ∀ c ∈ blanks, isBlank c = true)
    (nonempty : blanks ≠ []) (read : run (loose addresses) scan blanks = some final) :
    final = ⟨scan.mode.settle, false, false⟩ :=
  run_notMem (fun c mem => notMem_special_of_isBlank (all c mem)) nonempty read

/-- So does a space, where blanks are left alone. -/
theorem step_space (addresses : Bool) (scan : Scan) :
    scan.step (loose addresses) ' ' = some ⟨scan.mode.settle, false, false⟩ := by
  refine step_eq_some_iff.2 ⟨?_, _, mode_step_of_notMem scan.mode (by decide) (by decide), ?_⟩
  · simp [refuses, loose]
  · simp [loose]

end Scan

end ViewportScaling.Css
