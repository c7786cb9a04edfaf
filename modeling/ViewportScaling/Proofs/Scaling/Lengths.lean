import ViewportScaling.Proofs.Css.Outline
import ViewportScaling.Proofs.Numeric.Exactness
import ViewportScaling.Proofs.Scaling.Values

/-!
# The lengths of a value

A length of a value is a number that stands directly before the unit. Every such number is read as a
double, so scaling a value fails for one reason only: the product of one of its lengths and the ratio is
too large for three decimal places. A value that holds no length is kept as it is, whatever the ratio.
-/

namespace ViewportScaling.Numeric

open Unicode

/-! ### Numbers are read -/

/-- Each digit has a value. -/
theorem digitValue?_of_isDigit {c : Char} (digit : isDigit c = true) :
    ∃ value, digitValue? c = some value :=
  Option.isSome_iff_exists.1 digit

/-- A digit is none of some other characters. -/
theorem ne_of_isDigit {c other : Char} (digit : isDigit c = true) (plain : isDigit other = false) :
    c ≠ other := by
  rintro rfl
  rw [digit] at plain
  cases plain

/-- A run of digits goes on as long as there are digits. -/
theorem continued_append {digits rest : List Char} (all : ∀ c ∈ digits, isDigit c = true)
    (stop : rest = [] ∨ ∃ places, rest = '.' :: places) :
    ∃ values, digitRun.continued (digits ++ rest) = (values, rest) := by
  induction digits with
  | nil =>
    rcases stop with rfl | ⟨places, rfl⟩
    · exact ⟨[], rfl⟩
    · exact ⟨[], rfl⟩
  | cons c digits ih =>
    have ⟨first, others⟩ := List.forall_mem_cons.1 all
    have ⟨value, found⟩ := digitValue?_of_isDigit first
    have ⟨values, run⟩ := ih others
    have noLine : c ≠ '_' := ne_of_isDigit first (by decide)
    refine ⟨value :: values, ?_⟩
    rw [List.cons_append, digitRun.continued.eq_def]
    split
    · contradiction
    · rename_i line
      exact absurd (List.cons.inj line).1 noLine
    · rename_i _ same
      cases same
      rw [found]
      dsimp only
      rw [run]

/-- A text of digits is one run. -/
theorem digitRun_append {digits rest : List Char} (all : ∀ c ∈ digits, isDigit c = true)
    (stop : rest = [] ∨ ∃ places, rest = '.' :: places) :
    ∃ values, digitRun (digits ++ rest) = (values, rest) ∧ (values = [] → digits = []) := by
  cases digits with
  | nil =>
    refine ⟨[], ?_, fun _ => rfl⟩
    rcases stop with rfl | ⟨places, rfl⟩
    · rfl
    · rfl
  | cons c digits =>
    have ⟨first, others⟩ := List.forall_mem_cons.1 all
    have ⟨value, found⟩ := digitValue?_of_isDigit first
    have ⟨values, run⟩ := continued_append others stop
    refine ⟨value :: values, ?_, fun same => nomatch same⟩
    rw [List.cons_append, digitRun, found]
    dsimp only
    rw [run]

/-- A number of digits with or without a point, ending in a digit. -/
def IsPlainNumber (text : List Char) : Prop :=
  ∃ whole places : List Char, (∀ c ∈ whole, isDigit c = true) ∧ (∀ c ∈ places, isDigit c = true) ∧
    (text = whole ∧ whole ≠ [] ∨ text = whole ++ '.' :: places ∧ places ≠ [])

theorem IsPlainNumber.ne_nil {text : List Char} (plain : IsPlainNumber text) : text ≠ [] := by
  obtain ⟨whole, places, -, -, ⟨rfl, nonempty⟩ | ⟨rfl, -⟩⟩ := plain
  · exact nonempty
  · simp

/-- A number holds digits and points only. -/
theorem IsPlainNumber.all {text : List Char} (plain : IsPlainNumber text) :
    ∀ c ∈ text, isDigit c = true ∨ c = '.' := by
  obtain ⟨whole, places, left, right, ⟨rfl, -⟩ | ⟨rfl, -⟩⟩ := plain
  · exact fun c mem => .inl (left c mem)
  · intro c mem
    rcases List.mem_append.1 mem with front | behind
    · exact .inl (left c front)
    · rcases List.mem_cons.1 behind with point | place
      · exact .inr point
      · exact .inl (right c place)

/-- A number ends in a digit. -/
theorem IsPlainNumber.exists_last {text : List Char} (plain : IsPlainNumber text) :
    ∃ front c, text = front ++ [c] ∧ isDigit c = true := by
  obtain ⟨whole, places, left, right, ⟨rfl, nonempty⟩ | ⟨rfl, nonempty⟩⟩ := plain
  · have last := List.dropLast_append_getLast nonempty
    exact ⟨_, _, last.symm, left _ (List.getLast_mem nonempty)⟩
  · have last := List.dropLast_append_getLast nonempty
    refine ⟨whole ++ '.' :: places.dropLast, places.getLast nonempty, ?_,
      right _ (List.getLast_mem nonempty)⟩
    rw [List.append_assoc, List.cons_append, last]

/-- Digits with or without a point are read as an unsigned numeral. -/
theorem IsPlainNumber.exists_unsigned? {text : List Char} (plain : IsPlainNumber text)
    (negative : Bool) : ∃ number, unsigned? negative text = some number := by
  obtain ⟨whole, places, left, right, ⟨rfl, nonempty⟩ | ⟨rfl, nonempty⟩⟩ := plain
  · have ⟨values, run, empty⟩ := digitRun_append left (.inl rfl)
    have digits : ¬(values = [] ∧ ([] : List Nat) = []) := fun both => nonempty (empty both.1)
    rw [List.append_nil] at run
    refine ⟨.ofDecimal negative (ofDigits (values ++ [])) (0 - ([] : List Nat).length), ?_⟩
    rw [unsigned?, run]
    dsimp only
    rw [if_neg digits]
    rfl
  · obtain ⟨values, run, -⟩ := digitRun_append left (.inr ⟨places, rfl⟩)
    have ⟨values', run', empty⟩ := digitRun_append right (.inl rfl)
    have digits : ¬(values = [] ∧ values' = []) := fun both => nonempty (empty both.2)
    rw [List.append_nil] at run'
    refine ⟨.ofDecimal negative (ofDigits (values ++ values')) (0 - values'.length), ?_⟩
    rw [unsigned?, run]
    simp only [run', if_neg digits]
    rfl

/-- No character of a number is blank. -/
theorem IsPlainNumber.blankAround_eq_false {text : List Char} (plain : IsPlainNumber text) {c : Char}
    (mem : c ∈ text) : blankAround c = false := by
  rcases plain.all c mem with digit | rfl
  · rw [blankAround, Scaling.isBlank_of_isDigit digit, Bool.false_and]
  · decide

theorem dropWhile_eq_self {p : Char → Bool} {text : List Char} (never : ∀ c ∈ text, p c = false) :
    text.dropWhile p = text := by
  cases text with
  | nil => rfl
  | cons c text => rw [List.dropWhile_cons, never c List.mem_cons_self, if_neg Bool.false_ne_true]

/-- A number is no word that starts with a letter. -/
theorem IsPlainNumber.ne_word {c : Char} {text word : List Char} {letter : Char}
    (plain : IsPlainNumber (c :: text)) (other : isDigit letter = false) (noPoint : letter ≠ '.') :
    String.ofList ((c :: text).map lowerAscii) ≠ String.ofList (letter :: word) := by
  intro same
  have capitals : ∀ d : Char, 'A' ≤ d ∧ d ≤ 'Z' → isDigit d = false ∧ d ≠ '.' := by
    intro d ⟨lower, upper⟩
    have low : 65 ≤ d.toNat := lower
    have high : d.toNat ≤ 90 := upper
    have table : ∀ n ∈ List.range 26, isDigit (Char.ofNat (65 + n)) = false ∧
        Char.ofNat (65 + n) ≠ '.' := by decide
    have entry := table (d.toNat - 65) (List.mem_range.2 (by omega))
    rwa [show 65 + (d.toNat - 65) = d.toNat by omega, Char.ofNat_toNat] at entry
  have kept : lowerAscii c = c := by
    rw [lowerAscii, if_neg]
    intro capital
    have ⟨noDigit, noPoint⟩ := capitals c capital
    rcases plain.all c List.mem_cons_self with digit | point
    · exact ne_of_isDigit digit noDigit rfl
    · exact noPoint point
  rw [String.ofList_inj, List.map_cons, kept, List.cons.injEq] at same
  rcases plain.all c List.mem_cons_self with digit | point
  · exact ne_of_isDigit digit other same.1
  · exact noPoint (same.1.symm.trans point)

/-- Digits with or without a point are read as a number. -/
theorem IsPlainNumber.exists_read? {text : List Char} (plain : IsPlainNumber text) :
    ∃ number, Double.read? (String.ofList text) = some number := by
  have trimmed : ((text.dropWhile blankAround).reverse.dropWhile blankAround).reverse = text := by
    rw [dropWhile_eq_self fun c mem => plain.blankAround_eq_false mem,
      dropWhile_eq_self fun c mem => plain.blankAround_eq_false (List.mem_reverse.1 mem),
      List.reverse_reverse]
  cases text with
  | nil => exact absurd rfl plain.ne_nil
  | cons c text =>
    have unsigned : signed (c :: text) = (false, c :: text) := by
      rw [signed.eq_def]
      split
      · rename_i same
        rcases plain.all c List.mem_cons_self with digit | point
        · exact absurd (List.cons.inj same).1 (ne_of_isDigit digit (by decide))
        · exact absurd ((List.cons.inj same).1.symm.trans point) (by decide)
      · rename_i same
        rcases plain.all c List.mem_cons_self with digit | point
        · exact absurd (List.cons.inj same).1 (ne_of_isDigit digit (by decide))
        · exact absurd ((List.cons.inj same).1.symm.trans point) (by decide)
      · rfl
    have noInfinity : ¬(String.ofList ((c :: text).map lowerAscii) = "inf" ∨
        String.ofList ((c :: text).map lowerAscii) = "infinity") :=
      not_or.2 ⟨plain.ne_word (by decide) (by decide), plain.ne_word (by decide) (by decide)⟩
    have noWord : String.ofList ((c :: text).map lowerAscii) ≠ "nan" :=
      plain.ne_word (by decide) (by decide)
    have ⟨number, found⟩ := plain.exists_unsigned? false
    refine ⟨number, ?_⟩
    rw [Double.read?, String.toList_ofList]
    dsimp only
    rw [trimmed, unsigned]
    dsimp only
    rw [if_neg noInfinity, if_neg noWord, found]

end ViewportScaling.Numeric

namespace ViewportScaling.Scaling

open Css Unicode Numeric

/-! ### Lengths in a text -/

/-- A number that is split off is one of digits, and the unit stands behind it. -/
theorem isPlainNumber_of_number? {text digits rest : List Char}
    (found : number? text = some (digits, rest)) :
    IsPlainNumber digits ∧ startsWithUnit rest = true := by
  have whole : ∀ c ∈ text.takeWhile isDigit, isDigit c = true := fun c mem =>
    List.mem_takeWhile_imp mem
  unfold number? at found
  split at found
  · rename_i behind point
    have places : ∀ c ∈ behind.takeWhile isDigit, isDigit c = true := fun c mem =>
      List.mem_takeWhile_imp mem
    simp only at found
    split at found
    · rename_i complete
      cases found
      exact ⟨⟨_, _, whole, places, .inr ⟨rfl, complete.1⟩⟩, complete.2⟩
    · cases found
  · simp only at found
    split at found
    · rename_i complete
      cases found
      exact ⟨⟨_, [], whole, by simp, .inl ⟨rfl, complete.1⟩⟩, complete.2⟩
    · cases found

/-- A length stays one whatever stands in front. -/
theorem hasLength_append (front : List Char) {text : List Char} (holds : hasLength text = true) :
    hasLength (front ++ text) = true := by
  induction front with
  | nil => exact holds
  | cons c front ih => rw [List.cons_append, hasLength, ih, Bool.or_true]

/-- A number with the unit behind it is a length. -/
theorem hasLength_of_isPlainNumber {digits rest : List Char} (plain : IsPlainNumber digits)
    (unit : startsWithUnit rest = true) : hasLength (digits ++ rest) = true := by
  obtain ⟨front, c, rfl, digit⟩ := plain.exists_last
  rw [List.append_assoc]
  apply hasLength_append
  rw [List.singleton_append, hasLength, digit, unit]
  rfl

/-- Each number among the parts of a text stands in the text, directly before the unit. -/
theorem of_number_mem_partsBehind {before : Option Char} {text digits : List Char}
    (mem : Part.number digits ∈ partsBehind before text) :
    IsPlainNumber digits ∧ hasLength text = true := by
  fun_induction partsBehind before text with
  | case1 before text first rest found ih =>
    have taken : number? text = some (first, rest) := by
      split at found
      · exact found
      · cases found
    obtain ⟨plain, unit⟩ := isPlainNumber_of_number? taken
    have whole := (append_of_number? taken).1
    rcases List.mem_cons.1 mem with same | later
    · cases same
      rw [← whole]
      exact ⟨plain, hasLength_of_isPlainNumber plain unit⟩
    · obtain ⟨plain', holds⟩ := ih later
      rw [← whole]
      exact ⟨plain', hasLength_append first holds⟩
  | case2 before none => cases mem
  | case3 before c rest none ih =>
    rcases List.mem_cons.1 mem with same | later
    · cases same
    · obtain ⟨plain, holds⟩ := ih later
      exact ⟨plain, hasLength_append [c] holds⟩

/-- The characters of a part. -/
def Part.text : Part → List Char
  | .number digits => digits
  | .other c => [c]

/-- The parts of a text make up the text. -/
theorem flatMap_text_partsBehind (before : Option Char) (text : List Char) :
    (partsBehind before text).flatMap Part.text = text := by
  fun_induction partsBehind before text with
  | case1 before text digits rest found ih =>
    have taken : number? text = some (digits, rest) := by
      split at found
      · exact found
      · cases found
    rw [List.flatMap_cons, ih]
    exact (append_of_number? taken).1
  | case2 before none => rfl
  | case3 before c rest none ih =>
    rw [List.flatMap_cons, ih]
    rfl

/-! ### Scaling -/

/-- A value without a number among its parts is kept. -/
theorem scaleValue_of_noNumber (ratio : Number) {value : String}
    (none : ∀ digits, Part.number digits ∉ parts value.toList) : scaleValue ratio value = .ok value := by
  have kept : (parts value.toList).mapM (Part.scale ratio) =
      .ok ((parts value.toList).map Part.text) := by
    rw [mapM_eq_ok_iff, List.forall₂_map_right_iff, List.forall₂_same]
    intro part mem
    cases part with
    | number digits => exact absurd mem (none digits)
    | other c => rfl
  have whole := flatMap_text_partsBehind Option.none value.toList
  rw [List.flatMap_def] at whole
  rw [scaleValue, kept]
  change Except.ok (String.ofList _) = _
  rw [parts, whole, String.ofList_toList]

/-- A value that holds no length is kept. -/
theorem scaleValue_of_not_hasLength (ratio : Number) {value : String}
    (none : hasLength value.toList = false) : scaleValue ratio value = .ok value := by
  refine scaleValue_of_noNumber ratio fun digits mem => ?_
  have ⟨_, holds⟩ := of_number_mem_partsBehind mem
  rw [none] at holds
  cases holds

/-- A number that is read is scaled unless the product is too large. -/
theorem scaleNumber_eq_error_iff {ratio number : Double} {digits : List Char}
    (read : Double.read? (String.ofList digits) = some number) :
    (∃ error, scaleNumber (.double ratio) digits = .error error) ↔ (number.mul ratio).IsTooLarge := by
  rw [← Double.fixedText_eq_error_iff]
  unfold scaleNumber
  rw [read]
  change (∃ error, ((number.mul ratio).fixedText.mapError _) = Except.error error) ↔ _
  cases (number.mul ratio).fixedText with
  | error overflow => exact ⟨fun _ => ⟨overflow, rfl⟩, fun _ => ⟨_, rfl⟩⟩
  | ok text => exact ⟨nofun, nofun⟩

/-- A list is mapped with an error exactly if one of its members is. -/
theorem mapM_eq_error_iff {α β ε : Type} {f : α → Except ε β} {items : List α} :
    (∃ error, items.mapM f = .error error) ↔ ∃ item ∈ items, ∃ error, f item = .error error := by
  induction items with
  | nil =>
    constructor
    · rintro ⟨error, stopped⟩
      cases stopped
    · rintro ⟨item, mem, -⟩
      cases mem
  | cons item items ih =>
    rw [List.mapM_cons, List.exists_mem_cons_iff, ← ih]
    cases f item with
    | error error => exact ⟨fun _ => .inl ⟨error, rfl⟩, fun _ => ⟨error, rfl⟩⟩
    | ok result =>
      cases items.mapM f with
      | error error => exact ⟨fun _ => .inr ⟨error, rfl⟩, fun _ => ⟨error, rfl⟩⟩
      | ok results => exact ⟨nofun, nofun⟩

/-- Scaling a value fails exactly if the product of one of its numbers and the ratio is too large. -/
theorem scaleValue_eq_error_iff (ratio : Double) (value : String) :
    (∃ error, scaleValue (.double ratio) value = .error error) ↔
      ∃ digits number, Part.number digits ∈ parts value.toList ∧
        Double.read? (String.ofList digits) = some number ∧ (number.mul ratio).IsTooLarge := by
  have parts_fail : (∃ error, scaleValue (.double ratio) value = .error error) ↔
      ∃ error, (parts value.toList).mapM (Part.scale (.double ratio)) = .error error := by
    unfold scaleValue
    cases (parts value.toList).mapM (Part.scale (.double ratio)) with
    | error error => exact ⟨fun _ => ⟨error, rfl⟩, fun _ => ⟨error, rfl⟩⟩
    | ok scaled => exact ⟨nofun, nofun⟩
  rw [parts_fail, mapM_eq_error_iff]
  constructor
  · rintro ⟨part, mem, error, stopped⟩
    cases part with
    | other c => cases stopped
    | number digits =>
      have ⟨plain, _⟩ := of_number_mem_partsBehind mem
      have ⟨number, read⟩ := plain.exists_read?
      refine ⟨digits, number, mem, read, (scaleNumber_eq_error_iff read).1 ?_⟩
      cases product : scaleNumber (.double ratio) digits with
      | error overflow => exact ⟨overflow, rfl⟩
      | ok text =>
        rw [Part.scale, product] at stopped
        cases stopped
  · rintro ⟨digits, number, mem, read, large⟩
    have ⟨error, stopped⟩ := (scaleNumber_eq_error_iff read).2 large
    refine ⟨.number digits, mem, error, ?_⟩
    rw [Part.scale, stopped]
    rfl

end ViewportScaling.Scaling
