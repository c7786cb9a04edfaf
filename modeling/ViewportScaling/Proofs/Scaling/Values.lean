import ViewportScaling.Proofs.Css.Likeness
import ViewportScaling.Scaling.Length

/-!
# Scaled values

Scaling a value replaces numbers by numbers, and the unit stands behind each of them. So no scan can tell
the scaled value from the value, and both are the same from the last unit with a number on. Blanks at the
ends and a mark of importance can come from neither, and a declaration with a scaled value can be printed
if it could be before.
-/

namespace ViewportScaling.Scaling

open Css Unicode Text Numeric

/-! ### Numbers in values -/

/-- No digit of any script is blank. -/
theorem isBlank_of_isDigit {c : Char} (digit : isDigit c = true) : isBlank c = false := by
  by_contra blank
  rw [Bool.not_eq_false, isBlank, Ranges.holds_iff] at blank
  have ⟨bounds, range, lower, upper⟩ := blank
  have apart : ∀ bounds ∈ blankRanges, ∀ start ∈ zeroDigits,
      bounds.2 < start ∨ start + 10 ≤ bounds.1 := by decide
  rw [isDigit, Option.isSome_iff_exists] at digit
  have ⟨value, found⟩ := digit
  rw [digitValue?, Option.map_eq_some_iff] at found
  have ⟨start, first, _⟩ := found
  have inside := List.find?_some first
  simp only [Bool.and_eq_true, decide_eq_true_eq] at inside
  have := apart _ range start (List.mem_of_find?_eq_some first)
  omega

/-- The digits of all scripts are neutral. -/
theorem isNeutral_of_isDigit {c : Char} (digit : isDigit c = true) : Scan.isNeutral c = true := by
  have plain : c ∉ Scan.special := by
    intro mem
    have none : ∀ d ∈ Scan.special, isDigit d = false := by decide
    rw [none c mem] at digit
    cases digit
  simp [Scan.isNeutral, isBlank_of_isDigit digit, plain]

/-- A number that is split off is not empty, consists of neutral characters, and has the unit behind it. -/
theorem neutral_of_number? {text number rest : List Char} (found : number? text = some (number, rest)) :
    number ≠ [] ∧ (∀ c ∈ number, Scan.isNeutral c = true) ∧ ∃ tail, rest = 'p' :: 'x' :: tail := by
  have whole : ∀ c ∈ text.takeWhile isDigit, Scan.isNeutral c = true := fun c mem =>
    isNeutral_of_isDigit (List.mem_takeWhile_imp mem)
  have unit : ∀ rest, startsWithUnit rest = true → ∃ tail, rest = 'p' :: 'x' :: tail := by
    intro rest starts
    unfold startsWithUnit at starts
    split at starts
    · exact ⟨_, rfl⟩
    · cases starts
  have nonempty := (append_of_number? found).2
  unfold number? at found
  split at found
  · rename_i behind point
    have places : ∀ c ∈ behind.takeWhile isDigit, Scan.isNeutral c = true := fun c mem =>
      isNeutral_of_isDigit (List.mem_takeWhile_imp mem)
    simp only at found
    split at found
    · rename_i complete
      cases found
      refine ⟨nonempty, ?_, unit _ complete.2⟩
      exact List.forall_mem_append.2 ⟨whole, List.forall_mem_cons.2 ⟨by decide, places⟩⟩
    · cases found
  · simp only at found
    split at found
    · rename_i complete
      cases found
      exact ⟨nonempty, whole, unit _ complete.2⟩
    · cases found

/-! ### What scaling does to a text -/

/-- A text differs from another in numbers in front of units only. -/
structure IsScaling (text scaled : List Char) : Prop where
  /-- No scan can tell the texts apart. -/
  alike : Scan.Alike text scaled
  /-- The first characters are both blank or both not. -/
  head : ∀ c ∈ scaled.head?, ∃ d ∈ text.head?, isBlank c = isBlank d
  /-- The texts are the same, or at least from some unit on. -/
  tail : scaled = text ∨ ∃ front front' behind,
    text = front ++ 'x' :: behind ∧ scaled = front' ++ 'x' :: behind

namespace IsScaling

theorem refl (text : List Char) : IsScaling text text :=
  ⟨.refl text, fun c mem => ⟨c, mem, rfl⟩, .inl rfl⟩

/-- A character may stand in front. -/
theorem cons {text scaled : List Char} (c : Char) (scaling : IsScaling text scaled) :
    IsScaling (c :: text) (c :: scaled) := by
  refine ⟨scaling.alike.behind [c], fun d mem => ⟨d, mem, rfl⟩, ?_⟩
  rcases scaling.tail with same | ⟨front, front', behind, one, other⟩
  · exact .inl (by rw [same])
  · exact .inr ⟨c :: front, c :: front', behind, by rw [one]; rfl, by rw [other]; rfl⟩

/-- A number in front of a unit may be replaced. -/
theorem number {text scaled digits digits' : List Char} (nonempty : digits ≠ [])
    (neutral : ∀ c ∈ digits, Scan.isNeutral c = true) (numeral : IsNumeral digits')
    (unit : ∃ tail, text = 'p' :: 'x' :: tail) (scaling : IsScaling text scaled) :
    IsScaling (digits ++ text) (digits' ++ scaled) := by
  have neutral' : ∀ c ∈ digits', Scan.isNeutral c = true := fun c mem =>
    Scan.isNeutral_of_isNumeralChar (numeral.all c mem)
  have solid : ∀ c, Scan.isNeutral c = true → isBlank c = false := by
    intro c plain
    rw [Scan.isNeutral, Bool.not_eq_true', Bool.or_eq_false_iff] at plain
    exact plain.1
  constructor
  · exact (Scan.Alike.of_neutral nonempty neutral numeral.nonempty neutral').append scaling.alike
  · intro c mem
    cases digits' with
    | nil => exact absurd rfl numeral.nonempty
    | cons first others =>
      cases mem
      cases digits with
      | nil => exact absurd rfl nonempty
      | cons first' others' =>
        refine ⟨first', rfl, ?_⟩
        rw [solid _ (neutral' _ List.mem_cons_self), solid _ (neutral _ List.mem_cons_self)]
  · right
    rcases scaling.tail with same | ⟨front, front', behind, one, other⟩
    · obtain ⟨tail, begins⟩ := unit
      exact ⟨digits ++ ['p'], digits' ++ ['p'], tail, by simp [begins], by simp [same, begins]⟩
    · exact ⟨digits ++ front, digits' ++ front', behind, by simp [one], by simp [other]⟩

/-- Scaling a trimmed text leaves it trimmed. -/
theorem trim {text scaled : List Char} (scaling : IsScaling text scaled)
    (trimmed : Text.trim text = text) : Text.trim scaled = scaled := by
  have first : ∀ c ∈ text.head?, isBlank c = false := by
    intro c mem
    have nonempty : text ≠ [] := by
      rintro rfl
      cases mem
    have ⟨d, tail, same, solid⟩ := exists_head_of_trim nonempty trimmed
    rw [same] at mem
    cases mem
    exact solid
  have last : ∀ c ∈ text.getLast?, isBlank c = false := by
    rw [← trimmed]
    exact isBlank_of_getLast?_trimEnd _
  apply trim_of_ends
  · intro c mem
    have ⟨d, among, same⟩ := scaling.head c mem
    rw [same]
    exact first d among
  · rcases scaling.tail with same | ⟨front, front', behind, one, other⟩
    · rw [same]
      exact last
    · rw [one] at last
      rw [other]
      rw [List.getLast?_append_of_ne_nil _ (by simp)] at last ⊢
      exact last

/-- There is no x in a mark of importance. -/
theorem notMem_markWord {word : List Char} (matched : IsMarkWord word) : 'x' ∉ word := by
  intro mem
  obtain ⟨letter, among, same⟩ := matched.exists_letter mem
  have none : ∀ letter ∈ "important".toList, isLetter letter 'x' = false := by decide
  rw [none letter among] at same
  cases same

/-- Scaling puts no mark of importance behind a text that has none. -/
theorem unmarked {text scaled : List Char} (scaling : IsScaling text scaled)
    (none : splitImportance text = (text, false)) : splitImportance scaled = (scaled, false) := by
  rcases scaling.tail with same | ⟨front, front', behind, one, other⟩
  · rw [same]
    exact none
  cases split : splitImportance scaled with
  | mk rest marked =>
    cases marked with
    | false => rw [splitImportance_eq_false split]
    | true =>
      -- The mark holds no unit, so it lies behind the last one and is a mark of the text, too.
      have ⟨before, blanks, word, whole, all, matched, _⟩ := splitImportance_eq_true_iff.1 split
      have ⟨mark, spelled⟩ : ∃ mark, mark = '!' :: blanks ++ word := ⟨_, rfl⟩
      have absent : 'x' ∉ mark := by
        have blank : 'x' ∉ blanks := by
          intro mem
          have := all _ mem
          revert this
          decide
        simp only [spelled, List.cons_append, List.mem_cons, List.mem_append, not_or]
        exact ⟨by decide, blank, notMem_markWord matched⟩
      rw [List.append_assoc, ← spelled, other] at whole
      have ⟨middle, later⟩ : ∃ middle, behind = middle ++ mark := by
        rcases List.append_eq_append_iff.1 whole with ⟨extra, _, tail⟩ | ⟨extra, _, tail⟩
        · cases extra with
          | nil =>
            rw [List.nil_append] at tail
            exact absurd (tail ▸ List.mem_cons_self) absent
          | cons c extra =>
            rw [List.cons_append, List.cons.injEq] at tail
            exact ⟨extra, tail.2⟩
        · exact absurd (tail ▸ List.mem_append_right _ List.mem_cons_self) absent
      have marked : splitImportance text = (Text.trim (front ++ 'x' :: middle), true) := by
        refine splitImportance_eq_true_iff.2 ⟨_, blanks, word, ?_, all, matched, rfl⟩
        rw [one, later]
        simp [spelled]
      rw [marked] at none
      cases none

end IsScaling

/-! ### Scaled values -/

/-- The product of a number and a ratio is written as a number. -/
theorem isNumeral_of_scaleNumber {ratio : Number} {digits : List Char} {text : String}
    (found : scaleNumber ratio digits = .ok text) : IsNumeral text.toList := by
  unfold scaleNumber at found
  cases rounded : ratio.toDouble with
  | error error =>
    rw [rounded] at found
    cases found
  | ok factor =>
    rw [rounded] at found
    simp only [bind, Except.bind] at found
    exact Number.isNumeral_fixedText found

/-- Scaled parts make up a scaled text. -/
theorem isScaling_parts {ratio : Number} {before : Option Char} {text : List Char}
    {scaled : List (List Char)}
    (each : List.Forall₂ (fun part result => Part.scale ratio part = .ok result)
      (partsBehind before text) scaled) : IsScaling text scaled.flatten := by
  fun_induction partsBehind before text generalizing scaled with
  | case1 before text digits rest found ih =>
    have ⟨digits', others, first, following, same⟩ := List.forall₂_cons_left_iff.1 each
    have taken : number? text = some (digits, rest) := by
      split at found
      · exact found
      · cases found
    have ⟨nonempty, neutral, unit⟩ := neutral_of_number? taken
    have ⟨product, computed, spelled⟩ := map_eq_ok_iff.1 first
    have numeral := isNumeral_of_scaleNumber computed
    rw [spelled] at numeral
    rw [same, ← (append_of_number? taken).1, List.flatten_cons]
    exact .number nonempty neutral numeral unit (ih following)
  | case2 before none =>
    rw [List.forall₂_nil_left_iff.1 each]
    exact .refl []
  | case3 before c rest none ih =>
    have ⟨kept, others, first, following, same⟩ := List.forall₂_cons_left_iff.1 each
    cases first
    rw [same, List.flatten_cons]
    exact .cons c (ih following)

/-- A scaled value is a scaling of the value. -/
theorem isScaling_scaleValue {ratio : Number} {value scaled : String}
    (found : scaleValue ratio value = .ok scaled) : IsScaling value.toList scaled.toList := by
  unfold scaleValue at found
  cases each : (parts value.toList).mapM (Part.scale ratio) with
  | error error =>
    rw [each] at found
    cases found
  | ok results =>
    rw [each] at found
    cases found
    rw [String.toList_ofList]
    exact isScaling_parts (mapM_eq_ok_iff.1 each)

/-- A declaration with its value scaled can be printed. -/
theorem isPrintable_of_scaleValue {ratio : Number} {declaration : Declaration}
    (printable : declaration.IsPrintable) {value : String}
    (found : scaleValue ratio declaration.value = .ok value) :
    Declaration.IsPrintable { declaration with value } := by
  have scaling := isScaling_scaleValue found
  exact printable.congr scaling.alike (scaling.trim printable.value_trimmed) fun plain =>
    scaling.unmarked (printable.unmarked plain)

end ViewportScaling.Scaling
