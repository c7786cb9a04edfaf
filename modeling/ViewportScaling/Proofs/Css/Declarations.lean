import ViewportScaling.Proofs.Css.Tidying

/-!
# Printed declarations

A declaration is printed with one space behind its colon and one before its mark of importance, whatever
blanks stood there. To a scan this makes no difference: blanks and the colon settle it, and the mark of
importance closes no string and no address. So the printed text is split off as one token again, and the
token gives the same declaration back.
-/

namespace ViewportScaling.Css

open Unicode Text

/-! ### Parts that are trimmed -/

/-- A text that is not empty and is its own trimming starts with a character that is not blank. -/
theorem exists_head_of_trim {text : List Char} (nonempty : text ≠ []) (trimmed : trim text = text) :
    ∃ c tail, text = c :: tail ∧ isBlank c = false := by
  cases text with
  | nil => exact absurd rfl nonempty
  | cons c tail =>
    refine ⟨c, tail, rfl, ?_⟩
    by_contra blank
    rw [Bool.not_eq_false] at blank
    have shorter : (trim (c :: tail)).length ≤ tail.length := by
      rw [trim, trimStart, List.dropWhile_cons_of_pos blank, trimEnd, List.length_reverse]
      have outer := (List.dropWhile_sublist (l := (tail.dropWhile isBlank).reverse) isBlank).length_le
      have inner := (List.dropWhile_sublist (l := tail) isBlank).length_le
      rw [List.length_reverse] at outer
      omega
    rw [trimmed, List.length_cons] at shorter
    omega

/-- Trimming the end first makes no difference to trimming. -/
theorem trim_trimEnd (text : List Char) : trim (trimEnd text) = trim text := by
  obtain ⟨back, blank, whole⟩ := exists_trimEnd text
  have := trim_append_blanks blank (trimEnd text)
  rw [← whole] at this
  exact this.symm

/-! ### The mark of importance -/

/-- The mark of importance as it is printed. -/
def markText (important : Bool) : List Char := if important then " !important".toList else []

/-- A declaration is printed as its property, a colon, a space, its value and its mark. -/
theorem Declaration.text_eq (declaration : Declaration) : declaration.text =
    declaration.property.toList ++ ':' :: ' ' :: (declaration.value.toList ++
      markText declaration.important) := by
  rw [text, List.append_assoc]
  rfl

/-- A value that is printed with its mark is split into both again. -/
theorem splitImportance_mark {value : List Char} {important : Bool} (trimmed : trim value = value)
    (unmarked : important = false → splitImportance value = (value, false)) :
    splitImportance (trim (value ++ markText important)) = (value, important) := by
  cases important with
  | false =>
    rw [markText, if_neg (by simp), List.append_nil, trimmed]
    exact unmarked rfl
  | true =>
    have word : IsMarkWord "important".toList := by
      unfold IsMarkWord
      decide
    by_cases none : value = []
    · rw [none]
      exact splitImportance_eq_true_iff.2 ⟨[], [], _, rfl, by simp, word, rfl⟩
    · have whole : value ++ markText true = value ++ [' '] ++ '!' :: [] ++ "important".toList := by
        simp [markText]
      have ends : trim (value ++ markText true) = value ++ markText true := by
        refine trim_of_ends ?_ ?_
        · obtain ⟨c, tail, same, solid⟩ := exists_head_of_trim none trimmed
          rw [same]
          rintro d head
          cases head
          exact solid
        · rw [List.getLast?_append]
          rintro d last
          cases last
          decide
      rw [ends]
      refine splitImportance_eq_true_iff.2 ⟨value ++ [' '], [], _, whole, by simp, word, ?_⟩
      rw [trim_append_blanks (by decide), trimmed]

/-- The word of the mark of importance closes nothing. -/
theorem isAddressChar_of_markWord {word : List Char} (matched : IsMarkWord word) :
    ∀ c ∈ word, isAddressChar c = true := by
  intro c mem
  obtain ⟨letter, among, same⟩ := matched.exists_letter mem
  by_contra closes
  have none : ∀ letter ∈ "important".toList, ∀ d ∈ [')', '"', '\''], isLetter letter d = false := by
    decide
  have closing : c ∈ [')', '"', '\''] := by
    simp only [isAddressChar, Bool.not_eq_true, Bool.not_eq_false', Bool.or_eq_true,
      decide_eq_true_eq] at closes
    rcases closes with (rfl | rfl) | rfl <;> decide
  rw [none letter among c closing] at same
  cases same

/-! ### Declarations that can be printed -/

namespace Declaration

/-- A declaration is read back from its text. -/
structure IsPrintable (declaration : Declaration) : Prop where
  /-- The text is split off as one token. -/
  opened : IsOpened true declaration.text
  /-- There is a property. -/
  named : declaration.property.toList ≠ []
  /-- The property has no blanks at its ends. -/
  trimmed : trim declaration.property.toList = declaration.property.toList
  /-- The property holds no colon. -/
  uncut : ':' ∉ declaration.property.toList
  /-- The value has no blanks at its ends. -/
  value_trimmed : trim declaration.value.toList = declaration.value.toList
  /-- The value of a declaration that is not important does not end in a mark of importance. -/
  unmarked : declaration.important = false →
    splitImportance declaration.value.toList = (declaration.value.toList, false)

/-- A declaration that can be printed is the declaration of any token with its text. -/
theorem IsPrintable.ofToken {declaration : Declaration} (printable : declaration.IsPrintable)
    {token : Token} (spelled : token.text = declaration.text) :
    Declaration.ofToken token = .ok declaration := by
  obtain ⟨opened, named, trimmed, uncut, value_trimmed, unmarked⟩ := printable
  let behind := ' ' :: (declaration.value.toList ++ markText declaration.important)
  have colon : isBlank ':' = false := by decide
  have whole : trim token.text = declaration.property.toList ++ ':' :: trimEnd behind := by
    obtain ⟨c, tail, same, solid⟩ := exists_head_of_trim named trimmed
    rw [spelled, text_eq, same, List.cons_append, trim_cons solid, trimEnd_append_cons tail colon]
    rfl
  have front : ∀ c ∈ declaration.property.toList, (!c = ':') = true := by
    intro c mem
    simpa using fun same : c = ':' => uncut (same ▸ mem)
  have taken : (trim token.text).takeWhile (!· = ':') = declaration.property.toList := by
    rw [whole, List.takeWhile_append_of_pos front, List.takeWhile_cons_of_neg (by simp),
      List.append_nil]
  have dropped : (trim token.text).dropWhile (!· = ':') = ':' :: trimEnd behind := by
    rw [whole, List.dropWhile_append_of_pos front, List.dropWhile_cons_of_neg (by simp)]
  have value : splitImportance (trim (trimEnd behind)) =
      (declaration.value.toList, declaration.important) := by
    have space : trim behind = trim (declaration.value.toList ++ markText declaration.important) :=
      trim_blanks_append (show ∀ c ∈ [' '], isBlank c = true by decide) _
    rw [trim_trimEnd, space, splitImportance_mark value_trimmed unmarked]
  rw [← spelled] at opened
  unfold Declaration.ofToken
  rw [uncommented_eq_trim opened.isComment]
  simp only [taken, dropped, trimmed, named, if_false, value, String.ofList_toList]

end Declaration

/-! ### Declarations that were read -/

/-- A value without its mark stands in the text behind the colon, with blanks before it, and nothing is
closed behind it. -/
theorem exists_value {behind value : List Char} {important : Bool}
    (split : splitImportance (trim behind) = (value, important)) : ∃ gap rest,
    behind = gap ++ value ++ rest ∧ (∀ c ∈ gap, isBlank c = true) ∧
      (∀ c ∈ rest, isAddressChar c = true) ∧ trim value = value ∧
      (important = false → splitImportance value = (value, false)) := by
  obtain ⟨front, back, left, right, whole⟩ := exists_trim behind
  have back_closes : ∀ c ∈ back, isAddressChar c = true := fun c mem =>
    isAddressChar_of_isBlank (right c mem)
  cases important with
  | false =>
    obtain rfl := splitImportance_eq_false split
    exact ⟨front, back, whole, left, back_closes, trim_trim behind, fun _ => split⟩
  | true =>
    obtain ⟨marked, blanks, word, inner, all, matched, rfl⟩ := splitImportance_eq_true_iff.1 split
    obtain ⟨front', back', left', right', whole'⟩ := exists_trim marked
    refine ⟨front ++ front', back' ++ '!' :: blanks ++ word ++ back, ?_,
      List.forall_mem_append.2 ⟨left, left'⟩, ?_, trim_trim marked, nofun⟩
    · rw [whole, inner]
      conv_lhs => rw [whole']
      simp
    · intro c mem
      simp only [List.mem_append, List.mem_cons] at mem
      rcases mem with ((blank | rfl | blank) | letter) | blank
      · exact isAddressChar_of_isBlank (right' c blank)
      · decide
      · exact isAddressChar_of_isBlank (all c blank)
      · exact isAddressChar_of_markWord matched c letter
      · exact back_closes c blank

namespace Scan

variable {addresses : Bool} {scan final : Scan}

/-- A colon and a space settle the mode. -/
theorem run_colon (scan : Scan) :
    run (loose addresses) scan [':', ' '] = some ⟨scan.mode.settle, false, false⟩ := by
  rw [run_cons, step_neutral _ scan (by decide), Option.bind_some, run_cons, step_space,
    Option.bind_some, run_nil, Mode.settle_settle]

/-- The mark of importance leads from outside to outside. -/
theorem run_markText (important : Bool) (outside : scan.mode.isOutside = true) :
    ∃ final, run (loose addresses) scan (markText important) = some final ∧
      final.mode.isOutside = true := by
  cases important with
  | false => exact ⟨scan, rfl, outside⟩
  | true =>
    obtain ⟨mode, slash, blank⟩ := scan
    cases mode with
    | outside stem =>
      refine ⟨start, ?_, rfl⟩
      change run _ _ (' ' :: "!important".toList) = _
      rw [run_cons, step_space]
      rfl
    | address clean | quoted quote | escaped quote => cases outside

/-- What stands between a property and a value, and behind the value, may be put in its printed form. -/
theorem exists_run_printed {name gap value rest : List Char} (important : Bool)
    (idle : ∀ c ∈ gap, c ∉ special) (nonempty : gap ≠ [])
    (closes : ∀ c ∈ rest, isAddressChar c = true)
    (read : run (loose addresses) scan (name ++ gap ++ value ++ rest) = some final)
    (ends : final.mode.isOutside = true) :
    ∃ final, run (loose addresses) scan (name ++ ':' :: ' ' :: (value ++ markText important)) =
      some final ∧ final.mode.isOutside = true := by
  obtain ⟨valued, read, late⟩ := run_append_eq_some.1 read
  obtain ⟨opened, read, inner⟩ := run_append_eq_some.1 read
  obtain ⟨named, early, across⟩ := run_append_eq_some.1 read
  have settled := run_notMem idle nonempty across
  obtain ⟨final', marked, outside⟩ := run_markText important (isOutside_of_run closes late ends)
  refine ⟨final', ?_, outside⟩
  have printed : name ++ ':' :: ' ' :: (value ++ markText important) =
      name ++ ([':', ' '] ++ (value ++ markText important)) := rfl
  rw [printed, run_append, early, Option.bind_some, run_append, run_colon, Option.bind_some, ← settled,
    run_append, inner, Option.bind_some, marked]

end Scan

/-- The declaration of a token that is split off by a scan can be printed. -/
theorem Declaration.isPrintable_of_ofToken {token : Token} {declaration : Declaration}
    (opened : IsOpened true token.text) (found : ofToken token = .ok declaration) :
    declaration.IsPrintable := by
  obtain ⟨before, behind, whole, absent, property, named, split⟩ :=
    of_ofToken opened.isComment found
  obtain ⟨c, tail, final, same, starts, read, ends⟩ := opened.scanned
  have solid := isBlank_of_startsText starts
  rw [same, trim_cons solid] at whole
  cases before with
  | nil => exact absurd rfl named
  | cons first before =>
    obtain ⟨rfl, following⟩ := List.cons.inj whole
    rw [trim_cons solid] at property
    obtain ⟨gap, rest, rfl, blank, closes, value_trimmed, unmarked⟩ := exists_value split
    obtain ⟨back, blanks, trimmed⟩ := exists_trimEnd tail
    obtain ⟨padding, blanks', padded⟩ := exists_trimEnd before
    have spelled : tail = trimEnd before ++ (padding ++ ':' :: gap) ++ declaration.value.toList ++
        (rest ++ back) := by
      rw [trimmed, following]
      conv_lhs => rw [padded]
      simp
    have idle : ∀ d ∈ padding ++ ':' :: gap, d ∉ Scan.special := by
      intro d mem
      rcases List.mem_append.1 mem with mem | mem
      · exact Scan.notMem_special_of_isBlank (blanks' d mem)
      rcases List.mem_cons.1 mem with rfl | mem
      · decide
      · exact Scan.notMem_special_of_isBlank (blank d mem)
    rw [spelled] at read
    obtain ⟨final', printed, outside⟩ := Scan.exists_run_printed declaration.important idle (by simp)
      (List.forall_mem_append.2 ⟨closes, fun d mem => isAddressChar_of_isBlank (blanks d mem)⟩) read ends
    constructor
    · refine ⟨c, _, final', ?_, starts, printed, outside⟩
      rw [text_eq, property]
      rfl
    · simp [property]
    · rw [property, ← trim_cons solid, trim_trim]
    · rw [property]
      intro mem
      refine absent ?_
      rw [padded]
      rcases List.mem_cons.1 mem with rfl | mem
      · exact List.mem_cons_self
      · exact List.mem_cons_of_mem _ (List.mem_append_left _ mem)
    · exact value_trimmed
    · exact unmarked

end ViewportScaling.Css
