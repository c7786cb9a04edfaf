import ViewportScaling.Proofs.Css.Printable
import ViewportScaling.Proofs.Numeric.Numerals

/-!
# Texts that are alike

Two texts are alike if no scan can tell them apart, wherever it stands and whatever it asks for. Numbers are
all alike, and so are texts in which only numbers differ. A declaration or a prelude stays printable if
a part of it is replaced by one that is alike.
-/

namespace ViewportScaling.Css

open Unicode Text Numeric

namespace Scan

/-- No scan can tell two texts apart. -/
def Alike (first second : List Char) : Prop :=
  ∀ (rules : Rules) (scan : Scan), run rules scan first = run rules scan second

namespace Alike

theorem refl (text : List Char) : Alike text text := fun _ _ => rfl

theorem append {first first' second second' : List Char} (front : Alike first first')
    (back : Alike second second') : Alike (first ++ second) (first' ++ second') := by
  intro rules scan
  rw [run_append, run_append, front rules scan]
  cases run rules scan first' with
  | none => rfl
  | some next => exact back rules next

/-- A text may stand in front of texts that are alike. -/
theorem behind (front : List Char) {first second : List Char} (alike : Alike first second) :
    Alike (front ++ first) (front ++ second) :=
  (refl front).append alike

/-- Two texts of neutral characters are alike, if none is empty. -/
theorem of_neutral {first second : List Char} (nonempty : first ≠ [])
    (neutral : ∀ c ∈ first, isNeutral c = true) (nonempty' : second ≠ [])
    (neutral' : ∀ c ∈ second, isNeutral c = true) : Alike first second := by
  intro rules scan
  rw [run_neutral rules scan nonempty neutral, run_neutral rules scan nonempty' neutral']

end Alike

/-- The characters of numbers are neutral. -/
theorem isNeutral_of_isNumeralChar {c : Char} (numeral : isNumeralChar c = true) :
    isNeutral c = true := by
  rw [isNumeralChar, Bool.or_eq_true] at numeral
  rcases numeral with digit | mark
  · have digits : ∀ n < 10, isNeutral (Nat.digitChar n) = true := by decide
    have among : ∃ n < 10, c = Nat.digitChar n := by
      rw [Char.isDigit, Bool.and_eq_true, decide_eq_true_eq, decide_eq_true_eq] at digit
      have lower : 48 ≤ c.toNat := digit.1
      have upper : c.toNat ≤ 57 := digit.2
      refine ⟨c.toNat - 48, by omega, ?_⟩
      apply Char.toNat_inj.1
      rw [Nat.toNat_digitChar_of_lt_ten (by omega)]
      omega
    obtain ⟨n, small, rfl⟩ := among
    exact digits n small
  · have marks : ∀ d ∈ numeralMarks, isNeutral d = true := by decide
    exact marks c (by simpa using mark)

/-- Numbers are all alike. -/
theorem Alike.of_isNumeral {first second : List Char} (one : IsNumeral first)
    (other : IsNumeral second) : Alike first second :=
  of_neutral one.nonempty (fun c mem => isNeutral_of_isNumeralChar (one.all c mem))
    other.nonempty (fun c mem => isNeutral_of_isNumeralChar (other.all c mem))

end Scan

/-! ### Texts that can be checked -/

/-- A text is opened if its first character may start one and a scan of the others ends outside. -/
theorem isOpened_cons_iff {addresses : Bool} {c : Char} {tail : List Char} :
    IsOpened addresses (c :: tail) ↔ startsText c = true ∧
      ∃ final ∈ (Scan.behind c).run (Scan.loose addresses) tail, final.mode.isOutside = true := by
  constructor
  · intro opened
    obtain ⟨d, rest, final, same, starts, read, ends⟩ := opened.scanned
    cases same
    exact ⟨starts, final, read, ends⟩
  · intro ⟨starts, final, read, ends⟩
    exact ⟨c, tail, final, rfl, starts, read, ends⟩

instance (addresses : Bool) (text : List Char) : Decidable (IsOpened addresses text) :=
  match text with
  | [] => isFalse fun opened => by
    obtain ⟨c, tail, final, same, -⟩ := opened.scanned
    cases same
  | _ :: _ => decidable_of_iff _ isOpened_cons_iff.symm

instance (declaration : Declaration) : Decidable declaration.IsPrintable :=
  decidable_of_iff (IsOpened true declaration.text ∧ declaration.property.toList ≠ [] ∧
      trim declaration.property.toList = declaration.property.toList ∧
      ':' ∉ declaration.property.toList ∧ trim declaration.value.toList = declaration.value.toList ∧
      (declaration.important = false →
        splitImportance declaration.value.toList = (declaration.value.toList, false)))
    ⟨fun ⟨opened, named, trimmed, uncut, value, unmarked⟩ =>
        ⟨opened, named, trimmed, uncut, value, unmarked⟩,
      fun ⟨opened, named, trimmed, uncut, value, unmarked⟩ =>
        ⟨opened, named, trimmed, uncut, value, unmarked⟩⟩

instance (addresses : Bool) (scan : Scan) (text : List Char) :
    Decidable (scan.Tidies addresses text) :=
  decidable_of_iff (∃ final ∈ scan.run (Scan.narrow addresses) text,
    final.mode.isOutside = true ∧ final.blank = false) Iff.rfl

instance (text : List Char) : Decidable (IsTidyPrelude text) :=
  decidable_of_iff (text.head?.any (!isBlank ·) = true ∧ Scan.start.Tidies true text) (by
    rw [Option.any_eq_true]
    simp only [Bool.not_eq_true']
    exact ⟨fun tidy => ⟨tidy.1, tidy.2⟩, fun tidy => ⟨tidy.solid, tidy.tidied⟩⟩)

/-! ### Parts that are replaced -/

/-- What no scan can tell apart is read to outside in both cases. -/
theorem IsOpened.congr {addresses : Bool} {c : Char} {tail tail' : List Char}
    (opened : IsOpened addresses (c :: tail)) (alike : Scan.Alike tail tail') :
    IsOpened addresses (c :: tail') := by
  rw [isOpened_cons_iff] at opened ⊢
  rw [← alike]
  exact opened

/-- A declaration can be printed with another value that is alike, if cleaning keeps this one, too. -/
theorem Declaration.IsPrintable.congr {declaration : Declaration} (printable : declaration.IsPrintable)
    {value : String} (alike : Scan.Alike declaration.value.toList value.toList)
    (trimmed : trim value.toList = value.toList)
    (unmarked : declaration.important = false → splitImportance value.toList = (value.toList, false)) :
    Declaration.IsPrintable { declaration with value } := by
  refine ⟨?_, printable.named, printable.trimmed, printable.uncut, trimmed, unmarked⟩
  have opened := printable.opened
  have ⟨c, tail, same, _⟩ := exists_head_of_trim printable.named printable.trimmed
  rw [text_eq, same] at opened ⊢
  exact opened.congr ((alike.append (.refl _)).behind [':', ' '] |>.behind tail)

/-- A text that is like a tidy prelude and starts with no blank is one. -/
theorem IsTidyPrelude.congr {text text' : List Char} (tidy : IsTidyPrelude text)
    (alike : Scan.Alike text text') (head : ∃ c ∈ text'.head?, isBlank c = false) :
    IsTidyPrelude text' := by
  have ⟨final, read, outside, solid⟩ := tidy.tidied
  exact ⟨head, final, (alike _ _).symm.trans read, outside, solid⟩

end ViewportScaling.Css
