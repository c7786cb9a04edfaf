import ViewportScaling.Numeric.Number
import ViewportScaling.Proofs.Text.Characters

/-!
# The characters of numbers

Whatever a number is, its text is not empty and holds nothing but digits, signs, the point, the mark of an
exponent and the letters of the names of infinity and of what is no number.
-/

namespace ViewportScaling.Numeric

/-- The characters of numbers beside the digits. -/
def numeralMarks : List Char := ['-', '+', '.', 'e', 'i', 'n', 'f', 'a', 'N']

/-- Whether a character may stand in the text of a number. -/
def isNumeralChar (c : Char) : Bool := c.isDigit || numeralMarks.contains c

/-- A text is not empty and holds characters of numbers only. -/
structure IsNumeral (text : List Char) : Prop where
  /-- There is a character. -/
  nonempty : text ≠ []
  /-- Each character is one of a number. -/
  all : ∀ c ∈ text, isNumeralChar c = true

/-- Decimal digits may stand in a numeral. -/
theorem isNumeralChar_of_mem_toDigits {n : Nat} : ∀ c ∈ Nat.toDigits 10 n, isNumeralChar c = true := by
  intro c mem
  have digit := Nat.isDigit_of_mem_toDigits (by decide) (by decide) mem
  rw [isNumeralChar, digit, Bool.true_or]

theorem isNumeralChar_of_mem_replicate {n : Nat} : ∀ c ∈ List.replicate n '0', isNumeralChar c = true := by
  intro c mem
  rw [List.eq_of_mem_replicate mem]
  decide

/-- The text of an integer is a numeral. -/
theorem isNumeral_toString (n : Int) : IsNumeral (toString n).toList := by
  have digits : ∀ m : Nat, IsNumeral m.repr.toList := by
    intro m
    rw [Nat.toList_repr]
    exact ⟨Nat.toDigits_ne_nil, isNumeralChar_of_mem_toDigits⟩
  rw [Int.toString_eq_repr, Int.repr_eq_if]
  split
  · exact digits _
  · rw [String.toList_append]
    refine ⟨by simp, List.forall_mem_append.2 ⟨by decide, (digits _).all⟩⟩

/-- The text of a decimal is a numeral. -/
theorem Decimal.isNumeral_text (d : Decimal) : IsNumeral d.text := by
  have all : ∀ c ∈ Nat.toDigits 10 d.digits, isNumeralChar c = true := isNumeralChar_of_mem_toDigits
  have digits : ∀ c ∈ ((Nat.toDigits 10 d.digits).reverse.dropWhile (· == '0')).reverse,
      isNumeralChar c = true := by
    intro c mem
    rw [List.mem_reverse] at mem
    exact all c (List.mem_reverse.1 ((List.dropWhile_sublist _).subset mem))
  unfold text
  simp only
  split
  · refine ⟨by simp, ?_⟩
    simp only [List.forall_mem_append, List.forall_mem_cons]
    exact ⟨⟨by decide, by decide, isNumeralChar_of_mem_replicate⟩, digits⟩
  split
  · have padded := fun n => List.forall_mem_append.2
      ⟨digits, show ∀ c ∈ List.replicate n '0', _ from isNumeralChar_of_mem_replicate⟩
    refine ⟨by simp, ?_⟩
    simp only [List.forall_mem_append, List.forall_mem_cons]
    refine ⟨fun c mem => padded _ c (List.mem_of_mem_take mem), by decide, ?_⟩
    split
    · decide
    · exact fun c mem => padded _ c (List.mem_of_mem_drop mem)
  · refine ⟨by simp, ?_⟩
    simp only [List.forall_mem_append, List.forall_mem_cons]
    refine ⟨⟨fun c mem => digits c (List.mem_of_mem_take mem), ?_⟩, by decide, ?_,
      isNumeralChar_of_mem_replicate, isNumeralChar_of_mem_toDigits⟩
    · split
      · simp
      · exact List.forall_mem_cons.2 ⟨by decide, fun c mem => digits c (List.mem_of_mem_drop mem)⟩
    · split <;> decide

/-- So is the shortest text of a double. -/
theorem Double.isNumeral_shortestText (d : Double) : IsNumeral d.shortestText.toList := by
  cases d with
  | finite negative significand exponent canonical =>
    rw [shortestText, String.toList_ofList]
    have ⟨nonempty, all⟩ : IsNumeral (if significand = 0 then ['0', '.', '0']
        else (Decimal.shortest significand exponent).text) := by
      split
      · exact ⟨by simp, by decide⟩
      · exact Decimal.isNumeral_text _
    refine ⟨by simp [nonempty], List.forall_mem_append.2 ⟨?_, all⟩⟩
    split <;> decide
  | infinite negative => cases negative <;> exact ⟨by decide, by decide⟩
  | notANumber => exact ⟨by decide, by decide⟩

/-- The text of a number in a stylesheet is a numeral. -/
theorem Number.isNumeral_plainText (number : Number) : IsNumeral number.plainText.toList := by
  unfold plainText
  split
  · exact isNumeral_toString _
  split
  · exact isNumeral_toString _
  · exact Double.isNumeral_shortestText _

/-- So is the text of a number of thousandths. -/
theorem isNumeral_thousandthsText (negative : Bool) (thousandths : Nat) :
    IsNumeral (thousandthsText negative thousandths).toList := by
  rw [thousandthsText, String.toList_ofList]
  refine ⟨by simp, ?_⟩
  simp only [List.forall_mem_append, List.forall_mem_cons]
  refine ⟨⟨?_, isNumeralChar_of_mem_toDigits⟩, by decide, isNumeralChar_of_mem_replicate,
    isNumeralChar_of_mem_toDigits⟩
  split <;> decide

/-- So is each text with three places. -/
theorem isNumeral_fixedOfMagnitude {negative : Bool} {magnitude : Fraction} {text : String}
    (found : fixedOfMagnitude negative magnitude = .ok text) : IsNumeral text.toList := by
  unfold fixedOfMagnitude at found
  simp only at found
  split at found
  · cases found
    exact isNumeral_thousandthsText _ _
  · cases found

/-- The text of a number with three decimal places is a numeral. -/
theorem Number.isNumeral_fixedText {number : Number} {text : String}
    (found : number.fixedText = .ok text) : IsNumeral text.toList := by
  have each : ∀ inner : Except FixedOverflow String,
      inner.mapError (fun _ => ArithmeticError.fixedOverflow) = .ok text → inner = .ok text := by
    intro inner same
    cases inner with
    | error overflow => cases same
    | ok value =>
      cases same
      rfl
  cases number with
  | whole n => exact isNumeral_fixedOfMagnitude (each _ found)
  | double d =>
    have found := each _ found
    cases d with
    | finite negative significand exponent canonical => exact isNumeral_fixedOfMagnitude found
    | infinite negative => cases found
    | notANumber =>
      cases found
      exact ⟨by decide, by decide⟩

end ViewportScaling.Numeric
