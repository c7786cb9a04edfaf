import ViewportScaling.Proofs.Numeric.Denotation

/-!
# Texts with three places

The text of a double with three places is that of the integer nearest to its thousandths, a half away from
zero, in front of which a minus stands exactly if the double has a sign. There is none if that integer has
more than twenty-eight digits. Rounding this way keeps the order of numbers, so the texts of two doubles
denote numbers in the order of the doubles.
-/

namespace ViewportScaling.Numeric

/-! ### Nearest integers -/

/-- An integer is nearest to a number, and of two that are it is the one away from zero. -/
structure IsNearestAway (x : ℚ) (q : Int) : Prop where
  /-- No integer is nearer. -/
  nearest : ∀ k : Int, |(q : ℚ) - x| ≤ |(k : ℚ) - x|
  /-- No integer that is as near lies farther from zero. -/
  away : ∀ k : Int, |(k : ℚ) - x| = |(q : ℚ) - x| → |k| ≤ |q|

/-- The integer nearest to a number, a half away from zero. -/
def roundAway (x : ℚ) : Int := if x < 0 then -round (-x) else round x

/-- What is not negative is rounded half up. -/
theorem roundAway_of_nonneg {x : ℚ} (high : 0 ≤ x) : roundAway x = round x := if_neg (not_lt.2 high)

theorem round_nonneg {x : ℚ} (high : 0 ≤ x) : 0 ≤ round x := by
  rw [round_eq, Int.floor_nonneg]
  linarith

/-- Rounding is the same on both sides of zero. -/
theorem roundAway_neg (x : ℚ) : roundAway (-x) = -roundAway x := by
  unfold roundAway
  rcases lt_trichotomy x 0 with low | rfl | high
  · rw [if_neg (by linarith), if_pos low, neg_neg]
  · simp
  · rw [if_pos (by linarith), if_neg (by linarith), neg_neg]

theorem roundAway_nonneg {x : ℚ} (high : 0 ≤ x) : 0 ≤ roundAway x := by
  rw [roundAway_of_nonneg high]
  exact round_nonneg high

/-- What holds of the nonnegative numbers, and of the opposite of each number it holds of, holds of all. -/
theorem forall_of_nonneg {P : ℚ → Prop} (positive : ∀ x, 0 ≤ x → P x) (opposite : ∀ x, P x → P (-x))
    (x : ℚ) : P x := by
  rcases le_total 0 x with high | low
  · exact positive x high
  · rw [← neg_neg x]
    exact opposite _ (positive _ (neg_nonneg.2 low))

/-- The nearest integer of the negative is the negative of the nearest one. -/
theorem IsNearestAway.neg {x : ℚ} {q : Int} (h : IsNearestAway x q) : IsNearestAway (-x) (-q) := by
  have mirror (k : Int) : |(k : ℚ) - -x| = |((-k : Int) : ℚ) - x| := by
    rw [← abs_neg]
    push_cast
    congr 1
    ring
  refine ⟨fun k => ?_, fun k same => ?_⟩
  · rw [mirror, mirror, neg_neg]
    exact h.nearest (-k)
  · rw [mirror, mirror, neg_neg] at same
    rw [abs_neg, ← abs_neg k]
    exact h.away (-k) same

/-- Rounding away from zero gives the nearest integer, and of two the one away from zero. -/
theorem isNearestAway_roundAway (x : ℚ) : IsNearestAway x (roundAway x) := by
  induction x using forall_of_nonneg with
  | positive x high =>
    rw [roundAway_of_nonneg high]
    have below := sub_half_lt_round x
    refine ⟨fun k => ?_, fun k same => ?_⟩
    · rw [abs_sub_comm, abs_sub_comm (k : ℚ)]
      exact round_le x k
    · rw [abs_of_nonneg (round_nonneg high), abs_le]
      rcases abs_eq_abs.1 same with here | there
      · have : k = round x := by exact_mod_cast sub_left_injective here
        have := round_nonneg high
        omega
      · -- The other integer that is as near is less than one above.
        have least : -(round x : ℚ) ≤ k := by linarith
        have most : (k : ℚ) < round x + 1 := by linarith
        exact ⟨mod_cast least, Int.lt_add_one_iff.1 (mod_cast most)⟩
  | opposite x ih =>
    rw [roundAway_neg]
    exact ih.neg

/-- There is one nearest integer. -/
theorem IsNearestAway.unique {x : ℚ} {q k : Int} (h : IsNearestAway x q) (h' : IsNearestAway x k) :
    q = k := by
  have near : |(k : ℚ) - x| = |(q : ℚ) - x| := le_antisymm (h'.nearest q) (h.nearest k)
  have far : |q| = |k| := le_antisymm (h'.away q near.symm) (h.away k near)
  rcases abs_eq_abs.1 far with same | opposite
  · exact same
  · -- Opposite integers are as near only to zero, and there zero is nearest.
    subst opposite
    rcases abs_eq_abs.1 near with here | there
    · push_cast at here
      have : k = 0 := by exact_mod_cast (by linarith : (k : ℚ) = 0)
      omega
    · push_cast at there
      have origin : x = 0 := by linarith
      have zero := h'.nearest 0
      rw [origin, sub_zero, Int.cast_zero, sub_zero, abs_zero] at zero
      have : k = 0 := by exact_mod_cast abs_nonpos_iff.1 zero
      omega

/-- It is the only one. -/
theorem IsNearestAway.eq_roundAway {x : ℚ} {q : Int} (h : IsNearestAway x q) : q = roundAway x :=
  h.unique (isNearestAway_roundAway x)

/-- Rounding keeps the order. -/
theorem roundAway_mono {x y : ℚ} (order : x ≤ y) : roundAway x ≤ roundAway y := by
  have upper {x y : ℚ} (high : 0 ≤ x) (order : x ≤ y) : roundAway x ≤ roundAway y := by
    rw [roundAway_of_nonneg high, roundAway_of_nonneg (high.trans order), round_eq, round_eq]
    exact Int.floor_le_floor (by linarith)
  rcases le_total 0 x with high | low
  · exact upper high order
  rcases le_total 0 y with high | low'
  · have below := roundAway_nonneg (neg_nonneg.2 low)
    rw [roundAway_neg] at below
    have := roundAway_nonneg high
    omega
  · have := upper (neg_nonneg.2 low') (neg_le_neg order)
    rw [roundAway_neg, roundAway_neg] at this
    omega

/-- The thousandths of a number are those of the integer nearest to them. -/
theorem natAbs_roundAway (x : ℚ) : (roundAway (1000 * x)).natAbs = thousandthsOf x := by
  induction x using forall_of_nonneg with
  | positive x high =>
    have := round_nonneg (mul_nonneg (by norm_num : (0 : ℚ) ≤ 1000) high)
    rw [roundAway_of_nonneg (by positivity), thousandthsOf, abs_of_nonneg high]
    omega
  | opposite x ih => rw [mul_neg, roundAway_neg, Int.natAbs_neg, ih, thousandthsOf, thousandthsOf, abs_neg]

/-! ### One numeral, one number -/

/-- What is no digit does not stand among digits. -/
theorem AreDigits.notMem {text : List Char} (digits : AreDigits text) {mark : Char}
    (plain : mark.isDigit = false) : mark ∉ text := by
  intro mem
  rw [digits mark mem] at plain
  cases plain

/-- A point and the digits beside it are all that a positional numeral holds. -/
theorem IsPositional.notMem {text : List Char} {x : ℚ} (spelled : IsPositional text x) {mark : Char}
    (plain : mark.isDigit = false) (noPoint : mark ≠ '.') : mark ∉ text := by
  obtain ⟨whole, places, -, digits, rfl, -⟩ := spelled.parts
  have absent := digits.notMem plain
  rw [List.mem_append, not_or] at absent
  rw [List.mem_append, not_or]
  refine ⟨absent.1, ?_⟩
  split
  · exact List.not_mem_nil
  · exact List.not_mem_cons_of_ne_of_not_mem noPoint absent.2

/-- A text has one positional value. -/
theorem IsPositional.unique {text : List Char} {x y : ℚ} (h : IsPositional text x)
    (k : IsPositional text y) : x = y := by
  obtain ⟨whole, places, -, digits, rfl, rfl⟩ := h.parts
  obtain ⟨whole', places', -, digits', same, rfl⟩ := k.parts
  have noPoint : '.' ∉ whole ++ places := digits.notMem rfl
  have noPoint' : '.' ∉ whole' ++ places' := digits'.notMem rfl
  rw [List.mem_append, not_or] at noPoint noPoint'
  have parts : whole = whole' ∧ places = places' := by
    by_cases none : places = [] <;> by_cases none' : places' = []
    · rw [if_pos none, if_pos none', List.append_nil, List.append_nil] at same
      exact ⟨same, none.trans none'.symm⟩
    · rw [if_pos none, if_neg none', List.append_nil] at same
      exact absurd (same ▸ by simp) noPoint.1
    · rw [if_neg none, if_pos none', List.append_nil] at same
      exact absurd (same ▸ by simp) noPoint'.1
    · rw [if_neg none, if_neg none'] at same
      obtain ⟨front, -, back⟩ := (List.append_cons_inj_of_notMem noPoint.1 noPoint.2).1 same
      exact ⟨front, back⟩
  rw [parts.1, parts.2]

/-- A numeral is one for one number. -/
theorem Denotes.unique {text : List Char} {x y : ℚ} (h : Denotes text x) (k : Denotes text y) :
    x = y := by
  -- Only a numeral with a power of ten holds the mark of one, and it holds it once.
  have noMark {text : List Char} {x : ℚ} (spelled : IsPositional text x) : 'e' ∉ text :=
    spelled.notMem rfl (by decide)
  cases h with
  | positional spelled =>
    generalize whole : text = other at k
    cases k with
    | positional spelled' => exact spelled.unique (whole ▸ spelled')
    | scientific spelled' => exact absurd (whole ▸ by simp) (noMark spelled)
  | @scientific text power x spelled negative some digits =>
    generalize whole : text ++ 'e' :: (if negative then '-' else '+') :: power = other at k
    cases k with
    | positional spelled' => exact absurd (whole ▸ by simp) (noMark spelled')
    | @scientific text' power' x' spelled' negative' some' digits' =>
      have noMark' : 'e' ∉ (if negative then '-' else '+') :: power := by
        refine List.not_mem_cons_of_ne_of_not_mem ?_ (digits.notMem rfl)
        split <;> decide
      obtain ⟨rfl, -, behind⟩ := (List.append_cons_inj_of_notMem (noMark spelled) noMark').1 whole
      obtain ⟨signs, rfl⟩ := List.cons.inj behind
      have sign : negative = negative' := by
        revert signs
        cases negative <;> cases negative' <;> decide
      rw [spelled.unique spelled', sign]

/-- A text is a numeral for a number, behind a minus for its opposite. -/
inductive DenotesSigned : List Char → ℚ → Prop
  /-- A numeral alone. -/
  | plain {text : List Char} {x : ℚ} (denotes : Denotes text x) : DenotesSigned text x
  /-- A numeral behind a minus. -/
  | minus {text : List Char} {x : ℚ} (denotes : Denotes text x) : DenotesSigned ('-' :: text) (-x)

/-- No numeral starts with a minus. -/
theorem Denotes.ne_minus {text rest : List Char} {x : ℚ} (denotes : Denotes text x) :
    text ≠ '-' :: rest := by
  have first {text : List Char} {x : ℚ} (spelled : IsPositional text x) :
      ∃ c others, text = c :: others ∧ c ≠ '-' := by
    obtain ⟨whole, places, nonempty, digits, rfl, -⟩ := spelled.parts
    obtain ⟨c, others, rfl⟩ := List.exists_cons_of_ne_nil nonempty
    refine ⟨c, _, rfl, ?_⟩
    rintro rfl
    have noMinus : '-' ∉ '-' :: others ++ places := digits.notMem rfl
    exact noMinus (by simp)
  intro same
  cases denotes with
  | positional spelled =>
    obtain ⟨c, others, rfl, other⟩ := first spelled
    exact other (List.cons.inj same).1
  | scientific spelled =>
    obtain ⟨c, others, rfl, other⟩ := first spelled
    exact other (List.cons.inj same).1

/-- A numeral with or without a minus is one for one number. -/
theorem DenotesSigned.unique {text : List Char} {x y : ℚ} (h : DenotesSigned text x)
    (k : DenotesSigned text y) : x = y := by
  cases h with
  | plain denotes =>
    cases k with
    | plain denotes' => exact denotes.unique denotes'
    | minus => exact absurd rfl denotes.ne_minus
  | minus denotes =>
    cases k with
    | plain denotes' => exact absurd rfl denotes'.ne_minus
    | minus denotes' => rw [denotes.unique denotes']

/-! ### Texts of thousandths -/

/-- The text of a whole number of thousandths with a sign: the whole part without leading zeros, a point
and the rest in three digits. -/
def thousandthsSpelling (negative : Bool) (thousandths : Nat) : String :=
  let rest := thousandths % 1000
  (if negative then "-" else "") ++ toString (thousandths / 1000) ++ "." ++
    String.ofList [(rest / 100).digitChar, (rest / 10 % 10).digitChar, (rest % 10).digitChar]

/-- Below a thousand there are three digits with zeros in front. -/
theorem threeDigits {n : Nat} (small : n < 1000) :
    List.replicate (3 - (Nat.toDigits 10 n).length) '0' ++ Nat.toDigits 10 n =
      [(n / 100).digitChar, (n / 10 % 10).digitChar, (n % 10).digitChar] := by
  by_cases one : n < 10
  · rw [Nat.toDigits_of_lt_base one, Nat.div_eq_of_lt one, Nat.mod_eq_of_lt one,
      Nat.div_eq_of_lt (by omega : n < 100)]
    rfl
  by_cases two : n < 100
  · rw [Nat.toDigits_eq_if (by decide), if_neg one, Nat.toDigits_of_lt_base (by omega),
      Nat.div_eq_of_lt two, Nat.mod_eq_of_lt (by omega : n / 10 < 10)]
    rfl
  · rw [Nat.toDigits_eq_if (by decide), if_neg one, Nat.toDigits_eq_if (by decide), if_neg (by omega),
      Nat.toDigits_of_lt_base (by omega), Nat.div_div_eq_div_mul]
    rfl

/-- The text of a number of thousandths is its spelling. -/
theorem thousandthsText_eq (negative : Bool) (thousandths : Nat) :
    thousandthsText negative thousandths = thousandthsSpelling negative thousandths := by
  have places := threeDigits (Nat.mod_lt thousandths (by decide : 1000 > 0))
  unfold thousandthsText thousandthsSpelling
  dsimp only
  rw [places, ← String.toList_inj]
  cases negative <;> simp [Nat.toList_repr]

/-- Three digits stand for their number in the places behind a whole one. -/
theorem ofDigitChars_threeDigits {n : Nat} (small : n < 1000) (whole : Nat) :
    Nat.ofDigitChars 10 [(n / 100).digitChar, (n / 10 % 10).digitChar, (n % 10).digitChar] whole =
      1000 * whole + n := by
  have digit (d : Nat) (single : d < 10) : d.digitChar.toNat - '0'.toNat = d := by
    revert d
    decide
  simp only [Nat.ofDigitChars_cons, Nat.ofDigitChars_nil, digit _ (Nat.mod_lt _ (by decide : 10 > 0)),
    digit (n / 100) (by omega)]
  omega

/-- The text of thousandths denotes them. -/
theorem denotesSigned_thousandthsText (negative : Bool) (thousandths : Nat) :
    DenotesSigned (thousandthsText negative thousandths).toList
      (if negative then -(thousandths / 1000 : ℚ) else thousandths / 1000) := by
  have small := Nat.mod_lt thousandths (by decide : 1000 > 0)
  have spelled : Denotes (Nat.toDigits 10 (thousandths / 1000) ++ '.' ::
      (List.replicate (3 - (Nat.toDigits 10 (thousandths % 1000)).length) '0' ++
        Nat.toDigits 10 (thousandths % 1000))) (thousandths / 1000) := by
    refine .positional ⟨Nat.toDigits 10 (thousandths / 1000), List.replicate
      (3 - (Nat.toDigits 10 (thousandths % 1000)).length) '0' ++ Nat.toDigits 10 (thousandths % 1000),
      Nat.toDigits_ne_nil, ?_, by simp, ?_⟩
    · exact (areDigits_toDigits _).append ((areDigits_replicate _).append (areDigits_toDigits _))
    · have parts : 1000 * (thousandths / 1000) + thousandths % 1000 = thousandths :=
        Nat.div_add_mod thousandths 1000
      rw [Nat.ofDigitChars_append, Nat.ofDigitChars_ten_toDigits, threeDigits small,
        ofDigitChars_threeDigits small, parts]
      norm_num [div_eq_mul_inv]
  unfold thousandthsText
  dsimp only
  rw [String.toList_ofList]
  cases negative with
  | false => exact .plain spelled
  | true => exact .minus spelled

/-! ### Texts of doubles -/

/-- Whether the sign of a double is set. -/
def Double.isNegative : Double → Bool
  | .finite negative _ _ _ => negative
  | .infinite negative => negative
  | .notANumber => false

/-- A double has the text of its thousandths unless they are too many. -/
theorem Double.fixedText_of_value? {d : Double} {x : ℚ} (found : d.value? = some x) :
    d.fixedText = if thousandthsOf x < 10 ^ 28 then .ok (thousandthsText d.isNegative (thousandthsOf x))
      else .error {} := by
  cases d with
  | finite negative significand exponent canonical =>
    rw [fixedText, fixedOfMagnitude, nearestUp_thousandths found]
    rfl
  | infinite negative => cases found
  | notANumber => cases found

/-- The sign of a double is that of the integer nearest to its thousandths, if that is not zero. -/
theorem Double.signed_thousandthsOf {d : Double} {x : ℚ} (found : d.value? = some x) :
    (if d.isNegative then -(thousandthsOf x : ℚ) else thousandthsOf x) = roundAway (1000 * x) := by
  cases d with
  | finite negative significand exponent canonical =>
    have magnitude := Fraction.value_nonneg (.binary significand exponent)
    rw [Fraction.value_binary] at magnitude
    have high := roundAway_nonneg (mul_nonneg (by norm_num : (0 : ℚ) ≤ 1000) magnitude)
    have whole : ((roundAway (1000 * (significand * 2 ^ exponent))).natAbs : ℚ) =
        roundAway (1000 * (significand * 2 ^ exponent)) := by
      rw [Nat.cast_natAbs, abs_of_nonneg high]
    cases found
    rw [← natAbs_roundAway]
    cases negative with
    | false => exact whole
    | true =>
      rw [isNegative, if_pos rfl, if_pos rfl, mul_neg, roundAway_neg, Int.natAbs_neg, Int.cast_neg, whole]
  | infinite negative => cases found
  | notANumber => cases found

/-- The text of a double denotes the nearest number of thousandths. -/
theorem Double.denotes_of_fixedText {d : Double} {x : ℚ} (found : d.value? = some x) {text : String}
    (written : d.fixedText = .ok text) (z : ℚ) :
    DenotesSigned text.toList z ↔ z = roundAway (1000 * x) / 1000 := by
  rw [fixedText_of_value? found] at written
  split at written
  · cases written
    have denotes := denotesSigned_thousandthsText d.isNegative (thousandthsOf x)
    have value : (if d.isNegative then -(thousandthsOf x / 1000 : ℚ) else thousandthsOf x / 1000) =
        roundAway (1000 * x) / 1000 := by
      rw [← signed_thousandthsOf found]
      split
      · rw [neg_div]
      · rfl
    rw [value] at denotes
    constructor
    · intro other
      exact other.unique denotes
    · rintro rfl
      exact denotes
  · cases written

/-- The text of a number has the text of three places of the double that it is. -/
theorem Number.fixedText_double_eq_ok_iff {d : Double} {text : String} :
    (Number.double d).fixedText = .ok text ↔ d.fixedText = .ok text := by
  change d.fixedText.mapError _ = .ok text ↔ _
  cases d.fixedText with
  | error overflow => exact ⟨nofun, nofun⟩
  | ok found =>
    constructor
    · intro same
      cases same
      rfl
    · intro same
      cases same
      rfl

/-- A double of the exact value m · 2 ^ e has the text of the integer nearest to its thousandths, a half away
from zero, with a minus exactly if its sign is set, as long as that integer has no more than twenty-eight
digits. So where two doubles have texts, these denote numbers in the order of the doubles. -/
theorem fixedText_nearest {d : Double} {m e q : Int} (exact : d.value? = some ((m : ℚ) * 2 ^ e))
    (nearest : IsNearestAway (1000 * ((m : ℚ) * 2 ^ e)) q) :
    (Number.double d).fixedText = (if q.natAbs < 10 ^ 28 then .ok (thousandthsSpelling d.isNegative q.natAbs)
      else .error .fixedOverflow) ∧
    ∀ {other : Double} {x : ℚ}, other.value? = some x → (m : ℚ) * 2 ^ e ≤ x → ∀ {text text' : String},
      (Number.double d).fixedText = .ok text → (Number.double other).fixedText = .ok text' →
        ∃ y y', (∀ z, DenotesSigned text.toList z ↔ z = y) ∧
          (∀ z, DenotesSigned text'.toList z ↔ z = y') ∧ y ≤ y' := by
  constructor
  · rw [nearest.eq_roundAway, natAbs_roundAway, Number.fixedText, Double.fixedText_of_value? exact,
      ← thousandthsText_eq]
    split <;> rfl
  · intro other x exact' order text text' written written'
    refine ⟨_, _, Double.denotes_of_fixedText exact (Number.fixedText_double_eq_ok_iff.1 written),
      Double.denotes_of_fixedText exact' (Number.fixedText_double_eq_ok_iff.1 written'), ?_⟩
    have rounded := roundAway_mono (mul_le_mul_of_nonneg_left order (by norm_num : (0 : ℚ) ≤ 1000))
    exact div_le_div_of_nonneg_right (mod_cast rounded) (by norm_num)

/-- The tie -62.5 of thousandths goes away from zero, and negative zero keeps its sign. -/
theorem fixedText_nearest_tie :
    let sixteenth : Double := .finite true (2 ^ 52) (-56) (by decide)
    let zero : Double := .zero true
    sixteenth.value? = some (((-1 : Int) : ℚ) * 2 ^ (-4 : Int)) ∧
      IsNearestAway (1000 * (((-1 : Int) : ℚ) * 2 ^ (-4 : Int))) (-63) ∧
      (Number.double sixteenth).fixedText = .ok "-0.063" ∧ (Number.double zero).fixedText = .ok "-0.000" ∧
      ∃ y y', (∀ z, DenotesSigned "-0.063".toList z ↔ z = y) ∧
        (∀ z, DenotesSigned "-0.000".toList z ↔ z = y') ∧ y ≤ y' := by
  intro sixteenth zero
  have exact : sixteenth.value? = some (((-1 : Int) : ℚ) * 2 ^ (-4 : Int)) := by
    norm_num [sixteenth, Double.value?]
  have nearest : IsNearestAway (1000 * (((-1 : Int) : ℚ) * 2 ^ (-4 : Int))) (-63) := by
    have rounded : roundAway (1000 * (((-1 : Int) : ℚ) * 2 ^ (-4 : Int))) = -63 := by
      norm_num [roundAway, round_eq_iff]
    rw [← rounded]
    exact isNearestAway_roundAway _
  have exact' : zero.value? = some 0 := by
    norm_num [zero, Double.zero, Double.value?]
  obtain ⟨text, ordered⟩ := fixedText_nearest exact nearest
  have text' : (Number.double sixteenth).fixedText = .ok "-0.063" := by
    rw [text]
    decide +kernel
  have zeroText : (Number.double zero).fixedText = .ok "-0.000" := by decide +kernel
  exact ⟨exact, nearest, text', zeroText, ordered exact' (by norm_num) text' zeroText⟩

end ViewportScaling.Numeric
