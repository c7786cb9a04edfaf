import ViewportScaling.Proofs.Numeric.Rounding

/-!
# Two spellings of a number

A whole number may be spelled as a double if it is the value of one. Both spellings have one text in a
stylesheet, and they give one ratio, as long as each number of the ratio is the value of a double: two whole
numbers are divided exactly and rounded once, and so are the doubles that they stand for.
-/

namespace ViewportScaling.Numeric

/-- A whole number is the value of a double. -/
def IsDouble (n : Int) : Prop := ∃ d : Double, d.value? = some (n : ℚ)

/-- A positive integer is the value of its magnitude. -/
theorem value_ofNat_natAbs {n : Int} (positive : 0 < n) : (Fraction.ofNat n.natAbs).value = n := by
  rw [Fraction.value_ofNat, ← Int.cast_natCast, Int.natAbs_of_nonneg positive.le]

namespace Double

/-- A double with a positive value has no sign, and its parts make up the value. -/
theorem parts_of_value? {d : Double} {x : ℚ} (found : d.value? = some x) (positive : 0 < x) :
    ∃ significand exponent canonical, d = .finite false significand exponent canonical ∧
      (Fraction.binary significand exponent).value = x := by
  cases d with
  | finite negative significand exponent canonical =>
    have magnitude := Fraction.value_binary significand exponent
    have nonneg := (Fraction.binary significand exponent).value_nonneg
    cases negative with
    | false => exact ⟨_, _, canonical, rfl, magnitude.trans (Option.some.inj found)⟩
    | true =>
      have below : -(significand * (2 : ℚ) ^ exponent) = x := Option.some.inj found
      rw [← magnitude] at below
      linarith
  | infinite negative => cases found
  | notANumber => cases found

/-- The double nearest to the value of a double is that double. -/
theorem ofInt_of_value? {d : Double} {n : Int} (found : d.value? = some (n : ℚ)) (positive : 0 < n) :
    ofInt n = d := by
  obtain ⟨significand, exponent, canonical, rfl, value⟩ := parts_of_value? found (mod_cast positive)
  have some : 0 < significand := by
    rw [Fraction.value_binary] at value
    refine Nat.pos_of_ne_zero fun zero => ?_
    rw [zero, Nat.cast_zero, zero_mul] at value
    exact positive.ne (mod_cast value)
  have magnitude : (Fraction.ofNat n.natAbs).value = (Fraction.binary significand exponent).value := by
    rw [value, value_ofNat_natAbs positive]
  rw [ofInt, decide_eq_false (not_lt.2 positive.le), round_congr false magnitude,
    round_binary false canonical some]

/-- A double whose value is whole gives that value. -/
theorem toInt?_of_value? {d : Double} {n : Int} (found : d.value? = some (n : ℚ)) (positive : 0 < n) :
    d.toInt? = some n := by
  obtain ⟨significand, exponent, canonical, rfl, value⟩ := parts_of_value? found (mod_cast positive)
  have floor : ((Fraction.binary significand exponent).floor : Int) = n := by
    rw [Fraction.floor_eq, value, Int.floor_intCast]
  have whole : (Fraction.binary significand exponent).numerator %
      (Fraction.binary significand exponent).denominator = 0 := by
    have rest := (Fraction.binary significand exponent).fract_value
    rw [value, Int.fract_intCast, eq_comm, div_eq_zero_iff] at rest
    exact_mod_cast rest.resolve_right (Fraction.denominator_cast_pos _).ne'
  rw [toInt?, if_pos whole, if_neg Bool.false_ne_true, floor]

end Double

namespace Number

/-! ### Numbers that stand for a double -/

/-- A number stands for a double: it is that double, or a positive whole number with its value. -/
inductive StandsFor : Number → Double → Prop
  /-- The double itself. -/
  | double (d : Double) : StandsFor (.double d) d
  /-- Its value, if that is whole. -/
  | whole {n : Int} {d : Double} (positive : 0 < n) (value : d.value? = some (n : ℚ)) :
      StandsFor (.whole n) d

namespace StandsFor

variable {a b : Number} {d e : Double}

/-- A number that stands for a double is converted to it. -/
theorem toDouble (stands : a.StandsFor d) : a.toDouble = .ok d := by
  cases stands with
  | double => rfl
  | whole positive value =>
    rw [Number.toDouble, Double.ofInt_of_value? value positive]
    obtain ⟨_, _, _, rfl, -⟩ := Double.parts_of_value? value (mod_cast positive)
    rfl

/-- A number has the text of the double that it stands for. -/
theorem plainText (stands : a.StandsFor d) : a.plainText = (Number.double d).plainText := by
  cases stands with
  | double => rfl
  | whole positive value =>
    rw [Number.plainText, Number.plainText, Double.toInt?_of_value? value positive]

/-- Two whole numbers are divided exactly before rounding, and so are the doubles with their values. -/
theorem ratio_whole {m n : Int} (positive : 0 < m) (value : d.value? = some (m : ℚ))
    (positive' : 0 < n) (value' : e.value? = some (n : ℚ)) :
    (Number.whole m).ratio (.whole n) = .ok (d.div e) := by
  obtain ⟨s, f, canonical, rfl, left⟩ := Double.parts_of_value? value (mod_cast positive)
  obtain ⟨t, g, canonical', rfl, right⟩ := Double.parts_of_value? value' (mod_cast positive')
  have divisor : 0 < (Fraction.ofNat n.natAbs).numerator := Int.natAbs_pos.2 positive'.ne'
  have divisor' : 0 < (Fraction.binary t g).numerator := by
    rw [← Fraction.value_pos_iff, right]
    exact_mod_cast positive'
  have same : ((Fraction.ofNat m.natAbs).div (.ofNat n.natAbs) divisor).value =
      ((Fraction.binary s f).div (.binary t g) divisor').value := by
    rw [Fraction.value_div, Fraction.value_div, value_ofNat_natAbs positive,
      value_ofNat_natAbs positive', left, right]
  -- The divisor is at least one, so the quotient is no larger than the dividend.
  have bounded : ((Fraction.binary s f).div (.binary t g) divisor').value ≤ Double.largest := by
    rw [Fraction.value_div]
    refine le_trans (div_le_self (Fraction.value_nonneg _) ?_) (Double.binary_le_largest canonical)
    rw [right]
    exact_mod_cast positive'
  refine (dif_pos divisor).trans ?_
  rw [decide_eq_false (not_lt.2 positive.le), decide_eq_false (not_lt.2 positive'.le),
    Double.round_congr _ same]
  dsimp only
  rw [Double.isInfinite_round _ bounded, if_neg Bool.false_ne_true, Double.div, dif_pos divisor']

/-- The ratio of two numbers is the quotient of the doubles that they stand for. -/
theorem ratio (stands : a.StandsFor d) (stands' : b.StandsFor e) : a.ratio b = .ok (d.div e) := by
  cases stands with
  | double =>
    rw [Number.ratio, stands'.toDouble]
    · rfl
    · nofun
  | whole positive value =>
    cases stands' with
    | double =>
      rw [Number.ratio, (StandsFor.whole positive value).toDouble]
      · rfl
      · nofun
    | whole positive' value' => exact ratio_whole positive value positive' value'

end StandsFor

/-! ### Spellings -/

/-- Two spellings of a number: they are the same, or one is a whole number and the other the double of that
value. -/
inductive Respelled : Number → Number → Prop
  /-- One spelling. -/
  | same (a : Number) : Respelled a a
  /-- A whole number is spelled as a double. -/
  | asDouble {n : Int} (exact : IsDouble n) : Respelled (.whole n) (.double (.ofInt n))
  /-- A double is spelled as a whole number. -/
  | asWhole {n : Int} (exact : IsDouble n) : Respelled (.double (.ofInt n)) (.whole n)

/-- A number is a double, or the value of one. -/
def IsExact : Number → Prop
  | .whole n => IsDouble n
  | .double _ => True

variable {a a' b b' : Number}

theorem standsFor_of_isDouble {n : Int} (exact : IsDouble n) (positive : 0 < n) :
    StandsFor (.whole n) (.ofInt n) := by
  obtain ⟨d, value⟩ := exact
  rw [Double.ofInt_of_value? value positive]
  exact .whole positive value

/-- An integer that is not at most zero is positive. -/
theorem pos_of_isAtMostZero {n : Int} (high : (Number.whole n).isAtMostZero = false) : 0 < n :=
  not_le.1 (of_decide_eq_false high)

/-- A positive number that is exact stands for the same double in both spellings. -/
theorem Respelled.standsFor (respelled : a.Respelled a') (exact : a.IsExact)
    (high : a.isAtMostZero = false) (high' : a'.isAtMostZero = false) :
    ∃ d, a.StandsFor d ∧ a'.StandsFor d := by
  cases respelled with
  | same =>
    cases a with
    | whole n =>
      have stands := standsFor_of_isDouble exact (pos_of_isAtMostZero high)
      exact ⟨_, stands, stands⟩
    | double d => exact ⟨d, .double d, .double d⟩
  | asDouble value => exact ⟨_, standsFor_of_isDouble value (pos_of_isAtMostZero high), .double _⟩
  | asWhole value => exact ⟨_, .double _, standsFor_of_isDouble value (pos_of_isAtMostZero high')⟩

/-- A number that is respelled is left as it is, or is exact. -/
theorem Respelled.eq_or_isExact (respelled : a.Respelled a') : a = a' ∨ a.IsExact := by
  cases respelled with
  | same => exact .inl rfl
  | asDouble exact => exact .inr exact
  | asWhole exact => exact .inr trivial

/-- Both spellings of a positive number have one text in a stylesheet. -/
theorem Respelled.plainText_eq (respelled : a.Respelled a') (high : a.isAtMostZero = false)
    (high' : a'.isAtMostZero = false) : a.plainText = a'.plainText := by
  rcases respelled.eq_or_isExact with rfl | exact
  · rfl
  · obtain ⟨d, stands, stands'⟩ := respelled.standsFor exact high high'
    rw [stands.plainText, stands'.plainText]

/-- The spellings of positive numbers do not matter to their ratio if they are the same on both sides, or if
both numbers are exact. -/
theorem Respelled.ratio_eq (respelled : a.Respelled a') (respelled' : b.Respelled b')
    (high : a.isAtMostZero = false ∧ a'.isAtMostZero = false)
    (high' : b.isAtMostZero = false ∧ b'.isAtMostZero = false)
    (alike : (a = a' ∧ b = b') ∨ (a.IsExact ∧ b.IsExact)) : a.ratio b = a'.ratio b' := by
  rcases alike with ⟨rfl, rfl⟩ | ⟨exact, exact'⟩
  · rfl
  · obtain ⟨d, left, left'⟩ := respelled.standsFor exact high.1 high.2
    obtain ⟨e, right, right'⟩ := respelled'.standsFor exact' high'.1 high'.2
    rw [left.ratio right, left'.ratio right']

end Number

end ViewportScaling.Numeric
