import ViewportScaling.Proofs.Numeric.Respelling

/-!
# What a numeral denotes

A numeral is written with decimal digits, a point among them if some stand behind it, and a power of ten if
there is one. The text of a decimal denotes exactly that decimal, and the shortest decimal of a positive
double is positive. So the text of a finite positive number in a stylesheet denotes a positive number.
-/

namespace ViewportScaling.Numeric

/-! ### Numerals -/

/-- A text of decimal digits. -/
def AreDigits (text : List Char) : Prop := ∀ c ∈ text, c.isDigit = true

/-- A text of digits, with a point in front of the last ones if it has places. -/
structure IsPositional (text : List Char) (x : ℚ) : Prop where
  /-- There are digits in front of the point, and only digits beside it; all of them count, down to the last
  place. -/
  parts : ∃ whole places, whole ≠ [] ∧ AreDigits (whole ++ places) ∧
    text = whole ++ (if places = [] then [] else '.' :: places) ∧
    x = Nat.ofDigitChars 10 (whole ++ places) 0 * 10 ^ (-places.length : Int)

/-- A text is a numeral for a number. -/
inductive Denotes : List Char → ℚ → Prop
  /-- Digits with or without places. -/
  | positional {text : List Char} {x : ℚ} (spelled : IsPositional text x) : Denotes text x
  /-- Digits with a power of ten. -/
  | scientific {text power : List Char} {x : ℚ} (spelled : IsPositional text x) (negative : Bool)
      (some : power ≠ []) (digits : AreDigits power) :
      Denotes (text ++ 'e' :: (if negative then '-' else '+') :: power)
        (x * 10 ^ (if negative then -(Nat.ofDigitChars 10 power 0 : Int)
          else Nat.ofDigitChars 10 power 0))

/-- The decimal digits of a natural number are digits. -/
theorem areDigits_toDigits (n : Nat) : AreDigits (Nat.toDigits 10 n) :=
  fun _ mem => Nat.isDigit_of_mem_toDigits (by decide) (by decide) mem

theorem areDigits_replicate (n : Nat) : AreDigits (List.replicate n '0') := by
  intro c mem
  rw [List.eq_of_mem_replicate mem]
  decide

/-- Digits stay digits one row behind the other. -/
theorem AreDigits.append {first second : List Char} (front : AreDigits first) (back : AreDigits second) :
    AreDigits (first ++ second) := List.forall_mem_append.2 ⟨front, back⟩

/-- The digits of a natural number denote it. -/
theorem denotes_toDigits (n : Nat) : Denotes (Nat.toDigits 10 n) n := by
  refine .positional ⟨_, [], Nat.toDigits_ne_nil, ?_, (List.append_nil _).symm, ?_⟩
  · rw [List.append_nil]
    exact areDigits_toDigits n
  · rw [List.append_nil, Nat.ofDigitChars_ten_toDigits]
    simp

/-! ### Texts of decimals -/

/-- Without the zeros at its end a text of digits falls short of them only. -/
theorem exists_zeros (text : List Char) :
    ∃ zeros, text = (text.reverse.dropWhile (· == '0')).reverse ++ List.replicate zeros '0' := by
  refine ⟨(text.reverse.takeWhile (· == '0')).length, ?_⟩
  have zeros : text.reverse.takeWhile (· == '0') =
      List.replicate (text.reverse.takeWhile (· == '0')).length '0' :=
    List.eq_replicate_iff.2 ⟨rfl, fun c mem => beq_iff_eq.1 (List.all_eq_true.1 List.all_takeWhile c mem)⟩
  have split := congrArg List.reverse (text.reverse.takeWhile_append_dropWhile (p := (· == '0')))
  rw [List.reverse_append, List.reverse_reverse] at split
  conv_lhs => rw [← split, zeros, List.reverse_replicate]

section

variable {digits : List Char} (areDigits : AreDigits digits)
include areDigits

/-- Digits behind the point and zeros. -/
theorem denotes_places (nonempty : digits ≠ []) (zeros : Nat) :
    Denotes ('0' :: '.' :: List.replicate zeros '0' ++ digits)
      (Nat.ofDigitChars 10 digits 0 * 10 ^ (-(zeros + digits.length) : Int)) := by
  refine .positional ⟨['0'], List.replicate zeros '0' ++ digits, by simp, ?_, by simp [nonempty], ?_⟩
  · exact AreDigits.append (areDigits_replicate 1) ((areDigits_replicate zeros).append areDigits)
  · rw [Nat.ofDigitChars_append, Nat.ofDigitChars_append, Nat.ofDigitChars_replicate_zero,
      List.length_append, List.length_replicate]
    simp [Nat.ofDigitChars_cons]

/-- Digits with the point behind a given number of them, and zeros where they run out. -/
theorem denotes_padded {width : Nat} (wide : 0 < width) :
    let padded := digits ++ List.replicate (width - digits.length) '0'
    let places := padded.drop width
    Denotes (padded.take width ++ '.' :: (if places = [] then ['0'] else places))
      (Nat.ofDigitChars 10 digits 0 * 10 ^ (width - digits.length : Int)) := by
  intro padded places
  have long : padded.length = max digits.length width := by
    simp only [padded, List.length_append, List.length_replicate]
    omega
  have front : padded.take width ≠ [] := by
    rw [← List.length_pos_iff, List.length_take, long]
    omega
  have all : AreDigits padded := areDigits.append (areDigits_replicate _)
  have value : Nat.ofDigitChars 10 padded 0 =
      10 ^ (width - digits.length) * Nat.ofDigitChars 10 digits 0 := by
    rw [Nat.ofDigitChars_append, Nat.ofDigitChars_replicate_zero]
  by_cases empty : places = []
  · have short : digits.length ≤ width := by
      have := List.drop_eq_nil_iff.1 empty
      omega
    have same : padded.take width = padded := List.take_of_length_le (by omega)
    rw [if_pos empty]
    refine .positional ⟨padded.take width, ['0'], front, ?_, by simp, ?_⟩
    · rw [same]
      exact all.append (areDigits_replicate 1)
    · rw [same, Nat.ofDigitChars_append, value, ← Nat.cast_sub short, zpow_natCast]
      simp [Nat.ofDigitChars_cons]
      ring
  · have long' : width < digits.length := by
      have := mt List.drop_eq_nil_iff.2 empty
      omega
    rw [if_neg empty]
    refine .positional ⟨padded.take width, places, front, ?_, by simp [empty], ?_⟩
    · rw [List.take_append_drop]
      exact all
    · rw [List.take_append_drop, value, Nat.sub_eq_zero_of_le long'.le, pow_zero, one_mul,
        List.length_drop, long, max_eq_left long'.le, Nat.cast_sub long'.le, neg_sub]

/-- One digit in front of the point, the others behind it, and a power of ten. -/
theorem denotes_power (nonempty : digits ≠ []) (order : Int) :
    let power := Nat.toDigits 10 order.natAbs
    Denotes (digits.take 1 ++ (if digits.drop 1 = [] then [] else '.' :: digits.drop 1) ++ 'e' ::
        (if order < 0 then '-' else '+') :: (List.replicate (2 - power.length) '0' ++ power))
      (Nat.ofDigitChars 10 digits 0 * 10 ^ (order - (digits.length - 1))) := by
  intro power
  have mantissa : IsPositional
      (digits.take 1 ++ if digits.drop 1 = [] then [] else '.' :: digits.drop 1)
      (Nat.ofDigitChars 10 digits 0 * 10 ^ (-(digits.length - 1) : Int)) := by
    refine ⟨digits.take 1, digits.drop 1, by simp [nonempty], ?_, rfl, ?_⟩
    · rw [List.take_append_drop]
      exact areDigits
    · have some := List.length_pos_iff.2 nonempty
      rw [List.take_append_drop, List.length_drop, Nat.cast_sub some, Nat.cast_one]
  have value : Nat.ofDigitChars 10 (List.replicate (2 - power.length) '0' ++ power) 0 = order.natAbs := by
    rw [Nat.ofDigitChars_append, Nat.ofDigitChars_replicate_zero, mul_zero,
      Nat.ofDigitChars_ten_toDigits]
  have spelled := Denotes.scientific mantissa (decide (order < 0))
    (show List.replicate (2 - power.length) '0' ++ power ≠ [] by simp [power])
    ((areDigits_replicate _).append (areDigits_toDigits _))
  have exponent : (if decide (order < 0) = true then -(order.natAbs : Int) else order.natAbs) = order := by
    simp only [decide_eq_true_eq]
    split <;> omega
  rw [value, exponent, mul_assoc, ← zpow_add₀ (by norm_num), neg_add_eq_sub] at spelled
  simpa only [decide_eq_true_eq] using spelled

end

/-- The text of a positive decimal denotes it. -/
theorem Decimal.denotes_text {d : Decimal} (positive : 0 < d.digits) : Denotes d.text d.value.value := by
  obtain ⟨zeros, split⟩ := exists_zeros (Nat.toDigits 10 d.digits)
  have areDigits : AreDigits ((Nat.toDigits 10 d.digits).reverse.dropWhile (· == '0')).reverse := by
    intro c mem
    refine areDigits_toDigits d.digits c ?_
    rw [split]
    exact List.mem_append_left _ mem
  unfold text
  dsimp only
  generalize ((Nat.toDigits 10 d.digits).reverse.dropWhile (· == '0')).reverse = digits at split areDigits ⊢
  have whole : Nat.ofDigitChars 10 digits 0 * 10 ^ zeros = d.digits := by
    have read := Nat.ofDigitChars_ten_toDigits (n := d.digits)
    rw [split, Nat.ofDigitChars_append, Nat.ofDigitChars_replicate_zero] at read
    rw [← read, mul_comm]
  have nonempty : digits ≠ [] := by
    rintro rfl
    rw [Nat.ofDigitChars_nil, zero_mul] at whole
    exact positive.ne whole
  have value : d.value.value = Nat.ofDigitChars 10 digits 0 * 10 ^ (zeros + d.exponent) := by
    rw [Decimal.value, Fraction.value_decimal, ← whole, zpow_add₀ (by norm_num), zpow_natCast]
    push_cast
    ring
  have length : ((Nat.toDigits 10 d.digits).length : Int) = digits.length + zeros := by
    rw [split, List.length_append, List.length_replicate, Nat.cast_add]
  rw [length, value]
  generalize order_eq : (digits.length + zeros - 1 + d.exponent : Int) = order
  by_cases small : -4 ≤ order ∧ order < 0
  · rw [if_pos small, show (zeros + d.exponent : Int) = -((-order - 1).toNat + digits.length) by omega]
    exact denotes_places areDigits nonempty _
  by_cases medium : 0 ≤ order ∧ order < 16
  · rw [if_neg small, if_pos medium,
      show (zeros + d.exponent : Int) = (order.toNat + 1 : Nat) - digits.length by omega]
    exact denotes_padded areDigits order.toNat.succ_pos
  · rw [if_neg small, if_neg medium,
      show (zeros + d.exponent : Int) = order - (digits.length - 1) by omega]
    exact denotes_power areDigits nonempty order

/-! ### Shortest decimals -/

/-- The decimal order is an order of magnitude that the value has at least. -/
theorem Fraction.ten_zpow_decimalOrder_le {a : Fraction} (positive : 0 < a.numerator) :
    (10 : ℚ) ^ a.decimalOrder ≤ a.value := by
  unfold decimalOrder
  split
  · rename_i large
    have one : 1 ≤ a.floor := (a.floor_le_iff 1).2 (by rwa [one_mul])
    have some : 0 < (Nat.toDigits 10 a.floor).length := Nat.length_toDigits_pos
    have long : 10 ^ ((Nat.toDigits 10 a.floor).length - 1) ≤ a.floor := by
      rcases Nat.eq_zero_or_pos ((Nat.toDigits 10 a.floor).length - 1) with single | several
      · rw [single]
        exact one
      · have := mt (Nat.length_toDigits_le_iff (b := 10) (n := a.floor) (by decide) several).2 (by omega)
        omega
    have floor : (a.floor : ℚ) ≤ a.value := by
      have := Int.floor_le a.value
      rw [← a.floor_eq] at this
      exact_mod_cast this
    refine le_trans ?_ floor
    rw [← Nat.cast_one, ← Nat.cast_sub some, zpow_natCast]
    exact_mod_cast long
  · dsimp only
    split
    · rename_i fits
      rwa [le_iff_value_le, value_decimal, Nat.cast_one, one_mul] at fits
    · -- The inverse is below the power of ten with as many zeros as it has digits.
      have short : a.denominator / a.numerator <
          10 ^ (Nat.toDigits 10 (a.denominator / a.numerator)).length :=
        (Nat.length_toDigits_le_iff (by decide) Nat.length_toDigits_pos).1 le_rfl
      rw [Nat.div_lt_iff_lt_mul positive] at short
      rw [zpow_neg, zpow_natCast, value, inv_le_iff_one_le_mul₀ (by positivity), div_mul_eq_mul_div,
        one_le_div a.denominator_cast_pos, mul_comm]
      exact_mod_cast short.le

/-- A decimal in the span of a positive double is positive. -/
theorem Span.pos_of_holds {significand : Nat} {exponent : Int} (positive : 0 < significand) {a : Fraction}
    (holds : (roundingSpan significand exponent).holds a = true) : 0 < a.value := by
  have lower : 0 < (roundingSpan significand exponent).lower.value := by
    unfold roundingSpan
    dsimp only
    split
    · rw [Fraction.value_binary]
      exact mul_pos (mod_cast by omega) (zpow_pos two_pos _)
    · rw [Fraction.value_binary]
      exact mul_pos (mod_cast by omega) (zpow_pos two_pos _)
  refine lower.trans_le ?_
  unfold Span.holds at holds
  split at holds
  · simp only [Bool.and_eq_true, decide_eq_true_eq] at holds
    exact Fraction.le_iff_value_le.1 holds.1
  · simp only [Bool.and_eq_true, decide_eq_true_eq] at holds
    exact (Fraction.lt_iff_value_lt.1 holds.1).le

/-- The shortest decimal of a positive double is positive. -/
theorem Decimal.shortest_pos {significand : Nat} {exponent : Int} (positive : 0 < significand) :
    0 < (shortest significand exponent).digits := by
  have numerator : 0 < (Fraction.binary significand exponent).numerator :=
    Nat.mul_pos positive (Nat.pow_pos (by decide))
  unfold shortest
  dsimp only
  generalize Fraction.binary significand exponent = a at numerator ⊢
  cases found : (List.range 17).findSome? fun (places : Nat) =>
      around? a (roundingSpan significand exponent) (a.decimalOrder - places) with
  | some d =>
    obtain ⟨places, -, near⟩ := List.exists_of_findSome?_eq_some found
    obtain ⟨digits, -, held⟩ := List.exists_of_findSome?_eq_some near
    dsimp only at held
    split at held
    · rename_i holds
      cases held
      have high := Span.pos_of_holds positive holds
      rw [Decimal.value, Fraction.value_decimal] at high
      exact_mod_cast (mul_pos_iff_of_pos_right (zpow_pos (by norm_num) _)).1 high
    · cases held
  | none =>
    -- No decimal was found, and the value is taken with seventeen digits.
    rw [Option.getD_none]
    refine Fraction.le_nearestEven (n := 1) ?_
    have whole : (10 : ℚ) ^ a.decimalOrder * 10 ^ (16 - a.decimalOrder) = 10 ^ 16 := by
      rw [← zpow_add₀ (by norm_num), add_sub_cancel]
      norm_cast
    rw [Fraction.value_mul, Fraction.value_decimal, Nat.cast_one, one_mul]
    refine le_trans ?_ (mul_le_mul_of_nonneg_right (Fraction.ten_zpow_decimalOrder_le numerator)
      (zpow_pos (by norm_num) _).le)
    rw [whole]
    norm_num

/-! ### Finite positive numbers -/

namespace Number

/-- A number is finite and positive. -/
def IsFinitePositive : Number → Prop
  | .whole n => 0 < n
  | .double d => ∃ x, d.value? = some x ∧ 0 < x

/-- A number is finite. -/
def IsFinite : Number → Prop
  | .whole _ => True
  | .double d => ∃ x, d.value? = some x

/-- What is not at most zero is finite and positive, positive infinity or not a number. -/
theorem isAtMostZero_eq_false_iff {number : Number} : number.isAtMostZero = false ↔
    number.IsFinitePositive ∨ number = .double (.infinite false) ∨ number = .double .notANumber := by
  cases number with
  | whole n => simp [isAtMostZero, IsFinitePositive]
  | double d =>
    cases d with
    | finite negative significand exponent canonical =>
      have sign : (double (.finite negative significand exponent canonical)).isAtMostZero = false ↔
          negative = false ∧ 0 < significand := by
        simp [isAtMostZero, Double.isAtMostZero, Nat.pos_iff_ne_zero]
      rw [sign]
      constructor
      · rintro ⟨rfl, some⟩
        exact .inl ⟨_, rfl, mul_pos (mod_cast some) (zpow_pos two_pos _)⟩
      · rintro (⟨x, found, high⟩ | infinite | nothing)
        · obtain ⟨_, _, _, same, value⟩ := Double.parts_of_value? found high
          cases same
          rw [← value, Fraction.value_pos_iff] at high
          exact ⟨rfl, Nat.pos_of_mul_pos_right high⟩
        · cases infinite
        · cases nothing
    | infinite negative => cases negative <;> simp [isAtMostZero, Double.isAtMostZero, IsFinitePositive,
        Double.value?]
    | notANumber => simp [isAtMostZero, Double.isAtMostZero]

/-- What is finite and not at most zero is finite and positive. -/
theorem IsFinite.isFinitePositive {number : Number} (finite : number.IsFinite)
    (high : number.isAtMostZero = false) : number.IsFinitePositive := by
  rcases isAtMostZero_eq_false_iff.1 high with positive | rfl | rfl
  · exact positive
  · obtain ⟨x, found⟩ := finite
    cases found
  · obtain ⟨x, found⟩ := finite
    cases found

/-- The text of a natural number denotes it. -/
theorem denotes_toString {n : Nat} : Denotes (toString (n : Int)).toList n := by
  rw [Int.toString_eq_repr, Int.repr_eq_if, if_pos (Int.natCast_nonneg n), Int.toNat_natCast,
    Nat.toList_repr]
  exact denotes_toDigits n

/-- The text of a finite positive number in a stylesheet denotes a positive number. -/
theorem IsFinitePositive.denotes {number : Number} (positive : number.IsFinitePositive) :
    ∃ x, 0 < x ∧ Denotes number.plainText.toList x := by
  cases number with
  | whole n =>
    have high : 0 < n := positive
    obtain ⟨m, rfl⟩ := Int.eq_ofNat_of_zero_le high.le
    exact ⟨m, mod_cast high, denotes_toString⟩
  | double d =>
    obtain ⟨x, found, high⟩ := positive
    obtain ⟨significand, exponent, canonical, rfl, value⟩ := Double.parts_of_value? found high
    rw [← value, Fraction.value_pos_iff] at high
    by_cases whole : (Fraction.binary significand exponent).numerator %
        (Fraction.binary significand exponent).denominator = 0
    · have some : 0 < (Fraction.binary significand exponent).floor :=
        Nat.div_pos (Nat.le_of_dvd high (Nat.dvd_of_mod_eq_zero whole)) (Fraction.denominator_pos _)
      refine ⟨(Fraction.binary significand exponent).floor, mod_cast some, ?_⟩
      rw [plainText, Double.toInt?, if_pos whole]
      exact denotes_toString
    · have some : 0 < significand := Nat.pos_of_mul_pos_right high
      have digits : 0 < (Decimal.shortest significand exponent).digits := Decimal.shortest_pos some
      refine ⟨(Decimal.shortest significand exponent).value.value, ?_, ?_⟩
      · rw [Decimal.value, Fraction.value_decimal]
        exact mul_pos (mod_cast digits) (zpow_pos (by norm_num) _)
      · rw [plainText, Double.toInt?, if_neg whole, Double.shortestText, String.toList_ofList,
          if_neg Bool.false_ne_true, if_neg some.ne']
        exact Decimal.denotes_text digits

end Number

end ViewportScaling.Numeric
