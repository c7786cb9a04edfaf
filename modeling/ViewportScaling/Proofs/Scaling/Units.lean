import ViewportScaling.Proofs.Css.Units
import ViewportScaling.Proofs.Scaling.Lengths

/-!
# Strings and addresses in scaled values

Scaling knows neither strings nor addresses: it multiplies a length wherever the length stands. But no
length goes over a quote or a parenthesis, so a value is scaled part by part around such a character. The
strings and addresses in a value are found in the scaled value again, in order, each of them scaled as it
would be alone; those without a length are kept.
-/

namespace ViewportScaling.Scaling

open Css Unicode Numeric

/-! ### Characters that part lengths -/

/-- Whether a character is no part of a length: no digit, no point and no letter of the unit. -/
def isBarrier (c : Char) : Bool := !(isDigit c || c = '.' || c = 'p' || c = 'x')

section

variable {c : Char}

/-- A barrier is neither a digit nor a point, nor a letter of the unit. -/
theorem of_isBarrier (barrier : isBarrier c = true) :
    isDigit c = false ∧ c ≠ '.' ∧ c ≠ 'p' ∧ c ≠ 'x' := by
  simpa [isBarrier, and_assoc] using barrier

theorem startsWithUnit_cons (d e : Char) (tail : List Char) :
    startsWithUnit (d :: e :: tail) = (decide (d = 'p') && decide (e = 'x')) := by
  unfold startsWithUnit
  split
  · rename_i same
    cases same
    rfl
  · rename_i other
    rw [eq_comm, Bool.and_eq_false_iff, decide_eq_false_iff_not, decide_eq_false_iff_not]
    by_contra both
    obtain ⟨first, second⟩ := not_or.1 both
    exact other tail (by rw [not_not.1 first, not_not.1 second])

/-- No unit goes over a barrier. -/
theorem startsWithUnit_append (barrier : isBarrier c = true) (text rest : List Char) :
    startsWithUnit (text ++ c :: rest) = startsWithUnit text := by
  obtain ⟨-, -, first, second⟩ := of_isBarrier barrier
  cases text with
  | nil =>
    cases rest with
    | nil => simp [startsWithUnit]
    | cons e rest => rw [List.nil_append, startsWithUnit_cons, decide_eq_false first]; simp [startsWithUnit]
  | cons d text =>
    cases text with
    | nil => rw [List.singleton_append, startsWithUnit_cons, decide_eq_false second]; simp [startsWithUnit]
    | cons e text => rw [List.cons_append, List.cons_append, startsWithUnit_cons, startsWithUnit_cons]

/-- Digits with a point behind them are a number if digits and the unit follow. -/
theorem number?_of_point {text behind : List Char} (point : text.dropWhile isDigit = '.' :: behind) :
    number? text =
      if behind.takeWhile isDigit ≠ [] ∧ startsWithUnit (behind.dropWhile isDigit) then
        some (text.takeWhile isDigit ++ '.' :: behind.takeWhile isDigit, behind.dropWhile isDigit)
      else none := by
  unfold number?
  rw [point]
  rfl

/-- Digits without a point behind them are a number if there are any and the unit follows. -/
theorem number?_of_noPoint {text : List Char} (noPoint : ∀ c ∈ (text.dropWhile isDigit).head?, c ≠ '.') :
    number? text =
      if text.takeWhile isDigit ≠ [] ∧ startsWithUnit (text.dropWhile isDigit) then
        some (text.takeWhile isDigit, text.dropWhile isDigit)
      else none := by
  unfold number?
  split
  · rename_i behind point
    exact absurd rfl (noPoint '.' (by rw [point]; rfl))
  · rfl

/-- Nor do digits. -/
theorem digits_append (barrier : isBarrier c = true) (text rest : List Char) :
    (text ++ c :: rest).takeWhile isDigit = text.takeWhile isDigit ∧
      (text ++ c :: rest).dropWhile isDigit = text.dropWhile isDigit ++ c :: rest := by
  have stop := (of_isBarrier barrier).1
  induction text with
  | nil => simp [stop]
  | cons d text ih =>
    by_cases digit : isDigit d = true
    · simp [digit, ih.1, ih.2]
    · simp [digit]

/-- A number in front of the character is split off as before. -/
theorem number?_append (barrier : isBarrier c = true) (text rest : List Char) :
    number? (text ++ c :: rest) =
      (number? text).map fun (digits, after) => (digits, after ++ c :: rest) := by
  obtain ⟨taken, dropped⟩ := digits_append barrier text rest
  have ends := startsWithUnit_append barrier
  by_cases point : ∃ behind, text.dropWhile isDigit = '.' :: behind
  · obtain ⟨behind, point⟩ := point
    obtain ⟨taken', dropped'⟩ := digits_append barrier behind rest
    have point' : (text ++ c :: rest).dropWhile isDigit = '.' :: (behind ++ c :: rest) := by
      rw [dropped, point]
      rfl
    rw [number?_of_point point', number?_of_point point, taken, taken', dropped', ends]
    split <;> rfl
  · have noPoint : ∀ d ∈ (text.dropWhile isDigit).head?, d ≠ '.' := by
      rintro d head rfl
      obtain ⟨behind, same⟩ := List.head?_eq_some_iff.1 head
      exact point ⟨behind, same⟩
    have noPoint' : ∀ d ∈ ((text ++ c :: rest).dropWhile isDigit).head?, d ≠ '.' := by
      intro d head
      rw [dropped] at head
      cases behind : text.dropWhile isDigit with
      | nil =>
        rw [behind] at head
        cases head
        exact (of_isBarrier barrier).2.1
      | cons e behind' =>
        rw [behind] at head noPoint
        exact noPoint d head
    rw [number?_of_noPoint noPoint', number?_of_noPoint noPoint, taken, dropped, ends]
    split <;> rfl

/-! ### Parts on both sides -/

/-- A number in front of its unit is a part, where one may start. -/
theorem partsBehind_of_number? {before : Option Char} {text digits rest : List Char}
    (allowed : allowsNumber before = true) (found : number? text = some (digits, rest)) :
    partsBehind before text = .number digits :: partsBehind digits.getLast? rest := by
  rw [partsBehind]
  split
  · rename_i found'
    rw [if_pos allowed, found] at found'
    cases found'
    rfl
  · rename_i none
    rw [if_pos allowed, found] at none
    cases none

/-- Where there is no number, the first character is a part by itself. -/
theorem partsBehind_cons {before : Option Char} {d : Char} {rest : List Char}
    (none : allowsNumber before = true → number? (d :: rest) = none) :
    partsBehind before (d :: rest) = .other d :: partsBehind (some d) rest := by
  rw [partsBehind]
  split
  · rename_i found
    split at found
    · rename_i allowed
      rw [none allowed] at found
      cases found
    · cases found
  · rfl

theorem partsBehind_nil (before : Option Char) : partsBehind before [] = [] := by
  rw [partsBehind]
  split
  · rename_i found
    split at found <;> cases found
  · rfl

/-- Of what stands before a text, only whether it lets a number start matters. -/
theorem partsBehind_congr {before other : Option Char} (same : allowsNumber before = allowsNumber other)
    (text : List Char) : partsBehind before text = partsBehind other text := by
  cases text with
  | nil => rw [partsBehind_nil, partsBehind_nil]
  | cons d tail =>
    by_cases number : allowsNumber other = true ∧ ∃ split, number? (d :: tail) = some split
    · obtain ⟨allowed, ⟨digits, rest⟩, found⟩ := number
      rw [partsBehind_of_number? (same.trans allowed) found, partsBehind_of_number? allowed found]
    · have none : allowsNumber other = true → number? (d :: tail) = none := by
        intro allowed
        by_contra some
        exact number ⟨allowed, Option.ne_none_iff_exists'.1 some⟩
      rw [partsBehind_cons fun allowed => none (same ▸ allowed), partsBehind_cons none]

/-- Behind a character that is no part of a length the parts are those of the rest alone. -/
theorem partsBehind_barrier (barrier : isBarrier c = true) (before : Option Char) (rest : List Char) :
    partsBehind before (c :: rest) = .other c :: parts rest := by
  obtain ⟨digit, point, -, -⟩ := of_isBarrier barrier
  have noNumber : number? (c :: rest) = none := by
    have := number?_append barrier [] rest
    rw [List.nil_append] at this
    rw [this]
    rfl
  rw [partsBehind_cons fun _ => noNumber]
  have same : allowsNumber (some c) = allowsNumber none := by simp [allowsNumber, digit, point]
  rw [partsBehind_congr same, parts]

/-- Such a character parts a text in two. -/
theorem partsBehind_append (barrier : isBarrier c = true) (before : Option Char)
    (text rest : List Char) :
    partsBehind before (text ++ c :: rest) = partsBehind before text ++ .other c :: parts rest := by
  fun_induction partsBehind before text with
  | case1 before text digits after found ih =>
    split at found
    · rename_i allowed
      have split : number? (text ++ c :: rest) = some (digits, after ++ c :: rest) := by
        rw [number?_append barrier, found]
        rfl
      rw [partsBehind_of_number? allowed split, ih, List.cons_append]
    · cases found
  | case2 before none => exact partsBehind_barrier barrier before rest
  | case3 before d tail none ih =>
    have noNumber : allowsNumber before = true → number? (d :: (tail ++ c :: rest)) = .none := by
      intro allowed
      split at none
      · have := number?_append barrier (d :: tail) rest
        rw [none] at this
        exact this
      · contradiction
    rw [List.cons_append, partsBehind_cons noNumber, ih, List.cons_append]

end

/-! ### Scaling around strings and addresses -/

/-- The characters of a value are those of another one with its lengths scaled. -/
def ScalesTo (ratio : Number) (text scaled : List Char) : Prop :=
  scaleValue ratio (String.ofList text) = .ok (String.ofList scaled)

/-- A text is scaled to the results of its parts, one behind the other. -/
theorem scalesTo_iff {ratio : Number} {text scaled : List Char} : ScalesTo ratio text scaled ↔
    ∃ results, List.Forall₂ (fun part result => Part.scale ratio part = .ok result) (parts text) results ∧
      results.flatten = scaled := by
  unfold ScalesTo scaleValue
  rw [String.toList_ofList]
  constructor
  · intro found
    cases each : (parts text).mapM (Part.scale ratio) with
    | error error =>
      rw [each] at found
      cases found
    | ok results =>
      rw [each] at found
      exact ⟨results, mapM_eq_ok_iff.1 each, String.ofList_inj.1 (Except.ok.inj found)⟩
  · rintro ⟨results, each, rfl⟩
    rw [mapM_eq_ok_iff.2 each]
    rfl

/-- A text is scaled on both sides of a character that is no part of a length. -/
theorem scalesTo_append_iff {ratio : Number} {c : Char} (barrier : isBarrier c = true)
    {text rest scaled : List Char} : ScalesTo ratio (text ++ c :: rest) scaled ↔
      ∃ front back, ScalesTo ratio text front ∧ ScalesTo ratio rest back ∧ scaled = front ++ c :: back := by
  have split : parts (text ++ c :: rest) = parts text ++ .other c :: parts rest :=
    partsBehind_append barrier none text rest
  simp only [scalesTo_iff, split]
  constructor
  · rintro ⟨results, each, rfl⟩
    have early := (List.forall₂_take_append _ _ _ each.flip).flip
    obtain ⟨first, back, same, late, behind⟩ :=
      List.forall₂_cons_left_iff.1 (List.forall₂_drop_append _ _ _ each.flip).flip
    cases same
    refine ⟨_, _, ⟨_, early, rfl⟩, ⟨back, late, rfl⟩, ?_⟩
    have whole := congrArg List.flatten (List.take_append_drop (parts text).length results)
    rw [behind, List.flatten_append] at whole
    exact whole.symm
  · rintro ⟨_, _, ⟨front, early, rfl⟩, ⟨back, late, rfl⟩, rfl⟩
    refine ⟨front ++ [c] :: back, List.rel_append early (.cons rfl late), ?_⟩
    simp

theorem scalesTo_nil (ratio : Number) : ScalesTo ratio [] [] :=
  scalesTo_iff.2 ⟨[], by rw [parts, partsBehind_nil]; exact .nil, rfl⟩

/-- Strings and addresses start and end with barriers. -/
theorem isBarrier_of_isFramed {c d : Char} (first : c ∈ ['u', '"', '\''])
    (closes : isAddressChar d = false) : isBarrier c = true ∧ isBarrier d = true := by
  have starts : ∀ c ∈ ['u', '"', '\''], isBarrier c = true := by decide
  have ends : ∀ d ∈ [')', '"', '\''], isBarrier d = true := by decide
  simp only [isAddressChar, Bool.not_eq_false', Bool.or_eq_true, decide_eq_true_eq] at closes
  refine ⟨starts c first, ends d ?_⟩
  rcases closes with (rfl | rfl) | rfl <;> decide

/-- A text is scaled around a unit in it, and the unit as it would be alone. -/
theorem ScalesTo.exists_unit {ratio : Number} {gap unit rest scaled : List Char} (framed : IsFramed unit)
    (scales : ScalesTo ratio (gap ++ (unit ++ rest)) scaled) :
    ∃ gap' unit' rest', ScalesTo ratio unit unit' ∧ ScalesTo ratio rest rest' ∧
      scaled = gap' ++ (unit' ++ rest') := by
  obtain ⟨c, middle, d, rfl, first, closes⟩ := framed.framed
  obtain ⟨starts, ends⟩ := isBarrier_of_isFramed first closes
  have whole : gap ++ (c :: (middle ++ [d]) ++ rest) = gap ++ c :: (middle ++ d :: rest) := by simp
  rw [whole] at scales
  obtain ⟨gap', inner, before, later, rfl⟩ := (scalesTo_append_iff starts).1 scales
  obtain ⟨middle', rest', inside, onward, rfl⟩ := (scalesTo_append_iff ends).1 later
  have closed := (scalesTo_append_iff ends).2 ⟨middle', [], inside, scalesTo_nil ratio, rfl⟩
  have alone := (scalesTo_append_iff starts).2 ⟨[], _, scalesTo_nil ratio, closed, rfl⟩
  rw [List.nil_append, List.nil_append] at alone
  exact ⟨gap', c :: (middle' ++ [d]), rest', alone, onward, by simp⟩

/-- Units in order are found in the scaled text, in order, each scaled as it would be alone. -/
theorem exists_inOrder_scaled {ratio : Number} {units : List (List Char)} {text scaled : List Char}
    (framed : ∀ unit ∈ units, IsFramed unit) (occur : InOrder units text)
    (scales : ScalesTo ratio text scaled) :
    ∃ units', List.Forall₂ (ScalesTo ratio) units units' ∧ InOrder units' scaled := by
  induction occur generalizing scaled with
  | nil => exact ⟨[], .nil, .nil scaled⟩
  | cons gap unit later ih =>
    obtain ⟨first, others⟩ := List.forall_mem_cons.1 framed
    obtain ⟨gap', unit', rest', alone, onward, rfl⟩ := scales.exists_unit first
    obtain ⟨units', each, occur'⟩ := ih others onward
    exact ⟨unit' :: units', .cons alone each, .cons gap' unit' occur'⟩

/-- A unit without a length is kept. -/
theorem ScalesTo.eq_of_not_hasLength {ratio : Number} {text scaled : List Char}
    (scales : ScalesTo ratio text scaled) (none : hasLength text = false) : scaled = text := by
  unfold ScalesTo at scales
  rw [scaleValue_of_not_hasLength ratio (by rw [String.toList_ofList]; exact none)] at scales
  exact (String.ofList_inj.1 (Except.ok.inj scales)).symm

end ViewportScaling.Scaling
