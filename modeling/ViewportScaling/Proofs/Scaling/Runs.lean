import ViewportScaling.Proofs.Scaling.Units

/-!
# Scaling run by run

A value falls into the maximal runs of digits and points in it and the characters between them. Scaling it
is one pass over these: a run is replaced as a whole if the unit follows, no more than one point is in it
and it ends in a digit; any other run and each character between runs is copied. So no number is split off a
part of a run, whatever stands around it.
-/

namespace ViewportScaling.Scaling

open Unicode Numeric

/-! ### Runs -/

/-- Whether a character stands in a run: a digit or a point. -/
def inRun (c : Char) : Bool := isDigit c || c = '.'

/-- Whether a run is a length in front of a text: the unit follows, no more than one point is in the run and
it ends in a digit. -/
def isLengthRun (run behind : List Char) : Bool :=
  startsWithUnit behind && decide (run.count '.' ≤ 1) && run.getLast?.any isDigit

/-- What a run in front of a text becomes: the product of its number and the ratio if it is a length. -/
def scaleRun (ratio : Number) (run behind : List Char) : Except ArithmeticError (List Char) :=
  if isLengthRun run behind then String.toList <$> scaleNumber ratio run else .ok run

/-- One pass over a text: each maximal run is scaled as a whole, and each other character is copied. -/
def scaleRuns (ratio : Number) : List Char → Except ArithmeticError (List Char)
  | [] => .ok []
  | c :: rest =>
    if inRun c then do
      let behind := rest.dropWhile inRun
      let first ← scaleRun ratio (c :: rest.takeWhile inRun) behind
      return first ++ (← scaleRuns ratio behind)
    else do
      return c :: (← scaleRuns ratio rest)
termination_by text => text.length
decreasing_by
  · have := (List.dropWhile_suffix (l := rest) inRun).length_le
    rw [List.length_cons]
    omega
  · exact Nat.lt_succ_self _

/-- A number may start behind what stands in no run. -/
theorem allowsNumber_some (c : Char) : allowsNumber (some c) = !inRun c := rfl

/-- Outside of runs there are neither digits nor points. -/
theorem isDigit_of_inRun_eq_false {c : Char} (outside : inRun c = false) : isDigit c = false ∧ c ≠ '.' := by
  simpa [inRun] using outside

/-- A text that starts with the unit does not go on with a run. -/
theorem inRun_of_startsWithUnit {text : List Char} (unit : startsWithUnit text = true) :
    ∀ c ∈ text.head?, inRun c = false := by
  unfold startsWithUnit at unit
  split at unit
  · intro c head
    cases head
    decide
  · cases unit

/-- Behind a run there is what stands in no run. -/
theorem dropWhile_inRun (text : List Char) : ∀ c ∈ (text.dropWhile inRun).head?, inRun c = false := by
  intro c head
  have stopped := List.head?_dropWhile_not inRun text
  rw [Option.mem_def.1 head] at stopped
  exact stopped

/-- A run has digits only, or digits in front of its first point. -/
theorem exists_point_of_inRun {run : List Char} (inside : ∀ c ∈ run, inRun c = true) :
    (∀ c ∈ run, isDigit c = true) ∨
      ∃ whole after, run = whole ++ '.' :: after ∧ ∀ c ∈ whole, isDigit c = true := by
  induction run with
  | nil => exact .inl nofun
  | cons c run ih =>
    obtain ⟨first, others⟩ := List.forall_mem_cons.1 inside
    by_cases digit : isDigit c = true
    · rcases ih others with all | ⟨whole, after, rfl, all⟩
      · exact .inl (List.forall_mem_cons.2 ⟨digit, all⟩)
      · exact .inr ⟨c :: whole, after, rfl, List.forall_mem_cons.2 ⟨digit, all⟩⟩
    · have point : c = '.' := by simpa [inRun, digit] using first
      exact .inr ⟨[], run, by rw [point]; rfl, nofun⟩

/-- Digits hold no point. -/
theorem count_point_of_digits {digits : List Char} (all : ∀ c ∈ digits, isDigit c = true) :
    digits.count '.' = 0 :=
  List.count_eq_zero.2 fun mem => ne_of_isDigit (all _ mem) (by decide) rfl

/-- Digits end with a digit. -/
theorem any_getLast?_of_digits {digits : List Char} (all : ∀ c ∈ digits, isDigit c = true)
    (nonempty : digits ≠ []) : digits.getLast?.any isDigit = true := by
  rw [List.getLast?_eq_some_getLast nonempty]
  exact all _ (List.getLast_mem nonempty)

section

variable {digits behind : List Char}

/-- What holds of the characters of a text and not of the next one is split off as that text. -/
theorem takeWhile_append_stop {p : Char → Bool} (all : ∀ c ∈ digits, p c = true)
    (stop : ∀ c ∈ behind.head?, p c = false) :
    (digits ++ behind).takeWhile p = digits ∧ (digits ++ behind).dropWhile p = behind := by
  rw [List.takeWhile_append_of_pos all, List.dropWhile_append_of_pos all]
  cases behind with
  | nil => simp
  | cons c behind => simp [stop c rfl]

/-- Digits in front of a point are split off a text. -/
theorem takeWhile_digits_point (all : ∀ c ∈ digits, isDigit c = true) (after : List Char) :
    (digits ++ '.' :: after).takeWhile isDigit = digits ∧
      (digits ++ '.' :: after).dropWhile isDigit = '.' :: after := by
  refine takeWhile_append_stop all fun c head => ?_
  cases head
  decide

end

/-- Digits without a point are a number if the unit follows. -/
theorem number?_digits {digits behind : List Char} (all : ∀ c ∈ digits, isDigit c = true)
    (nonempty : digits ≠ []) (maximal : ∀ c ∈ behind.head?, inRun c = false) :
    number? (digits ++ behind) = if isLengthRun digits behind then some (digits, behind) else none := by
  obtain ⟨taken, dropped⟩ := takeWhile_append_stop all fun c head =>
    (isDigit_of_inRun_eq_false (maximal c head)).1
  have noPoint : ∀ c ∈ ((digits ++ behind).dropWhile isDigit).head?, c ≠ '.' := by
    rw [dropped]
    exact fun c head => (isDigit_of_inRun_eq_false (maximal c head)).2
  rw [number?_of_noPoint noPoint, taken, dropped]
  simp [isLengthRun, nonempty, count_point_of_digits all, any_getLast?_of_digits all nonempty]

/-- Digits with one point among them are a number if the unit follows and a digit is last. -/
theorem number?_onePoint {whole places behind : List Char} (all : ∀ c ∈ whole, isDigit c = true)
    (all' : ∀ c ∈ places, isDigit c = true) (maximal : ∀ c ∈ behind.head?, inRun c = false) :
    number? (whole ++ '.' :: places ++ behind) =
      if isLengthRun (whole ++ '.' :: places) behind then some (whole ++ '.' :: places, behind) else none := by
  obtain ⟨taken, dropped⟩ := takeWhile_digits_point all (places ++ behind)
  obtain ⟨taken', dropped'⟩ := takeWhile_append_stop all' fun c head =>
    (isDigit_of_inRun_eq_false (maximal c head)).1
  have points : (whole ++ '.' :: places).count '.' = 1 := by
    simp [count_point_of_digits all, count_point_of_digits all']
  rw [List.append_assoc, List.cons_append, number?_of_point dropped, taken, taken', dropped']
  by_cases none : places = []
  · subst none
    have noDigit : isDigit '.' = false := by decide
    simp [isLengthRun, noDigit]
  · have last : (whole ++ '.' :: places).getLast?.any isDigit = true := by
      rw [List.getLast?_append_of_ne_nil _ (List.cons_ne_nil _ _), List.getLast?_cons_of_ne_nil none]
      exact any_getLast?_of_digits all' none
    rw [isLengthRun, points, last]
    simp [none]

/-- No number starts a run with two points: the second one stands where the unit would have to. -/
theorem number?_twoPoints {whole places : List Char} (all : ∀ c ∈ whole, isDigit c = true)
    (all' : ∀ c ∈ places, isDigit c = true) (more behind : List Char) :
    number? (whole ++ '.' :: (places ++ '.' :: more) ++ behind) = none ∧
      isLengthRun (whole ++ '.' :: (places ++ '.' :: more)) behind = false := by
  obtain ⟨-, dropped⟩ := takeWhile_digits_point all (places ++ '.' :: (more ++ behind))
  obtain ⟨-, dropped'⟩ := takeWhile_digits_point all' (more ++ behind)
  have text : whole ++ '.' :: (places ++ '.' :: more) ++ behind =
      whole ++ '.' :: (places ++ '.' :: (more ++ behind)) := by simp
  have points : 2 ≤ (whole ++ '.' :: (places ++ '.' :: more)).count '.' := by
    simp
    omega
  constructor
  · rw [text, number?_of_point dropped, dropped']
    simp [startsWithUnit]
  · simp only [isLengthRun, Bool.and_eq_false_iff, decide_eq_false_iff_not]
    omega

/-- The number in front of a text is the run that the text starts with, if that is a length. -/
theorem number?_run {run behind : List Char} (inside : ∀ c ∈ run, inRun c = true) (nonempty : run ≠ [])
    (maximal : ∀ c ∈ behind.head?, inRun c = false) :
    number? (run ++ behind) = if isLengthRun run behind then some (run, behind) else none := by
  rcases exists_point_of_inRun inside with all | ⟨whole, after, rfl, all⟩
  · exact number?_digits all nonempty maximal
  have later : ∀ c ∈ after, inRun c = true := fun c mem =>
    inside c (List.mem_append_right _ (List.mem_cons_of_mem _ mem))
  rcases exists_point_of_inRun later with all' | ⟨places, more, rfl, all'⟩
  · exact number?_onePoint all all' maximal
  · obtain ⟨noNumber, noLength⟩ := number?_twoPoints all all' more behind
    rw [noNumber, noLength]
    rfl

/-! ### Parts run by run -/

/-- Inside a run no number starts. -/
theorem exists_partsBehind_run {run : List Char} (inside : ∀ c ∈ run, inRun c = true) {before : Option Char}
    (closed : allowsNumber before = false) (behind : List Char) :
    ∃ last, partsBehind before (run ++ behind) = run.map Part.other ++ partsBehind last behind := by
  induction run generalizing before with
  | nil => exact ⟨before, rfl⟩
  | cons c run ih =>
    obtain ⟨first, others⟩ := List.forall_mem_cons.1 inside
    have closed' : allowsNumber (some c) = false := by rw [allowsNumber_some, first]; rfl
    have noNumber : allowsNumber before = true → number? (c :: (run ++ behind)) = none := by
      intro allowed
      rw [closed] at allowed
      cases allowed
    obtain ⟨last, following⟩ := ih others closed'
    refine ⟨last, ?_⟩
    rw [List.cons_append, partsBehind_cons noNumber, following]
    rfl

/-- No number starts with a character outside of runs. -/
theorem number?_of_notRun {c : Char} (outside : inRun c = false) (rest : List Char) :
    number? (c :: rest) = none := by
  obtain ⟨digit, point⟩ := isDigit_of_inRun_eq_false outside
  have stopped : (c :: rest).dropWhile isDigit = c :: rest := by simp [digit]
  have noPoint : ∀ d ∈ ((c :: rest).dropWhile isDigit).head?, d ≠ '.' := by
    rw [stopped]
    intro d head
    cases head
    exact point
  rw [number?_of_noPoint noPoint]
  simp [digit]

/-- A character outside of runs is a part by itself, and numbers may start behind it. -/
theorem partsBehind_notRun {c : Char} (outside : inRun c = false) (before : Option Char)
    (rest : List Char) : partsBehind before (c :: rest) = .other c :: parts rest := by
  rw [partsBehind_cons fun _ => number?_of_notRun outside rest]
  have same : allowsNumber (some c) = allowsNumber none := by rw [allowsNumber_some, outside]; rfl
  rw [partsBehind_congr same, parts]

/-- Where no run goes on, what stands before does not matter. -/
theorem partsBehind_of_maximal {behind : List Char} (maximal : ∀ c ∈ behind.head?, inRun c = false)
    (before : Option Char) : partsBehind before behind = parts behind := by
  cases behind with
  | nil => rw [parts, partsBehind_nil, partsBehind_nil]
  | cons c rest => rw [parts, partsBehind_notRun (maximal c rfl), partsBehind_notRun (maximal c rfl)]

/-- A maximal run is one number if it is a length, and single characters otherwise. -/
theorem parts_run {run behind : List Char} (inside : ∀ c ∈ run, inRun c = true) (nonempty : run ≠ [])
    (maximal : ∀ c ∈ behind.head?, inRun c = false) :
    parts (run ++ behind) =
      (if isLengthRun run behind then [.number run] else run.map .other) ++ parts behind := by
  have found := number?_run inside nonempty maximal
  by_cases length : isLengthRun run behind = true
  · rw [if_pos length] at found
    rw [if_pos length, parts, partsBehind_of_number? rfl found, partsBehind_of_maximal maximal]
    rfl
  · rw [if_neg length] at found
    cases run with
    | nil => exact absurd rfl nonempty
    | cons c run =>
      obtain ⟨first, others⟩ := List.forall_mem_cons.1 inside
      have closed : allowsNumber (some c) = false := by rw [allowsNumber_some, first]; rfl
      have noNumber : allowsNumber none = true → number? (c :: (run ++ behind)) = none := fun _ => found
      obtain ⟨last, following⟩ := exists_partsBehind_run others closed behind
      rw [if_neg length, List.cons_append, parts, partsBehind_cons noNumber, following,
        partsBehind_of_maximal maximal]
      rfl

/-! ### Scaling in one pass -/

/-- The texts of parts with each number scaled, one behind the other. -/
def scaleParts (ratio : Number) (parts : List Part) : Except ArithmeticError (List Char) :=
  List.flatten <$> parts.mapM (Part.scale ratio)

theorem scaleParts_cons (ratio : Number) (part : Part) (others : List Part) :
    scaleParts ratio (part :: others) = do
      let first ← Part.scale ratio part
      return first ++ (← scaleParts ratio others) := by
  unfold scaleParts
  rw [List.mapM_cons]
  cases Part.scale ratio part with
  | error error => rfl
  | ok first =>
    cases others.mapM (Part.scale ratio) with
    | error error => rfl
    | ok results => rfl

/-- Single characters are copied. -/
theorem scaleParts_others (ratio : Number) (text : List Char) (parts : List Part) :
    scaleParts ratio (text.map .other ++ parts) = (text ++ ·) <$> scaleParts ratio parts := by
  induction text with
  | nil => exact (id_map _).symm
  | cons c text ih =>
    rw [List.map_cons, List.cons_append, scaleParts_cons, ih]
    cases scaleParts ratio parts with
    | error error => rfl
    | ok results => rfl

/-- A whole run is scaled by itself, and then what is behind it. -/
theorem scaleParts_run (ratio : Number) {run behind : List Char} (inside : ∀ c ∈ run, inRun c = true)
    (nonempty : run ≠ []) (maximal : ∀ c ∈ behind.head?, inRun c = false) :
    scaleParts ratio (parts (run ++ behind)) = do
      let first ← scaleRun ratio run behind
      return first ++ (← scaleParts ratio (parts behind)) := by
  rw [parts_run inside nonempty maximal, scaleRun]
  by_cases length : isLengthRun run behind = true
  · rw [if_pos length, if_pos length, List.singleton_append, scaleParts_cons]
    rfl
  · rw [if_neg length, if_neg length, scaleParts_others]
    cases scaleParts ratio (parts behind) with
    | error error => rfl
    | ok results => rfl

/-- So scaling the parts of a text is scaling its runs. -/
theorem scaleParts_parts (ratio : Number) (text : List Char) :
    scaleParts ratio (parts text) = scaleRuns ratio text := by
  fun_induction scaleRuns ratio text with
  | case1 => rw [parts, partsBehind_nil]; rfl
  | case2 c rest first behind ih =>
    have whole : c :: rest = c :: rest.takeWhile inRun ++ behind := by
      rw [List.cons_append, List.takeWhile_append_dropWhile]
    have inside : ∀ d ∈ c :: rest.takeWhile inRun, inRun d = true :=
      List.forall_mem_cons.2 ⟨first, fun d mem => List.mem_takeWhile_imp mem⟩
    rw [whole, scaleParts_run ratio inside (List.cons_ne_nil _ _) (dropWhile_inRun rest), ih]
  | case3 c rest outside ih =>
    rw [parts, partsBehind_notRun (Bool.not_eq_true _ ▸ outside), scaleParts_cons, ih]
    rfl

/-- A run that is a length is digits with or without a point. -/
theorem isPlainNumber_of_isLengthRun {run behind : List Char} (inside : ∀ c ∈ run, inRun c = true)
    (length : isLengthRun run behind = true) : IsPlainNumber run := by
  have parts := length
  simp only [isLengthRun, Bool.and_eq_true] at parts
  have nonempty : run ≠ [] := by
    rintro rfl
    exact absurd parts.2 (by decide)
  have found := number?_run inside nonempty (inRun_of_startsWithUnit parts.1.1)
  rw [if_pos length] at found
  exact (isPlainNumber_of_number? found).1

/-- Scaling a value is one pass over its maximal runs of digits and points, and each run that is scaled is
read as a number. -/
theorem scaleValue_eq_scaleRuns (ratio : Number) (value : String) :
    scaleValue ratio value = String.ofList <$> scaleRuns ratio value.toList ∧
      ∀ run behind : List Char, (∀ c ∈ run, inRun c = true) → isLengthRun run behind = true →
        ∃ number, Double.read? (String.ofList run) = some number ∧
          scaleNumber ratio run =
            ratio.toDouble >>= fun factor => (Number.double (number.mul factor)).fixedText := by
  constructor
  · rw [← scaleParts_parts, scaleParts, scaleValue]
    cases (parts value.toList).mapM (Part.scale ratio) with
    | error error => rfl
    | ok results => rfl
  · intro run behind inside length
    obtain ⟨number, read⟩ := (isPlainNumber_of_isLengthRun inside length).exists_read?
    refine ⟨number, read, ?_⟩
    rw [scaleNumber, read]
    rfl

/-- Halving `1.5px .5px 1.5.5px`: the second point keeps the last run from being a length. -/
theorem scaleValue_eq_scaleRuns_half :
    let half : Number := .double (.finite false (2 ^ 52) (-53) (by decide))
    scaleValue half "1.5px .5px 1.5.5px" = .ok "0.750px 0.250px 1.5.5px" ∧
      ∃ number, Double.read? (String.ofList ".5".toList) = some number ∧
        scaleNumber half ".5".toList =
          half.toDouble >>= fun factor => (Number.double (number.mul factor)).fixedText := by
  intro half
  obtain ⟨pass, read⟩ := scaleValue_eq_scaleRuns half "1.5px .5px 1.5.5px"
  refine ⟨?_, read ".5".toList "px 1.5.5px".toList (by decide) (by decide)⟩
  rw [pass]
  decide +kernel

end ViewportScaling.Scaling
