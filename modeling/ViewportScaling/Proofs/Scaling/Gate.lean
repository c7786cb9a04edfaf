import ViewportScaling.Proofs.Scaling.Runs

/-!
# The gate and the numbers behind it

Whether a value is scaled at all is decided by a look at two places only: a digit, and the unit behind it.
Whether anything in it is replaced depends on the whole maximal run of digits and points in front of the
unit. The two agree on each run that holds no more than one point. A run with two points or more, such as
`1.2.3px`, passes the gate and is no number.
-/

namespace ViewportScaling.Scaling

open Unicode

/-! ### The runs of a text -/

/-- The maximal runs of digits and points in a text, in order, each with the text behind it. -/
def runs : List Char → List (List Char × List Char)
  | [] => []
  | c :: rest =>
    if inRun c then
      (c :: rest.takeWhile inRun, rest.dropWhile inRun) :: runs (rest.dropWhile inRun)
    else runs rest
termination_by text => text.length
decreasing_by
  · have := (List.dropWhile_suffix (l := rest) inRun).length_le
    rw [List.length_cons]
    omega
  · exact Nat.lt_succ_self _

/-- Whether a run in front of a text passes the gate: it ends in a digit and the unit follows. -/
def isUnitRun (run behind : List Char) : Bool := startsWithUnit behind && run.getLast?.any isDigit

/-- Whether a run in front of a text passes the gate without being a number: it holds two points or
more. -/
def isMalformedRun (run behind : List Char) : Bool :=
  isUnitRun run behind && decide (2 ≤ run.count '.')

/-- A run passes the gate exactly if it is a length or malformed. -/
theorem isUnitRun_iff (run behind : List Char) :
    isUnitRun run behind = true ↔ isLengthRun run behind = true ∨ isMalformedRun run behind = true := by
  have points : run.count '.' ≤ 1 ∨ 2 ≤ run.count '.' := by omega
  simp only [isMalformedRun, isUnitRun, isLengthRun, Bool.and_eq_true, decide_eq_true_eq]
  tauto

/-- The first run of a text is followed by the runs of the text behind it. -/
theorem runs_run {run behind : List Char} (inside : ∀ c ∈ run, inRun c = true) (nonempty : run ≠ [])
    (maximal : ∀ c ∈ behind.head?, inRun c = false) : runs (run ++ behind) = (run, behind) :: runs behind := by
  cases run with
  | nil => exact absurd rfl nonempty
  | cons c run =>
    obtain ⟨first, others⟩ := List.forall_mem_cons.1 inside
    obtain ⟨taken, dropped⟩ := takeWhile_append_stop others maximal
    rw [List.cons_append, runs, if_pos first, taken, dropped]

/-- A character outside of runs is passed over. -/
theorem runs_notRun {c : Char} (outside : inRun c = false) (rest : List Char) :
    runs (c :: rest) = runs rest := by
  rw [runs, outside, if_neg Bool.false_ne_true]

/-- What holds of the empty text, of a character outside of runs in front of a text, and of a maximal run in
front of a text holds of every text. -/
theorem runs_induct {motive : List Char → Prop} (nil : motive [])
    (other : ∀ {c : Char} {rest : List Char}, inRun c = false → motive rest → motive (c :: rest))
    (run : ∀ {run behind : List Char}, (∀ c ∈ run, inRun c = true) → run ≠ [] →
      (∀ c ∈ behind.head?, inRun c = false) → motive behind → motive (run ++ behind))
    (text : List Char) : motive text := by
  fun_induction runs text with
  | case1 => exact nil
  | case2 c rest first ih =>
    have whole : c :: rest = c :: rest.takeWhile inRun ++ rest.dropWhile inRun := by
      rw [List.cons_append, List.takeWhile_append_dropWhile]
    rw [whole]
    exact run (List.forall_mem_cons.2 ⟨first, fun d mem => List.mem_takeWhile_imp mem⟩)
      (List.cons_ne_nil _ _) (dropWhile_inRun rest) ih
  | case3 c rest outside ih => exact other (Bool.not_eq_true _ ▸ outside) ih

/-! ### What the gate sees -/

/-- The gate sees of a run its last character only. -/
theorem hasLength_run {run behind : List Char} (inside : ∀ c ∈ run, inRun c = true) (nonempty : run ≠ []) :
    hasLength (run ++ behind) = (isUnitRun run behind || hasLength behind) := by
  induction run with
  | nil => exact absurd rfl nonempty
  | cons c run ih =>
    obtain ⟨first, others⟩ := List.forall_mem_cons.1 inside
    cases run with
    | nil => simp [hasLength, isUnitRun, Bool.and_comm]
    | cons d run =>
      -- Behind the first character the run goes on, so the unit does not stand there.
      have noUnit : startsWithUnit (d :: run ++ behind) = false := by
        by_contra unit
        have stopped := inRun_of_startsWithUnit (Bool.of_not_eq_false unit) d rfl
        rw [others d List.mem_cons_self] at stopped
        cases stopped
      have last : isUnitRun (c :: d :: run) behind = isUnitRun (d :: run) behind := by
        rw [isUnitRun, isUnitRun, List.getLast?_cons_cons]
      rw [List.cons_append, hasLength, noUnit, Bool.and_false, Bool.false_or,
        ih others (List.cons_ne_nil _ _), last]

/-- It is passed over in search of a length too. -/
theorem hasLength_notRun {c : Char} (outside : inRun c = false) (rest : List Char) :
    hasLength (c :: rest) = hasLength rest := by
  rw [hasLength, (isDigit_of_inRun_eq_false outside).1, Bool.false_and, Bool.false_or]

/-- A text passes the gate exactly if one of its runs does. -/
theorem hasLength_eq_any_runs (text : List Char) :
    hasLength text = (runs text).any fun run => isUnitRun run.1 run.2 := by
  induction text using runs_induct with
  | nil => simp [runs, hasLength]
  | other outside ih => rw [hasLength_notRun outside, runs_notRun outside, ih]
  | run inside nonempty maximal ih =>
    rw [hasLength_run inside nonempty, runs_run inside nonempty maximal, List.any_cons, ih]

/-! ### What is replaced -/

/-- Something in a text is replaced when it is scaled. -/
def HoldsNumber (text : List Char) : Prop := ∃ digits, Part.number digits ∈ parts text

/-- Some run of a text is malformed. -/
def HoldsMalformed (text : List Char) : Prop := ∃ run ∈ runs text, isMalformedRun run.1 run.2 = true

/-- The numbers of a text are its runs that are lengths. -/
theorem number_mem_parts_iff {text digits : List Char} : Part.number digits ∈ parts text ↔
    ∃ run ∈ runs text, run.1 = digits ∧ isLengthRun run.1 run.2 = true := by
  induction text using runs_induct with
  | nil => simp [parts, partsBehind_nil, runs]
  | other outside ih =>
    rw [parts, partsBehind_notRun outside, runs_notRun outside, ← ih]
    simp
  | @run run behind inside nonempty maximal ih =>
    rw [parts_run inside nonempty maximal, runs_run inside nonempty maximal, List.exists_mem_cons_iff,
      List.mem_append, ih]
    refine or_congr_left ?_
    by_cases length : isLengthRun run behind = true
    · rw [if_pos length, List.mem_singleton, Part.number.injEq]
      exact ⟨fun same => ⟨same.symm, length⟩, fun both => both.1.symm⟩
    · rw [if_neg length]
      simp [length]

/-- Something in a text is replaced exactly if one of its runs is a length. -/
theorem holdsNumber_iff {text : List Char} : HoldsNumber text ↔
    ∃ run ∈ runs text, isLengthRun run.1 run.2 = true := by
  unfold HoldsNumber
  simp only [number_mem_parts_iff]
  constructor
  · rintro ⟨digits, run, mem, -, length⟩
    exact ⟨run, mem, length⟩
  · rintro ⟨run, mem, length⟩
    exact ⟨run.1, run, mem, rfl, length⟩

/-- A text passes the gate exactly if something in it is replaced or one of its runs is malformed. -/
theorem hasLength_iff {text : List Char} :
    hasLength text = true ↔ HoldsNumber text ∨ HoldsMalformed text := by
  rw [hasLength_eq_any_runs, List.any_eq_true, holdsNumber_iff, HoldsMalformed, ← exists_or]
  refine exists_congr fun run => ?_
  rw [isUnitRun_iff, ← and_or_left]

end ViewportScaling.Scaling
