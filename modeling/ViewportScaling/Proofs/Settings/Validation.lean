import ViewportScaling.Settings.Options

/-!
# Valid drafts

A draft is valid exactly if it holds the values of some settings whose widths and break points are not at
most zero and whose class is not empty, and then it describes these settings. So settings that come out of
a validation are their own draft, and validating them again gives them back.
-/

namespace ViewportScaling.Settings

open Json Numeric

/-- One step behind another succeeds exactly if both do. -/
theorem bind_eq_ok_iff {ε α β : Type} {step : Except ε α} {next : α → Except ε β} {result : β} :
    step >>= next = .ok result ↔ ∃ value, step = .ok value ∧ next value = .ok result := by
  cases step with
  | error error => exact ⟨nofun, nofun⟩
  | ok value => simp [bind, Except.bind]

/-- Telling an error in other words changes no success. -/
theorem mapError_eq_ok_iff {ε ε' α : Type} {f : ε → ε'} {result : Except ε α} {value : α} :
    result.mapError f = .ok value ↔ result = .ok value := by
  cases result with
  | error error => exact ⟨nofun, nofun⟩
  | ok other =>
    constructor
    · rintro ⟨⟩
      rfl
    · rintro ⟨⟩
      rfl

/-- The widths and the break points, as far as they are given. -/
def numbers (settings : Settings) : List Number :=
  [settings.viewportWidth, settings.desktopWidth, settings.landscapeWidth, settings.xAxisBreakPoint] ++
    settings.yAxisBreakPoint.toList

/-- The break point is one of the numbers of the settings. -/
theorem breakPoint_mem_numbers (settings : Settings) : settings.breakPoint ∈ settings.numbers := by
  unfold breakPoint numbers
  cases settings.yAxisBreakPoint <;> simp

namespace Draft

variable {draft : Draft} {field : Field}

/-! ### Single fields -/

/-- A field is accepted as a positive number just if it is a number and not at most zero. -/
theorem positive_eq_ok_iff {n : Number} :
    draft.positive field = .ok n ↔ draft field = .number n ∧ n.isAtMostZero = false := by
  unfold positive
  cases value : draft field with
  | number m =>
    by_cases low : m.isAtMostZero = true
    · simp only [if_pos low]
      refine ⟨nofun, ?_⟩
      rintro ⟨⟨⟩, high⟩
      rw [low] at high
      cases high
    · simp only [if_neg low]
      refine ⟨?_, ?_⟩
      · rintro ⟨⟩
        exact ⟨rfl, Bool.of_not_eq_true low⟩
      · rintro ⟨⟨⟩, -⟩
        rfl
  | _ => simp

/-- The break point is accepted just if it is absent, or a number that is not at most zero. -/
theorem breakPoint_eq_ok_iff {point : Option Number} : draft.breakPoint = .ok point ↔
    draft .yAxisBreakPoint = (point.map Value.number).getD .null ∧
      ∀ n ∈ point.toList, n.isAtMostZero = false := by
  unfold breakPoint
  cases value : draft .yAxisBreakPoint with
  | null => cases point <;> simp
  | number m =>
    by_cases low : m.isAtMostZero = true
    · simp only [if_pos low]
      refine ⟨nofun, ?_⟩
      rintro ⟨same, high⟩
      cases point with
      | none => cases same
      | some n =>
        cases same
        rw [high m (by simp)] at low
        cases low
    · simp only [if_neg low]
      cases point with
      | none => simp
      | some n =>
        simp only [Except.ok.injEq, Option.some.injEq, Option.map_some, Option.getD_some,
          Value.number.injEq, Option.toList_some, List.mem_singleton, forall_eq]
        refine ⟨?_, And.left⟩
        rintro rfl
        exact ⟨rfl, Bool.of_not_eq_true low⟩
  | _ => cases point <;> simp

/-- A field is accepted as a flag just if it is one. -/
theorem flag_eq_ok_iff {b : Bool} : draft.flag field = .ok b ↔ draft field = .flag b := by
  unfold flag
  cases draft field <;> simp

/-- The class is accepted just if it is a text that is not empty. -/
theorem class_eq_ok_iff {s : String} :
    draft.class = .ok s ↔ draft .rootClass = .text s ∧ s ≠ "" := by
  unfold Draft.class
  cases value : draft .rootClass with
  | text given =>
    by_cases empty : given = ""
    · simp only [if_pos empty]
      refine ⟨nofun, ?_⟩
      rintro ⟨⟨⟩, some⟩
      exact absurd empty some
    · simp only [if_neg empty]
      refine ⟨?_, ?_⟩
      · rintro ⟨⟩
        exact ⟨rfl, empty⟩
      · rintro ⟨⟨⟩, -⟩
        rfl
  | _ => simp

/-! ### Whole drafts -/

/-- A draft is valid exactly if it holds the values of settings without a number at most zero and with a
class, and then it describes them. -/
theorem validate_eq_ok_iff {settings : Settings} : draft.validate = .ok settings ↔
    settings.draft = draft ∧ (∀ n ∈ settings.numbers, n.isAtMostZero = false) ∧
      settings.rootClass ≠ "" := by
  unfold validate
  simp only [bind_eq_ok_iff, positive_eq_ok_iff, breakPoint_eq_ok_iff, flag_eq_ok_iff, class_eq_ok_iff]
  constructor
  · rintro ⟨viewport, ⟨viewportValue, viewportHigh⟩, desktop, ⟨desktopValue, desktopHigh⟩, landscape,
      ⟨landscapeValue, landscapeHigh⟩, height, ⟨heightValue, heightHigh⟩, point, ⟨pointValue, pointHigh⟩,
      border, borderValue, noDesktop, noDesktopValue, noLandscape, noLandscapeValue, root,
      ⟨rootValue, rootSome⟩, ⟨⟩⟩
    refine ⟨?_, ?_, rootSome⟩
    · funext field
      cases field <;> simp only [Settings.draft, *]
    · simp only [numbers, List.forall_mem_append, List.forall_mem_cons]
      exact ⟨⟨viewportHigh, desktopHigh, landscapeHigh, heightHigh, List.forall_mem_nil _⟩, pointHigh⟩
  · rintro ⟨rfl, high, rootSome⟩
    simp only [numbers, List.forall_mem_append, List.forall_mem_cons] at high
    obtain ⟨⟨viewport, desktop, landscape, height, -⟩, point⟩ := high
    exact ⟨settings.viewportWidth, ⟨rfl, viewport⟩, settings.desktopWidth, ⟨rfl, desktop⟩,
      settings.landscapeWidth, ⟨rfl, landscape⟩, settings.xAxisBreakPoint, ⟨rfl, height⟩,
      settings.yAxisBreakPoint, ⟨rfl, point⟩, settings.border, rfl, settings.disableDesktop, rfl,
      settings.disableLandscape, rfl, settings.rootClass, ⟨rfl, rootSome⟩, rfl⟩

end Draft

/-- Settings that come out of a validation. -/
def IsValid (settings : Settings) : Prop := settings.draft.validate = .ok settings

/-- No number of valid settings is at most zero. -/
theorem IsValid.numbers {settings : Settings} (valid : settings.IsValid) :
    ∀ n ∈ settings.numbers, n.isAtMostZero = false := (Draft.validate_eq_ok_iff.1 valid).2.1

/-- Settings that a draft describes hold the values of the draft. -/
theorem draft_of_validate {draft : Draft} {settings : Settings} (valid : draft.validate = .ok settings) :
    settings.draft = draft := (Draft.validate_eq_ok_iff.1 valid).1

/-- What validation accepts is valid. -/
theorem isValid_of_validate {draft : Draft} {settings : Settings}
    (valid : draft.validate = .ok settings) : settings.IsValid := by
  rw [IsValid, draft_of_validate valid]
  exact valid

/-- What comes of overriding valid settings is valid. -/
theorem IsValid.override {base settings : Settings} (valid : base.IsValid) {options : Options}
    (overridden : base.override options = .ok settings) : settings.IsValid := by
  unfold Settings.override at overridden
  split at overridden
  · cases overridden
    exact valid
  · exact isValid_of_validate overridden

end ViewportScaling.Settings
