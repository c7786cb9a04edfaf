import ViewportScaling.Proofs.Document.Grouping
import ViewportScaling.Proofs.Media.Specification

/-!
# Relating contributions

A rule contributes what its handlers contribute, one behind the other: the root container, each declaration,
and the width pattern. So a relation between contributions that is kept when contributions go on holds of
the contributions of any rules, as soon as it holds for each handler. The two sides may run with different
settings, as long as these agree about the root container.
-/

namespace ViewportScaling.Media

open Css Document Numeric Scaling

/-! ### Relations that are kept -/

/-- A relation between two contributions that is kept when both go on. -/
structure Composes (R : Trace → Trace → Prop) : Prop where
  /-- Nothing is related to nothing. -/
  empty : R ∅ ∅
  /-- A notice is related to itself. -/
  note : ∀ notice, R (.note notice) (.note notice)
  /-- Related contributions are related one behind the other. -/
  append : ∀ {first first' second second' : Trace}, R first first' → R second second' →
    R (first ++ second) (first' ++ second')

namespace Composes

variable {R : Trace → Trace → Prop} {settings settings' : Settings}

/-- Lists of related contributions are related as a whole. -/
theorem concat (composes : Composes R) {α : Type} {left right : α → Trace} {items : List α}
    (each : ∀ item ∈ items, R (left item) (right item)) :
    R (Trace.concat (items.map left)) (Trace.concat (items.map right)) := by
  induction items with
  | nil => exact composes.empty
  | cons item items ih =>
    have ⟨first, others⟩ := List.forall_mem_cons.1 each
    rw [List.map_cons, List.map_cons, Trace.concat_cons, Trace.concat_cons]
    exact composes.append first (ih others)

/-- The contributions of a rule are related if those of each handler are. -/
theorem contribution (composes : Composes R) {selector : String} {declarations : List Declaration}
    (sameRoot : settings'.rootSelector = settings.rootSelector)
    (root : R (centredRoot settings selector) (centredRoot settings' selector))
    (lengths : ∀ declaration ∈ declarations,
      R (scaledLength settings selector declaration) (scaledLength settings' selector declaration))
    (patterns : ∀ pattern : Pattern,
      R (pattern.contribution settings selector) (pattern.contribution settings' selector)) :
    R (contribution settings selector declarations) (contribution settings' selector declarations) := by
  unfold Media.contribution patternContribution
  dsimp only
  rw [sameRoot]
  refine composes.append (composes.append (composes.append ?_ (composes.concat lengths)) ?_) ?_
  · split
    · exact composes.append (composes.note _) root
    · exact composes.empty
  · cases (Flags.of declarations).pattern? with
    | none => exact composes.empty
    | some pattern => exact patterns pattern
  · cases (Flags.of declarations).pattern? with
    | none => exact composes.empty
    | some pattern => exact composes.note _

/-- The contributions of rules are related if those of each handler are, for each rule. -/
theorem contributions (composes : Composes R) {rules : List (String × List Declaration)}
    (sameRoot : settings'.rootSelector = settings.rootSelector)
    (root : ∀ selector, R (centredRoot settings selector) (centredRoot settings' selector))
    (lengths : ∀ rule ∈ rules, ∀ declaration ∈ rule.2,
      R (scaledLength settings rule.1 declaration) (scaledLength settings' rule.1 declaration))
    (patterns : ∀ selector (pattern : Pattern),
      R (pattern.contribution settings selector) (pattern.contribution settings' selector)) :
    R (contributions settings rules) (contributions settings' rules) :=
  composes.concat fun rule mem =>
    composes.contribution sameRoot (root rule.1) (lengths rule mem) (patterns rule.1)

end Composes

/-! ### Entries of contributions -/

/-- The entries that a contribution puts into a block. -/
def Trace.entries (trace : Trace) (block : Block) : List (String × List Declaration) :=
  entriesFor block trace.emissions

/-- What comes after a contribution that does not stop is entered behind it. -/
theorem entries_append {first : Trace} (success : first.error = none) (second : Trace) (block : Block) :
    (first ++ second).entries block = first.entries block ++ second.entries block := by
  rw [Trace.entries, emissions_append success, entriesFor_append]
  rfl

@[simp] theorem entries_empty (block : Block) : (∅ : Trace).entries block = [] := rfl

@[simp] theorem entries_note (notice : Notice) (block : Block) :
    (Trace.note notice).entries block = [] := rfl

/-- An emission is entered in its own block. -/
@[simp] theorem entries_emit (target block : Block) (selector : String)
    (declarations : List Declaration) :
    (Trace.emit target selector declarations).entries block =
      if target = block then [(selector, declarations)] else [] := by
  by_cases same : target = block <;> simp [Trace.entries, Trace.emit, entriesFor, same]

namespace View

/-- The other class. -/
def other : View → View
  | desktop => landscape
  | landscape => desktop

/-- The other class of the other class is the class itself. -/
@[simp] theorem other_other (view : View) : view.other.other = view := by
  cases view <;> rfl

end View

/-- Both classes are enabled exactly if each is. -/
theorem bothEnabled_iff {settings : Settings} :
    bothEnabled settings = true ↔ ∀ view : View, view.enabled settings = true := by
  rw [bothEnabled, Bool.and_eq_true]
  constructor
  · intro both view
    cases view with
    | desktop => exact both.1
    | landscape => exact both.2
  · intro each
    exact ⟨each .desktop, each .landscape⟩

/-- With a class disabled, not both are enabled. -/
theorem bothEnabled_of_disabled {settings : Settings} {view : View}
    (disabled : view.enabled settings = false) :
    bothEnabled settings = false := by
  rw [← Bool.not_eq_true, bothEnabled_iff]
  intro each
  rw [each view] at disabled
  contradiction

/-! ### Scaled declarations -/

/-- A scaled declaration has the scaled value, and else is the declaration. -/
theorem scaledDeclaration_eq_ok_iff {ratio : Except ArithmeticError Double} {source copy : Declaration} :
    scaledDeclaration ratio source = .ok copy ↔ ∃ factor value, ratio = .ok factor ∧
      scaleValue (.double factor) source.value = .ok value ∧ { source with value } = copy := by
  unfold scaledDeclaration
  cases ratio with
  | error error => exact ⟨nofun, fun ⟨_, _, found, _⟩ => nomatch found⟩
  | ok factor =>
    change (scaleValue (.double factor) source.value >>= _) = _ ↔ _
    constructor
    · intro scaled
      cases found : scaleValue (.double factor) source.value with
      | error error =>
        rw [found] at scaled
        cases scaled
      | ok value =>
        rw [found] at scaled
        exact ⟨factor, value, rfl, found, Except.ok.inj scaled⟩
    · rintro ⟨_, value, ⟨⟩, found, same⟩
      rw [found]
      exact congrArg Except.ok same

/-- A scaled declaration keeps its property and its importance. -/
theorem scaledDeclaration_keeps {ratio : Except ArithmeticError Double} {source copy : Declaration}
    (scaled : scaledDeclaration ratio source = .ok copy) :
    copy.property = source.property ∧ copy.important = source.important := by
  have ⟨_, _, _, _, same⟩ := scaledDeclaration_eq_ok_iff.1 scaled
  rw [← same]
  exact ⟨rfl, rfl⟩

/-! ### Entries of the handlers -/

/-- Placing declarations does not stop. -/
theorem error_place (settings : Settings) (selector : String)
    (desktopOwn landscapeOwn common : List Declaration) :
    (place settings selector desktopOwn landscapeOwn common).error = none := by
  unfold place
  split
  · rfl
  split
  · rfl
  split <;> rfl

section

variable (settings : Settings) (selector : String)

/-- What a class gets of declarations that are placed. -/
theorem entries_place (own : View → List Declaration) (common : List Declaration) (view : View) :
    (place settings selector (own .desktop) (own .landscape) common).entries view.block =
      if view.enabled settings then [(selector, share settings (own view) common)] else [] := by
  have placed := (spells_place settings selector own common).sound (error_place _ _ _ _ _) view.block
  rw [Except.ok.injEq] at placed
  rw [Trace.entries, ← placed]
  cases view with
  | desktop => rfl
  | landscape => rfl

/-- The common declarations go to the shared block if both classes are enabled. -/
theorem entries_place_shared (own : View → List Declaration) (common : List Declaration) :
    (place settings selector (own .desktop) (own .landscape) common).entries .shared =
      if bothEnabled settings then [(selector, common)] else [] := by
  have placed := (spells_place settings selector own common).sound (error_place _ _ _ _ _) .shared
  rw [Except.ok.injEq] at placed
  rw [Trace.entries, ← placed]
  rfl

/-- The root container is placed. -/
theorem centredRoot_eq : centredRoot settings selector =
    place settings selector [cappedWidth settings.desktopWidth] [cappedWidth settings.landscapeWidth]
      (rootCommon settings) := rfl

/-- A fixed bar is placed. -/
theorem contribution_fixedBar : Pattern.fixedBar.contribution settings selector =
    place settings selector [fixedWidth settings.desktopWidth] [fixedWidth settings.landscapeWidth]
      barCommon := rfl

/-- The pattern of widths in viewport units never stops. -/
theorem error_viewWidth : (Pattern.viewWidth.contribution settings selector).error = none := by
  dsimp only [Pattern.contribution]
  rw [error_append_iff]
  constructor
  · split <;> rfl
  · split <;> rfl

/-- Each enabled class gets its width in place of the width of the viewport. -/
theorem entries_viewWidth (view : View) :
    (Pattern.viewWidth.contribution settings selector).entries view.block =
      if view.enabled settings then [(selector, [fixedWidth (view.targetWidth settings)])] else [] := by
  have first : (if settings.desktopEnabled then
      Trace.emit .desktop selector [fixedWidth settings.desktopWidth] else ∅).error = none := by
    split <;> rfl
  dsimp only [Pattern.contribution]
  rw [entries_append first]
  unfold Settings.desktopEnabled Settings.landscapeEnabled
  cases desktop : settings.disableDesktop <;> cases landscape : settings.disableLandscape <;>
    cases view <;> simp [View.block, View.enabled, View.targetWidth, desktop, landscape]

/-- It puts nothing into the shared block. -/
theorem entries_viewWidth_shared :
    (Pattern.viewWidth.contribution settings selector).entries .shared = [] := by
  have first : (if settings.desktopEnabled then
      Trace.emit .desktop selector [fixedWidth settings.desktopWidth] else ∅).error = none := by
    split <;> rfl
  dsimp only [Pattern.contribution]
  rw [entries_append first]
  split <;> split <;> simp

variable {settings selector} {declaration : Declaration}

/-- The entries of a class from a declaration are the parts of its lengths. -/
theorem lengthParts_of_success (success : (scaledLength settings selector declaration).error = none)
    (view : View) : lengthParts settings selector [declaration] view =
      .ok ((scaledLength settings selector declaration).entries view.block) := by
  have spelled := (spells_scaledLength settings selector declaration).sound success view.block
  cases view with
  | desktop => exact spelled
  | landscape => exact spelled

/-- An enabled class gets a scaled copy of a declaration that holds a length, and nothing of others. -/
theorem entries_scaledLength (success : (scaledLength settings selector declaration).error = none)
    {view : View} (enabled : view.enabled settings = true) :
    (hasLength declaration.value.toList = false →
        (scaledLength settings selector declaration).entries view.block = []) ∧
      (hasLength declaration.value.toList = true →
        ∃ copy, scaledDeclaration (view.ratio settings) declaration = .ok copy ∧
          (scaledLength settings selector declaration).entries view.block = [(selector, [copy])]) := by
  have lengths := lengthParts_of_success success view
  refine ⟨fun lacks => ?_, fun holds => ?_⟩
  · rw [lengthParts_of_not_hasLength _ _ (by rw [lacks]; exact Bool.false_ne_true)] at lengths
    exact (Except.ok.inj lengths).symm
  · rw [lengthParts, if_pos enabled, scaledDeclarations, List.filter_cons, if_pos holds] at lengths
    cases scaled : scaledDeclaration (view.ratio settings) declaration with
    | error error =>
      simp [scaled] at lengths
    | ok copy =>
      simp only [List.filter_nil, List.mapM_cons, List.mapM_nil, scaled] at lengths
      exact ⟨copy, rfl, (Except.ok.inj lengths).symm⟩

/-- A class that is disabled gets no copy. -/
theorem entries_scaledLength_of_disabled
    (success : (scaledLength settings selector declaration).error = none) {view : View}
    (disabled : view.enabled settings = false) :
    (scaledLength settings selector declaration).entries view.block = [] := by
  have lengths := lengthParts_of_success success view
  rw [lengthParts, disabled, if_neg Bool.false_ne_true, Except.ok.injEq] at lengths
  exact lengths.symm

/-- No copy is shared. -/
theorem entries_scaledLength_shared
    (success : (scaledLength settings selector declaration).error = none) :
    (scaledLength settings selector declaration).entries .shared = [] := by
  have spelled := (spells_scaledLength settings selector declaration).sound success .shared
  exact (Except.ok.inj spelled).symm

end

end ViewportScaling.Media
