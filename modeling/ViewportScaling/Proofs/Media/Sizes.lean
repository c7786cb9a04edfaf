import ViewportScaling.Proofs.Media.Contributions
import ViewportScaling.Proofs.Media.Passes
import ViewportScaling.Proofs.Settings.Construction

/-!
# Sizes in blocks

A pass writes numbers of its settings into the conditions of its blocks and into the widths that it makes.
However one comes by the settings, validation lets no number pass that is at most zero. So as long as the
numbers are finite, each numeral that a pass writes this way denotes a positive number. Validation lets
positive infinity and what is not a number pass as well, and these are written out too.
-/

namespace ViewportScaling.Media

open Css Document Numeric Scaling

/-- The condition of a block with given sizes of the viewport. -/
def conditionOf (width height : String) : Block → String
  | .desktop => "(min-width: " ++ width ++ "px) and (min-height: " ++ height ++ "px)"
  | .landscape => "((min-width: " ++ width ++ "px) and (max-height: " ++ height ++
      "px)) or ((max-width: " ++ width ++ "px) and (orientation: landscape))"
  | .shared => "(min-width: " ++ width ++ "px) or ((orientation: landscape) and (max-width: " ++ width ++ "))"

/-- The condition of a block is made of the texts of the two break points. -/
theorem params_eq_conditionOf (settings : Settings) (block : Block) :
    block.params settings =
      conditionOf settings.breakPoint.plainText settings.xAxisBreakPoint.plainText block := by
  cases block <;> rfl

/-- A text is a numeral for a positive number. -/
def IsPositive (text : String) : Prop := ∃ x, 0 < x ∧ Denotes text.toList x

/-- Where a declaration in a block comes from. -/
inductive Made (settings : Settings) (rules : List (String × List Declaration)) (selector : String) :
    Declaration → Prop
  /-- It is a copy of a declaration that the rules list under the selector, scaled for a class. -/
  | scaled {source copy : Declaration} (view : View) (mem : source ∈ declarationsOf rules selector)
      (scaled : scaledDeclaration (view.ratio settings) source = .ok copy) : Made settings rules selector copy
  /-- It is the same in every pass, and says nothing about a width. -/
  | constant {declaration : Declaration} (mem : declaration ∈ rootCommon { border := true } ++ barCommon) :
      Made settings rules selector declaration
  /-- It is a width or a greatest width in pixels, the positive width of a class. -/
  | width (view : View) {property : String} (important : Bool)
      (property_eq : property = "width" ∨ property = "max-width")
      (positive : IsPositive (view.targetWidth settings).plainText) :
      Made settings rules selector ⟨property, pixels (view.targetWidth settings), important⟩

/-- A tree is a block whose condition and whose widths are made with positive numbers. -/
def HasPositiveSizes (settings : Settings) (rules : List (String × List Declaration)) (node : Node) : Prop :=
  ∃ block width height entries, node = .media (conditionOf width height block) entries ∧
    IsPositive width ∧ IsPositive height ∧
    ∀ entry ∈ entries, ∀ declaration ∈ entry.2, Made settings rules entry.1 declaration

section

variable {settings : Settings} {rules : List (String × List Declaration)}

/-- Every declaration of entries is made in one of the ways. -/
def AreMade (settings : Settings) (rules entries : List (String × List Declaration)) : Prop :=
  ∀ entry ∈ entries, ∀ declaration ∈ entry.2, Made settings rules entry.1 declaration

theorem areMade_nil : AreMade settings rules [] := List.forall_mem_nil _

/-- An entry is made of the rules if each of its declarations is. -/
theorem areMade_singleton {selector : String} {declarations : List Declaration} :
    AreMade settings rules [(selector, declarations)] ↔
      ∀ declaration ∈ declarations, Made settings rules selector declaration :=
  List.forall_mem_singleton

/-- Every declaration that a contribution adds to a block is made in one of the ways. -/
def AllMade (settings : Settings) (rules : List (String × List Declaration)) (trace : Trace) : Prop :=
  ∀ block, AreMade settings rules (trace.entries block)

/-- It is enough to look at the classes and at what they share. -/
theorem allMade_of_views {trace : Trace}
    (views : ∀ view : View, AreMade settings rules (trace.entries view.block))
    (shared : AreMade settings rules (trace.entries .shared)) : AllMade settings rules trace := by
  intro block
  cases block with
  | desktop => exact views .desktop
  | landscape => exact views .landscape
  | shared => exact shared

/-- Contributions of what is made are so one behind the other. -/
theorem composes_allMade (settings : Settings) (rules : List (String × List Declaration)) :
    Composes fun trace (_ : Trace) => trace.error = none → AllMade settings rules trace where
  empty := fun _ _ => areMade_nil
  note := fun _ _ _ => areMade_nil
  append := by
    intro first _ second _ front back success block
    have ⟨early, late⟩ := (error_append_iff first second).1 success
    rw [entries_append early]
    exact List.forall_mem_append.2 ⟨front early block, back late block⟩

/-- What is placed is made if what each class gets of its own is, and what goes with it is constant. -/
theorem allMade_place {selector : String} (own : View → List Declaration) {common : List Declaration}
    (each : ∀ view, ∀ declaration ∈ own view, Made settings rules selector declaration)
    (constant : common ⊆ rootCommon { border := true } ++ barCommon) :
    AllMade settings rules (place settings selector (own .desktop) (own .landscape) common) := by
  have others : ∀ declaration ∈ common, Made settings rules selector declaration :=
    fun _ mem => .constant (constant mem)
  refine allMade_of_views (fun view => ?_) ?_
  · rw [entries_place]
    split
    · rw [areMade_singleton, share]
      split
      · exact each view
      · exact List.forall_mem_append.2 ⟨each view, others⟩
    · exact areMade_nil
  · rw [entries_place_shared]
    split
    · exact areMade_singleton.2 others
    · exact areMade_nil

/-- The copies of a declaration are made. -/
theorem allMade_scaledLength {selector : String} {declaration : Declaration}
    (mem : declaration ∈ declarationsOf rules selector)
    (success : (scaledLength settings selector declaration).error = none) :
    AllMade settings rules (scaledLength settings selector declaration) := by
  refine allMade_of_views (fun view => ?_) ?_
  · cases enabled : view.enabled settings with
    | false =>
      rw [entries_scaledLength_of_disabled success enabled]
      exact areMade_nil
    | true =>
      have ⟨nothing, copies⟩ := entries_scaledLength success enabled
      cases holds : hasLength declaration.value.toList with
      | false =>
        rw [nothing holds]
        exact areMade_nil
      | true =>
        obtain ⟨copy, scaled, entries⟩ := copies holds
        rw [entries, areMade_singleton, List.forall_mem_singleton]
        exact .scaled view mem scaled
  · rw [entries_scaledLength_shared success]
    exact areMade_nil

variable (positive : ∀ n ∈ settings.numbers, n.IsFinitePositive)
include positive

/-- The width of each class is spelled as a positive number. -/
theorem isPositive_targetWidth (view : View) : IsPositive (view.targetWidth settings).plainText := by
  refine (positive _ ?_).denotes
  cases view <;> simp [View.targetWidth, Settings.numbers]

/-- The widths in place of the width of the viewport are made. -/
theorem allMade_viewWidth (selector : String) :
    AllMade settings rules (Pattern.viewWidth.contribution settings selector) := by
  refine allMade_of_views (fun view => ?_) ?_
  · rw [entries_viewWidth]
    split
    · rw [areMade_singleton, List.forall_mem_singleton]
      exact .width view false (.inl rfl) (isPositive_targetWidth positive view)
    · exact areMade_nil
  · rw [entries_viewWidth_shared]
    exact areMade_nil

/-- Everything that rules contribute is made. -/
theorem allMade_contributions (success : (contributions settings rules).error = none) :
    AllMade settings rules (contributions settings rules) := by
  refine (composes_allMade settings rules).contributions rfl ?_ ?_ ?_ success
  · intro selector _
    rw [centredRoot_eq]
    refine allMade_place (fun view => [cappedWidth (view.targetWidth settings)])
      (fun view => List.forall_mem_singleton.2 ?_) ?_
    · exact .width view true (.inr rfl) (isPositive_targetWidth positive view)
    · refine List.subset_append_of_subset_left _ ?_
      unfold rootCommon
      split
      · exact List.Subset.refl _
      · simp
  · intro rule mem declaration mem' success
    exact allMade_scaledLength (mem_declarationsOf mem mem') success
  · intro selector pattern _
    cases pattern with
    | fixedBar =>
      rw [contribution_fixedBar]
      refine allMade_place (fun view => [fixedWidth (view.targetWidth settings)])
        (fun view => List.forall_mem_singleton.2 ?_) (List.subset_append_right _ _)
      exact .width view false (.inl rfl) (isPositive_targetWidth positive view)
    | viewWidth => exact allMade_viewWidth positive selector

/-- The blocks of what rules contribute have positive sizes. -/
theorem hasPositiveSizes_blockNodes (success : (contributions settings rules).error = none) :
    ∀ node ∈ blockNodes settings (contributions settings rules).entries,
      HasPositiveSizes settings rules node := by
  intro node mem
  obtain ⟨block, -, rfl⟩ := List.mem_map.1 mem
  refine ⟨block, _, _, _, congrArg (Node.media · _) (params_eq_conditionOf settings block), ?_, ?_, ?_⟩
  · exact (positive _ settings.breakPoint_mem_numbers).denotes
  · exact (positive _ (by simp [Settings.numbers])).denotes
  · intro entry listed declaration inside
    obtain ⟨other, among, same, holds⟩ := exists_of_mem_grouped listed inside
    rw [← same]
    exact allMade_contributions positive success block other among declaration holds

end

/-- However one comes by settings, their flags are truth values, their class is not empty, and each of their
numbers is finite and positive, positive infinity or not a number. If the numbers are finite, then every
condition and every width that a pass makes holds numerals for positive numbers. -/
theorem constructed_isSound {settings : Settings} (constructed : Settings.Constructed settings) :
    settings.IsSound ∧ ((∀ n ∈ settings.numbers, n.IsFinite) →
      (∀ n ∈ settings.breakPoint :: settings.numbers, n.IsFinitePositive) ∧
      ∀ (store : Store) (sheet : Id), store.Coherent sheet → (pass settings store sheet).error = none →
        (pass settings store sheet).store.nodes sheet =
            store.nodes sheet ++ addedBlocks settings store sheet ∧
          ∀ node ∈ addedBlocks settings store sheet,
            HasPositiveSizes settings (store.directRules sheet) node) := by
  have valid := constructed.isValid
  refine ⟨valid.isSound, fun finite => ?_⟩
  have positive : ∀ n ∈ settings.numbers, n.IsFinitePositive :=
    fun n mem => (finite n mem).isFinitePositive (valid.numbers n mem)
  refine ⟨List.forall_mem_cons.2 ⟨positive _ settings.breakPoint_mem_numbers, positive⟩, ?_⟩
  intro store sheet coherent success
  refine ⟨nodes_pass coherent success, ?_⟩
  rw [addedBlocks_eq coherent success]
  rw [error_pass coherent] at success
  exact hasPositiveSizes_blockNodes positive success

/-- A page with a root container and a rule as wide as the viewport, for a width that is no whole number. -/
theorem constructed_isSound_page :
    let half : Number := .double ((Double.ofInt 1201).div (.ofInt 2))
    let settings : Settings := { desktopWidth := half }
    let page := ({} : Store).plantSheet [.rule ".root-class" [], .rule ".box" [⟨"width", "100vw", false⟩]]
    Settings.Constructed settings ∧ settings.IsSound ∧ (∀ n ∈ settings.numbers, n.IsFinite) ∧
      half.IsFinitePositive ∧ page.2.Coherent page.1 ∧ (pass settings page.2 page.1).error = none ∧
      (addedBlocks settings page.2 page.1).length = 3 ∧
      ∀ node ∈ addedBlocks settings page.2 page.1,
        HasPositiveSizes settings (page.2.directRules page.1) node := by
  intro half settings page
  have overridden : ({} : Settings).override [("desktopWidth", .number half)] = .ok settings :=
    Settings.Draft.validate_eq_ok_iff.2
      ⟨funext fun field => by cases field <;> rfl, by decide +kernel, by decide⟩
  have constructed := Settings.Constructed.overridden (.drafted Settings.isValid_default) overridden
  have some : half.IsFinite := Option.isSome_iff_exists.1 (by decide +kernel)
  have finite : ∀ n ∈ settings.numbers, n.IsFinite :=
    List.forall_mem_cons.2 ⟨trivial, List.forall_mem_cons.2 ⟨some, by simp [settings, Number.IsFinite]⟩⟩
  have planted : page.2.IsPlantedSheet page.1 _ := Store.isPlantedSheet_plantSheet _
  have success : (pass settings page.2 page.1).error = none := by
    rw [error_pass planted.coherent, traceOf, planted.directRules_eq]
    decide +kernel
  have three : (addedBlocks settings page.2 page.1).length = 3 := by
    rw [addedBlocks_eq planted.coherent success]
    unfold passEntries traceOf
    rw [planted.directRules_eq]
    decide +kernel
  obtain ⟨sound, sizes⟩ := constructed_isSound constructed
  obtain ⟨positive, blocks⟩ := sizes finite
  exact ⟨constructed, sound, finite, positive _ (by simp [settings, Settings.numbers]), planted.coherent,
    success, three, (blocks _ _ planted.coherent success).2⟩

/-- Settings with a width that is infinite and one that is not a number, which stands in a condition. -/
theorem constructed_irregular :
    let settings : Settings := { viewportWidth := .double (.infinite false),
                                 desktopWidth := .double .notANumber }
    Settings.Constructed settings ∧ ¬settings.viewportWidth.IsFinitePositive ∧
      ¬settings.desktopWidth.IsFinitePositive ∧ ¬settings.breakPoint.IsFinitePositive ∧
      settings.desktopParams = "(min-width: nanpx) and (min-height: 640px)" := by
  intro settings
  have nothing : ¬settings.desktopWidth.IsFinitePositive := nofun
  have overridden : ({} : Settings).override [("viewportWidth", .number (.double (.infinite false))),
      ("desktopWidth", .number (.double .notANumber))] = .ok settings :=
    Settings.Draft.validate_eq_ok_iff.2 ⟨funext fun field => by cases field <;> rfl, by decide, by decide⟩
  exact ⟨.overridden (.drafted Settings.isValid_default) overridden, nofun, nothing, nothing,
    by decide +kernel⟩

end ViewportScaling.Media
