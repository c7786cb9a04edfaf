import ViewportScaling.Proofs.Document.Planting
import ViewportScaling.Proofs.Media.Contributions

/-!
# Blocks that mirror each other

With both classes enabled, every handler that adds to the block of one class adds the like to the block of
the other: the same selector and the same properties, with lengths scaled from one source or with the width
of each class. What is shared goes with something of both classes. Grouping keeps this, so the two blocks
mirror each other rule by rule, and the shared block has no rule that they lack. With a class disabled
there is neither a block for it nor a shared one.
-/

namespace ViewportScaling.Media

open Css Document Numeric Scaling

/-! ### Declarations that mirror each other -/

/-- A desktop declaration and a landscape declaration give one property a value with the same importance.
The values come from one declaration that the rules list under the selector, scaled by each ratio, or they
are the widths of the two classes. -/
structure Mirrors (settings : Settings) (rules : List (String × List Declaration)) (selector : String)
    (desktop landscape : Declaration) : Prop where
  /-- One property. -/
  property_eq : landscape.property = desktop.property
  /-- One importance. -/
  important_eq : landscape.important = desktop.important
  /-- One source, or a width each. -/
  values : (∃ source ∈ declarationsOf rules selector,
      scaledDeclaration settings.desktopRatio source = .ok desktop ∧
        scaledDeclaration settings.landscapeRatio source = .ok landscape) ∨
    desktop.value = pixels settings.desktopWidth ∧ landscape.value = pixels settings.landscapeWidth

/-- The entries of three blocks fit together: the rules of the classes mirror each other, and the shared
rules are about selectors of both classes, each once. -/
structure FitTogether (settings : Settings) (rules desktop landscape shared : List (String × List Declaration)) :
    Prop where
  /-- The classes mirror each other, rule by rule and declaration by declaration. -/
  mirrored : Related (Mirrors settings rules) desktop landscape
  /-- No selector is shared twice. -/
  nodup : (shared.map Prod.fst).Nodup
  /-- Both classes have a rule for a shared selector. -/
  covered : ∀ selector ∈ shared.map Prod.fst,
    selector ∈ desktop.map Prod.fst ∧ selector ∈ landscape.map Prod.fst

section

variable {settings : Settings} {rules : List (String × List Declaration)}

/-- The widths of the classes mirror each other. -/
theorem mirrors_width (rules : List (String × List Declaration)) (selector property : String)
    (important : Bool) :
    Mirrors settings rules selector ⟨property, pixels settings.desktopWidth, important⟩
      ⟨property, pixels settings.landscapeWidth, important⟩ :=
  ⟨rfl, rfl, .inr ⟨rfl, rfl⟩⟩

/-- Copies of one declaration mirror each other. -/
theorem mirrors_scaled {selector : String} {source desktop landscape : Declaration}
    (mem : source ∈ declarationsOf rules selector)
    (first : scaledDeclaration settings.desktopRatio source = .ok desktop)
    (second : scaledDeclaration settings.landscapeRatio source = .ok landscape) :
    Mirrors settings rules selector desktop landscape := by
  have ⟨property, important⟩ := scaledDeclaration_keeps first
  have ⟨property', important'⟩ := scaledDeclaration_keeps second
  exact ⟨property'.trans property.symm, important'.trans important.symm,
    .inl ⟨source, mem, first, second⟩⟩

/-! ### Contributions to both classes -/

/-- A contribution mirrors itself: what it adds to the classes is related, and what it shares is about
selectors that it adds to a class as well. -/
structure IsMirrored (settings : Settings) (rules : List (String × List Declaration)) (trace : Trace) :
    Prop where
  /-- The classes get related entries. -/
  related : Related (Mirrors settings rules) (trace.entries .desktop) (trace.entries .landscape)
  /-- Shared selectors are selectors of a class. -/
  covered : (trace.entries .shared).map Prod.fst ⊆ (trace.entries .desktop).map Prod.fst

/-- Contributions that mirror themselves do so one behind the other. -/
theorem composes_isMirrored (settings : Settings) (rules : List (String × List Declaration)) :
    Composes fun trace (_ : Trace) => trace.error = none → IsMirrored settings rules trace where
  empty := fun _ => ⟨.nil, List.nil_subset _⟩
  note := fun _ _ => ⟨.nil, List.nil_subset _⟩
  append := by
    intro first _ second _ front back success
    have ⟨early, late⟩ := (error_append_iff first second).1 success
    have entries := entries_append early second
    refine ⟨?_, ?_⟩
    · rw [entries, entries]
      exact List.rel_append (front early).related (back late).related
    · rw [entries, entries, List.map_append, List.map_append]
      exact List.append_subset.2 ⟨List.subset_append_of_subset_left _ (front early).covered,
        List.subset_append_of_subset_right _ (back late).covered⟩

/-- A contribution that gives each class its width, and shares at most something with it, mirrors
itself. -/
theorem isMirrored_of_widths {trace : Trace} (selector property : String) (important : Bool)
    (gets : ∀ view : View, trace.entries view.block =
      [(selector, [⟨property, pixels (view.targetWidth settings), important⟩])])
    (shares : (trace.entries .shared).map Prod.fst ⊆ [selector]) : IsMirrored settings rules trace := by
  have desktop : trace.entries .desktop =
      [(selector, [⟨property, pixels settings.desktopWidth, important⟩])] := gets .desktop
  have landscape : trace.entries .landscape =
      [(selector, [⟨property, pixels settings.landscapeWidth, important⟩])] := gets .landscape
  refine ⟨?_, ?_⟩
  · rw [desktop, landscape]
    exact .cons ⟨rfl, .cons (mirrors_width rules selector property important) .nil⟩ .nil
  · rw [desktop]
    exact shares

/-- Widths that are placed with what goes with them mirror each other. -/
theorem isMirrored_place (both : bothEnabled settings = true) (selector property : String)
    (important : Bool) (common : List Declaration) :
    IsMirrored settings rules (place settings selector
      [⟨property, pixels settings.desktopWidth, important⟩]
      [⟨property, pixels settings.landscapeWidth, important⟩] common) := by
  let own : View → List Declaration := fun view =>
    [⟨property, pixels (view.targetWidth settings), important⟩]
  refine isMirrored_of_widths selector property important (fun view => ?_) ?_
  · refine (entries_place settings selector own common view).trans ?_
    rw [if_pos (bothEnabled_iff.1 both view), share, if_pos both]
  · have shares := entries_place_shared settings selector own common
    rw [if_pos both] at shares
    exact shares ▸ List.Subset.refl _

/-- The widths in place of the width of the viewport mirror each other. -/
theorem isMirrored_viewWidth (both : bothEnabled settings = true) (selector : String) :
    IsMirrored settings rules (Pattern.viewWidth.contribution settings selector) := by
  refine isMirrored_of_widths selector "width" false (fun view => ?_) ?_
  · rw [entries_viewWidth, if_pos (bothEnabled_iff.1 both view)]
    rfl
  · rw [entries_viewWidth_shared]
    exact List.nil_subset _

/-- The copies of a declaration mirror each other. -/
theorem isMirrored_scaledLength (both : bothEnabled settings = true) {selector : String}
    {declaration : Declaration} (mem : declaration ∈ declarationsOf rules selector)
    (success : (scaledLength settings selector declaration).error = none) :
    IsMirrored settings rules (scaledLength settings selector declaration) := by
  have gets := fun view => entries_scaledLength success (bothEnabled_iff.1 both view)
  refine ⟨?_, ?_⟩
  · cases holds : hasLength declaration.value.toList with
    | false =>
      have nothing := fun view => (gets view).1 holds
      have desktop : (scaledLength settings selector declaration).entries .desktop = [] :=
        nothing .desktop
      have landscape : (scaledLength settings selector declaration).entries .landscape = [] :=
        nothing .landscape
      rw [desktop, landscape]
      exact .nil
    | true =>
      obtain ⟨copy, scaled, desktop⟩ := (gets .desktop).2 holds
      obtain ⟨copy', scaled', landscape⟩ := (gets .landscape).2 holds
      have both : Related (Mirrors settings rules) [(selector, [copy])] [(selector, [copy'])] :=
        .cons ⟨rfl, .cons (mirrors_scaled mem scaled scaled') .nil⟩ .nil
      rw [← desktop, ← landscape] at both
      exact both
  · rw [entries_scaledLength_shared success]
    exact List.nil_subset _

/-- What rules contribute mirrors itself. -/
theorem isMirrored_contributions (both : bothEnabled settings = true)
    (success : (contributions settings rules).error = none) :
    IsMirrored settings rules (contributions settings rules) := by
  refine (composes_isMirrored settings rules).contributions rfl ?_ ?_ ?_ success
  · intro selector _
    exact isMirrored_place both selector "max-width" true (rootCommon settings)
  · intro rule mem declaration mem' success
    exact isMirrored_scaledLength both (mem_declarationsOf mem mem') success
  · intro selector pattern _
    cases pattern with
    | fixedBar => exact isMirrored_place both selector "width" false barCommon
    | viewWidth => exact isMirrored_viewWidth both selector

/-! ### Contributions without one class -/

/-- A contribution adds nothing to the block of a class, and shares nothing. -/
structure LeavesOut (view : View) (trace : Trace) : Prop where
  /-- The class gets nothing. -/
  own : trace.entries view.block = []
  /-- Nothing is shared. -/
  shared : trace.entries .shared = []

/-- Contributions that leave a class out do so one behind the other. -/
theorem composes_leavesOut (view : View) :
    Composes fun trace (_ : Trace) => trace.error = none → LeavesOut view trace where
  empty := fun _ => ⟨rfl, rfl⟩
  note := fun _ _ => ⟨rfl, rfl⟩
  append := by
    intro first _ second _ front back success
    have ⟨early, late⟩ := (error_append_iff first second).1 success
    have entries := entries_append early second
    refine ⟨?_, ?_⟩
    · rw [entries, (front early).own, (back late).own, List.append_nil]
    · rw [entries, (front early).shared, (back late).shared, List.append_nil]

/-- What is placed leaves a class out that is disabled. -/
theorem leavesOut_place {view : View} (disabled : view.enabled settings = false) (selector : String)
    (own : View → List Declaration) (common : List Declaration) :
    LeavesOut view (place settings selector (own .desktop) (own .landscape) common) := by
  refine ⟨?_, ?_⟩
  · rw [entries_place, disabled, if_neg Bool.false_ne_true]
  · rw [entries_place_shared, bothEnabled_of_disabled disabled, if_neg Bool.false_ne_true]

/-- What rules contribute leaves a class out that is disabled. -/
theorem leavesOut_contributions {view : View} (disabled : view.enabled settings = false)
    (success : (contributions settings rules).error = none) :
    LeavesOut view (contributions settings rules) := by
  refine (composes_leavesOut view).contributions rfl ?_ ?_ ?_ success
  · intro selector _
    exact leavesOut_place disabled selector (fun view => [cappedWidth (view.targetWidth settings)])
      (rootCommon settings)
  · intro rule _ declaration _ success
    exact ⟨entries_scaledLength_of_disabled success disabled, entries_scaledLength_shared success⟩
  · intro selector pattern _
    cases pattern with
    | fixedBar =>
      exact leavesOut_place disabled selector (fun view => [fixedWidth (view.targetWidth settings)])
        barCommon
    | viewWidth =>
      refine ⟨?_, entries_viewWidth_shared settings selector⟩
      rw [entries_viewWidth, disabled, if_neg Bool.false_ne_true]

end

/-! ### The blocks of a pass -/

section

variable {settings : Settings} {entries : Block → List (String × List Declaration)}

/-- With related entries of the classes, all blocks are there or none is. -/
theorem blockNodes_of_related {R : String → Declaration → Declaration → Prop}
    (related : Related R (entries .desktop) (entries .landscape)) :
    blockNodes settings entries =
      if entries .desktop = [] then []
      else [.media settings.desktopParams (grouped (entries .desktop)),
        .media settings.landscapeParams (grouped (entries .landscape)),
        .media settings.sharedParams (grouped (entries .shared))] := by
  have together := related.eq_nil_iff
  unfold blockNodes wantedBlocks
  by_cases empty : entries .desktop = [] <;> simp [together, empty, Block.params]

/-- Entries that mirror each other fit together when they are grouped. -/
theorem fitTogether_grouped {rules : List (String × List Declaration)}
    (related : Related (Mirrors settings rules) (entries .desktop) (entries .landscape))
    (covered : (entries .shared).map Prod.fst ⊆ (entries .desktop).map Prod.fst) :
    FitTogether settings rules (grouped (entries .desktop)) (grouped (entries .landscape))
      (grouped (entries .shared)) := by
  refine ⟨related.grouped, nodup_map_fst_grouped _, fun selector mem => ?_⟩
  have here := covered (mem_map_fst_grouped.1 mem)
  refine ⟨mem_map_fst_grouped.2 here, mem_map_fst_grouped.2 ?_⟩
  rw [related.map_fst_eq]
  exact here

/-- Blocks of which a class has no entries are at most the one of the other class. -/
theorem blockNodes_of_empty {view : View} (empty : entries view.block = []) :
    blockNodes settings entries =
      if entries view.other.block = [] then []
      else [.media (view.other.block.params settings) (grouped (entries view.other.block))] := by
  unfold blockNodes wantedBlocks
  cases view with
  | desktop =>
    change entries .desktop = [] at empty
    by_cases others : entries .landscape = [] <;> simp [View.other, View.block, empty, others]
  | landscape =>
    change entries .landscape = [] at empty
    by_cases others : entries .desktop = [] <;> simp [View.other, View.block, empty, others]

end

/-- What a pass puts behind the trees of a sheet are the blocks that it adds. -/
theorem addedBlocks_of_nodes {store : Store} {sheet : Id} {settings : Settings} {blocks : List Node}
    (nodes : (pass settings store sheet).store.nodes sheet = store.nodes sheet ++ blocks) :
    addedBlocks settings store sheet = blocks := by
  rw [addedBlocks, nodes, List.drop_left]

/-- If a pass over a coherent sheet succeeds with both classes enabled, it appends nothing, or a block for
each class and a shared one that fit together. With a class disabled it appends nothing or just the block of
the other class, and that only if the other one is enabled. -/
theorem pass_mirrors {store : Store} {sheet : Id} (coherent : store.Coherent sheet)
    {settings : Settings} (success : (pass settings store sheet).error = none) :
    ∃ blocks, (pass settings store sheet).store.nodes sheet = store.nodes sheet ++ blocks ∧
      (bothEnabled settings = true → blocks = [] ∨ ∃ desktop landscape shared,
        blocks = [.media settings.desktopParams desktop, .media settings.landscapeParams landscape,
          .media settings.sharedParams shared] ∧
        FitTogether settings (store.directRules sheet) desktop landscape shared) ∧
      ∀ view : View, view.enabled settings = false → blocks = [] ∨
        view.other.enabled settings = true ∧
          ∃ entries, blocks = [.media (view.other.block.params settings) entries] := by
  refine ⟨blockNodes settings (passEntries settings store sheet), ?_, fun both => ?_,
    fun view disabled => ?_⟩
  · rw [nodes_pass coherent success, addedBlocks_eq coherent success]
  · rw [error_pass coherent] at success
    have mirrored := isMirrored_contributions both success
    have related : Related (Mirrors settings (store.directRules sheet))
        (passEntries settings store sheet .desktop) (passEntries settings store sheet .landscape) :=
      mirrored.related
    rw [blockNodes_of_related related]
    split
    · exact .inl rfl
    · exact .inr ⟨_, _, _, rfl, fitTogether_grouped related mirrored.covered⟩
  · rw [error_pass coherent] at success
    have empty : passEntries settings store sheet view.block = [] :=
      (leavesOut_contributions disabled success).own
    rw [blockNodes_of_empty empty]
    cases other : view.other.enabled settings with
    | false =>
      have none : passEntries settings store sheet view.other.block = [] :=
        (leavesOut_contributions other success).own
      rw [if_pos none]
      exact .inl rfl
    | true =>
      split
      · exact .inl rfl
      · exact .inr ⟨rfl, _, rfl⟩

/-- A page with a root container, a fixed bar and a rule that is split gets three blocks. -/
theorem pass_mirrors_page :
    let rules : List Node := [.rule ".root-class" [⟨"width", "75px", false⟩],
      .rule ".bar" [⟨"position", "fixed", false⟩, ⟨"width", "100%", false⟩],
      .rule ".root-class" [⟨"top", "1px 2px", true⟩]]
    let page := ({} : Store).plantSheet rules
    page.2.Coherent page.1 ∧ (pass {} page.2 page.1).error = none ∧ ∃ desktop landscape shared,
      (pass {} page.2 page.1).store.nodes page.1 = rules ++
        [.media (Block.desktop.params {}) desktop, .media (Block.landscape.params {}) landscape,
          .media (Block.shared.params {}) shared] ∧
      FitTogether {} (page.2.directRules page.1) desktop landscape shared := by
  intro rules page
  have planted : page.2.IsPlantedSheet page.1 _ := Store.isPlantedSheet_plantSheet _
  have success : (pass {} page.2 page.1).error = none := by
    rw [error_pass planted.coherent]
    unfold traceOf
    rw [planted.directRules_eq]
    decide +kernel
  have filled : addedBlocks {} page.2 page.1 ≠ [] := by
    rw [addedBlocks_eq planted.coherent success]
    unfold passEntries traceOf
    rw [planted.directRules_eq]
    decide +kernel
  have ⟨blocks, nodes, mirrored, _⟩ := pass_mirrors planted.coherent success
  have added := addedBlocks_of_nodes nodes
  rw [planted.nodes_eq] at nodes
  rcases mirrored rfl with empty | ⟨desktop, landscape, shared, all, fit⟩
  · exact absurd (added.trans empty) filled
  · exact ⟨planted.coherent, success, desktop, landscape, shared, all ▸ nodes, fit⟩

end ViewportScaling.Media
