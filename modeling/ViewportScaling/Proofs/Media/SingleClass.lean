import ViewportScaling.Proofs.Media.Mirroring

/-!
# One class alone

Disabling one class takes nothing from the other. A handler that distributes declarations over the blocks
of both classes gives the only class its own declarations with the common ones behind them, and all others
give the class what they give it next to the other one. So the pass for one class alone succeeds where the
pass for both does, and each rule of its block interleaves what the block of the class and the shared block
hold under its selector.
-/

namespace ViewportScaling.Media

open Css Document Numeric Scaling

namespace View

/-- The settings with the other class disabled. -/
def alone (settings : Settings) : View → Settings
  | desktop => { settings with disableLandscape := true }
  | landscape => { settings with disableDesktop := true }

section

variable (settings : Settings) (view : View)

@[simp] theorem enabled_alone : view.enabled (view.alone settings) = view.enabled settings := by
  cases view <;> rfl

@[simp] theorem enabled_other_alone : view.other.enabled (view.alone settings) = false := by
  cases view <;> rfl

@[simp] theorem targetWidth_alone :
    view.targetWidth (view.alone settings) = view.targetWidth settings := by
  cases view <;> rfl

@[simp] theorem ratio_alone : view.ratio (view.alone settings) = view.ratio settings := by
  cases view <;> rfl

@[simp] theorem rootSelector_alone : (view.alone settings).rootSelector = settings.rootSelector := by
  cases view <;> rfl

@[simp] theorem rootCommon_alone : rootCommon (view.alone settings) = rootCommon settings := by
  cases view <;> rfl

@[simp] theorem params_alone (block : Block) :
    block.params (view.alone settings) = block.params settings := by
  cases view <;> cases block <;> rfl

/-- What the class gets alone of declarations that are placed. -/
@[simp] theorem share_alone (own common : List Declaration) :
    share (view.alone settings) own common = own ++ common := by
  rw [share, bothEnabled_of_disabled (enabled_other_alone settings view), if_neg Bool.false_ne_true]

end

end View

/-! ### Contributions to one class alone -/

/-- A contribution to a class alone carries what the class gets next to the other one, and what both
share. -/
structure Carries (view : View) (both single : Trace) : Prop where
  /-- Nothing stops it. -/
  success : single.error = none
  /-- It is about the same selectors. -/
  selectors_eq :
    (single.entries view.block).map Prod.fst = (both.entries view.block).map Prod.fst
  /-- Under each selector it interleaves what the class gets and what is shared. -/
  interleaves : ∀ selector, Interleaves (declarationsOf (both.entries view.block) selector)
    (declarationsOf (both.entries .shared) selector)
    (declarationsOf (single.entries view.block) selector)

/-- Contributions carry others one behind the other. -/
theorem composes_carries (view : View) :
    Composes fun both single : Trace => both.error = none → Carries view both single where
  empty := fun _ => ⟨rfl, rfl, fun _ => .nil⟩
  note := fun _ _ => ⟨rfl, rfl, fun _ => .nil⟩
  append := by
    intro first first' second second' front back success
    have ⟨early, late⟩ := (error_append_iff first second).1 success
    have front := front early
    have back := back late
    have entries := entries_append early second
    have entries' := entries_append front.success second'
    refine ⟨(error_append_iff first' second').2 ⟨front.success, back.success⟩, ?_, fun selector => ?_⟩
    · rw [entries, entries', List.map_append, List.map_append, front.selectors_eq, back.selectors_eq]
    · rw [entries, entries, entries', declarationsOf_append, declarationsOf_append,
        declarationsOf_append]
      exact (front.interleaves selector).append (back.interleaves selector)

section

variable {settings : Settings} {view : View}

/-- A contribution to a class carries one that gives the class the same and shares nothing. -/
theorem Carries.of_same {both single : Trace} (success : single.error = none)
    (same : single.entries view.block = both.entries view.block)
    (shares : both.entries .shared = []) : Carries view both single := by
  refine ⟨success, by rw [same], fun selector => ?_⟩
  rw [same, shares]
  exact .of_left _

/-- What is placed for a class alone has the common declarations behind those of the class. -/
theorem carries_place (both : bothEnabled settings = true) (view : View) (selector : String)
    (own : View → List Declaration) (common : List Declaration) :
    Carries view (place settings selector (own .desktop) (own .landscape) common)
      (place (view.alone settings) selector (own .desktop) (own .landscape) common) := by
  have enabled := bothEnabled_iff.1 both view
  have gets := entries_place settings selector own common view
  have shares := entries_place_shared settings selector own common
  have single := entries_place (view.alone settings) selector own common view
  rw [if_pos enabled, share, if_pos both] at gets
  rw [if_pos both] at shares
  rw [view.enabled_alone, if_pos enabled, view.share_alone] at single
  refine ⟨error_place _ _ _ _ _, ?_, fun selector' => ?_⟩
  · rw [gets, single]
    rfl
  · rw [gets, shares, single, declarationsOf_singleton, declarationsOf_singleton,
      declarationsOf_singleton]
    dsimp only
    split
    · exact .of_append _ _
    · exact .nil

/-- The copies for a class alone are the copies for the class. -/
theorem carries_scaledLength (view : View) (selector : String) (declaration : Declaration)
    (success : (scaledLength settings selector declaration).error = none) :
    Carries view (scaledLength settings selector declaration)
      (scaledLength (view.alone settings) selector declaration) := by
  have lengths : lengthParts (view.alone settings) selector [declaration] view =
      lengthParts settings selector [declaration] view := by
    unfold lengthParts
    rw [view.enabled_alone, view.ratio_alone]
  have others : lengthParts (view.alone settings) selector [declaration] view.other = .ok [] := by
    rw [lengthParts, view.enabled_other_alone, if_neg Bool.false_ne_true]
  have gets := lengthParts_of_success success view
  -- The other class gets nothing now, so the copies can stop only where those of the class stopped.
  have succeeds : (scaledLength (view.alone settings) selector declaration).error = none := by
    refine (spells_scaledLength (view.alone settings) selector declaration).complete fun block => ?_
    cases block with
    | desktop =>
      cases view with
      | desktop => exact ⟨_, lengths.trans gets⟩
      | landscape => exact ⟨_, others⟩
    | landscape =>
      cases view with
      | desktop => exact ⟨_, others⟩
      | landscape => exact ⟨_, lengths.trans gets⟩
    | shared => exact ⟨[], rfl⟩
  have single := lengthParts_of_success succeeds view
  rw [lengths, gets] at single
  exact .of_same succeeds (Except.ok.inj single).symm (entries_scaledLength_shared success)

/-- The width for a class alone is the width of the class. -/
theorem carries_viewWidth (selector : String) :
    Carries view (Pattern.viewWidth.contribution settings selector)
      (Pattern.viewWidth.contribution (view.alone settings) selector) := by
  refine .of_same (error_viewWidth _ _) ?_ (entries_viewWidth_shared settings selector)
  rw [entries_viewWidth, entries_viewWidth, view.enabled_alone, view.targetWidth_alone]

/-- What rules contribute to a class alone carries what they contribute to both. -/
theorem carries_contributions (both : bothEnabled settings = true) (view : View)
    {rules : List (String × List Declaration)}
    (success : (contributions settings rules).error = none) :
    Carries view (contributions settings rules) (contributions (view.alone settings) rules) := by
  refine (composes_carries view).contributions (view.rootSelector_alone settings) ?_ ?_ ?_ success
  · intro selector _
    have placed := carries_place both view selector
      (fun view => [cappedWidth (view.targetWidth settings)]) (rootCommon settings)
    rw [centredRoot_eq, centredRoot_eq, view.rootCommon_alone]
    cases view <;> exact placed
  · intro rule _ declaration _ success
    exact carries_scaledLength view rule.1 declaration success
  · intro selector pattern _
    cases pattern with
    | fixedBar =>
      have placed := carries_place both view selector
        (fun view => [fixedWidth (view.targetWidth settings)]) barCommon
      rw [contribution_fixedBar, contribution_fixedBar]
      cases view <;> exact placed
    | viewWidth => exact carries_viewWidth selector

end

/-! ### Blocks of one class alone -/

/-- The rules of a class alone restore what the class and both share: they are about the selectors of the
class, in order, and each interleaves the declarations of the class and the shared ones for its selector. -/
def Restores (own shared single : List (String × List Declaration)) : Prop :=
  List.Forall₂ (fun rule single => single.1 = rule.1 ∧
    Interleaves rule.2 (declarationsOf shared rule.1) single.2) own single

/-- Entries that interleave others under each selector restore these when they are grouped. -/
theorem restores_grouped {own shared single : List (String × List Declaration)}
    (selectors_eq : single.map Prod.fst = own.map Prod.fst)
    (interleaves : ∀ selector, Interleaves (declarationsOf own selector)
      (declarationsOf shared selector) (declarationsOf single selector)) :
    Restores (grouped own) (grouped shared) (grouped single) := by
  have each : ∀ selector, Interleaves (declarationsOf own selector)
      (declarationsOf (grouped shared) selector) (declarationsOf single selector) := by
    intro selector
    rw [declarationsOf_grouped]
    exact interleaves selector
  unfold Restores
  rw [grouped.eq_def own, grouped.eq_def single, selectors_eq, List.forall₂_map_left_iff,
    List.forall₂_map_right_iff, List.forall₂_same]
  intro selector _
  exact ⟨rfl, each selector⟩

section

variable {settings : Settings} {entries single : Block → List (String × List Declaration)}

/-- The blocks for both classes and those for a class alone are missing together. Otherwise the latter are
one block, the rules of which restore those of the class and the shared ones. -/
theorem blockNodes_alone (view : View) {R : String → Declaration → Declaration → Prop}
    (related : Related R (entries .desktop) (entries .landscape))
    (others : single view.other.block = [])
    (selectors_eq : (single view.block).map Prod.fst = (entries view.block).map Prod.fst)
    (interleaves : ∀ selector, Interleaves (declarationsOf (entries view.block) selector)
      (declarationsOf (entries .shared) selector) (declarationsOf (single view.block) selector)) :
    blockNodes settings entries = [] ∧ blockNodes (view.alone settings) single = [] ∨
      ∃ (own : View → List (String × List Declaration))
        (shared alone : List (String × List Declaration)),
        blockNodes settings entries = [.media settings.desktopParams (own .desktop),
          .media settings.landscapeParams (own .landscape), .media settings.sharedParams shared] ∧
        blockNodes (view.alone settings) single = [.media (view.block.params settings) alone] ∧
        Restores (own view) shared alone := by
  have together : entries view.block = [] ↔ entries .desktop = [] := by
    cases view with
    | desktop => exact Iff.rfl
    | landscape => exact related.eq_nil_iff
  have missing : single view.block = [] ↔ entries view.block = [] := by
    have lengths := congrArg List.length selectors_eq
    rw [List.length_map, List.length_map] at lengths
    rw [← List.length_eq_zero_iff, ← List.length_eq_zero_iff]
    exact Eq.congr_left lengths
  rw [blockNodes_of_related related, blockNodes_of_empty others, view.other_other, view.params_alone]
  by_cases empty : entries .desktop = []
  · rw [if_pos empty, if_pos (missing.2 (together.2 empty))]
    exact .inl ⟨rfl, rfl⟩
  · rw [if_neg empty, if_neg fun none => empty (together.1 (missing.1 none))]
    refine .inr ⟨fun view => grouped (entries view.block), _, _, rfl, rfl, ?_⟩
    exact restores_grouped selectors_eq interleaves

end

/-- If a pass for both classes succeeds over a coherent sheet, so does the pass with either class alone.
Both append nothing, or the first one appends three blocks and the other one a single block with the
condition of its class, the rules of which restore those of the class and the shared ones. -/
theorem pass_alone_restores {store : Store} {sheet : Id} (coherent : store.Coherent sheet)
    {settings : Settings} (both : bothEnabled settings = true)
    (success : (pass settings store sheet).error = none) (view : View) :
    (pass (view.alone settings) store sheet).error = none ∧
      ∃ blocks single, (pass settings store sheet).store.nodes sheet = store.nodes sheet ++ blocks ∧
        (pass (view.alone settings) store sheet).store.nodes sheet = store.nodes sheet ++ single ∧
        (blocks = [] ∧ single = [] ∨
          ∃ (own : View → List (String × List Declaration))
            (shared alone : List (String × List Declaration)),
            blocks = [.media settings.desktopParams (own .desktop),
              .media settings.landscapeParams (own .landscape), .media settings.sharedParams shared] ∧
            single = [.media (view.block.params settings) alone] ∧
            Restores (own view) shared alone) := by
  have traced : (traceOf settings store sheet).error = none := error_pass coherent ▸ success
  have carries := carries_contributions both view traced
  have alone : (pass (view.alone settings) store sheet).error = none := by
    rw [error_pass coherent]
    exact carries.success
  have related : Related (Mirrors settings (store.directRules sheet))
      (passEntries settings store sheet .desktop) (passEntries settings store sheet .landscape) :=
    (isMirrored_contributions both traced).related
  have others : passEntries (view.alone settings) store sheet view.other.block = [] :=
    (leavesOut_contributions (view.enabled_other_alone settings) carries.success).own
  refine ⟨alone, blockNodes settings (passEntries settings store sheet),
    blockNodes (view.alone settings) (passEntries (view.alone settings) store sheet), ?_, ?_, ?_⟩
  · rw [nodes_pass coherent success, addedBlocks_eq coherent success]
  · rw [nodes_pass coherent alone, addedBlocks_eq coherent alone]
  · exact blockNodes_alone view related others carries.selectors_eq carries.interleaves

/-- A page with a fixed bar between two lengths, for desktop viewports alone. -/
theorem pass_alone_restores_page :
    let rules : List Node := [.rule ".bar" [⟨"left", "1px", false⟩],
      .rule ".bar" [⟨"position", "fixed", false⟩, ⟨"width", "100%", false⟩],
      .rule ".bar" [⟨"top", "2px", false⟩]]
    let page := ({} : Store).plantSheet rules
    page.2.Coherent page.1 ∧ bothEnabled {} = true ∧ (pass {} page.2 page.1).error = none ∧
      ∃ (own : View → List (String × List Declaration))
        (shared alone : List (String × List Declaration)),
        (pass (View.desktop.alone {}) page.2 page.1).store.nodes page.1 =
          rules ++ [.media (Block.desktop.params {}) alone] ∧
        Restores (own .desktop) shared alone := by
  intro rules page
  have planted : page.2.IsPlantedSheet page.1 _ := Store.isPlantedSheet_plantSheet _
  have success : (pass {} page.2 page.1).error = none := by
    rw [error_pass planted.coherent]
    unfold traceOf
    rw [planted.directRules_eq]
    decide +kernel
  have filled : addedBlocks {} page.2 page.1 ≠ [] := by
    rw [addedBlocks_eq planted.coherent success]
    unfold passEntries traceOf
    rw [planted.directRules_eq]
    decide +kernel
  have ⟨_, blocks, single, nodes, nodes', restored⟩ :=
    pass_alone_restores planted.coherent rfl success .desktop
  have added := addedBlocks_of_nodes nodes
  rw [planted.nodes_eq] at nodes'
  rcases restored with ⟨empty, -⟩ | ⟨own, shared, alone, -, one, restored⟩
  · exact absurd (added.trans empty) filled
  · exact ⟨planted.coherent, rfl, success, own, shared, alone, one ▸ nodes', restored⟩

end ViewportScaling.Media
