import ViewportScaling.Proofs.Media.Atomicity
import ViewportScaling.Proofs.Media.Juxtaposition

/-!
# The order of declarations

The order in which a rule lists its declarations matters for one thing only: its scaled lengths come in that
order. What else a class gets of the rule, and all that is shared, depends on which declarations there are.
So if the rules of a sheet are taken with their declarations in another order, the blocks of a pass have the
same rules in the same order, and in each rule the declarations that are made for the root container and for
width patterns come in the order they had.
-/

namespace ViewportScaling.Css

/-- Nodes that are the same, or rules with one selector that list the same declarations in some order. -/
inductive Node.Reorders : Node → Node → Prop
  /-- A node and itself. -/
  | same (node : Node) : Reorders node node
  /-- The declarations of a rule in another order. -/
  | rule (selector : String) {declarations declarations' : List Declaration}
      (perm : declarations.Perm declarations') :
      Reorders (.rule selector declarations) (.rule selector declarations')

end ViewportScaling.Css

namespace ViewportScaling.Document

open Css

/-- An interleaving holds the members of both lists. -/
theorem Interleaves.perm {α : Type} {first second result : List α}
    (interleaves : Interleaves first second result) : result.Perm (first ++ second) := by
  induction interleaves with
  | nil => exact .nil
  | left _ ih => exact ih.cons _
  | right _ ih => exact (ih.cons _).trans List.perm_middle.symm

/-- Rules are about the same selectors and list the same declarations, each in some order. -/
def RulesReorder (rules rules' : List (String × List Declaration)) : Prop :=
  List.Forall₂ (fun rule rule' => rule'.1 = rule.1 ∧ rule.2.Perm rule'.2) rules rules'

namespace RulesReorder

variable {rules rules' : List (String × List Declaration)}

/-- The rules of reordered nodes are reordered. -/
theorem of_nodes {nodes nodes' : List Node} (reordered : List.Forall₂ Node.Reorders nodes nodes') :
    RulesReorder (nodes.filterMap Store.rulePart?) (nodes'.filterMap Store.rulePart?) := by
  unfold RulesReorder
  refine List.rel_filterMap ?_ reordered
  rintro node node' (_ | ⟨selector, perm⟩)
  · cases Store.rulePart? node with
    | none => exact .none
    | some rule => exact .some ⟨rfl, .refl _⟩
  · exact .some ⟨rfl, perm⟩

/-- Reordered rules list the same declarations under a selector. -/
theorem declarationsOf (reordered : RulesReorder rules rules') (selector : String) :
    (declarationsOf rules selector).Perm (declarationsOf rules' selector) := by
  unfold RulesReorder at reordered
  induction reordered with
  | nil => exact .nil
  | cons here _ ih =>
    rw [declarationsOf_cons, declarationsOf_cons, here.1]
    refine List.Perm.append ?_ ih
    split
    · exact here.2
    · exact .nil

end RulesReorder

end ViewportScaling.Document

namespace ViewportScaling.Media

open Css Document Numeric Scaling

/-! ### What does not depend on the order -/

section

variable {declarations declarations' : List Declaration}

/-- What is declared somewhere is declared in any order. -/
theorem declares_perm (perm : declarations.Perm declarations') (property value : String) :
    declares declarations' property value = declares declarations property value :=
  perm.symm.any_eq

/-- So a fixed bar is one in any order of its declarations. -/
theorem isFixedBar_perm (perm : declarations.Perm declarations') :
    isFixedBar declarations' = isFixedBar declarations := by
  unfold isFixedBar
  simp only [declares_perm perm]

/-- The width patterns of a rule do not depend on the order of its declarations. -/
theorem patternParts_perm (perm : declarations.Perm declarations') (settings : Settings)
    (selector : String) (block : Block) :
    patternParts settings selector declarations' block =
      patternParts settings selector declarations block := by
  unfold patternParts
  rw [isFixedBar_perm perm, declares_perm perm]

/-- Declarations in another order have the same scaled copies in another order. -/
theorem scaledDeclarations_perm (perm : declarations.Perm declarations')
    {ratio : Except ArithmeticError Double} {scaled : List Declaration}
    (found : scaledDeclarations ratio declarations = .ok scaled) :
    ∃ scaled', scaledDeclarations ratio declarations' = .ok scaled' ∧ scaled.Perm scaled' := by
  obtain ⟨scaled', copied, same⟩ := List.perm_comp_forall₂ (perm.symm.filter _) (mapM_eq_ok_iff.1 found)
  exact ⟨scaled', mapM_eq_ok_iff.2 copied, same.symm⟩

end

/-- Whether contributions stop does not depend on the order. -/
theorem error_contributions_reorder {settings : Settings} {rules rules' : List (String × List Declaration)}
    (reordered : RulesReorder rules rules') (success : (contributions settings rules).error = none) :
    (contributions settings rules').error = none := by
  refine error_contributions_eq_none_iff.2 fun rule' among declaration mem => ?_
  obtain ⟨rule, among', same, perm⟩ := exists_mem_of_forall₂ reordered.flip among
  rw [same]
  exact error_contributions_eq_none_iff.1 success rule among' declaration (perm.mem_iff.2 mem)

/-! ### What a class gets of a rule -/

section

variable {settings : Settings} {view : View}

/-- What rules give to a class besides scaled lengths, under their selectors: for each rule first what the
root container needs, then what replaces its width pattern. -/
def synthesized (settings : Settings) (view : View) (rules : List (String × List Declaration)) :
    List (String × List Declaration) :=
  rules.flatMap fun rule =>
    rootParts settings rule.1 view.block ++ patternParts settings rule.1 rule.2 view.block

/-- An enabled class gets of a rule what the root container needs, then the scaled lengths, then what
replaces a width pattern. -/
theorem exists_entries_contribution (enabled : view.enabled settings = true) {selector : String}
    {declarations : List Declaration}
    (success : (contribution settings selector declarations).error = none) :
    ∃ scaled, scaledDeclarations (view.ratio settings) declarations = .ok scaled ∧
      (contribution settings selector declarations).entries view.block =
        rootParts settings selector view.block ++
          (scaled.map fun copy => [copy]).map (fun part => (selector, part)) ++
          patternParts settings selector declarations view.block := by
  have spelled := (spells_contribution settings selector declarations).sound success view.block
  rw [rulePart_eq] at spelled
  obtain ⟨front, pattern, found, replaced, whole⟩ := joined_eq_ok_iff.1 spelled
  obtain ⟨root, lengths, centred, copied, rfl⟩ := joined_eq_ok_iff.1 found
  obtain rfl := Except.ok.inj centred
  obtain rfl := Except.ok.inj replaced
  have copies : lengthParts settings selector declarations view = .ok lengths := by
    cases view <;> exact copied
  rw [lengthParts, if_pos enabled] at copies
  obtain ⟨scaled, same, rfl⟩ := map_eq_ok_iff.1 copies
  refine ⟨scaled, same, ?_⟩
  rw [List.map_map]
  exact whole

/-- What is synthesized for the first rule comes before what is for the others. -/
theorem synthesized_cons (rule : String × List Declaration) (rules : List (String × List Declaration)) :
    synthesized settings view (rule :: rules) =
      rootParts settings rule.1 view.block ++ patternParts settings rule.1 rule.2 view.block ++
        synthesized settings view rules := List.flatMap_cons

/-- Under each selector the entries of a class interleave the scaled lengths of the rules about it and what
else the class gets of them. -/
theorem interleaves_contributions (enabled : view.enabled settings = true)
    {rules : List (String × List Declaration)} (success : (contributions settings rules).error = none)
    (selector : String) :
    ∃ scaled, scaledDeclarations (view.ratio settings) (declarationsOf rules selector) = .ok scaled ∧
      Interleaves scaled (declarationsOf (synthesized settings view rules) selector)
        (declarationsOf ((contributions settings rules).entries view.block) selector) := by
  have parts : ∀ root lengths pattern : List Declaration,
      Interleaves lengths (root ++ pattern) (root ++ lengths ++ pattern) := by
    intro root lengths pattern
    have both := ((Interleaves.of_right root).append (.of_left lengths)).append (.of_right pattern)
    rwa [List.nil_append, List.append_nil, List.append_nil] at both
  induction rules with
  | nil => exact ⟨[], rfl, .nil⟩
  | cons rule rules ih =>
    rw [contributions_cons] at success ⊢
    obtain ⟨here, others⟩ := (error_append_iff _ _).1 success
    obtain ⟨copies, copied, entries⟩ := exists_entries_contribution enabled here
    obtain ⟨further, copied', interleaves⟩ := ih others
    rw [declarationsOf_cons, scaledDeclarations_append, copied', synthesized_cons, entries_append here,
      entries]
    simp only [declarationsOf_append, declarationsOf_labelled]
    -- A rule with another selector gives nothing under this one but what `synthesized` has as well.
    by_cases same : rule.1 = selector
    · rw [if_pos same, if_pos same, copied, joined_ok, ← List.flatMap_def, List.flatMap_singleton']
      exact ⟨_, rfl, (parts _ _ _).append interleaves⟩
    · rw [if_neg same, if_neg same]
      exact ⟨_, rfl, (parts _ [] _).append interleaves⟩

end

/-! ### What reordered rules give -/

section

variable {settings : Settings} {rules rules' : List (String × List Declaration)}

/-- Reordering declarations within rules changes nothing that is synthesized. -/
theorem synthesized_reorder (reordered : RulesReorder rules rules') (view : View) :
    synthesized settings view rules' = synthesized settings view rules := by
  unfold RulesReorder at reordered
  induction reordered with
  | nil => rfl
  | cons here _ ih => rw [synthesized_cons, synthesized_cons, ih, here.1, patternParts_perm here.2]

/-- A class gets entries about the same selectors in the same order. -/
theorem map_fst_entries_reorder {view : View} (enabled : view.enabled settings = true)
    (reordered : RulesReorder rules rules') (success : (contributions settings rules).error = none)
    (success' : (contributions settings rules').error = none) :
    ((contributions settings rules').entries view.block).map Prod.fst =
      ((contributions settings rules).entries view.block).map Prod.fst := by
  unfold RulesReorder at reordered
  induction reordered with
  | nil => rfl
  | @cons rule rule' rules rules' here _ ih =>
    rw [contributions_cons] at success success'
    obtain ⟨first, others⟩ := (error_append_iff _ _).1 success
    obtain ⟨first', others'⟩ := (error_append_iff _ _).1 success'
    obtain ⟨copies, copied, entries⟩ := exists_entries_contribution enabled first
    obtain ⟨copies', copied', entries'⟩ := exists_entries_contribution enabled first'
    obtain ⟨same, perm⟩ := here
    obtain ⟨_, again, permuted⟩ := scaledDeclarations_perm perm copied
    obtain rfl := Except.ok.inj (copied'.symm.trans again)
    rw [contributions_cons, contributions_cons, entries_append first, entries_append first',
      List.map_append, List.map_append, ih others others', entries, entries', same, patternParts_perm perm]
    simp only [List.map_append, List.map_map, Function.comp_def, List.map_const', permuted.length_eq]

/-- The shared block gets the same of a rule in any order of its declarations. -/
theorem rulePart_shared_perm {rule rule' : String × List Declaration} (same : rule'.1 = rule.1)
    (perm : rule.2.Perm rule'.2) : rulePart settings .shared rule' = rulePart settings .shared rule := by
  simp only [rulePart, sharedParts, isFixedBar_perm perm, same]

/-- The shared entries stay as they are. -/
theorem entries_shared_reorder (reordered : RulesReorder rules rules')
    (success : (contributions settings rules).error = none)
    (success' : (contributions settings rules').error = none) :
    (contributions settings rules').entries .shared = (contributions settings rules).entries .shared := by
  have parts : rules'.mapM (rulePart settings .shared) = rules.mapM (rulePart settings .shared) := by
    unfold RulesReorder at reordered
    clear success success'
    induction reordered with
    | nil => rfl
    | cons here _ ih => rw [List.mapM_cons, List.mapM_cons, ih, rulePart_shared_perm here.1 here.2]
  have found := (spells_contributions settings rules).sound success .shared
  have found' := (spells_contributions settings rules').sound success' .shared
  rw [blockParts, parts, ← blockParts, found] at found'
  exact (Except.ok.inj found').symm

end

/-! ### Blocks of reordered sheets -/

/-- A rule in the block of a class and its counterpart are about one selector and have the same declarations
up to their order. Each interleaves the scaled lengths of the rules of its sheet with what the root container
and width patterns need, and these other declarations come in one order in both. -/
structure Reshuffles (settings : Settings) (view : View)
    (rules rules' : List (String × List Declaration)) (rule rule' : String × List Declaration) : Prop where
  /-- The selectors are the same. -/
  selector_eq : rule'.1 = rule.1
  /-- The declarations are the same up to their order. -/
  perm : rule.2.Perm rule'.2
  /-- Only the scaled lengths may come in another order. -/
  exists_lengths : ∃ scaled scaled',
    scaledDeclarations (view.ratio settings) (declarationsOf rules rule.1) = .ok scaled ∧
    scaledDeclarations (view.ratio settings) (declarationsOf rules' rule.1) = .ok scaled' ∧
    Interleaves scaled (declarationsOf (synthesized settings view rules) rule.1) rule.2 ∧
    Interleaves scaled' (declarationsOf (synthesized settings view rules) rule.1) rule'.2

/-- The grouped entries of a class are reshuffled. -/
theorem reshuffles_grouped {settings : Settings} {rules rules' : List (String × List Declaration)}
    (reordered : RulesReorder rules rules') (success : (contributions settings rules).error = none)
    (success' : (contributions settings rules').error = none) (view : View) :
    List.Forall₂ (Reshuffles settings view rules rules')
      (grouped ((contributions settings rules).entries view.block))
      (grouped ((contributions settings rules').entries view.block)) := by
  cases enabled : view.enabled settings with
  | false =>
    rw [(leavesOut_contributions enabled success).own, (leavesOut_contributions enabled success').own]
    exact .nil
  | true =>
    rw [grouped, grouped, map_fst_entries_reorder enabled reordered success success',
      List.forall₂_map_left_iff, List.forall₂_map_right_iff, List.forall₂_same]
    intro selector _
    obtain ⟨scaled, copied, mixed⟩ := interleaves_contributions enabled success selector
    obtain ⟨scaled', copied', mixed'⟩ := interleaves_contributions enabled success' selector
    rw [synthesized_reorder reordered] at mixed'
    obtain ⟨_, again, permuted⟩ :=
      scaledDeclarations_perm (reordered.declarationsOf selector) copied
    obtain rfl := Except.ok.inj (copied'.symm.trans again)
    refine ⟨rfl, ?_, scaled, scaled', copied, copied', mixed, mixed'⟩
    exact mixed.perm.trans ((permuted.append_right _).trans mixed'.perm.symm)

/-- The order of declarations within the rules of a sheet decides about the order of scaled lengths only.
Take coherent sheets with the same trees, except that rules at the top may list their declarations in
another order. If a pass over the one succeeds, so does the pass over the other. Both append the same
blocks, the shared ones are equal, and the blocks of a class have rules about the same selectors in the same
order, each with the declarations of its counterpart: between the scaled lengths the others keep their
order. -/
theorem pass_reordered {settings : Settings} {store store' : Store} {sheet sheet' : Id}
    (coherent : store.Coherent sheet) (coherent' : store'.Coherent sheet')
    (reordered : List.Forall₂ Node.Reorders (store.nodes sheet) (store'.nodes sheet'))
    (success : (pass settings store sheet).error = none) :
    (pass settings store' sheet').error = none ∧
      ∃ rules rules' : Block → List (String × List Declaration),
        Appends settings store sheet rules ∧ Appends settings store' sheet' rules' ∧
        wantedBlocks rules' = wantedBlocks rules ∧ rules' .shared = rules .shared ∧
        ∀ view : View, List.Forall₂
          (Reshuffles settings view (store.directRules sheet) (store'.directRules sheet'))
          (rules view.block) (rules' view.block) := by
  have direct : RulesReorder (store.directRules sheet) (store'.directRules sheet') := by
    have among := RulesReorder.of_nodes reordered
    rwa [Store.filterMap_rulePart?_nodes, Store.filterMap_rulePart?_nodes] at among
  have traced : (traceOf settings store sheet).error = none := error_pass coherent ▸ success
  have traced' : (traceOf settings store' sheet').error = none :=
    error_contributions_reorder direct traced
  have success' : (pass settings store' sheet').error = none := (error_pass coherent').trans traced'
  have classes := reshuffles_grouped direct traced traced'
  refine ⟨success', _, _, appends_grouped coherent success, appends_grouped coherent' success', ?_, ?_,
    classes⟩
  · have missing : ∀ view : View, grouped (passEntries settings store' sheet' view.block) = [] ↔
        grouped (passEntries settings store sheet view.block) = [] := by
      intro view
      have lengths : (grouped (passEntries settings store sheet view.block)).length =
        (grouped (passEntries settings store' sheet' view.block)).length := (classes view).length_eq
      rw [← List.length_eq_zero_iff, ← List.length_eq_zero_iff, lengths]
    have desktop := missing .desktop
    have landscape := missing .landscape
    dsimp only [View.block] at desktop landscape
    simp only [wantedBlocks, desktop, landscape]
  · exact congrArg grouped (entries_shared_reorder direct traced traced')

/-- A page whose root container is a fixed bar with two lengths, and the page with these the other way
round. -/
theorem pass_reordered_pages :
    let settings : Settings := { rootClass := "page" }
    let left : Declaration := ⟨"left", "1px", false⟩
    let top : Declaration := ⟨"top", "2px", false⟩
    let bar : List Declaration := [⟨"position", "fixed", false⟩, ⟨"width", "100%", false⟩]
    let page := ({} : Store).plantSheet [.rule ".page" (left :: top :: bar)]
    let page' := ({} : Store).plantSheet [.rule ".page" (top :: left :: bar)]
    page.2.Coherent page.1 ∧ page'.2.Coherent page'.1 ∧
      List.Forall₂ Node.Reorders (page.2.nodes page.1) (page'.2.nodes page'.1) ∧
      (pass settings page.2 page.1).error = none ∧ (pass settings page'.2 page'.1).error = none ∧
      ∃ rules rules' : Block → List (String × List Declaration),
        Appends settings page.2 page.1 rules ∧ Appends settings page'.2 page'.1 rules' ∧
        rules' .shared = rules .shared := by
  intro settings left top bar page page'
  have planted : page.2.IsPlantedSheet page.1 _ := Store.isPlantedSheet_plantSheet _
  have planted' : page'.2.IsPlantedSheet page'.1 _ := Store.isPlantedSheet_plantSheet _
  have reordered : List.Forall₂ Node.Reorders (page.2.nodes page.1) (page'.2.nodes page'.1) := by
    rw [planted.nodes_eq, planted'.nodes_eq]
    exact .cons (.rule ".page" (.swap _ _ _)) .nil
  have success : (pass settings page.2 page.1).error = none := by
    rw [error_pass planted.coherent, traceOf, planted.directRules_eq]
    decide +kernel
  obtain ⟨success', rules, rules', appends, appends', -, shared, -⟩ :=
    pass_reordered planted.coherent planted'.coherent reordered success
  exact ⟨planted.coherent, planted'.coherent, reordered, success, success', rules, rules', appends, appends',
    shared⟩

end ViewportScaling.Media
