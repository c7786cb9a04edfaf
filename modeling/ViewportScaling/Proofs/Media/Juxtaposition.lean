import ViewportScaling.Proofs.Media.Mirroring

/-!
# Sheets one behind the other

What a pass makes of the nodes of one sheet followed by those of another is what it makes of either, put
together. Rules contribute one after another, and grouping parts that are grouped already is grouping the
whole. The condition on the shared block loses nothing here: where a class gets no rule, nothing is shared,
so a block that a sheet does not take in holds no rule.
-/

namespace ViewportScaling.Document.Store

/-- The direct rules of a container are the rules among its trees. -/
theorem filterMap_rulePart?_nodes (store : Store) (container : Id) :
    (store.nodes container).filterMap rulePart? = store.directRules container := by
  rw [nodes, directRules, List.filterMap_filterMap]
  refine List.filterMap_congr fun id _ => ?_
  rw [node?, nodeWithin?.eq_def, rule?]
  cases store.content? id with
  | none => rfl
  | some content =>
    cases content with
    | atRule name params hasBlock => cases store.objects.size <;> rfl
    | _ => rfl

end ViewportScaling.Document.Store

namespace ViewportScaling.Media

open Css Document Numeric Scaling

/-! ### Contributions of more rules -/

/-- Contributions may be put together in two goes. -/
theorem Trace.concat_append (first second : List Trace) :
    Trace.concat (first ++ second) = Trace.concat first ++ Trace.concat second := by
  induction first with
  | nil => rw [List.nil_append, Trace.concat_nil, Trace.empty_append]
  | cons trace traces ih =>
    rw [List.cons_append, Trace.concat_cons, Trace.concat_cons, ih, Trace.append_assoc]

/-- What the first rule contributes comes before the contributions of the others. -/
theorem contributions_cons (settings : Settings) (rule : String × List Declaration)
    (rules : List (String × List Declaration)) :
    contributions settings (rule :: rules) =
      contribution settings rule.1 rule.2 ++ contributions settings rules := rfl

/-- Rules contribute one after another. -/
theorem contributions_append (settings : Settings) (first second : List (String × List Declaration)) :
    contributions settings (first ++ second) =
      contributions settings first ++ contributions settings second := by
  rw [contributions, List.map_append, Trace.concat_append]
  rfl

/-- Nothing is shared where a class gets nothing. -/
theorem entries_shared_eq_nil {settings : Settings} {rules : List (String × List Declaration)}
    (success : (contributions settings rules).error = none) {view : View}
    (missing : (contributions settings rules).entries view.block = []) :
    (contributions settings rules).entries .shared = [] := by
  cases both : bothEnabled settings with
  | true =>
    have ⟨related, covered⟩ := isMirrored_contributions both success
    have desktop : (contributions settings rules).entries .desktop = [] := by
      cases view with
      | desktop => exact missing
      | landscape => exact related.eq_nil_iff.1 missing
    rw [desktop] at covered
    exact List.map_eq_nil_iff.1 (List.subset_nil.1 covered)
  | false =>
    have ⟨disabled, off⟩ : ∃ view : View, view.enabled settings = false := by
      by_contra none
      have all : ∀ view : View, view.enabled settings = true := fun view =>
        Bool.of_not_eq_false fun off => none ⟨view, off⟩
      rw [bothEnabled_iff.2 all] at both
      cases both
    exact (leavesOut_contributions off success).shared

/-! ### What a pass appends -/

/-- A pass over a sheet appends blocks with given rules: the block of each class if it has rules, and the
shared block if both of these have some. A block that is not appended counts as one without rules. -/
structure Appends (settings : Settings) (store : Store) (sheet : Id)
    (rules : Block → List (String × List Declaration)) : Prop where
  /-- The blocks stand behind the trees of the sheet. -/
  nodes_eq : (pass settings store sheet).store.nodes sheet = store.nodes sheet ++
    (wantedBlocks rules).map fun block => .media (block.params settings) (rules block)
  /-- The other blocks have no rules. -/
  absent : ∀ block, block ∉ wantedBlocks rules → rules block = []

section

variable {settings : Settings} {store : Store} {sheet : Id}

/-- Grouping keeps which blocks have entries. -/
theorem wantedBlocks_grouped (entries : Block → List (String × List Declaration)) :
    (wantedBlocks fun block => grouped (entries block)) = wantedBlocks entries := by
  simp only [wantedBlocks, grouped_eq_nil_iff]

/-- A pass that succeeds appends the grouped entries of its blocks. -/
theorem appends_grouped (coherent : store.Coherent sheet)
    (success : (pass settings store sheet).error = none) :
    Appends settings store sheet fun block => grouped (passEntries settings store sheet block) := by
  refine ⟨?_, fun block unwanted => ?_⟩
  · rw [nodes_pass coherent success, addedBlocks_eq coherent success, blockNodes, wantedBlocks_grouped]
  · rw [wantedBlocks_grouped] at unwanted
    rw [error_pass coherent] at success
    rw [grouped_eq_nil_iff]
    have missing : ∀ view : View, passEntries settings store sheet view.block = [] →
        passEntries settings store sheet .shared = [] := fun view none =>
      entries_shared_eq_nil success none
    unfold wantedBlocks at unwanted
    cases block with
    | desktop =>
      by_contra some
      rw [if_neg some] at unwanted
      simp at unwanted
    | landscape =>
      by_contra some
      rw [if_neg some] at unwanted
      simp at unwanted
    | shared =>
      -- The shared block is left out only where the block of some class is.
      by_cases desktop : passEntries settings store sheet .desktop = []
      · exact missing .desktop desktop
      · by_cases landscape : passEntries settings store sheet .landscape = []
        · exact missing .landscape landscape
        · simp [desktop, landscape] at unwanted

end

/-- The pass is a homomorphism up to grouping. Take coherent sheets over which passes with the same settings
succeed, and a coherent sheet with the trees of the one followed by those of the other. The pass over it
succeeds, too, and each of its blocks has the rules of that block for the first sheet followed by those for
the second one, grouped by selector. -/
theorem pass_juxtaposed {settings : Settings} {store store' both : Store} {first second sheet : Id}
    (coherent : store.Coherent first) (coherent' : store'.Coherent second)
    (coherentBoth : both.Coherent sheet)
    (trees : both.nodes sheet = store.nodes first ++ store'.nodes second)
    (success : (pass settings store first).error = none)
    (success' : (pass settings store' second).error = none) :
    (pass settings both sheet).error = none ∧
      ∃ rules rules' : Block → List (String × List Declaration),
        Appends settings store first rules ∧ Appends settings store' second rules' ∧
        Appends settings both sheet fun block => grouped (rules block ++ rules' block) := by
  have rules : both.directRules sheet = store.directRules first ++ store'.directRules second := by
    rw [← Store.filterMap_rulePart?_nodes, trees, List.filterMap_append,
      Store.filterMap_rulePart?_nodes, Store.filterMap_rulePart?_nodes]
  have traces : traceOf settings both sheet =
      traceOf settings store first ++ traceOf settings store' second := by
    rw [traceOf, rules, contributions_append]
    rfl
  have early : (traceOf settings store first).error = none := error_pass coherent ▸ success
  have late : (traceOf settings store' second).error = none := error_pass coherent' ▸ success'
  have succeeds : (pass settings both sheet).error = none := by
    rw [error_pass coherentBoth, traces, error_append_iff]
    exact ⟨early, late⟩
  have entries : ∀ block, passEntries settings both sheet block =
      passEntries settings store first block ++ passEntries settings store' second block := by
    intro block
    rw [passEntries, traces]
    exact entries_append early _ block
  refine ⟨succeeds, _, _, appends_grouped coherent success, appends_grouped coherent' success', ?_⟩
  have whole := appends_grouped coherentBoth succeeds
  simp only [entries] at whole
  simp only [grouped_append]
  exact whole

/-- Two pages about the same bar, the second one with an at-rule in front. -/
theorem pass_juxtaposed_pages :
    let nodes : List Node := [.rule ".bar" [⟨"position", "fixed", false⟩, ⟨"width", "100%", false⟩]]
    let nodes' : List Node := [.atRule "media" "print" true nodes, .rule ".bar" [⟨"left", "1px", false⟩]]
    let page := ({} : Store).plantSheet nodes
    let page' := ({} : Store).plantSheet nodes'
    let both := ({} : Store).plantSheet (nodes ++ nodes')
    page.2.Coherent page.1 ∧ page'.2.Coherent page'.1 ∧ both.2.Coherent both.1 ∧
      both.2.nodes both.1 = page.2.nodes page.1 ++ page'.2.nodes page'.1 ∧
      (pass {} page.2 page.1).error = none ∧ (pass {} page'.2 page'.1).error = none ∧
      (pass {} both.2 both.1).error = none ∧
      ∃ rules rules' : Block → List (String × List Declaration),
        Appends {} page.2 page.1 rules ∧ Appends {} page'.2 page'.1 rules' ∧
        Appends {} both.2 both.1 fun block => grouped (rules block ++ rules' block) := by
  intro nodes nodes' page page' both
  have planted : page.2.IsPlantedSheet page.1 nodes := Store.isPlantedSheet_plantSheet _
  have planted' : page'.2.IsPlantedSheet page'.1 nodes' := Store.isPlantedSheet_plantSheet _
  have plantedBoth : both.2.IsPlantedSheet both.1 (nodes ++ nodes') :=
    Store.isPlantedSheet_plantSheet _
  have trees : both.2.nodes both.1 = page.2.nodes page.1 ++ page'.2.nodes page'.1 := by
    rw [plantedBoth.nodes_eq, planted.nodes_eq, planted'.nodes_eq]
  have success : (pass {} page.2 page.1).error = none := by
    rw [error_pass planted.coherent, traceOf, planted.directRules_eq]
    decide +kernel
  have success' : (pass {} page'.2 page'.1).error = none := by
    rw [error_pass planted'.coherent, traceOf, planted'.directRules_eq]
    decide +kernel
  exact ⟨planted.coherent, planted'.coherent, plantedBoth.coherent, trees, success, success',
    pass_juxtaposed planted.coherent planted'.coherent plantedBoth.coherent trees success success'⟩

end ViewportScaling.Media
