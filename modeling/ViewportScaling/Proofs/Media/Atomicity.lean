import ViewportScaling.Proofs.Media.Contributions
import ViewportScaling.Proofs.Scaling.Lengths

/-!
# Passes that stop

A pass stops for one reason only: an enabled class cannot scale some declaration that holds a length, since
its ratio overflows or a product is too large for three decimal places. Nothing else that a pass does can
fail. The pass is also carried out in steps here, on a document that changes all the while: the rules below
the sheet are listed, and each is read from the document as it then is and puts its emissions into the
blocks before the next one is dealt with. This comes to the same, and wherever it stops, every object that
the document had before is as it was.
-/

namespace ViewportScaling.Document.Store

open Css

variable {store : Store} {sheet : Id}

/-- A rule that the walk over a sheet meets is a child of some container of the tree. -/
theorem Below.exists_container {depth : Nat} {ids : List Id}
    {level : Nat} {container id : Id} (below : store.Below sheet level container)
    (inside : ids ⊆ store.children container) (mem : id ∈ store.rulesWithin depth ids) :
    ∃ level' container', store.Below sheet level' container' ∧ id ∈ store.children container' ∧
      store.isLinked id = true := by
  fun_induction store.rulesWithin depth ids generalizing level container with
  | case1 depth => cases mem
  | case2 depth first ids selector declarations rule ih =>
    rcases List.mem_cons.1 mem with rfl | later
    · refine ⟨level, container, below, inside List.mem_cons_self, ?_⟩
      rw [isLinked, rule]
      rfl
    · exact ih below (List.subset_of_cons_subset inside) later
  | case3 first ids name params hasBlock atRule ih =>
    exact ih below (List.subset_of_cons_subset inside) mem
  | case4 first ids name params hasBlock atRule inner ihInner ih =>
    rcases List.mem_append.1 mem with within | later
    · have linked : store.isLinked first = true := by
        rw [isLinked, atRule]
        rfl
      have further := Below.child below (inside List.mem_cons_self) linked
      exact ihInner further (List.Subset.refl _) within
    · exact ih below (List.subset_of_cons_subset inside) later
  | case5 depth first ids other other' ih =>
    exact ih below (List.subset_of_cons_subset inside) mem

/-- A document that has grown without any new child of the sheet has its objects as they were. -/
theorem GrowsTo.get?_eq {other : Store} (grows : store.GrowsTo other sheet []) {id : Id}
    {object : Object} (found : store.get? id = some object) : other.get? id = some object := by
  by_cases same : id = sheet
  · subst same
    have grown := grows.grown found
    rwa [List.append_nil] at grown
  · exact grows.kept same found

/-- The walk reads the same about its rules in a document that has grown apart from the sheet. -/
theorem GrowsTo.reads_eq {other : Store} (grows : store.GrowsTo other sheet [])
    (coherent : store.Coherent sheet) {id : Id} (mem : id ∈ store.rulesBelow sheet) :
    other.isNested id = store.isNested id ∧ other.rule? id = store.rule? id := by
  rw [rulesBelow_eq] at mem
  have ⟨level, container, below, child, linked⟩ :=
    Below.top.exists_container (List.Subset.refl _) mem
  have ⟨object, found⟩ := coherent.present below child
  have ⟨object', found'⟩ := coherent.exists_get? below
  have kept := grows.get?_eq found
  have up := coherent.linked below child linked
  have up' : other.parent? id = some container := by
    rw [parent?_of_get? kept, ← parent?_of_get? found, up]
  constructor
  · rw [isNested, isNested, up, up', Option.any_some, Option.any_some, isAtRule, isAtRule,
      content?_of_get? (grows.get?_eq found'), content?_of_get? found']
  · rw [rule?, rule?, content?_of_get? kept, content?_of_get? found]

end ViewportScaling.Document.Store

namespace ViewportScaling.Numeric

/-- A ratio has no result only if it overflows. -/
theorem Number.overflow_of_ratio {a b : Number} {error : ArithmeticError}
    (stopped : a.ratio b = .error error) : error = .quotientOverflow ∨ error = .integerOverflow := by
  have convert : ∀ {n : Number} {error : ArithmeticError}, n.toDouble = .error error →
      error = .integerOverflow := by
    intro n error stopped
    cases n with
    | double d => cases stopped
    | whole n =>
      simp only [toDouble] at stopped
      split at stopped
      · cases stopped
        rfl
      · cases stopped
  unfold ratio at stopped
  split at stopped
  · split at stopped
    · simp only at stopped
      split at stopped
      · cases stopped
        exact .inl rfl
      · cases stopped
    · cases stopped
  · right
    cases first : a.toDouble with
    | error overflow =>
      rw [first] at stopped
      cases stopped
      exact convert first
    | ok numerator =>
      cases second : b.toDouble with
      | error overflow =>
        rw [first, second] at stopped
        cases stopped
        exact convert second
      | ok denominator =>
        rw [first, second] at stopped
        cases stopped

end ViewportScaling.Numeric

namespace ViewportScaling.Media

open Css Document Numeric Scaling

/-! ### What stops a contribution -/

/-- A value cannot be scaled by a ratio: the ratio overflows, or the product of some number of the value
and the ratio is infinite or has too many digits when it is rounded to thousandths. -/
def CannotScale (ratio : Except ArithmeticError Double) (value : String) : Prop :=
  ratio = .error .quotientOverflow ∨ ratio = .error .integerOverflow ∨
    ∃ factor, ratio = .ok factor ∧ ∃ digits number, Part.number digits ∈ parts value.toList ∧
      Double.read? (String.ofList digits) = some number ∧ (number.mul factor).IsTooLarge

/-- A declaration has no scaled copy for a class exactly if its value cannot be scaled. -/
theorem scaledDeclaration_eq_error_iff (settings : Settings) (view : View) (declaration : Declaration) :
    (∃ error, scaledDeclaration (view.ratio settings) declaration = .error error) ↔
      CannotScale (view.ratio settings) declaration.value := by
  unfold scaledDeclaration CannotScale
  cases found : view.ratio settings with
  | error error =>
    constructor
    · intro _
      rcases Number.overflow_of_ratio found with rfl | rfl
      · exact .inl rfl
      · exact .inr (.inl rfl)
    · intro _
      exact ⟨error, rfl⟩
  | ok factor =>
    have values : (∃ factor', Except.ok factor = (Except.ok factor' : Except ArithmeticError Double) ∧
        ∃ digits number, Part.number digits ∈ parts declaration.value.toList ∧
          Double.read? (String.ofList digits) = some number ∧ (number.mul factor').IsTooLarge) ↔
        ∃ error, scaleValue (.double factor) declaration.value = .error error := by
      simp only [Except.ok.injEq, exists_eq_left', scaleValue_eq_error_iff]
    rw [values]
    change (∃ error, (scaleValue (.double factor) declaration.value >>= _) = Except.error error) ↔ _
    cases scaleValue (.double factor) declaration.value with
    | error error => exact ⟨fun _ => .inr (.inr ⟨error, rfl⟩), fun _ => ⟨error, rfl⟩⟩
    | ok value => exact ⟨nofun, nofun⟩

/-- Two contributions stop if one of them does. -/
theorem stops_append (first second : Trace) :
    (first ++ second).error.isSome = (first.error.isSome || second.error.isSome) := by
  rw [Trace.append_def]
  cases stopped : first.error with
  | none => rfl
  | some error => rw [Option.isSome_some, if_pos rfl, stopped, Option.isSome_some, Bool.true_or]

/-- Contributions stop if one of them does. -/
theorem stops_concat (traces : List Trace) :
    (Trace.concat traces).error.isSome = traces.any fun trace => trace.error.isSome := by
  induction traces with
  | nil => rfl
  | cons trace traces ih => rw [Trace.concat_cons, stops_append, ih, List.any_cons]

/-- What replaces a width pattern stops at nothing. -/
theorem stops_patternContribution (settings : Settings) (selector : String) (flags : Flags) :
    (patternContribution settings selector flags).error.isSome = false := by
  unfold patternContribution
  cases flags.pattern? with
  | none => rfl
  | some pattern =>
    cases pattern with
    | fixedBar =>
      dsimp only
      rw [contribution_fixedBar, error_place]
      rfl
    | viewWidth =>
      dsimp only
      rw [error_viewWidth]
      rfl

/-- A copy stops exactly if there is no scaled declaration. -/
theorem stops_scaledCopy (block : Block) (ratio : Except ArithmeticError Double) (selector : String)
    (declaration : Declaration) :
    (scaledCopy block ratio selector declaration).error.isSome = true ↔
      ∃ error, scaledDeclaration ratio declaration = .error error := by
  rw [scaledCopy_eq]
  cases scaledDeclaration ratio declaration with
  | error error => exact ⟨fun _ => ⟨error, rfl⟩, fun _ => rfl⟩
  | ok copy => exact ⟨nofun, nofun⟩

/-- The copies of a declaration stop exactly if it holds a length that some enabled class cannot
scale. -/
theorem stops_scaledLength (settings : Settings) (selector : String) (declaration : Declaration) :
    (scaledLength settings selector declaration).error.isSome = true ↔
      hasLength declaration.value.toList = true ∧ ∃ view : View, view.enabled settings = true ∧
        CannotScale (view.ratio settings) declaration.value := by
  have class_stops : ∀ view : View,
      ((if view.enabled settings then
        scaledCopy view.block (view.ratio settings) selector declaration else ∅ : Trace).error.isSome =
          true ↔ view.enabled settings = true ∧ CannotScale (view.ratio settings) declaration.value) := by
    intro view
    rw [← scaledDeclaration_eq_error_iff]
    by_cases enabled : view.enabled settings = true
    · rw [if_pos enabled, stops_scaledCopy]
      exact (and_iff_right enabled).symm
    · rw [if_neg enabled]
      exact ⟨nofun, fun both => absurd both.1 enabled⟩
  have views : (∃ view : View, view.enabled settings = true ∧
      CannotScale (view.ratio settings) declaration.value) ↔
        ∃ view : View, (if view.enabled settings then
          scaledCopy view.block (view.ratio settings) selector declaration
            else ∅ : Trace).error.isSome = true :=
    exists_congr fun view => (class_stops view).symm
  rw [views]
  unfold scaledLength
  by_cases holds : hasLength declaration.value.toList = true
  · rw [if_pos holds, stops_append, Bool.or_eq_true]
    constructor
    · rintro (desktop | landscape)
      · exact ⟨holds, .desktop, desktop⟩
      · exact ⟨holds, .landscape, landscape⟩
    · rintro ⟨-, view, stopped⟩
      cases view with
      | desktop => exact .inl stopped
      | landscape => exact .inr stopped
  · rw [if_neg holds]
    exact ⟨nofun, fun both => absurd both.1 holds⟩

/-- The contribution of a rule stops exactly if one of its declarations stops. -/
theorem stops_contribution (settings : Settings) (selector : String)
    (declarations : List Declaration) :
    (contribution settings selector declarations).error.isSome = true ↔
      ∃ declaration ∈ declarations,
        (scaledLength settings selector declaration).error.isSome = true := by
  have root : (if selector = settings.rootSelector then
      Trace.note (.rootFound selector) ++ centredRoot settings selector else ∅).error.isSome =
        false := by
    split
    · rw [stops_append, centredRoot_eq, error_place]
      rfl
    · rfl
  have whole : (contribution settings selector declarations).error.isSome =
      declarations.any fun declaration =>
        (scaledLength settings selector declaration).error.isSome := by
    unfold contribution
    dsimp only
    rw [stops_append, stops_append, stops_append, stops_concat, root, stops_patternContribution,
      Bool.or_false, Bool.false_or, List.any_map]
    cases (Flags.of declarations).pattern? with
    | none => exact Bool.or_false _
    | some pattern => exact Bool.or_false _
  rw [whole, List.any_eq_true]

/-- Contributions succeed exactly if no declaration of any of the rules stops. -/
theorem error_contributions_eq_none_iff {settings : Settings} {rules : List (String × List Declaration)} :
    (contributions settings rules).error = none ↔ ∀ rule ∈ rules, ∀ declaration ∈ rule.2,
      (scaledLength settings rule.1 declaration).error = none := by
  rw [contributions, ← Option.isNone_iff_eq_none, ← Option.isSome_eq_false_iff, stops_concat,
    List.any_map, List.any_eq_false]
  refine forall₂_congr fun rule _ => ?_
  rw [Function.comp_apply, stops_contribution, not_exists]
  refine forall_congr' fun declaration => ?_
  rw [not_and, Bool.not_eq_true, Option.isSome_eq_false_iff, Option.isNone_iff_eq_none]

/-- Contributions stop exactly if a declaration of one of the rules holds a length that some enabled
class cannot scale. -/
theorem stops_contributions (settings : Settings) (rules : List (String × List Declaration)) :
    (contributions settings rules).error.isSome = true ↔
      ∃ rule ∈ rules, ∃ declaration ∈ rule.2, hasLength declaration.value.toList = true ∧
        ∃ view : View, view.enabled settings = true ∧
          CannotScale (view.ratio settings) declaration.value := by
  rw [Option.isSome_iff_ne_none, ne_eq, error_contributions_eq_none_iff]
  simp only [not_forall, exists_prop, ← ne_eq, ← Option.isSome_iff_ne_none, stops_scaledLength]

/-! ### A pass in steps -/

namespace Context

/-- Deals with rules one after another: each is read from the document as it is by then, and its
emissions go into the blocks, up to the first error. -/
def workThrough (context : Context) : Store → List Id → Store × Option ArithmeticError
  | store, [] => (store, none)
  | store, id :: ids =>
    match if store.isNested id then none else store.rule? id with
    | none => context.workThrough store ids
    | some (selector, declarations) =>
      let trace := contribution context.settings selector declarations
      let grown := context.emitAll store trace.emissions
      match trace.error with
      | some error => (grown, some error)
      | none => context.workThrough grown ids

/-- Emissions may be made in two goes. -/
theorem emitAll_append (context : Context) (store : Store) (first second : List Emission) :
    context.emitAll store (first ++ second) = context.emitAll (context.emitAll store first) second :=
  List.foldl_append

/-- Working through rules of the walk emits what they contribute in the document as it was at the
start. -/
theorem Holds.workThrough_eq {context : Context} {start store : Store} {sheet : Id}
    {parent : Block → Option Id} {entries : Block → List (String × List Declaration)}
    (coherent : start.Coherent sheet) (holds : context.Holds start store sheet parent entries [])
    {ids : List Id} (inside : ids ⊆ start.rulesBelow sheet) :
    let trace := contributions context.settings
      ((ids.filter fun id => !start.isNested id).filterMap start.rule?)
    context.workThrough store ids = (context.emitAll store trace.emissions, trace.error) := by
  induction ids generalizing store entries with
  | nil => rfl
  | cons id ids ih =>
    have ⟨nested, rule⟩ := holds.grows.reads_eq coherent (inside List.mem_cons_self)
    have others := List.subset_of_cons_subset inside
    rw [workThrough, nested, rule, List.filter_cons]
    cases above : start.isNested id with
    | true => exact ih holds others
    | false =>
      rw [if_neg Bool.false_ne_true, Bool.not_false, if_pos rfl, List.filterMap_cons]
      cases start.rule? id with
      | none => exact ih holds others
      | some rule =>
        obtain ⟨selector, declarations⟩ := rule
        dsimp only
        rw [contributions, List.map_cons, Trace.concat_cons]
        cases stopped : (contribution context.settings selector declarations).error with
        | some error =>
          have whole := Trace.append_def (contribution context.settings selector declarations)
            (contributions context.settings
              ((ids.filter fun id => !start.isNested id).filterMap start.rule?))
          rw [stopped, Option.isSome_some, if_pos rfl] at whole
          rw [contributions] at whole
          rw [whole, stopped]
        | none =>
          -- The blocks have grown by what this rule contributes; the document is as it was.
          have further := ih (holds.emitAll
            (contribution context.settings selector declarations).emissions) others
          rw [contributions] at further
          dsimp only
          rw [further, Trace.append_def, stopped, ← emitAll_append]
          rfl

end Context

/-- A pass in steps: the document when the pass has come to its end or has stopped, and the error it
has stopped with. -/
def stepwisePass (settings : Settings) (store : Store) (sheet : Id) : Store × Option ArithmeticError :=
  let (context, opened) := Context.create store settings
  match context.workThrough opened (store.rulesBelow sheet) with
  | (stopped, some error) => (stopped, some error)
  | (grown, none) => ((context.finish grown sheet).2.2, none)

section

variable {settings : Settings} {store : Store} {sheet : Id}

/-- The blocks of a pass with what the direct rules contribute, before the sheet takes any in. -/
theorem holds_emitted (settings : Settings) (coherent : store.Coherent sheet) :
    (Context.create store settings).1.Holds store
      ((Context.create store settings).1.emitAll (Context.create store settings).2
        (traceOf settings store sheet).emissions)
      sheet (fun _ => none) (fun block => [] ++ passEntries settings store sheet block) [] := by
  obtain ⟨object, found, -⟩ := Store.exists_get?_of_content? coherent.isSheet
  exact (Context.holds_create store settings found).emitAll _

/-- The steps of a pass put what the direct rules contribute into the blocks. -/
theorem workThrough_create (settings : Settings) (coherent : store.Coherent sheet) :
    (Context.create store settings).1.workThrough (Context.create store settings).2
        (store.rulesBelow sheet) =
      ((Context.create store settings).1.emitAll (Context.create store settings).2
        (traceOf settings store sheet).emissions, (traceOf settings store sheet).error) := by
  obtain ⟨object, found, -⟩ := Store.exists_get?_of_content? coherent.isSheet
  have worked := (Context.holds_create store settings found).workThrough_eq coherent
    (List.Subset.refl (store.rulesBelow sheet))
  dsimp only at worked
  rw [coherent.filterMap_rulesBelow] at worked
  exact worked

/-- A pass in steps stops with the error that the pass stops with, and otherwise leaves the document
that the pass leaves. -/
theorem stepwisePass_agrees (settings : Settings) (coherent : store.Coherent sheet) :
    (stepwisePass settings store sheet).2 = (pass settings store sheet).error ∧
      ((pass settings store sheet).error = none →
        (stepwisePass settings store sheet).1 = (pass settings store sheet).store) := by
  have worked := workThrough_create settings coherent
  unfold stepwisePass pass plainRules
  rw [coherent.filterMap_rulesBelow]
  dsimp only
  rw [worked]
  change _ ∧ _
  unfold traceOf
  cases stopped : (contributions settings (store.directRules sheet)).error with
  | some error => exact ⟨rfl, nofun⟩
  | none => exact ⟨rfl, fun _ => rfl⟩

/-- The document of a pass in steps that stops has grown apart from the sheet only. -/
theorem growsTo_of_stops (coherent : store.Coherent sheet) {error : ArithmeticError}
    (stopped : (pass settings store sheet).error = some error) :
    store.GrowsTo (stepwisePass settings store sheet).1 sheet [] := by
  have worked := workThrough_create settings coherent
  rw [error_pass coherent] at stopped
  rw [stopped] at worked
  have grows := (holds_emitted settings coherent).grows
  unfold stepwisePass
  dsimp only
  rw [worked]
  exact grows

end

/-- A pass over a coherent sheet stops exactly if a declaration of a direct rule holds a length that some
enabled class cannot scale. Carried out in steps it stops with the same error, and leaves the same
document if it does not stop. Where it stops, it gives the document back, and in the document of the steps,
too, every object is as it was, and so are the trees of the sheet. -/
theorem pass_stops_iff {store : Store} {sheet : Id} (coherent : store.Coherent sheet)
    (settings : Settings) :
    ((pass settings store sheet).error.isSome = true ↔
      ∃ rule ∈ store.directRules sheet, ∃ declaration ∈ rule.2,
        hasLength declaration.value.toList = true ∧ ∃ view : View, view.enabled settings = true ∧
          CannotScale (view.ratio settings) declaration.value) ∧
    (stepwisePass settings store sheet).2 = (pass settings store sheet).error ∧
    ((pass settings store sheet).error = none →
      (stepwisePass settings store sheet).1 = (pass settings store sheet).store) ∧
    ∀ error, (pass settings store sheet).error = some error →
      (pass settings store sheet).store = store ∧
      (∀ id object, store.get? id = some object →
        (stepwisePass settings store sheet).1.get? id = some object) ∧
      (stepwisePass settings store sheet).1.nodes sheet = store.nodes sheet := by
  have ⟨errors, stores⟩ := stepwisePass_agrees settings coherent
  refine ⟨?_, errors, stores, fun error stopped => ⟨?_, fun id object found => ?_, ?_⟩⟩
  · rw [error_pass coherent]
    exact stops_contributions settings (store.directRules sheet)
  · unfold pass at stopped ⊢
    dsimp only at stopped ⊢
    cases traced : (contributions settings (plainRules store sheet)).error with
    | some error => rfl
    | none =>
      rw [traced] at stopped
      cases stopped
  · exact (growsTo_of_stops coherent stopped).get?_eq found
  · have nodes := (growsTo_of_stops coherent stopped).nodes_eq coherent
    rwa [List.filterMap_nil, List.append_nil] at nodes

/-- A page whose first rule is scaled before the second one stops the pass. -/
theorem pass_stops_iff_page :
    let rules : List Node := [.rule ".box" [⟨"width", "75px", false⟩],
      .rule ".far" [⟨"left", "1px", false⟩, ⟨"left", "99999999999999999999999999999px", false⟩]]
    let page := ({} : Store).plantSheet rules
    page.2.Coherent page.1 ∧ (pass {} page.2 page.1).error = some .fixedOverflow ∧
      (∃ rule ∈ page.2.directRules page.1, ∃ declaration ∈ rule.2,
        hasLength declaration.value.toList = true ∧ ∃ view : View, view.enabled {} = true ∧
          CannotScale (view.ratio {}) declaration.value) ∧
      (stepwisePass {} page.2 page.1).1.nodes page.1 = rules := by
  intro rules page
  have planted : page.2.IsPlantedSheet page.1 _ := Store.isPlantedSheet_plantSheet _
  have stopped : (pass {} page.2 page.1).error = some .fixedOverflow := by
    rw [error_pass planted.coherent, traceOf, planted.directRules_eq]
    decide +kernel
  obtain ⟨reason, _, _, kept⟩ := pass_stops_iff planted.coherent {}
  refine ⟨planted.coherent, stopped, reason.1 (by rw [stopped, Option.isSome_some]), ?_⟩
  rw [(kept _ stopped).2.2, planted.nodes_eq]

end ViewportScaling.Media
