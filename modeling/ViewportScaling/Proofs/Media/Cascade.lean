import ViewportScaling.Proofs.Media.Mirroring
import ViewportScaling.Proofs.Scaling.Lengths

/-!
# Which declaration wins

Among declarations of one property the last important one wins, or the last one if none is important. The
block of a class stands behind the rules of a sheet, and it repeats only the declarations that hold a
length. So next to the block the importance of the winner stays as it is, and its value is the scaled value
of the last declaration with that importance that holds a length. This is the winner itself if it holds a
length. A winner without one stays in force if no declaration of its importance holds a length, and
otherwise the copy of an earlier declaration comes to stand behind it.
-/

namespace ViewportScaling.Css

/-! ### Winners -/

/-- The declaration of a property that wins: the last important one, or the last one if none is
important. -/
def winner? (property : String) (declarations : List Declaration) : Option Declaration :=
  let all := declarations.filter fun declaration => declaration.property = property
  (all.filter (·.important)).getLast?.or all.getLast?

/-- The declarations of a property with a given importance. -/
def declaring (property : String) (important : Bool) (declarations : List Declaration) :
    List Declaration :=
  declarations.filter fun declaration =>
    declaration.property = property ∧ declaration.important = important

/-- The declarations of a property with an importance are picked from all by these two. -/
theorem mem_declaring {property : String} {important : Bool} {declarations : List Declaration}
    {declaration : Declaration} : declaration ∈ declaring property important declarations ↔
      declaration ∈ declarations ∧ declaration.property = property ∧
        declaration.important = important := by
  rw [declaring, List.mem_filter, decide_eq_true_eq]

/-- The last declaration of two lists is the last one of the second, if it has one. -/
theorem getLast?_declaring_append (property : String) (important : Bool)
    (first second : List Declaration) :
    (declaring property important (first ++ second)).getLast? =
      (declaring property important second).getLast?.or
        (declaring property important first).getLast? := by
  rw [declaring, List.filter_append, List.getLast?_append]
  rfl

/-- The winner is the last declaration of the property with its importance, and if it is not important
no other one is. -/
theorem winner?_eq_some_iff {property : String} {declarations : List Declaration}
    {winner : Declaration} : winner? property declarations = some winner ↔
      (declaring property winner.important declarations).getLast? = some winner ∧
        (winner.important = false → declaring property true declarations = []) := by
  have important_eq : (declarations.filter fun declaration => declaration.property = property).filter
      (·.important) = declaring property true declarations := by
    rw [List.filter_filter, declaring]
    refine List.filter_congr fun declaration _ => ?_
    by_cases about : declaration.property = property <;> simp [about]
  have plain_eq : declaring property true declarations = [] →
      declarations.filter (fun declaration => declaration.property = property) =
        declaring property false declarations := by
    intro none
    refine List.filter_congr fun declaration mem => ?_
    have plain : declaration.property = property → declaration.important = false := by
      intro about
      by_contra important
      have found := mem_declaring.2 ⟨mem, about, Bool.of_not_eq_false important⟩
      rw [none] at found
      cases found
    by_cases about : declaration.property = property
    · simp [about, plain about]
    · simp [about]
  unfold winner?
  dsimp only
  rw [important_eq]
  constructor
  · intro won
    cases last : (declaring property true declarations).getLast? with
    | some important =>
      rw [last, Option.some_or, Option.some.injEq] at won
      subst won
      obtain ⟨_, _, isImportant⟩ := mem_declaring.1 (List.mem_of_getLast? last)
      rw [isImportant]
      refine ⟨last, fun plain => ?_⟩
      cases plain
    | none =>
      have none := List.getLast?_eq_none_iff.1 last
      rw [last, Option.none_or, plain_eq none] at won
      obtain ⟨_, _, isPlain⟩ := mem_declaring.1 (List.mem_of_getLast? won)
      rw [isPlain]
      exact ⟨won, fun _ => none⟩
  · rintro ⟨last, others⟩
    cases importance : winner.important with
    | true =>
      rw [importance] at last
      rw [last, Option.some_or]
    | false =>
      rw [importance] at last
      have none := others importance
      rw [plain_eq none, none, List.getLast?_nil, Option.none_or, last]

/-- A property that is declared has a winner. -/
theorem exists_winner? {property : String} {declarations : List Declaration}
    {declaration : Declaration} (mem : declaration ∈ declarations)
    (about : declaration.property = property) : ∃ winner, winner? property declarations = some winner := by
  have listed : declaration ∈ declarations.filter fun declaration => declaration.property = property := by
    rw [List.mem_filter, decide_eq_true_eq]
    exact ⟨mem, about⟩
  unfold winner?
  dsimp only
  cases last : (declarations.filter fun declaration => declaration.property = property).getLast? with
  | none =>
    rw [List.getLast?_eq_none_iff.1 last] at listed
    cases listed
  | some plain =>
    cases important : ((declarations.filter fun declaration =>
        declaration.property = property).filter (·.important)).getLast? with
    | none => exact ⟨plain, rfl⟩
    | some winner => exact ⟨winner, rfl⟩

end ViewportScaling.Css

namespace ViewportScaling.Media

open Css Document Numeric Scaling

/-! ### Winners next to scaled copies -/

/-- The last declaration of a property with a given importance that holds a length. -/
def lastLength? (property : String) (important : Bool) (declarations : List Declaration) :
    Option Declaration :=
  ((declaring property important declarations).filter fun declaration =>
    hasLength declaration.value.toList).getLast?

section

variable {ratio : Except ArithmeticError Double} {declarations copies : List Declaration}

/-- The copies of the declarations of a property with an importance are its declarations with that
importance among the copies. -/
theorem copied_declaring (copied : scaledDeclarations ratio declarations = .ok copies)
    (property : String) (important : Bool) :
    List.Forall₂ (fun source copy => scaledDeclaration ratio source = .ok copy)
      ((declaring property important declarations).filter fun declaration =>
        hasLength declaration.value.toList)
      (declaring property important copies) := by
  unfold declaring
  rw [List.filter_comm]
  refine List.rel_filter ?_ (mapM_eq_ok_iff.1 copied)
  intro source copy scaled
  have ⟨sameProperty, sameImportance⟩ := scaledDeclaration_keeps scaled
  dsimp only
  rw [sameProperty, sameImportance]

/-- Related lists are both empty, or their last members are related. -/
theorem getLast?_of_forall₂ {α β : Type} {R : α → β → Prop} {items : List α} {others : List β}
    (related : List.Forall₂ R items others) :
    items.getLast? = none ∧ others.getLast? = none ∨
      ∃ item other, items.getLast? = some item ∧ others.getLast? = some other ∧ R item other := by
  have back := List.rel_reverse related
  rw [← List.head?_reverse, ← List.head?_reverse]
  generalize items.reverse = items' at back
  generalize others.reverse = others' at back
  cases back with
  | nil => exact .inl ⟨rfl, rfl⟩
  | cons here _ => exact .inr ⟨_, _, rfl, rfl, here⟩

/-- Behind declarations come the copies of those that hold a length. Then the winner keeps its importance.
It is the copy of the last declaration with this importance that holds a length, and if there is none it is
the winner from before. -/
theorem winner?_append_copies (copied : scaledDeclarations ratio declarations = .ok copies)
    {property : String} {winner : Declaration} (won : winner? property declarations = some winner) :
    ∃ result, winner? property (declarations ++ copies) = some result ∧
      result.important = winner.important ∧
      (∀ source, lastLength? property winner.important declarations = some source →
        scaledDeclaration ratio source = .ok result) ∧
      (lastLength? property winner.important declarations = none → result = winner) := by
  have ⟨last, others⟩ := winner?_eq_some_iff.1 won
  have noImportant : winner.important = false → declaring property true (declarations ++ copies) = [] := by
    intro plain
    have none := others plain
    have noCopies := copied_declaring copied property true
    rw [none, List.filter_nil, List.forall₂_nil_left_iff] at noCopies
    rw [declaring, List.filter_append, ← declaring, ← declaring, none, noCopies, List.append_nil]
  have whole := getLast?_declaring_append property winner.important declarations copies
  rw [last] at whole
  -- No other importance matters: copies keep theirs, so none of them can outrank the winner.
  rcases getLast?_of_forall₂ (copied_declaring copied property winner.important) with
    ⟨noSource, noCopy⟩ | ⟨source, copy, isSource, isCopy, scaled⟩
  · rw [noCopy, Option.none_or] at whole
    refine ⟨winner, winner?_eq_some_iff.2 ⟨whole, noImportant⟩, rfl, ?_, fun _ => rfl⟩
    intro source isSource
    rw [lastLength?, noSource] at isSource
    cases isSource
  · have ⟨_, _, same⟩ := mem_declaring.1 (List.mem_of_getLast? isCopy)
    rw [isCopy, Option.some_or, ← same] at whole
    refine ⟨copy, winner?_eq_some_iff.2 ⟨whole, same ▸ noImportant⟩, same, ?_, ?_⟩
    · intro source' isSource'
      rw [lastLength?, isSource, Option.some.injEq] at isSource'
      exact isSource' ▸ scaled
    · intro noSource
      rw [lastLength?, isSource] at noSource
      cases noSource

end

/-- A winner that holds a length is the last declaration with its importance that does. -/
theorem lastLength?_winner {property : String} {declarations : List Declaration} {winner : Declaration}
    (won : winner? property declarations = some winner)
    (holds : hasLength winner.value.toList = true) :
    lastLength? property winner.important declarations = some winner := by
  have ⟨last, _⟩ := winner?_eq_some_iff.1 won
  have ⟨front, split⟩ := List.getLast?_eq_some_iff.1 last
  rw [lastLength?, split, List.filter_append, List.filter_cons, if_pos holds, List.getLast?_append]
  rfl

/-- Where no declaration with the importance of the winner holds a length, the winner holds none. -/
theorem hasLength_winner_eq_false {property : String} {declarations : List Declaration}
    {winner : Declaration} (won : winner? property declarations = some winner)
    (none : lastLength? property winner.important declarations = none) :
    hasLength winner.value.toList = false := by
  cases holds : hasLength winner.value.toList with
  | false => rfl
  | true =>
    rw [lastLength?_winner won holds] at none
    cases none

/-! ### Telling blocks apart -/

/-- Texts that start differently differ. -/
theorem append_ne_append {first second : String} (n : Nat) (long : n ≤ first.toList.length)
    (long' : n ≤ second.toList.length) (differ : first.toList.take n ≠ second.toList.take n)
    (rest rest' : String) : first ++ rest ≠ second ++ rest' := by
  intro same
  have texts := congrArg (fun text => text.toList.take n) same
  rw [String.toList_append, String.toList_append, List.take_append_of_le_length long,
    List.take_append_of_le_length long'] at texts
  exact differ texts

/-- The condition of the landscape block starts differently from the others. -/
theorem landscapeParams_ne (settings : Settings) :
    settings.landscapeParams ≠ settings.desktopParams ∧
      settings.landscapeParams ≠ settings.sharedParams := by
  unfold Settings.landscapeParams Settings.desktopParams Settings.sharedParams
  simp only [String.append_assoc]
  exact ⟨append_ne_append 2 (by decide) (by decide) (by decide) _ _,
    append_ne_append 2 (by decide) (by decide) (by decide) _ _⟩

/-- The conditions of the desktop block and the shared one go on differently behind the width. -/
theorem desktopParams_ne (settings : Settings) : settings.desktopParams ≠ settings.sharedParams := by
  unfold Settings.desktopParams Settings.sharedParams
  simp only [String.append_assoc]
  intro same
  rw [String.append_right_inj, String.append_right_inj] at same
  exact append_ne_append 5 (by decide) (by decide) (by decide) _ _ same

/-- Blocks have different conditions. -/
theorem params_injective (settings : Settings) {block other : Block}
    (same : block.params settings = other.params settings) : block = other := by
  have ⟨notDesktop, notShared⟩ := landscapeParams_ne settings
  have apart := desktopParams_ne settings
  cases block with
  | desktop =>
    cases other with
    | desktop => rfl
    | landscape => exact absurd same.symm notDesktop
    | shared => exact absurd same apart
  | landscape =>
    cases other with
    | desktop => exact absurd same notDesktop
    | landscape => rfl
    | shared => exact absurd same notShared
  | shared =>
    cases other with
    | desktop => exact absurd same.symm apart
    | landscape => exact absurd same.symm notShared
    | shared => rfl

/-! ### Declarations in a block -/

section

variable {settings : Settings} {view : View} {selector : String}

/-- What a rule adds to the block of an enabled class. -/
theorem exists_viewParts (enabled : view.enabled settings = true) {declarations : List Declaration}
    (success : (contribution settings selector declarations).error = none) :
    ∃ parts, viewParts settings view selector declarations = .ok parts ∧
      (contribution settings selector declarations).entries view.block =
        parts.map fun part => (selector, part) := by
  have spelled := (spells_contribution settings selector declarations).sound success view.block
  have labelled : (List.map fun part => (selector, part)) <$> viewParts settings view selector
      declarations = .ok ((contribution settings selector declarations).entries view.block) := by
    rw [Trace.entries, ← spelled, rulePart.eq_def]
    cases view with
    | desktop => exact (if_pos enabled).symm
    | landscape => exact (if_pos enabled).symm
  obtain ⟨parts, found, same⟩ := map_eq_ok_iff.1 labelled
  exact ⟨parts, found, same.symm⟩

/-- A rule without a width pattern that is not about the root container adds scaled copies only. -/
theorem viewParts_plain (notRoot : selector ≠ settings.rootSelector) {declarations : List Declaration}
    (plain : (Flags.of declarations).pattern? = none) :
    viewParts settings view selector declarations =
      (List.map fun copy => [copy]) <$> scaledDeclarations (view.ratio settings) declarations := by
  have noRoot : ¬selector = "." ++ settings.rootClass := notRoot
  rw [pattern?_eq] at plain
  have noBar : isFixedBar declarations = false := by
    by_contra bar
    rw [if_pos (Bool.of_not_eq_false bar)] at plain
    cases plain
  have notWide : declares declarations "width" "100vw" = false := by
    by_contra wide
    rw [noBar, if_neg Bool.false_ne_true, if_pos (Bool.of_not_eq_false wide)] at plain
    cases plain
  unfold viewParts
  simp only [if_neg noRoot, noBar, notWide]
  cases scaledDeclarations (view.ratio settings) declarations with
  | error error => rfl
  | ok scaled => exact congrArg Except.ok (List.append_nil _)

/-- The block of an enabled class holds nothing but scaled copies under a selector that is not the one of
the root container and has no rule with a width pattern. -/
theorem scaledDeclarations_rules (enabled : view.enabled settings = true)
    (notRoot : selector ≠ settings.rootSelector) {rules : List (String × List Declaration)}
    (plain : ∀ rule ∈ rules, rule.1 = selector → (Flags.of rule.2).pattern? = none)
    (success : (contributions settings rules).error = none) :
    scaledDeclarations (view.ratio settings) (declarationsOf rules selector) =
      .ok (declarationsOf ((contributions settings rules).entries view.block) selector) := by
  unfold contributions at success ⊢
  induction rules with
  | nil => rfl
  | cons rule rules ih =>
    have ⟨plainHere, plainOthers⟩ := List.forall_mem_cons.1 plain
    rw [List.map_cons, Trace.concat_cons] at success ⊢
    have ⟨here, others⟩ := (error_append_iff _ _).1 success
    have ⟨parts, found, entries⟩ := exists_viewParts enabled here
    rw [declarationsOf_cons, scaledDeclarations_append, ih plainOthers others, entries_append here,
      declarationsOf_append, entries, declarationsOf_labelled]
    -- A rule with another selector declares nothing under this one and adds nothing under it.
    by_cases same : rule.1 = selector
    · subst same
      rw [if_pos rfl, if_pos rfl]
      rw [viewParts_plain notRoot (plainHere rfl)] at found
      have ⟨copies, scaled, split⟩ := map_eq_ok_iff.1 found
      rw [scaled, ← split, joined_ok, ← List.flatMap_def, List.flatMap_singleton']
    · rw [if_neg same, if_neg same]
      rfl

end

/-- The rules in a media block with a condition. -/
def mediaRules (params : String) : Node → List (String × List Declaration)
  | .atRule name condition _ nodes =>
    if name = "media" ∧ condition = params then
      nodes.filterMap fun
        | .rule selector declarations => some (selector, declarations)
        | _ => none
    else []
  | _ => []

/-- A media block has its rules under its own condition and under no other. -/
theorem mediaRules_media (params condition : String) (entries : List (String × List Declaration)) :
    mediaRules params (.media condition entries) = if condition = params then entries else [] := by
  rw [Node.media, mediaRules, List.filterMap_map]
  simp

/-- Under the condition of a class stand the grouped entries of the class. -/
theorem flatMap_mediaRules (settings : Settings) (entries : Block → List (String × List Declaration))
    (view : View) : (blockNodes settings entries).flatMap (mediaRules (view.block.params settings)) =
      grouped (entries view.block) := by
  have same : ∀ block, mediaRules (view.block.params settings)
      (.media (block.params settings) (grouped (entries block))) =
        if block = view.block then grouped (entries block) else [] := by
    intro block
    rw [mediaRules_media]
    by_cases same : block = view.block
    · rw [if_pos same, if_pos (by rw [same])]
    · rw [if_neg same, if_neg fun params => same (params_injective settings params)]
  unfold blockNodes wantedBlocks
  rw [List.flatMap_map]
  simp only [same]
  cases view with
  | desktop =>
    by_cases empty : entries .desktop = [] <;> by_cases other : entries .landscape = [] <;>
      simp [View.block, empty, other]
  | landscape =>
    by_cases empty : entries .desktop = [] <;> by_cases other : entries .landscape = [] <;>
      simp [View.block, empty, other]

/-! ### The cascade next to a pass -/

/-- The declarations that a pass puts under a selector in the block of a class. -/
def blockDeclarations (settings : Settings) (store : Store) (sheet : Id) (view : View)
    (selector : String) : List Declaration :=
  declarationsOf ((addedBlocks settings store sheet).flatMap
    (mediaRules (view.block.params settings))) selector

/-- Without the root container and width patterns, these are the scaled copies of what the rules of the
sheet declare. -/
theorem scaledDeclarations_blockDeclarations {settings : Settings} {store : Store} {sheet : Id}
    (coherent : store.Coherent sheet) (success : (pass settings store sheet).error = none) {view : View}
    (enabled : view.enabled settings = true) {selector : String}
    (notRoot : selector ≠ settings.rootSelector)
    (plain : ∀ rule ∈ store.directRules sheet, rule.1 = selector →
      (Flags.of rule.2).pattern? = none) :
    scaledDeclarations (view.ratio settings) (declarationsOf (store.directRules sheet) selector) =
      .ok (blockDeclarations settings store sheet view selector) := by
  rw [blockDeclarations, addedBlocks_eq coherent success, flatMap_mediaRules, declarationsOf_grouped]
  rw [error_pass coherent] at success
  exact scaledDeclarations_rules enabled notRoot plain success

/-- A pass keeps the importance of winners. Take a coherent sheet, an enabled class, and a selector that is
not the one of the root container and has no direct rule with a width pattern. Behind the declarations of
the direct rules with the selector come those that the pass puts under it in the block of the class. Then
the winner of a property has the importance of the winner among the former alone. Its value is scaled from
the last declaration of the property with this importance that holds a length, which is the winner from
before if that one holds a length. If there is no such declaration, the value is the one from before, which
no ratio changes. -/
theorem pass_keeps_importance {store : Store} {sheet : Id} (coherent : store.Coherent sheet)
    {settings : Settings} {view : View} (enabled : view.enabled settings = true)
    (success : (pass settings store sheet).error = none) {selector : String}
    (notRoot : selector ≠ settings.rootSelector)
    (plain : ∀ rule ∈ store.directRules sheet, rule.1 = selector → (Flags.of rule.2).pattern? = none)
    {property : String}
    (declared : ∃ declaration ∈ declarationsOf (store.directRules sheet) selector,
      declaration.property = property) :
    let own := declarationsOf (store.directRules sheet) selector
    ∃ winner result, winner? property own = some winner ∧
      winner? property (own ++ blockDeclarations settings store sheet view selector) = some result ∧
      result.important = winner.important ∧
      (∀ source, lastLength? property winner.important own = some source →
        ∃ factor, view.ratio settings = .ok factor ∧
          scaleValue (.double factor) source.value = .ok result.value) ∧
      (hasLength winner.value.toList = true →
        lastLength? property winner.important own = some winner) ∧
      (lastLength? property winner.important own = none →
        result.value = winner.value ∧ ∀ ratio, scaleValue ratio winner.value = .ok winner.value) := by
  intro own
  have ⟨declaration, mem, about⟩ := declared
  have ⟨winner, won⟩ := exists_winner? mem about
  have copied := scaledDeclarations_blockDeclarations coherent success enabled notRoot plain
  have ⟨result, found, important, scaled, kept⟩ := winner?_append_copies copied won
  refine ⟨winner, result, won, found, important, fun source last => ?_, lastLength?_winner won,
    fun none => ⟨?_, fun ratio => ?_⟩⟩
  · have ⟨factor, value, ratio, valued, same⟩ := scaledDeclaration_eq_ok_iff.1 (scaled source last)
    rw [← same]
    exact ⟨factor, ratio, valued⟩
  · rw [kept none]
  · exact scaleValue_of_not_hasLength ratio (hasLength_winner_eq_false won none)

/-- A page where the winner holds a length and is important, in front of a declaration that is not. -/
theorem pass_keeps_importance_page :
    let rules : List Node := [.rule ".box" [⟨"width", "75px", true⟩, ⟨"width", "15px", false⟩]]
    let page := ({} : Store).plantSheet rules
    let own := declarationsOf (page.2.directRules page.1) ".box"
    page.2.Coherent page.1 ∧ (pass {} page.2 page.1).error = none ∧ ∃ winner result,
      winner? "width" own = some winner ∧
      winner? "width" (own ++ blockDeclarations {} page.2 page.1 .desktop ".box") = some result ∧
      winner = ⟨"width", "75px", true⟩ ∧ result.important = true ∧
      ∃ factor, View.desktop.ratio {} = .ok factor ∧
        scaleValue (.double factor) "75px" = .ok result.value := by
  intro rules page own
  have planted : page.2.IsPlantedSheet page.1 _ := Store.isPlantedSheet_plantSheet _
  have ownRules : page.2.directRules page.1 =
      [(".box", [⟨"width", "75px", true⟩, ⟨"width", "15px", false⟩])] := planted.directRules_eq
  have success : (pass {} page.2 page.1).error = none := by
    rw [error_pass planted.coherent]
    unfold traceOf
    rw [ownRules]
    decide +kernel
  have enabled : View.desktop.enabled {} = true := rfl
  have notRoot : ".box" ≠ ({} : Settings).rootSelector := by decide
  have plain : ∀ rule ∈ page.2.directRules page.1, rule.1 = ".box" →
      (Flags.of rule.2).pattern? = none := by
    rw [ownRules]
    decide
  have declared : ∃ declaration ∈ own, declaration.property = "width" := by
    unfold own
    rw [ownRules]
    decide
  have ⟨winner, result, won, found, important, scaled, last, _⟩ :=
    pass_keeps_importance planted.coherent enabled success notRoot plain declared
  have ownWinner : winner? "width" own = some ⟨"width", "75px", true⟩ := by
    unfold own
    rw [ownRules]
    decide
  have isWinner := Option.some.inj (won.symm.trans ownWinner)
  subst isWinner
  have holds : hasLength "75px".toList = true := by decide
  have valued := scaled _ (last holds)
  exact ⟨planted.coherent, success, _, result, won, found, rfl, important, valued⟩

/-- A page where the winner holds no length and an earlier declaration does: next to the block the copy of
the earlier one wins, although scaling leaves the value of the winner as it is. -/
theorem earlier_length_wins :
    let rules : List Node := [.rule ".a" [⟨"width", "10px", false⟩, ⟨"width", "50%", false⟩]]
    let page := ({} : Store).plantSheet rules
    let settings : Settings := { disableLandscape := true }
    let own := declarationsOf (page.2.directRules page.1) ".a"
    page.2.Coherent page.1 ∧ View.desktop.enabled settings = true ∧
      (pass settings page.2 page.1).error = none ∧ ".a" ≠ settings.rootSelector ∧
      (∀ rule ∈ page.2.directRules page.1, (Flags.of rule.2).pattern? = none) ∧
      winner? "width" own = some ⟨"width", "50%", false⟩ ∧
      winner? "width" (own ++ blockDeclarations settings page.2 page.1 .desktop ".a") =
        some ⟨"width", "8.000px", false⟩ ∧
      ∀ ratio, scaleValue ratio "50%" ≠ .ok "8.000px" := by
  intro rules page settings own
  have planted : page.2.IsPlantedSheet page.1 _ := Store.isPlantedSheet_plantSheet _
  have ownRules : page.2.directRules page.1 =
      [(".a", [⟨"width", "10px", false⟩, ⟨"width", "50%", false⟩])] := planted.directRules_eq
  have success : (pass settings page.2 page.1).error = none := by
    rw [error_pass planted.coherent]
    unfold traceOf
    rw [ownRules]
    decide +kernel
  have plain : ∀ rule ∈ page.2.directRules page.1, (Flags.of rule.2).pattern? = none := by
    rw [ownRules]
    decide
  have enabled : View.desktop.enabled settings = true := rfl
  have notRoot : ".a" ≠ settings.rootSelector := by decide
  have copies : blockDeclarations settings page.2 page.1 .desktop ".a" =
      [⟨"width", "8.000px", false⟩] := by
    have scaled := scaledDeclarations_blockDeclarations planted.coherent success enabled notRoot
      fun rule mem _ => plain rule mem
    rw [ownRules] at scaled
    have computed : scaledDeclarations (View.desktop.ratio settings) (declarationsOf
        [(".a", [⟨"width", "10px", false⟩, ⟨"width", "50%", false⟩])] ".a") =
          .ok [⟨"width", "8.000px", false⟩] := by decide +kernel
    exact (Except.ok.inj (computed.symm.trans scaled)).symm
  refine ⟨planted.coherent, enabled, success, notRoot, plain, ?_, ?_, fun ratio scaled => ?_⟩
  · unfold own
    rw [ownRules]
    decide
  · unfold own
    rw [ownRules, copies]
    decide
  · rw [scaleValue_of_not_hasLength ratio (by decide)] at scaled
    exact absurd (Except.ok.inj scaled) (by decide)

end ViewportScaling.Media
