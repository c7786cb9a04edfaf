import ViewportScaling.Proofs.Media.Cascade
import ViewportScaling.Proofs.Scaling.Units

/-!
# Strings and addresses from the source to the blocks

The strings and addresses of a declaration are found again in what is read from it, and in the copies of it
that a pass puts into the blocks of the classes. What is read holds them as the source does. In a copy they
stand in the same order, each of them scaled as it would be alone, since scaling goes by lengths only.
-/

namespace ViewportScaling.Media

open Css Document Numeric Scaling

/-! ### Copies in the blocks -/

section

variable {settings : Settings} {view : View} {selector : String} {declaration : Declaration}

/-- A rule adds a copy of each declaration that holds a length to the block of an enabled class. -/
theorem exists_copy_of_contribution {declarations : List Declaration}
    (enabled : view.enabled settings = true)
    (success : (contribution settings selector declarations).error = none)
    (mem : declaration ∈ declarations) (holds : hasLength declaration.value.toList = true) :
    ∃ copy, scaledDeclaration (view.ratio settings) declaration = .ok copy ∧
      (selector, [copy]) ∈ (contribution settings selector declarations).entries view.block := by
  obtain ⟨parts, found, entries⟩ := exists_viewParts enabled success
  unfold viewParts at found
  cases scaled : scaledDeclarations (view.ratio settings) declarations with
  | error error =>
    rw [scaled] at found
    cases found
  | ok copies =>
    rw [scaled] at found
    have split := Except.ok.inj found
    obtain ⟨copy, inside, same⟩ :=
      exists_mem_of_forall₂ (mapM_eq_ok_iff.1 scaled) (List.mem_filter.2 ⟨mem, holds⟩)
    refine ⟨copy, same, ?_⟩
    rw [entries, ← split]
    refine List.mem_map_of_mem (List.mem_append_left _ (List.mem_append_right _ ?_))
    exact List.mem_map_of_mem inside

/-- So it is for each of several rules. -/
theorem exists_copy_of_contributions (enabled : view.enabled settings = true)
    {rules : List (String × List Declaration)} (success : (contributions settings rules).error = none)
    {rule : String × List Declaration} (among : rule ∈ rules) (mem : declaration ∈ rule.2)
    (holds : hasLength declaration.value.toList = true) :
    ∃ copy, scaledDeclaration (view.ratio settings) declaration = .ok copy ∧
      (rule.1, [copy]) ∈ (contributions settings rules).entries view.block := by
  unfold contributions at success ⊢
  induction rules with
  | nil => cases among
  | cons first rules ih =>
    rw [List.map_cons, Trace.concat_cons] at success ⊢
    obtain ⟨here, others⟩ := (error_append_iff _ _).1 success
    rw [entries_append here]
    rcases List.mem_cons.1 among with rfl | among
    · obtain ⟨copy, scaled, inside⟩ := exists_copy_of_contribution enabled here mem holds
      exact ⟨copy, scaled, List.mem_append_left _ inside⟩
    · obtain ⟨copy, scaled, inside⟩ := ih others among
      exact ⟨copy, scaled, List.mem_append_right _ inside⟩

/-- A pass that succeeds puts a copy of each declaration of a direct rule that holds a length under the
selector of the rule in the block of an enabled class. -/
theorem exists_copy_of_pass {store : Store} {sheet : Id} (coherent : store.Coherent sheet)
    (success : (pass settings store sheet).error = none) (enabled : view.enabled settings = true)
    {rule : String × List Declaration} (direct : rule ∈ store.directRules sheet)
    (mem : declaration ∈ rule.2) (holds : hasLength declaration.value.toList = true) :
    ∃ copy, scaledDeclaration (view.ratio settings) declaration = .ok copy ∧
      copy ∈ blockDeclarations settings store sheet view rule.1 := by
  rw [blockDeclarations, addedBlocks_eq coherent success, flatMap_mediaRules, declarationsOf_grouped]
  rw [error_pass coherent] at success
  obtain ⟨copy, scaled, inside⟩ := exists_copy_of_contributions enabled success direct mem holds
  exact ⟨copy, scaled, @mem_declarationsOf _ (rule.1, [copy]) _ inside List.mem_cons_self⟩

end

/-! ### Strings and addresses in copies -/

/-- A string or an address as it stands in a copy: its own lengths are scaled, and without any it is as
before. -/
def ScalesAlone (ratio : Double) (unit scaled : List Char) : Prop :=
  ScalesTo (.double ratio) unit scaled ∧ (hasLength unit = false → scaled = unit)

/-- The strings and addresses of a token stand in the value of a declaration in order, and in each copy of
it that a pass puts under a selector in the block of a class. -/
structure KeepsUnits (selector : String) (token : Token) (declaration : Declaration) : Prop where
  /-- The value has them as they are. -/
  value : InOrder token.keptUnits declaration.value.toList
  /-- If the value holds a length, an enabled class gets a copy, and the copy has them, each scaled as it
  would be alone. -/
  copies : ∀ {store : Store} {sheet : Id} {settings : Settings} {view : View}
    {declarations : List Declaration}, store.Coherent sheet →
    (selector, declarations) ∈ store.directRules sheet → declaration ∈ declarations →
    (pass settings store sheet).error = none → view.enabled settings = true →
    hasLength declaration.value.toList = true →
    ∃ factor copy scaled, view.ratio settings = .ok factor ∧
      scaledDeclaration (.ok factor) declaration = .ok copy ∧
      copy ∈ blockDeclarations settings store sheet view selector ∧
      List.Forall₂ (ScalesAlone factor) token.keptUnits scaled ∧ InOrder scaled copy.value.toList

/-- The strings and addresses of a token are kept by what is read from it. -/
theorem keepsUnits_of_ofToken {source : List Char} {selector : String} {token : Token}
    {declaration : Declaration} (token_read : token.ReadFrom source .declaration)
    (found : Declaration.ofToken token = .ok declaration) : KeepsUnits selector token declaration := by
  obtain ⟨input, rest, -, split⟩ := token_read
  obtain ⟨occur, framed⟩ :=
    inOrder_keptUnits (fun segment mem unit => isFramed_of_declaration? split mem unit) found
  refine ⟨occur, ?_⟩
  intro store sheet settings view declarations coherent direct mem success enabled holds
  obtain ⟨copy, copied, inside⟩ := exists_copy_of_pass coherent success enabled direct mem holds
  obtain ⟨factor, value, ratio, scaled, rfl⟩ := scaledDeclaration_eq_ok_iff.1 copied
  have scales : ScalesTo (.double factor) declaration.value.toList value.toList := by
    unfold ScalesTo
    rw [String.ofList_toList, String.ofList_toList]
    exact scaled
  obtain ⟨units, each, occur'⟩ := exists_inOrder_scaled framed occur scales
  rw [ratio] at copied
  refine ⟨factor, _, units, ratio, copied, inside, each.imp fun unit unit' alone => ?_, occur'⟩
  exact ⟨alone, alone.eq_of_not_hasLength⟩

/-- If a node is a rule, it was read from an item that is one, declaration by declaration, and keeps the
strings and addresses of each. -/
def RuleKeepsUnits (item : Item) (node : Node) : Prop :=
  ∀ selector declarations, node = .rule selector declarations →
    ∃ name tokens, item = .rule name tokens ∧ selector = name.cleaned ∧
      List.Forall₂ (fun token declaration => Declaration.ofToken token = .ok declaration ∧
        KeepsUnits selector token declaration) tokens declarations

/-- A rule keeps the strings and addresses of the tokens that it is made of. -/
theorem ruleKeepsUnits_of_ofItem {source : List Char} {item : Item} {node : Node}
    (every : item.Every (Token.ReadFrom source)) (found : Node.ofItem item = .ok node) :
    RuleKeepsUnits item node := by
  rintro selector declarations rfl
  cases item with
  | declaration token =>
    obtain ⟨content, -, same⟩ := Node.ofItem_declaration.1 found
    cases same
  | rule name tokens =>
    obtain ⟨contents, each, same⟩ := Node.ofItem_rule.1 found
    cases same
    rw [Item.Every] at every
    have both := (List.forall₂_and_left tokens declarations).2 ⟨every.2, each⟩
    exact ⟨name, tokens, rfl, rfl, both.imp fun token declaration ⟨read, found⟩ =>
      ⟨found, keepsUnits_of_ofToken read found⟩⟩
  | atRule keyword prelude body =>
    cases body with
    | none => cases Node.ofItem_statement.1 found
    | some items =>
      obtain ⟨nodes, -, same⟩ := Node.ofItem_block.1 found
      cases same

/-- So do all nodes that are made of items. -/
theorem ruleKeepsUnits_of_ofItems {source : List Char} {items : List Item} {nodes : List Node}
    (every : Item.EveryOf (Token.ReadFrom source) items) (found : Node.ofItems items = .ok nodes) :
    List.Forall₂ RuleKeepsUnits items nodes := by
  induction items generalizing nodes with
  | nil =>
    rw [Node.ofItems_nil.1 found]
    exact .nil
  | cons item items ih =>
    obtain ⟨node, others, first, rest, rfl⟩ := Node.ofItems_cons.1 found
    rw [Item.EveryOf] at every
    exact .cons (ruleKeepsUnits_of_ofItem every.1 first) (ih every.2 rest)

/-- Strings and addresses are kept from the source to the blocks. Each rule at the top level of a stylesheet
was read from an item of the outline. Of each of its declarations the value has the strings and addresses
of the token in order, as far as dropping comments takes nothing of them, and so has every copy that a pass
puts into a block, up to the lengths in them. -/
theorem pass_keeps_units {source : String} {sheet : Stylesheet}
    (found : Stylesheet.read source = .ok sheet) :
    ∃ items, outline source.toList = .ok items ∧ List.Forall₂ RuleKeepsUnits items sheet := by
  obtain ⟨items, outlined, nodes⟩ := Stylesheet.read_eq_ok_iff.1 found
  exact ⟨items, outlined, ruleKeepsUnits_of_ofItems (every_outline outlined).1 nodes⟩

/-- A page with a string that holds a comment marker and a length, and an address that holds a colon. -/
theorem pass_keeps_units_page :
    let source := "a \x7b b: \"/*;10px\" url(c:x) 20px; \x7d"
    let sheet := [Node.rule "a" [⟨"b", "\"/*;10px\" url(c:x) 20px", false⟩]]
    let page := ({} : Store).plantSheet sheet
    let settings : Settings := { disableLandscape := true }
    Stylesheet.read source = .ok sheet ∧ page.2.Coherent page.1 ∧
      (pass settings page.2 page.1).error = none ∧
      ∃ copy ∈ blockDeclarations settings page.2 page.1 .desktop "a",
        InOrder ["\"/*;8.000px\"".toList, "url(c:x)".toList] copy.value.toList := by
  intro source sheet page settings
  have found : Stylesheet.read source = .ok sheet := by decide +kernel
  have planted : page.2.IsPlantedSheet page.1 _ := Store.isPlantedSheet_plantSheet _
  have direct : page.2.directRules page.1 =
      [("a", [⟨"b", "\"/*;10px\" url(c:x) 20px", false⟩])] := planted.directRules_eq
  have success : (pass settings page.2 page.1).error = none := by
    rw [error_pass planted.coherent]
    unfold traceOf
    rw [direct]
    decide +kernel
  have computed : EveryToken (fun terminal token => terminal = .declaration →
      token.keptUnits = ["\"/*;10px\"".toList, "url(c:x)".toList]) source.toList := by decide +kernel
  obtain ⟨items, outlined, kept⟩ := pass_keeps_units found
  obtain ⟨item, _, keeps, _, rfl⟩ := List.forall₂_cons_right_iff.1 kept
  obtain ⟨name, tokens, rfl, -, each⟩ := keeps _ _ rfl
  obtain ⟨token, _, ⟨-, units⟩, _, rfl⟩ := List.forall₂_cons_right_iff.1 each
  have every := (computed _ outlined).1
  rw [Item.Every] at every
  have computed := every.2 token List.mem_cons_self rfl
  have enabled : View.desktop.enabled settings = true := rfl
  have listed : ("a", [⟨"b", "\"/*;10px\" url(c:x) 20px", false⟩]) ∈ page.2.directRules page.1 := by
    rw [direct]
    exact List.mem_cons_self
  obtain ⟨factor, copy, scaled, ratio, -, inside, alone, occur⟩ :=
    units.copies planted.coherent listed List.mem_cons_self success enabled (by decide)
  rw [computed] at alone
  obtain ⟨string, _, ⟨first, -⟩, others, rfl⟩ := List.forall₂_cons_left_iff.1 alone
  obtain ⟨address, _, ⟨-, second⟩, nothing, rfl⟩ := List.forall₂_cons_left_iff.1 others
  rw [List.forall₂_nil_left_iff.1 nothing, second (by decide)] at occur
  have scales : (do scaleValue (.double (← View.desktop.ratio settings)) "\"/*;10px\"") =
      .ok "\"/*;8.000px\"" := by decide +kernel
  rw [ratio] at scales
  have same := String.ofList_inj.1 (Except.ok.inj (first.symm.trans scales))
  rw [same] at occur
  exact ⟨found, planted.coherent, success, copy, inside, occur⟩

/-- A length in a string is scaled in the copy, so the copy does not hold the string as it was; and what
looks like a comment in an address is dropped already where the declaration is read. -/
theorem string_is_scaled :
    let sheet := [Node.rule "a" [⟨"b", "\"10px\"", false⟩]]
    let page := ({} : Store).plantSheet sheet
    let settings : Settings := { disableLandscape := true }
    Stylesheet.read "a \x7b b: \"10px\" \x7d" = .ok sheet ∧
      declaration? "b: \"10px\" \x7d".toList =
        some ("b: ".toList.map .plain ++ [.quoted "\"10px\"".toList, .plain ' '], ['\x7d']) ∧
      page.2.Coherent page.1 ∧ View.desktop.enabled settings = true ∧
      (pass settings page.2 page.1).error = none ∧
      blockDeclarations settings page.2 page.1 .desktop "a" = [⟨"b", "\"8.000px\"", false⟩] ∧
      ¬"\"10px\"".toList <:+: "\"8.000px\"".toList ∧
      Stylesheet.read "a \x7b b: url(x/*y*/z) \x7d" = .ok [.rule "a" [⟨"b", "url(xz)", false⟩]] ∧
      declaration? "b: url(x/*y*/z) \x7d".toList =
        some ("b: ".toList.map .plain ++ [.url "x/*y*/z".toList, .plain ' '], ['\x7d']) := by
  intro sheet page settings
  have planted : page.2.IsPlantedSheet page.1 _ := Store.isPlantedSheet_plantSheet _
  have direct : page.2.directRules page.1 = [("a", [⟨"b", "\"10px\"", false⟩])] := planted.directRules_eq
  have success : (pass settings page.2 page.1).error = none := by
    rw [error_pass planted.coherent]
    unfold traceOf
    rw [direct]
    decide +kernel
  have plain : ∀ rule ∈ page.2.directRules page.1, rule.1 = "a" →
      (Flags.of rule.2).pattern? = none := by
    rw [direct]
    decide
  have enabled : View.desktop.enabled settings = true := rfl
  have copies := scaledDeclarations_blockDeclarations planted.coherent success enabled
    (show "a" ≠ settings.rootSelector by decide) plain
  have computed : scaledDeclarations (View.desktop.ratio settings) (declarationsOf
      [("a", [⟨"b", "\"10px\"", false⟩])] "a") = .ok [⟨"b", "\"8.000px\"", false⟩] := by decide +kernel
  rw [direct, computed] at copies
  exact ⟨by decide +kernel, by decide +kernel, planted.coherent, enabled, success,
    (Except.ok.inj copies).symm, by decide, by decide +kernel, by decide +kernel⟩

end ViewportScaling.Media
