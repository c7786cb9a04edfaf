import Mathlib.Logic.Relation
import ViewportScaling.Proofs.Document.Folding

/-!
# Walks with a consumer

A walk is lazy: between two rules it waits for its consumer, who may take rules out of their containers. Those
that were met so far the walk does not need any more, and a container that still has to be listed has lost none
of its rules, since none of them was met. So whatever the consumer does with the rules it has, the walk meets the
rules of the tree as it was at the start, each once, in document order.
-/

namespace ViewportScaling.Document.Store

open Css

variable {store current : Store} {top id : Id} {met : List Id}

/-- The rules that a walk meets, in order, if a consumer changes the store between two of them in view of those
met so far. What else a consumer may have kept in mind follows from these. -/
def metWith (store : Store) (container : Id) (consume : List Id → Store → Store) : List Id :=
  (store.foldRules container (fun met store id => (met ++ [id], consume (met ++ [id]) store)) []).1

/-- One thing that a consumer may do with the rules that were met. -/
inductive Handles (met : List Id) (store : Store) : Store → Prop
  /-- A rule that was met is taken out of the container it stands in. -/
  | detach {id : Id} (mem : id ∈ met) : Handles met store (store.detach id)
  /-- A rule is given further declarations. -/
  | addDeclarations (rule : Id) (declarations : List Declaration) :
      Handles met store (store.addDeclarations rule declarations)

/-- The rules among and below some objects in document order: a rule stands for itself, and an at-rule for the
rules among and below its children. -/
inductive InDocumentOrder (store : Store) : List Id → List Id → Prop
  /-- There is nothing to list. -/
  | nil : InDocumentOrder store [] []
  /-- A rule stands in front of the rules of the other objects. -/
  | rule {id : Id} {ids rules : List Id} (rule : (store.rule? id).isSome = true)
      (others : InDocumentOrder store ids rules) : InDocumentOrder store (id :: ids) (id :: rules)
  /-- So do all rules of an at-rule. -/
  | atRule {id : Id} {ids inner rules : List Id} (atRule : store.isAtRule id = true)
      (below : InDocumentOrder store (store.children id) inner)
      (others : InDocumentOrder store ids rules) : InDocumentOrder store (id :: ids) (inner ++ rules)
  /-- Any other object has no rules. -/
  | other {id : Id} {ids rules : List Id} (noRule : store.rule? id = none)
      (noAtRule : store.isAtRule id = false) (others : InDocumentOrder store ids rules) :
      InDocumentOrder store (id :: ids) rules

/-! ### The order of a walk -/

/-- No at-rule is a rule. -/
theorem rule?_eq_none_of_isAtRule (atRule : store.isAtRule id = true) : store.rule? id = none := by
  obtain ⟨name, params, hasBlock, found⟩ := exists_of_isAtRule atRule
  rw [rule?, found]

/-- Where the walk may go as deep as the tree is, it is in document order. -/
theorem IsTree.inDocumentOrder_rulesWithin (tree : store.IsTree top) {depth level : Nat} {ids : List Id}
    {container : Id} (below : store.Below top level container) (inside : ids ⊆ store.children container)
    (bound : store.objects.size ≤ level + 1 + depth) :
    store.InDocumentOrder ids (store.rulesWithin depth ids) := by
  induction depth, ids using store.walk_induct generalizing level container with
  | nil depth =>
    rw [rulesWithin]
    exact .nil
  | rule depth id ids rule ih =>
    rw [rulesWithin_of_rule _ _ _ rule]
    exact .rule rule (ih below (List.subset_of_cons_subset inside) bound)
  | atRule depth id ids noRule atRule ihInner ih =>
    obtain ⟨here, inside'⟩ := List.cons_subset.1 inside
    have further := below.child here (isLinked_of_isAtRule atRule)
    rw [rulesWithin_of_atRule _ _ _ atRule]
    exact .atRule atRule (ihInner further (List.Subset.refl _) (by omega)) (ih below inside' bound)
  | other depth id ids noRule noAtRule ih =>
    obtain ⟨here, inside'⟩ := List.cons_subset.1 inside
    rw [rulesWithin_of_other _ _ _ noRule noAtRule]
    refine .other noRule ?_ (ih below inside' bound)
    -- An at-rule that is too deep would stand on a level that there is not.
    by_contra atRule
    rw [Bool.not_eq_false] at atRule
    have deep := tree.level_lt (below.child here (isLinked_of_isAtRule atRule))
    rcases noAtRule with rfl | noAtRule
    · omega
    · rw [atRule] at noAtRule
      cases noAtRule

/-- The walk over a tree is in document order. -/
theorem IsTree.inDocumentOrder_rulesBelow (tree : store.IsTree top) :
    store.InDocumentOrder (store.children top) (store.rulesBelow top) := by
  rw [rulesBelow_eq]
  exact tree.inDocumentOrder_rulesWithin .top (List.Subset.refl _) (by omega)

/-- There is one document order. -/
theorem InDocumentOrder.unique {ids first second : List Id} (order : store.InDocumentOrder ids first)
    (order' : store.InDocumentOrder ids second) : first = second := by
  induction order generalizing second with
  | nil =>
    cases order'
    rfl
  | rule rule others ih =>
    cases order' with
    | rule _ others' => rw [ih others']
    | atRule atRule => rw [rule?_eq_none_of_isAtRule atRule] at rule; cases rule
    | other noRule => rw [noRule] at rule; cases rule
  | atRule atRule below others ihBelow ih =>
    cases order' with
    | rule rule => rw [rule?_eq_none_of_isAtRule atRule] at rule; cases rule
    | atRule _ below' others' => rw [ihBelow below', ih others']
    | other _ noAtRule => rw [noAtRule] at atRule; cases atRule
  | other noRule noAtRule others ih =>
    cases order' with
    | rule rule => rw [noRule] at rule; cases rule
    | atRule atRule => rw [noAtRule] at atRule; cases atRule
    | other _ _ others' => exact ih others'

/-! ### What a consumer leaves as it is -/

/-- Detaching gives no parent to an object. -/
theorem parent?_detach (store : Store) (item id : Id) :
    (store.detach item).parent? id = store.parent? id ∨ (store.detach item).parent? id = none := by
  unfold detach
  split
  · rename_i container _
    by_cases mem : item ∈ store.children container
    · rw [parent?_remove mem]
      split
      · exact .inr rfl
      · exact .inl rfl
    · rw [remove_of_notMem mem]
      exact .inl rfl
  · exact .inl rfl

/-- Only the parent of an object that is detached loses a child. -/
theorem children_detach {container : Id} (apart : store.parent? id ≠ some container) :
    (store.detach id).children container = store.children container := by
  unfold detach
  split
  · rename_i other up
    by_cases mem : id ∈ store.children other
    · rw [children_remove mem, if_neg]
      rintro rfl
      exact apart up
    · rw [remove_of_notMem mem]
  · rfl

/-- Adding declarations to a rule makes nothing a rule. -/
theorem isSome_rule?_addDeclarations (store : Store) (rule : Id) (declarations : List Declaration) (id : Id) :
    ((store.addDeclarations rule declarations).rule? id).isSome = (store.rule? id).isSome := by
  rw [← isSome_rule?_bare, bare_addDeclarations, isSome_rule?_bare]

/-- Adding declarations to a rule makes nothing an at-rule. -/
theorem isAtRule_addDeclarations (store : Store) (rule : Id) (declarations : List Declaration) (id : Id) :
    (store.addDeclarations rule declarations).isAtRule id = store.isAtRule id := by
  rw [← isAtRule_bare, bare_addDeclarations, isAtRule_bare]

/-! ### One thing that a consumer does -/

/-- How far a consumer may have come with a store: the containers of which the walk has met no rule are as they
were, and no object has got another parent. -/
structure IsConsumed (store current : Store) (met : List Id) : Prop extends store.IsAhead current met where
  /-- An object has the parent it had, or none. -/
  parent : ∀ id, current.parent? id = store.parent? id ∨ current.parent? id = none

namespace IsConsumed

/-- A rule that was met is listed by no container of which the walk has met no rule. -/
theorem detach (tree : store.IsTree top) (known : met ⊆ store.rulesBelow top)
    (consumed : store.IsConsumed current met) (mem : id ∈ met) : store.IsConsumed (current.detach id) met where
  rule other := by
    rw [rule?, content?_detach, ← rule?]
    exact consumed.rule other
  atRule other := by
    rw [isAtRule, content?_detach, ← isAtRule]
    exact consumed.atRule other
  children container unmet := by
    have apart : current.parent? id ≠ some container := by
      intro up
      obtain ⟨-, parent, -, listed, up', -⟩ := tree.exists_container (known mem)
      rcases consumed.parent id with same | none
      · rw [up, up', Option.some.injEq] at same
        subst same
        exact unmet id listed (tree.mem_rulesBelow_iff.1 (known mem)).1 mem
      · rw [up] at none
        cases none
    rw [children_detach apart]
    exact consumed.children container unmet
  parent other := by
    rcases current.parent?_detach id other with same | none
    · rw [same]
      exact consumed.parent other
    · exact .inr none

/-- Adding declarations has no effect on links. -/
theorem addDeclarations (consumed : store.IsConsumed current met) (rule : Id)
    (declarations : List Declaration) : store.IsConsumed (current.addDeclarations rule declarations) met where
  rule other := (current.isSome_rule?_addDeclarations rule declarations other).trans (consumed.rule other)
  atRule other := (current.isAtRule_addDeclarations rule declarations other).trans (consumed.atRule other)
  children container unmet := by
    rw [(current.sameLinks_addDeclarations rule declarations).children]
    exact consumed.children container unmet
  parent other := by
    rw [(current.sameLinks_addDeclarations rule declarations).parent?]
    exact consumed.parent other

/-- So it is after any number of things that the consumer does. -/
theorem handles (tree : store.IsTree top) (known : met ⊆ store.rulesBelow top)
    (consumed : store.IsConsumed current met) {changed : Store}
    (handled : Relation.ReflTransGen (Handles met) current changed) : store.IsConsumed changed met := by
  induction handled with
  | refl => exact consumed
  | tail _ last ih =>
    cases last with
    | detach mem => exact ih.detach tree known mem
    | addDeclarations rule declarations => exact ih.addDeclarations rule declarations

/-- One more rule that is met leaves fewer containers to be listed. -/
theorem concat (consumed : store.IsConsumed current met) (id : Id) : store.IsConsumed current (met ++ [id]) where
  rule := consumed.rule
  atRule := consumed.atRule
  children container unmet := consumed.children container fun child mem rule old =>
    unmet child mem rule (List.mem_append_left _ old)
  parent := consumed.parent

end IsConsumed

/-! ### The whole walk -/

/-- How far a walk with a consumer has come: it has noted the rules that it visited, all of them rules of the
tree, and only these were handled. -/
structure IsWalked (store : Store) (top : Id) (visited met : List Id) (current : Store) : Prop
    extends store.IsConsumed current visited where
  /-- The visited rules are noted. -/
  noted : met = visited
  /-- They are rules of the tree. -/
  known : visited ⊆ store.rulesBelow top

/-- One more step of the walk, and then of its consumer. -/
theorem IsTree.isWalked_concat (tree : store.IsTree top) {consume : List Id → Store → Store}
    (handles : ∀ met current, Relation.ReflTransGen (Handles met) current (consume met current))
    {visited : List Id} (walked : store.IsWalked top visited met current) (mem : id ∈ store.rulesBelow top) :
    store.IsWalked top (visited ++ [id]) (met ++ [id]) (consume (met ++ [id]) current) := by
  obtain ⟨consumed, rfl, known⟩ := walked
  have known' : met ++ [id] ⊆ store.rulesBelow top :=
    List.append_subset.2 ⟨known, List.cons_subset.2 ⟨mem, List.nil_subset _⟩⟩
  exact ⟨(consumed.concat id).handles tree known' (handles _ current), rfl, known'⟩

/-- A walk meets what it meets without a consumer. -/
theorem IsTree.metWith_eq (tree : store.IsTree top) {consume : List Id → Store → Store}
    (handles : ∀ met current, Relation.ReflTransGen (Handles met) current (consume met current)) :
    store.metWith top consume = store.rulesBelow top := by
  have start : store.IsWalked top [] [] store :=
    ⟨⟨⟨fun _ => rfl, fun _ => rfl, fun _ _ => rfl⟩, fun _ => .inl rfl⟩, rfl, List.nil_subset _⟩
  exact (tree.foldRules_induct (store.IsWalked top) (fun walked => walked.toIsAhead)
    (fun walked mem _ => tree.isWalked_concat handles walked mem) start).noted

/-- Whatever is done between two steps with the rules that were met, a walk meets every rule of the tree as it
was at the start, each once, in document order. -/
theorem walk_survives_removal (tree : store.IsTree top) {consume : List Id → Store → Store}
    (handles : ∀ met current, Relation.ReflTransGen (Handles met) current (consume met current)) :
    (∀ id, id ∈ store.metWith top consume ↔
        (store.rule? id).isSome = true ∧ ∃ level, store.Below top (level + 1) id) ∧
      (store.metWith top consume).Nodup ∧
      store.InDocumentOrder (store.children top) (store.metWith top consume) := by
  rw [tree.metWith_eq handles]
  exact ⟨fun id => tree.mem_rulesBelow_iff, tree.nodup_rulesBelow, tree.inDocumentOrder_rulesBelow⟩

/-- Taking out rules that were met is a thing that a consumer may do. -/
theorem handles_foldl_detach {ids : List Id} (among : ids ⊆ met) (store : Store) :
    Relation.ReflTransGen (Handles met) store (ids.foldl detach store) := by
  induction ids generalizing store with
  | nil => exact .refl
  | cons id ids ih =>
    obtain ⟨mem, among'⟩ := List.cons_subset.1 among
    exact .head (.detach mem) (ih among' (store.detach id))

/-- The walk over a block with rules on two levels meets all of them, although each is taken out of its container
before the walk comes to the next. -/
theorem walk_survives_removal_nestedBlock :
    let planted := ({} : Store).plant nestedBlock
    let consume := fun (met : List Id) (store : Store) => met.foldl detach store
    planted.2.IsTree planted.1 ∧
      (∀ met current, Relation.ReflTransGen (Handles met) current (consume met current)) ∧
      (consume [⟨0⟩, ⟨1⟩] planted.2).children planted.1 = [⟨4⟩, ⟨5⟩] ∧
      (consume [⟨0⟩, ⟨1⟩] planted.2).children ⟨4⟩ = [⟨2⟩, ⟨3⟩] ∧
      planted.2.metWith planted.1 consume = [⟨0⟩, ⟨1⟩, ⟨3⟩, ⟨5⟩] := by
  intro planted consume
  have tree : planted.2.IsTree planted.1 := isTree_plant _ _
  have handles : ∀ met current, Relation.ReflTransGen (Handles met) current (consume met current) :=
    fun met current => handles_foldl_detach (List.Subset.refl met) current
  refine ⟨tree, handles, by decide +kernel, by decide +kernel, ?_⟩
  obtain ⟨-, -, order⟩ := walk_survives_removal tree handles
  have outer : planted.2.children planted.1 = [⟨0⟩, ⟨4⟩, ⟨5⟩] := by decide +kernel
  have inner : planted.2.children ⟨4⟩ = [⟨1⟩, ⟨2⟩, ⟨3⟩] := by decide +kernel
  have within : planted.2.InDocumentOrder (planted.2.children ⟨4⟩) [⟨1⟩, ⟨3⟩] := by
    rw [inner]
    exact .rule (by decide +kernel) (.other (by decide +kernel) (by decide +kernel)
      (.rule (by decide +kernel) .nil))
  rw [outer] at order
  exact order.unique (.rule (by decide +kernel) (.atRule (by decide +kernel) within
    (.rule (by decide +kernel) .nil)))

end ViewportScaling.Document.Store
