import ViewportScaling.Proofs.Document.Walking

/-!
# Documents without their declarations

Declarations that are added to a rule reach every rule that holds its list, but nothing else that an object
is or knows. So a document without the declarations of its rules stays the same when declarations are added,
it loses its rules as the whole document does, and it is walked in the same way.
-/

namespace ViewportScaling.Document

open Css

namespace Content

/-- A rule without its declarations. Other objects stay what they are. -/
def bare : Content → Content
  | .rule selector _ => .rule selector []
  | content => content

/-- With or without further declarations, what is left without any is the same. -/
@[simp] theorem bare_extend (added : List Declaration) (content : Content) :
    (content.extend added).bare = content.bare := by
  cases content <;> rfl

/-- A rule without its declarations is a rule still. -/
@[simp] theorem isLinked_bare (content : Content) : content.bare.isLinked = content.isLinked := by
  cases content <;> rfl

/-- Only rules have declarations to differ in. -/
theorem eq_of_bare {first second : Content} (same : first.bare = second.bare)
    (noRule : ∀ selector declarations, second ≠ .rule selector declarations) : first = second := by
  cases second with
  | rule selector declarations => exact absurd rfl (noRule selector declarations)
  | declaration content => cases first <;> cases same; rfl
  | atRule name params hasBlock => cases first <;> cases same; rfl
  | sheet => cases first <;> cases same; rfl

end Content

/-- An object without declarations, with all its links. -/
def Object.bare (object : Object) : Object := { object with content := object.content.bare }

namespace Store

variable {store other : Store} {id top : Id}

/-- The selector of a rule. -/
def selector? (store : Store) (id : Id) : Option String := (store.rule? id).map Prod.fst

/-- A document without the declarations of its rules. -/
def bare (store : Store) : Store := ⟨store.objects.map Object.bare⟩

/-! ### What is left of an object -/

/-- Each object is found without its declarations. -/
@[simp] theorem get?_bare (store : Store) (id : Id) : store.bare.get? id = (store.get? id).map Object.bare := by
  rw [bare, get?, get?, Array.getElem?_map]

@[simp] theorem content?_bare (store : Store) (id : Id) :
    store.bare.content? id = (store.content? id).map Content.bare := by
  rw [content?, content?, get?_bare, Option.map_map, Option.map_map]
  rfl

/-- Containers keep their children. -/
@[simp] theorem children_bare (store : Store) (id : Id) : store.bare.children id = store.children id := by
  rw [children, children, get?_bare, Option.map_map]
  rfl

/-- Objects keep their parents. -/
@[simp] theorem parent?_bare (store : Store) (id : Id) : store.bare.parent? id = store.parent? id := by
  rw [parent?, parent?, get?_bare]
  cases store.get? id <;> rfl

@[simp] theorem origin?_bare (store : Store) (id : Id) : store.bare.origin? id = store.origin? id := by
  rw [origin?, origin?, get?_bare]
  cases store.get? id <;> rfl

@[simp] theorem shares_bare (store : Store) (first second : Id) :
    store.bare.shares first second = store.shares first second := by
  rw [shares, shares, origin?_bare, origin?_bare]

@[simp] theorem size_bare (store : Store) : store.bare.objects.size = store.objects.size := by
  simp [bare]

/-- A rule keeps its selector. -/
@[simp] theorem rule?_bare (store : Store) (id : Id) :
    store.bare.rule? id = (store.rule? id).map fun rule => (rule.1, []) := by
  rw [rule?, rule?, content?_bare]
  cases store.content? id with
  | none => rfl
  | some content => cases content <;> rfl

/-- The same objects are rules. -/
@[simp] theorem isSome_rule?_bare (store : Store) (id : Id) :
    (store.bare.rule? id).isSome = (store.rule? id).isSome := by
  rw [rule?_bare, Option.isSome_map]

@[simp] theorem selector?_bare (store : Store) (id : Id) : store.bare.selector? id = store.selector? id := by
  rw [selector?, selector?, rule?_bare, Option.map_map]
  rfl

@[simp] theorem isAtRule_bare (store : Store) (id : Id) : store.bare.isAtRule id = store.isAtRule id := by
  rw [isAtRule, isAtRule, content?_bare]
  cases store.content? id with
  | none => rfl
  | some content => cases content <;> rfl

/-- The walk goes by the rules and the at-rules, not by what the rules hold. -/
theorem rulesWithin_bare (store : Store) (depth : Nat) (ids : List Id) :
    store.bare.rulesWithin depth ids = store.rulesWithin depth ids := by
  induction depth, ids using store.walk_induct with
  | nil depth => rw [rulesWithin, rulesWithin]
  | rule depth id ids rule ih =>
    rw [rulesWithin_of_rule _ _ _ rule, rulesWithin_of_rule _ _ _ ((store.isSome_rule?_bare id).trans rule), ih]
  | atRule depth id ids noRule atRule ihInner ih =>
    rw [rulesWithin_of_atRule _ _ _ atRule, rulesWithin_of_atRule _ _ _ ((store.isAtRule_bare id).trans atRule),
      children_bare, ihInner, ih]
  | other depth id ids noRule noAtRule ih =>
    have noRule' : store.bare.rule? id = none := by rw [rule?_bare, noRule, Option.map_none]
    rw [rulesWithin_of_other _ _ _ noRule noAtRule,
      rulesWithin_of_other _ _ _ noRule' (by rwa [isAtRule_bare]), ih]

/-- So the walk from a top meets the same rules. -/
@[simp] theorem rulesBelow_bare (store : Store) (top : Id) : store.bare.rulesBelow top = store.rulesBelow top := by
  rw [rulesBelow_eq, rulesBelow_eq, size_bare, children_bare, rulesWithin_bare]

/-! ### Documents that differ in declarations -/

/-- An object that is no rule is the same in both. -/
theorem content?_eq_of_bare (same : other.bare = store.bare) (noRule : store.rule? id = none) :
    other.content? id = store.content? id := by
  have alike : (other.content? id).map Content.bare = (store.content? id).map Content.bare := by
    rw [← content?_bare, same, content?_bare]
  cases found : store.content? id with
  | none =>
    rw [found, Option.map_none, Option.map_eq_none_iff] at alike
    exact alike
  | some content =>
    rw [found, Option.map_some, Option.map_eq_some_iff] at alike
    obtain ⟨content', found', alike⟩ := alike
    rw [found', Content.eq_of_bare alike]
    rintro selector declarations rfl
    rw [rule?, found] at noRule
    cases noRule

/-- An object that holds the same in both is the same. -/
theorem get?_eq_of_bare (same : other.bare = store.bare) (holds : other.content? id = store.content? id) :
    other.get? id = store.get? id := by
  have alike : (other.get? id).map Object.bare = (store.get? id).map Object.bare := by
    rw [← get?_bare, same, get?_bare]
  cases found : store.get? id with
  | none =>
    rw [found, Option.map_none, Option.map_eq_none_iff] at alike
    exact alike
  | some object =>
    rw [found, Option.map_some, Option.map_eq_some_iff] at alike
    obtain ⟨object', found', alike⟩ := alike
    rw [content?_of_get? found, content?_of_get? found', Option.some.injEq] at holds
    obtain ⟨content, children, parent, origin⟩ := object
    obtain ⟨content', children', parent', origin'⟩ := object'
    rw [Object.bare, Object.bare, Object.mk.injEq] at alike
    obtain ⟨-, rfl, rfl, rfl⟩ := alike
    obtain rfl : content' = content := holds
    exact found'

/-! ### What an operation does -/

/-- Adding declarations changes nothing besides declarations. -/
@[simp] theorem bare_addDeclarations (store : Store) (rule : Id) (declarations : List Declaration) :
    (store.addDeclarations rule declarations).bare = store.bare := by
  refine ext_get? fun id => ?_
  rw [get?_bare, get?_bare, get?_addDeclarations, Option.map_map]
  refine Option.map_congr fun object _ => ?_
  rw [Function.comp_apply, Object.bare, Object.bare, Object.mk.injEq]
  refine ⟨?_, rfl, rfl, rfl⟩
  dsimp only
  split
  · exact object.content.bare_extend declarations
  · rfl

/-- A change that has nothing to do with declarations is the same with and without them. -/
theorem bare_modify (store : Store) (id : Id) {change : Object → Object}
    (links : ∀ object : Object, (change object).bare = change object.bare) :
    (store.modify id change).bare = store.bare.modify id change := by
  refine ext_get? fun other => ?_
  rw [get?_bare, get?_modify, get?_modify, get?_bare, Option.map_map, Option.map_map]
  refine Option.map_congr fun object _ => ?_
  rw [Function.comp_apply, Function.comp_apply]
  split
  · exact links object
  · rfl

/-- Taking a rule out of its container is the same with and without declarations. -/
@[simp] theorem bare_detach (store : Store) (id : Id) : (store.detach id).bare = store.bare.detach id := by
  rw [detach, detach, parent?_bare]
  split
  · rename_i container _
    rw [remove, remove, children_bare]
    split
    · rw [setParent, setParent, bare_modify, bare_modify]
      · exact fun object => rfl
      · intro object
        have same : object.bare.content.isLinked = object.content.isLinked := object.content.isLinked_bare
        rw [same]
        split <;> rfl
    · rfl
  · rfl

/-- Detaching changes what no object is. -/
theorem content?_detach (store : Store) (item id : Id) : (store.detach item).content? id = store.content? id := by
  unfold detach
  split
  · unfold remove
    split
    · rw [content?_setParent, content?_modify_children _ _ (List.erase · item)]
    · rfl
  · rfl

end Store

end ViewportScaling.Document
