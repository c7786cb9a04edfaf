import Mathlib.Data.List.Nodup
import Mathlib.Data.List.Perm.Subperm
import ViewportScaling.Document.Walk

/-!
# Coherent sheets

A sheet is coherent if every rule and at-rule of its tree names the container it stands in as its
parent. Then no object stands in two containers of the tree, and none stands below itself, so the
trees are no deeper than the store is large and the bounded readings of the library are exact. The
walk over a coherent sheet meets one kind of rule that is not nested: those directly under the sheet.
-/

namespace ViewportScaling.Document.Store

open Css

/-- Whether an object is a rule or an at-rule. -/
def isLinked (store : Store) (id : Id) : Bool := (store.content? id).any Content.isLinked

/-- A top and the rules and at-rules of its tree, each with the number of steps that lead to it. -/
inductive Below (store : Store) (top : Id) : Nat → Id → Prop
  /-- The top itself. -/
  | top : Below store top 0 top
  /-- A rule or at-rule among the children of a container of the tree. -/
  | child {level : Nat} {container child : Id} (above : Below store top level container)
      (mem : child ∈ store.children container) (linked : store.isLinked child = true) :
      Below store top (level + 1) child

/-- A sheet whose tree has coherent parent links. -/
structure Coherent (store : Store) (sheet : Id) : Prop where
  /-- The top is a sheet. -/
  isSheet : store.content? sheet = some .sheet
  /-- The children of a container of the tree are objects of the store. -/
  present : ∀ {level : Nat} {container child : Id}, store.Below sheet level container →
    child ∈ store.children container → ∃ object, store.get? child = some object
  /-- The rules and at-rules among them have that container as their parent. -/
  linked : ∀ {level : Nat} {container child : Id}, store.Below sheet level container →
    child ∈ store.children container → store.isLinked child = true →
    store.parent? child = some container

/-- The selectors and declarations of the rules that are children of a container, in order. -/
def directRules (store : Store) (container : Id) : List (String × List Declaration) :=
  (store.children container).filterMap store.rule?

/-! ### Looking up parts of objects -/

/-- What an object is, is read off the object. -/
theorem content?_of_get? {store : Store} {id : Id} {object : Object}
    (h : store.get? id = some object) : store.content? id = some object.content := by
  rw [content?, h]
  rfl

theorem children_of_get? {store : Store} {id : Id} {object : Object}
    (h : store.get? id = some object) : store.children id = object.children := by
  rw [children, h]
  rfl

theorem parent?_of_get? {store : Store} {id : Id} {object : Object}
    (h : store.get? id = some object) : store.parent? id = object.parent := by
  rw [parent?, h]
  rfl

theorem origin?_of_get? {store : Store} {id : Id} {object : Object}
    (h : store.get? id = some object) : store.origin? id = object.origin := by
  rw [origin?, h]
  rfl

/-- An object that is found has a place in the store. -/
theorem index_lt_of_get? {store : Store} {id : Id} {object : Object}
    (h : store.get? id = some object) : id.index < store.objects.size :=
  (Array.getElem?_eq_some_iff.1 h).1

/-- What is anything at all is an object of the store. -/
theorem exists_get?_of_content? {store : Store} {id : Id} {content : Content}
    (h : store.content? id = some content) :
    ∃ object, store.get? id = some object ∧ object.content = content :=
  Option.map_eq_some_iff.1 h

/-- The selector and declarations are found exactly at rules. -/
theorem rule?_eq_some_iff {store : Store} {id : Id} {selector : String}
    {declarations : List Declaration} :
    store.rule? id = some (selector, declarations) ↔
      store.content? id = some (.rule selector declarations) := by
  unfold rule?
  split
  · rename_i found
    rw [found]
    simp
  · rename_i other
    simpa using fun found => other selector declarations found

/-! ### New objects and objects taken in -/

theorem size_modify (store : Store) (id : Id) (change : Object → Object) :
    (store.modify id change).objects.size = store.objects.size := by
  simp [modify]

/-- Identities beyond the size of the store are free. -/
theorem get?_eq_none_iff {store : Store} {id : Id} :
    store.get? id = none ↔ store.objects.size ≤ id.index := by
  rw [get?, Array.getElem?_eq_none_iff]

/-- A new object is a new identity. -/
theorem get?_add_fst (store : Store) (object : Object) :
    store.get? (store.add object).1 = none := by
  rw [get?_eq_none_iff]
  exact Nat.le_refl _

/-- Objects that are there stay when another one is made. -/
theorem get?_add_of_ne (store : Store) {object : Object} {id : Id}
    (h : (store.add object).1 ≠ id) : (store.add object).2.get? id = store.get? id := by
  have : id.index ≠ store.objects.size := fun same => h (by cases id; simp_all [add])
  simp only [add, get?, Array.getElem?_push]
  rw [if_neg (by omega)]

theorem size_add (store : Store) (object : Object) :
    (store.add object).2.objects.size = store.objects.size + 1 := by
  simp [add]

/-- A rule or at-rule that is taken in has the container as its parent. -/
theorem get?_take_item {store : Store} {container item : Id} {object : Object}
    (apart : container ≠ item) (found : store.get? item = some object)
    (linked : object.content.isLinked = true) :
    (store.take container item).get? item = some { object with parent := some container } := by
  rw [take, get?_modify_of_ne _ _ apart, setParent, get?_modify_self, found, Option.map_some,
    if_pos linked]

/-- A container that takes an object in has it behind its children. -/
theorem get?_take_container {store : Store} {container item : Id} {object : Object}
    (apart : container ≠ item) (found : store.get? container = some object) :
    (store.take container item).get? container =
      some { object with children := object.children ++ [item] } := by
  rw [take, get?_modify_self, setParent, get?_modify_of_ne _ _ apart.symm, found]
  rfl

/-- Taking in changes the container and the object that it takes in, and no other one. -/
theorem get?_take_of_ne (store : Store) {container item other : Id} (notContainer : container ≠ other)
    (notItem : item ≠ other) : (store.take container item).get? other = store.get? other := by
  rw [take, get?_modify_of_ne _ _ notContainer, setParent, get?_modify_of_ne _ _ notItem]

theorem size_take (store : Store) (container item : Id) :
    (store.take container item).objects.size = store.objects.size := by
  rw [take, size_modify, setParent, size_modify]

theorem size_remove (store : Store) (container item : Id) :
    (store.remove container item).objects.size = store.objects.size := by
  unfold remove
  split
  · rw [setParent, size_modify, size_modify]
  · rfl

/-! ### Levels -/

/-- A top whose tree has coherent parent links, and does not hold the top again. -/
structure IsRooted (store : Store) (top : Id) : Prop where
  /-- The top is an object of the store. -/
  exists_top : ∃ object, store.get? top = some object
  /-- The children of a container of the tree are objects of the store. -/
  present : ∀ {level : Nat} {container child : Id}, store.Below top level container →
    child ∈ store.children container → ∃ object, store.get? child = some object
  /-- The rules and at-rules among them have that container as their parent. -/
  linked : ∀ {level : Nat} {container child : Id}, store.Below top level container →
    child ∈ store.children container → store.isLinked child = true →
    store.parent? child = some container
  /-- The top is no rule or at-rule that stands below itself. -/
  apex : ∀ {level : Nat} {container : Id}, store.Below top level container →
    top ∈ store.children container → store.isLinked top = false

namespace IsRooted

variable {store : Store} {top : Id}

/-- An object of the tree is an object of the store. -/
theorem exists_get? (rooted : store.IsRooted top) {level : Nat} {id : Id}
    (below : store.Below top level id) : ∃ object, store.get? id = some object := by
  cases below with
  | top => exact rooted.exists_top
  | child above mem _ => exact rooted.present above mem

/-- Each object of the tree stands on one level, since the way up from it is unique. -/
theorem level_unique (rooted : store.IsRooted top) {first second : Nat} {id : Id}
    (h : store.Below top first id) (k : store.Below top second id) : first = second := by
  induction h generalizing second with
  | top =>
    cases k with
    | top => rfl
    | child above mem linked =>
      rw [rooted.apex above mem] at linked
      contradiction
  | child above mem linked ih =>
    cases k with
    | top =>
      rw [rooted.apex above mem] at linked
      contradiction
    | child other mem' _ =>
      have up := rooted.linked above mem linked
      rw [rooted.linked other mem' linked, Option.some.injEq] at up
      subst up
      rw [ih other]

/-- The objects on the way to an object are as many as there are levels, and all distinct. -/
theorem exists_path (rooted : store.IsRooted top) {level : Nat} {id : Id}
    (below : store.Below top level id) :
    ∃ path : List Id, path.length = level + 1 ∧ path.Nodup ∧
      ∀ step ∈ path, ∃ at' ≤ level, store.Below top at' step := by
  induction below with
  | top => exact ⟨[top], rfl, by simp, by simpa using .top⟩
  | @child level container child above mem linked ih =>
    obtain ⟨path, size, distinct, inside⟩ := ih
    have below := Below.child above mem linked
    refine ⟨child :: path, by simp [size], List.nodup_cons.2 ⟨fun again => ?_, distinct⟩, ?_⟩
    · obtain ⟨lower, bound, early⟩ := inside child again
      have := rooted.level_unique early below
      omega
    · intro step member
      rcases List.mem_cons.1 member with rfl | member
      · exact ⟨level + 1, Nat.le_refl _, below⟩
      · obtain ⟨lower, bound, early⟩ := inside step member
        exact ⟨lower, by omega, early⟩

/-- There are fewer levels than objects in the store. -/
theorem level_lt (rooted : store.IsRooted top) {level : Nat} {id : Id}
    (below : store.Below top level id) : level < store.objects.size := by
  obtain ⟨path, size, distinct, inside⟩ := rooted.exists_path below
  have indices : (path.map Id.index).Nodup :=
    distinct.map fun ⟨_⟩ ⟨_⟩ same => congrArg Id.mk same
  have bounded : path.map Id.index ⊆ List.range store.objects.size := by
    intro index member
    obtain ⟨step, onPath, rfl⟩ := List.mem_map.1 member
    obtain ⟨_, _, early⟩ := inside step onPath
    obtain ⟨object, found⟩ := rooted.exists_get? early
    exact List.mem_range.2 (index_lt_of_get? found)
  have := (indices.subperm bounded).length_le
  simp only [List.length_map, List.length_range, size] at this
  omega

end IsRooted

namespace Coherent

variable {store : Store} {sheet : Id}

/-- The top of a coherent sheet is no rule or at-rule. -/
theorem not_linked_sheet (coherent : store.Coherent sheet) : store.isLinked sheet = false := by
  rw [isLinked, coherent.isSheet]
  rfl

/-- A coherent sheet is the root of its tree. -/
theorem isRooted (coherent : store.Coherent sheet) : store.IsRooted sheet where
  exists_top := by
    obtain ⟨object, found, -⟩ := exists_get?_of_content? coherent.isSheet
    exact ⟨object, found⟩
  present := coherent.present
  linked := coherent.linked
  apex := fun _ _ => coherent.not_linked_sheet

/-- An object of the tree is an object of the store. -/
theorem exists_get? (coherent : store.Coherent sheet) {level : Nat} {id : Id}
    (below : store.Below sheet level id) : ∃ object, store.get? id = some object :=
  coherent.isRooted.exists_get? below

/-- There are fewer levels than objects in the store. -/
theorem level_lt (coherent : store.Coherent sheet) {level : Nat} {id : Id}
    (below : store.Below sheet level id) : level < store.objects.size :=
  coherent.isRooted.level_lt below

end Coherent

/-! ### The walk over the rules -/

/-- The rules among and below given objects, to a depth, in the order of the walk. -/
def rulesWithin (store : Store) : Nat → List Id → List Id
  | _, [] => []
  | depth, id :: ids =>
    match store.content? id with
    | some (.rule _ _) => id :: store.rulesWithin depth ids
    | some (.atRule _ _ _) =>
      match depth with
      | 0 => store.rulesWithin 0 ids
      | inner + 1 => store.rulesWithin inner (store.children id) ++ store.rulesWithin (inner + 1) ids
    | _ => store.rulesWithin depth ids
termination_by depth ids => (depth, ids.length)

/-- One step of a walk. -/
theorem visitRules_cons {α : Type} (visit : α → Store → Id → α × Store) (depth : Nat) (result : α)
    (store : Store) (id : Id) (ids : List Id) :
    visitRules visit depth result store (id :: ids) =
      match store.content? id with
      | some (.rule _ _) =>
        visitRules visit depth (visit result store id).1 (visit result store id).2 ids
      | some (.atRule _ _ _) =>
        match depth with
        | 0 => visitRules visit 0 result store ids
        | inner + 1 =>
          let below := visitRules visit inner result store (store.children id)
          visitRules visit (inner + 1) below.1 below.2 ids
      | _ => visitRules visit depth result store ids := by
  exact (visitRules.eq_def visit depth result store (id :: ids)).trans rfl

/-- A walk that only lists what it meets leaves the store as it is. -/
theorem visitRules_collect (store : Store) (depth : Nat) (result ids : List Id) :
    visitRules (fun rules store id => (rules ++ [id], store)) depth result store ids =
      (result ++ store.rulesWithin depth ids, store) := by
  fun_induction store.rulesWithin depth ids generalizing result with
  | case1 depth => simp [visitRules]
  | case2 depth id ids selector declarations rule ih =>
    rw [visitRules_cons, rule]
    dsimp only
    rw [ih, List.append_assoc, List.singleton_append]
  | case3 id ids name params hasBlock atRule ih =>
    rw [visitRules_cons, atRule]
    exact ih result
  | case4 id ids name params hasBlock atRule inner ihInner ih =>
    rw [visitRules_cons, atRule]
    dsimp only
    rw [ihInner, ih, List.append_assoc]
  | case5 depth id ids other other' ih =>
    rw [visitRules_cons]
    split
    · rename_i rule
      exact absurd rule (other _ _)
    · rename_i atRule
      exact absurd atRule (other' _ _ _)
    · exact ih result

/-- The walk that collects rules, without the store that it carries along. -/
theorem rulesBelow_eq (store : Store) (container : Id) :
    store.rulesBelow container =
      store.rulesWithin store.objects.size (store.children container) := by
  rw [rulesBelow, foldRules, visitRules_collect, List.nil_append]

/-- Whether an object is a rule that stands in no at-rule. -/
def isPlainRule (store : Store) (id : Id) : Bool :=
  (store.rule? id).isSome && !store.isNested id

namespace Coherent

variable {store : Store} {sheet : Id}

/-- Of the children of an at-rule none is a rule that stands in no at-rule. -/
theorem isPlainRule_eq_false (coherent : store.Coherent sheet) {level : Nat} {container child : Id}
    (below : store.Below sheet level container) (nested : store.isAtRule container = true)
    (mem : child ∈ store.children container) : store.isPlainRule child = false := by
  unfold isPlainRule
  cases found : store.rule? child with
  | none => rfl
  | some rule =>
    have linked : store.isLinked child = true := by
      rw [isLinked, rule?_eq_some_iff.1 found]
      rfl
    simp [isNested, coherent.linked below mem linked, nested]

/-- The rules of the walk that stand in no at-rule are found without going down. -/
theorem filter_rulesWithin (coherent : store.Coherent sheet) (depth : Nat) (ids : List Id)
    {level : Nat} {container : Id} (below : store.Below sheet level container)
    (inside : ids ⊆ store.children container) :
    (store.rulesWithin depth ids).filter (!store.isNested ·) = ids.filter store.isPlainRule := by
  fun_induction store.rulesWithin depth ids generalizing level container with
  | case1 depth => rfl
  | case2 depth id ids selector declarations rule ih =>
    have found : store.rule? id = some (selector, declarations) := rule?_eq_some_iff.2 rule
    rw [List.filter_cons, List.filter_cons, ih below (List.subset_of_cons_subset inside)]
    simp [isPlainRule, found]
  | case3 id ids name params hasBlock atRule ih =>
    rw [ih below (List.subset_of_cons_subset inside), List.filter_cons]
    simp [isPlainRule, rule?, atRule]
  | case4 id ids name params hasBlock atRule inner ihInner ih =>
    have linked : store.isLinked id = true := by
      rw [isLinked, atRule]
      rfl
    have further := Below.child below (inside (List.mem_cons_self ..)) linked
    have isAtRule : store.isAtRule id = true := by
      rw [Store.isAtRule, atRule]
    have none : (store.children id).filter store.isPlainRule = [] := by
      rw [List.filter_eq_nil_iff]
      intro child mem
      rw [coherent.isPlainRule_eq_false further isAtRule mem]
      exact Bool.false_ne_true
    rw [List.filter_append, ihInner further (List.Subset.refl _), none,
      ih below (List.subset_of_cons_subset inside), List.filter_cons]
    simp [isPlainRule, rule?, atRule]
  | case5 depth id ids other other' ih =>
    rw [ih below (List.subset_of_cons_subset inside), List.filter_cons]
    have : store.rule? id = none := by
      unfold rule?
      split
      · rename_i rule
        exact absurd rule (other _ _)
      · rfl
    simp [isPlainRule, this]

/-- A rule directly under the sheet stands in no at-rule. -/
theorem isNested_eq_false (coherent : store.Coherent sheet) {id : Id}
    (mem : id ∈ store.children sheet) (linked : store.isLinked id = true) :
    store.isNested id = false := by
  rw [isNested, coherent.linked .top mem linked, Option.any_some, isAtRule, coherent.isSheet]

/-- The rules of the walk over a sheet that stand in no at-rule are its direct rules. -/
theorem filterMap_rulesBelow (coherent : store.Coherent sheet) :
    ((store.rulesBelow sheet).filter (!store.isNested ·)).filterMap store.rule? =
      store.directRules sheet := by
  rw [rulesBelow_eq, coherent.filter_rulesWithin _ _ .top (List.Subset.refl _),
    List.filterMap_filter, directRules]
  refine List.filterMap_congr fun id mem => ?_
  cases found : store.rule? id with
  | none => simp
  | some rule =>
    have linked : store.isLinked id = true := by
      rw [isLinked, rule?_eq_some_iff.1 found]
      rfl
    simp [isPlainRule, found, coherent.isNested_eq_false mem linked]

end Coherent

end ViewportScaling.Document.Store
