import Mathlib.Logic.Relation
import ViewportScaling.Proofs.Document.Planting

/-!
# Parent links

A container that takes an object in becomes its parent, and a container that loses an object clears
the parent, whichever that was. Nothing else touches a parent. So a parent always has the object among
its children: it took it in, and every loss since would have cleared the link. The other direction
needs some order: if objects are taken in only while they have no parent, then a rule or at-rule stands
in one container at most, once, and knows it.

Everything that is done to a document is done in five kinds of moves, so that both facts are proved for
one move each and hold after any number of them.
-/

namespace ViewportScaling.Document.Store

open Css

/-- Whether an identity is that of an object of the store. -/
def Has (store : Store) (id : Id) : Prop := id.index < store.objects.size

instance (store : Store) (id : Id) : Decidable (store.Has id) :=
  inferInstanceAs (Decidable (id.index < store.objects.size))

/-- Whether an object is in no container. -/
def IsFree (store : Store) (id : Id) : Prop := ∀ container, id ∉ store.children container

/-- Every parent has the object among its children. -/
structure LinksHold (store : Store) : Prop where
  /-- The children of a container are objects of the store. -/
  present : ∀ {container child : Id}, child ∈ store.children container → store.Has child
  /-- Only rules and at-rules have a parent. -/
  linked : ∀ {container child : Id}, store.parent? child = some container →
    store.isLinked child = true
  /-- The parent of an object has it as a child. -/
  mem : ∀ {container child : Id}, store.parent? child = some container →
    child ∈ store.children container

/-- Every parent has the object among its children, and every rule or at-rule among the children of a
container has that container as its parent and is listed once. -/
structure LinksExact (store : Store) : Prop extends store.LinksHold where
  /-- A rule or at-rule has the container it stands in as its parent. -/
  parent : ∀ {container child : Id}, child ∈ store.children container →
    store.isLinked child = true → store.parent? child = some container
  /-- It is listed there once. -/
  once : ∀ {container child : Id}, child ∈ store.children container →
    store.isLinked child = true → (store.children container).count child = 1

/-- One move in a document. An orderly move takes in only what has no parent. -/
inductive Move (orderly : Prop) (store : Store) : Store → Prop
  /-- A new object without links is put into the store. -/
  | add (content : Content) {origin : Option Id} : Move orderly store (store.add { content, origin }).2
  /-- A container takes an object in, behind its children. -/
  | take {container item : Id} (container_mem : store.Has container) (item_mem : store.Has item)
      (free : orderly → store.parent? item = none) : Move orderly store (store.take container item)
  /-- A container loses an object. -/
  | remove (container item : Id) : Move orderly store (store.remove container item)
  /-- A rule is given further declarations. -/
  | addDeclarations (rule : Id) (declarations : List Declaration) :
      Move orderly store (store.addDeclarations rule declarations)
  /-- It is noted where the list of a rule came from. -/
  | setOrigin (origin rule : Id) : Move orderly store (store.setOrigin origin rule)

/-- A number of moves in a document. -/
abbrev Moves (orderly : Prop) : Store → Store → Prop := Relation.ReflTransGen (Move orderly)

/-! ### Links after a change -/

/-- What is in the store can be found. -/
theorem has_iff {store : Store} {id : Id} :
    store.Has id ↔ ∃ object, store.get? id = some object := by
  rw [Has, get?, ← Option.isSome_iff_exists, isSome_getElem?]

/-- What has children is in the store. -/
theorem has_of_mem_children {store : Store} {container child : Id}
    (mem : child ∈ store.children container) : store.Has container := by
  unfold children at mem
  cases found : store.get? container with
  | none => simp [found] at mem
  | some object => exact has_iff.2 ⟨object, found⟩

/-- An object is in no container if no object lists it. -/
theorem isFree_iff {store : Store} {id : Id} :
    store.IsFree id ↔ ∀ object ∈ store.objects, id ∉ object.children := by
  constructor
  · intro free object mem
    obtain ⟨index, found⟩ := Array.getElem?_of_mem mem
    have found : store.get? ⟨index⟩ = some object := found
    have := free ⟨index⟩
    rwa [children_of_get? found] at this
  · intro free container mem
    obtain ⟨object, found⟩ := has_iff.1 (has_of_mem_children mem)
    rw [children_of_get? found] at mem
    exact free object (Array.mem_of_getElem? found) mem

instance (store : Store) (id : Id) : Decidable (store.IsFree id) :=
  decidable_of_iff _ isFree_iff.symm

theorem children_setParent (store : Store) (parent : Option Id) (id other : Id) :
    (store.setParent parent id).children other = store.children other := by
  unfold setParent children
  by_cases same : id = other
  · subst same
    rw [get?_modify_self, Option.map_map]
    congr 2
    funext object
    dsimp only [Function.comp_apply]
    split <;> rfl
  · rw [get?_modify_of_ne _ _ same]

theorem content?_setParent (store : Store) (parent : Option Id) (id other : Id) :
    (store.setParent parent id).content? other = store.content? other := by
  unfold setParent content?
  by_cases same : id = other
  · subst same
    rw [get?_modify_self, Option.map_map]
    congr 1
    funext object
    dsimp only [Function.comp_apply]
    split <;> rfl
  · rw [get?_modify_of_ne _ _ same]

/-- Setting a parent reaches one object, and only if it is a rule or at-rule. -/
theorem parent?_setParent (store : Store) (parent : Option Id) (id other : Id) :
    (store.setParent parent id).parent? other =
      if id = other ∧ store.isLinked other = true then parent else store.parent? other := by
  unfold setParent parent? isLinked content?
  by_cases same : id = other
  · subst same
    cases found : store.get? id with
    | none => simp [found]
    | some object =>
      by_cases linked : object.content.isLinked = true <;> simp [found, linked]
  · simp [get?_modify_of_ne _ _ same, same]

/-- The children of an object after a change to an object that is there. -/
theorem children_modify {store : Store} {id : Id} (present : store.Has id)
    (change : List Id → List Id) (other : Id) :
    (store.modify id fun object => { object with children := change object.children }).children
        other =
      if id = other then change (store.children other) else store.children other := by
  unfold children
  by_cases same : id = other
  · subst same
    obtain ⟨object, found⟩ := has_iff.1 present
    simp [found]
  · rw [get?_modify_of_ne _ _ same, if_neg same]

theorem parent?_modify_children (store : Store) (id : Id) (change : List Id → List Id)
    (other : Id) :
    (store.modify id fun object => { object with children := change object.children }).parent?
        other = store.parent? other := by
  unfold parent?
  by_cases same : id = other
  · subst same
    rw [get?_modify_self]
    cases store.get? id <;> rfl
  · rw [get?_modify_of_ne _ _ same]

theorem content?_modify_children (store : Store) (id : Id) (change : List Id → List Id)
    (other : Id) :
    (store.modify id fun object => { object with children := change object.children }).content?
        other = store.content? other := by
  unfold content?
  by_cases same : id = other
  · subst same
    rw [get?_modify_self]
    cases store.get? id <;> rfl
  · rw [get?_modify_of_ne _ _ same]

/-! ### Taking in and losing an object -/

/-- A container that takes an object in has it behind its children. Other containers keep theirs. -/
theorem children_take {store : Store} {container : Id} (present : store.Has container)
    (item other : Id) :
    (store.take container item).children other =
      if container = other then store.children other ++ [item] else store.children other := by
  have present' : (store.setParent (some container) item).Has container := by
    rwa [Has, setParent, size_modify]
  rw [take, children_modify present' (· ++ [item]), children_setParent]

/-- A rule or at-rule that is taken in has the container as its parent, and other parents are kept. -/
theorem parent?_take (store : Store) (container item other : Id) :
    (store.take container item).parent? other =
      if item = other ∧ store.isLinked other = true then some container
      else store.parent? other := by
  rw [take, parent?_modify_children _ _ (· ++ [item]), parent?_setParent]

theorem isLinked_take (store : Store) (container item other : Id) :
    (store.take container item).isLinked other = store.isLinked other := by
  rw [isLinked, take, content?_modify_children _ _ (· ++ [item]), content?_setParent, isLinked]

/-- Taking in makes no object. -/
theorem has_take {store : Store} (container item other : Id) :
    (store.take container item).Has other ↔ store.Has other := by
  rw [Has, size_take, Has]

/-- What is no child is not removed. -/
theorem remove_of_notMem {store : Store} {container item : Id}
    (h : item ∉ store.children container) : store.remove container item = store := by
  rw [remove, if_neg h]

/-- A container that loses an object has its first occurrence no longer. Other containers keep theirs. -/
theorem children_remove {store : Store} {container item : Id}
    (mem : item ∈ store.children container) (other : Id) :
    (store.remove container item).children other =
      if container = other then (store.children other).erase item else store.children other := by
  rw [remove, if_pos mem, children_setParent,
    children_modify (has_of_mem_children mem) (List.erase · item)]

theorem isLinked_remove (store : Store) (container item other : Id) :
    (store.remove container item).isLinked other = store.isLinked other := by
  unfold remove
  split
  · rw [isLinked, content?_setParent, content?_modify_children _ _ (List.erase · item), isLinked]
  · rfl

/-- A rule or at-rule that is lost has no parent, and other parents are kept. -/
theorem parent?_remove {store : Store} {container item : Id}
    (mem : item ∈ store.children container) (other : Id) :
    (store.remove container item).parent? other =
      if item = other ∧ store.isLinked other = true then none else store.parent? other := by
  have same : (store.modify container fun object =>
      { object with children := object.children.erase item }).isLinked other =
        store.isLinked other := by
    rw [isLinked, content?_modify_children _ _ (List.erase · item), isLinked]
  rw [remove, if_pos mem, parent?_setParent, parent?_modify_children _ _ (List.erase · item), same]

/-- An object that loses its parent, or is not lost at all, has no parent that it did not have. -/
theorem parent?_remove_eq_none {store : Store} {id : Id} (none : store.parent? id = none)
    (container item : Id) : (store.remove container item).parent? id = .none := by
  by_cases mem : item ∈ store.children container
  · rw [parent?_remove mem]
    split
    · rfl
    · exact none
  · rwa [remove_of_notMem mem]

/-! ### Further declarations -/

/-- The links of the objects are the same in both stores. -/
structure SameLinks (store other : Store) : Prop where
  /-- The containers have the same children. -/
  children : ∀ id, other.children id = store.children id
  /-- The objects have the same parents. -/
  parent? : ∀ id, other.parent? id = store.parent? id
  /-- The same objects are rules or at-rules. -/
  isLinked : ∀ id, other.isLinked id = store.isLinked id
  /-- The stores are of one size. -/
  size : other.objects.size = store.objects.size

/-- What an object is when declarations were added to a rule. -/
theorem content?_addDeclarations (store : Store) (rule id : Id) (declarations : List Declaration) :
    (store.addDeclarations rule declarations).content? id = (store.content? id).map fun content =>
      if id = rule ∨ store.shares rule id then content.extend declarations else content := by
  rw [content?, content?, get?_addDeclarations, Option.map_map, Option.map_map]
  rfl

/-- Adding declarations changes no link. -/
theorem sameLinks_addDeclarations (store : Store) (rule : Id) (declarations : List Declaration) :
    store.SameLinks (store.addDeclarations rule declarations) where
  children id := by
    rw [children, children, get?_addDeclarations]
    cases store.get? id <;> rfl
  parent? id := by
    rw [Store.parent?, Store.parent?, get?_addDeclarations]
    cases store.get? id <;> rfl
  isLinked id := by
    rw [isLinked, isLinked, content?_addDeclarations]
    cases store.content? id with
    | none => rfl
    | some content =>
      rw [Option.map_some, Option.any_some, Option.any_some]
      split
      · exact content.isLinked_extend declarations
      · rfl
  size := size_addDeclarations ..

/-- Noting where a list came from changes no link. -/
theorem sameLinks_setOrigin (store : Store) (origin rule : Id) :
    store.SameLinks (store.setOrigin origin rule) where
  children id := by
    rw [children, children, get?_setOrigin]
    cases store.get? id <;> rfl
  parent? id := by
    rw [Store.parent?, Store.parent?, get?_setOrigin]
    cases store.get? id <;> rfl
  isLinked id := by
    rw [isLinked, isLinked, content?, content?, get?_setOrigin]
    cases store.get? id <;> rfl
  size := size_modify ..

/-! ### New objects -/

/-- A new object without children leaves the children of all containers as they are. -/
theorem children_add (store : Store) (content : Content) {origin : Option Id} (id : Id) :
    (store.add { content, origin }).2.children id = store.children id := by
  by_cases new : (store.add { content, origin }).1 = id
  · subst new
    have fresh : store.get? (store.add { content, origin }).1 = none := store.get?_add_fst _
    rw [children, get?_add_self, children, fresh]
    rfl
  · rw [children, get?_add_of_ne _ new, children]

/-- It has no parent, and the other parents are kept. -/
theorem parent?_add (store : Store) (content : Content) {origin : Option Id} (id : Id) :
    (store.add { content, origin }).2.parent? id = store.parent? id := by
  by_cases new : (store.add { content, origin }).1 = id
  · subst new
    have fresh : store.get? (store.add { content, origin }).1 = none := store.get?_add_fst _
    rw [parent?, get?_add_self, parent?, fresh]
    rfl
  · rw [parent?, get?_add_of_ne _ new, parent?]

/-- What was there stays what it is. -/
theorem isLinked_add_of_has {store : Store} {id : Id} (present : store.Has id)
    (content : Content) {origin : Option Id} :
    (store.add { content, origin }).2.isLinked id = store.isLinked id := by
  have inside : id.index < store.objects.size := present
  rw [isLinked, content?, get?_add_of_lt _ _ inside, isLinked, content?]

/-- Rules and at-rules are in the store. -/
theorem has_of_isLinked {store : Store} {id : Id} (linked : store.isLinked id = true) :
    store.Has id := by
  unfold isLinked content? at linked
  cases found : store.get? id with
  | none => simp [found] at linked
  | some object => exact has_iff.2 ⟨object, found⟩

/-! ### One move -/

namespace LinksHold

variable {store : Store}

/-- A new object without links breaks no link. -/
theorem add (holds : store.LinksHold) (content : Content) {origin : Option Id} :
    (store.add { content, origin }).2.LinksHold where
  present mem := by
    rw [children_add] at mem
    have : _ < _ := holds.present mem
    rw [Has, size_add]
    omega
  linked up := by
    rw [parent?_add] at up
    have linked := holds.linked up
    rwa [isLinked_add_of_has (has_of_isLinked linked)]
  mem up := by
    rw [parent?_add] at up
    rw [children_add]
    exact holds.mem up

/-- Taking in makes a link together with the child that it wants. -/
theorem take (holds : store.LinksHold) {container item : Id} (container_mem : store.Has container)
    (item_mem : store.Has item) : (store.take container item).LinksHold where
  present {other child} mem := by
    rw [children_take container_mem] at mem
    rw [has_take]
    split at mem
    · rcases List.mem_append.1 mem with old | new
      · exact holds.present old
      · rwa [List.mem_singleton.1 new]
    · exact holds.present mem
  linked {other child} up := by
    rw [parent?_take] at up
    rw [isLinked_take]
    split at up
    · rename_i taken
      exact taken.2
    · exact holds.linked up
  mem {other child} up := by
    rw [parent?_take] at up
    rw [children_take container_mem]
    split at up
    · rename_i taken
      obtain rfl : container = other := by simpa using up
      rw [if_pos rfl, taken.1]
      exact List.mem_append_right _ (List.mem_singleton_self _)
    · have old := holds.mem up
      split
      · exact List.mem_append_left _ old
      · exact old

/-- Losing an object clears the link that wanted it as a child. -/
theorem remove (holds : store.LinksHold) (container item : Id) :
    (store.remove container item).LinksHold := by
  by_cases lost : item ∈ store.children container
  · refine ⟨fun {other child} mem => ?_, fun {other child} up => ?_, fun {other child} up => ?_⟩
    · rw [children_remove lost] at mem
      rw [Has, size_remove]
      split at mem
      · exact holds.present (List.mem_of_mem_erase mem)
      · exact holds.present mem
    · rw [parent?_remove lost] at up
      rw [isLinked_remove]
      split at up
      · contradiction
      · exact holds.linked up
    · rw [parent?_remove lost] at up
      rw [children_remove lost]
      split at up
      · contradiction
      · rename_i not_lost
        have old := holds.mem up
        -- a rule or at-rule that still has a parent is not the one that was lost
        have apart : child ≠ item := by
          rintro rfl
          exact not_lost ⟨rfl, holds.linked up⟩
        split
        · exact (List.mem_erase_of_ne apart).2 old
        · exact old
  · rwa [remove_of_notMem lost]

theorem congr {other : Store} (holds : store.LinksHold) (same : store.SameLinks other) :
    other.LinksHold where
  present mem := by
    rw [same.children] at mem
    rw [Has, same.size]
    exact holds.present mem
  linked up := by
    rw [same.parent?] at up
    rw [same.isLinked]
    exact holds.linked up
  mem up := by
    rw [same.parent?] at up
    rw [same.children]
    exact holds.mem up

/-- Every move keeps it that parents have their objects among their children. -/
theorem move {orderly : Prop} {other : Store} (holds : store.LinksHold)
    (move : Move orderly store other) : other.LinksHold := by
  cases move with
  | add content => exact holds.add content
  | take container_mem item_mem _ => exact holds.take container_mem item_mem
  | remove container item => exact holds.remove container item
  | addDeclarations rule declarations =>
    exact holds.congr (store.sameLinks_addDeclarations rule declarations)
  | setOrigin origin rule => exact holds.congr (store.sameLinks_setOrigin origin rule)

/-- So does any number of moves. -/
theorem moves {orderly : Prop} {other : Store} (holds : store.LinksHold)
    (moves : Moves orderly store other) : other.LinksHold := by
  induction moves with
  | refl => exact holds
  | tail _ last ih => exact ih.move last

/-- An object that is in no container has no parent. -/
theorem parent?_of_isFree (holds : store.LinksHold) {id : Id} (free : store.IsFree id) :
    store.parent? id = none := by
  cases up : store.parent? id with
  | none => rfl
  | some container => exact absurd (holds.mem up) (free container)

end LinksHold

namespace LinksExact

variable {store : Store}

/-- Where there are no objects, there are no links. -/
theorem empty : ({} : Store).LinksExact where
  present mem := absurd mem (by simp [Store.children, Store.get?])
  linked up := absurd up (by simp [Store.parent?, Store.get?])
  mem up := absurd up (by simp [Store.parent?, Store.get?])
  parent mem := absurd mem (by simp [Store.children, Store.get?])
  once mem := absurd mem (by simp [Store.children, Store.get?])

/-- A rule or at-rule without a parent is in no container. -/
theorem isFree (exact' : store.LinksExact) {id : Id} (linked : store.isLinked id = true)
    (none : store.parent? id = none) : store.IsFree id := by
  intro container mem
  rw [exact'.parent mem linked] at none
  contradiction

/-- A new object is not listed anywhere. -/
theorem add (exact' : store.LinksExact) (content : Content) {origin : Option Id} :
    (store.add { content, origin }).2.LinksExact where
  toLinksHold := exact'.toLinksHold.add content
  parent mem linked := by
    rw [children_add] at mem
    rw [isLinked_add_of_has (exact'.present mem)] at linked
    rw [parent?_add]
    exact exact'.parent mem linked
  once mem linked := by
    rw [children_add] at mem ⊢
    rw [isLinked_add_of_has (exact'.present mem)] at linked
    exact exact'.once mem linked

/-- What had no parent was listed nowhere, so it is listed once when it is taken in. -/
theorem take (exact' : store.LinksExact) {container item : Id}
    (container_mem : store.Has container) (item_mem : store.Has item)
    (none : store.parent? item = none) : (store.take container item).LinksExact where
  toLinksHold := exact'.toLinksHold.take container_mem item_mem
  parent {other child} mem linked := by
    rw [isLinked_take] at linked
    rw [children_take container_mem] at mem
    rw [parent?_take]
    by_cases same : item = child
    · subst same
      have free := exact'.isFree linked none
      rw [if_pos ⟨rfl, linked⟩]
      split at mem
      · rename_i here
        rw [here]
      · exact absurd mem (free other)
    · rw [if_neg fun both => same both.1]
      refine exact'.parent ?_ linked
      split at mem
      · rcases List.mem_append.1 mem with old | new
        · exact old
        · exact absurd (List.mem_singleton.1 new).symm same
      · exact mem
  once {other child} mem linked := by
    rw [isLinked_take] at linked
    rw [children_take container_mem] at mem ⊢
    by_cases same : item = child
    · subst same
      have free := exact'.isFree linked none
      split at mem
      · rename_i here
        rw [if_pos here, List.count_append, List.count_eq_zero_of_not_mem (free other),
          List.count_singleton_self]
      · exact absurd mem (free other)
    · split at mem
      · rename_i here
        rcases List.mem_append.1 mem with old | new
        · rw [if_pos here, List.count_append, exact'.once old linked,
            List.count_eq_zero_of_not_mem (by simpa using Ne.symm same)]
        · exact absurd (List.mem_singleton.1 new).symm same
      · rename_i elsewhere
        rw [if_neg elsewhere]
        exact exact'.once mem linked

/-- What is still listed is not the object that was lost. -/
theorem remove (exact' : store.LinksExact) (container item : Id) :
    (store.remove container item).LinksExact := by
  by_cases lost : item ∈ store.children container
  · -- what is still listed somewhere is not the rule or at-rule that was lost
    have apart : ∀ {other child : Id},
        child ∈ (store.remove container item).children other → store.isLinked child = true →
          child ≠ item ∧ child ∈ store.children other := by
      intro other child mem linked
      rw [children_remove lost] at mem
      split at mem
      · rename_i here
        subst here
        have old := List.mem_of_mem_erase mem
        refine ⟨?_, old⟩
        rintro rfl
        have count := exact'.once old linked
        have left := List.count_erase_self (a := child) (l := store.children container)
        have := List.count_pos_iff.2 mem
        omega
      · rename_i elsewhere
        refine ⟨?_, mem⟩
        rintro rfl
        have up := exact'.parent mem linked
        rw [exact'.parent lost linked] at up
        exact elsewhere (Option.some.inj up)
    refine { toLinksHold := exact'.toLinksHold.remove container item, parent := ?_, once := ?_ }
    · intro other child mem linked
      rw [isLinked_remove] at linked
      obtain ⟨not_lost, old⟩ := apart mem linked
      rw [parent?_remove lost, if_neg fun both => not_lost both.1.symm]
      exact exact'.parent old linked
    · intro other child mem linked
      rw [isLinked_remove] at linked
      obtain ⟨not_lost, old⟩ := apart mem linked
      rw [children_remove lost]
      split
      · rw [List.count_erase_of_ne not_lost]
        exact exact'.once old linked
      · exact exact'.once old linked
  · rwa [remove_of_notMem lost]

theorem congr {other : Store} (exact' : store.LinksExact) (same : store.SameLinks other) :
    other.LinksExact where
  toLinksHold := exact'.toLinksHold.congr same
  parent mem linked := by
    rw [same.children] at mem
    rw [same.isLinked] at linked
    rw [same.parent?]
    exact exact'.parent mem linked
  once mem linked := by
    rw [same.children] at mem ⊢
    rw [same.isLinked] at linked
    exact exact'.once mem linked

/-- Every orderly move keeps it that rules and at-rules stand where their parent says, once. -/
theorem move {other : Store} (exact' : store.LinksExact) (move : Move True store other) :
    other.LinksExact := by
  cases move with
  | add content => exact exact'.add content
  | take container_mem item_mem free =>
    exact exact'.take container_mem item_mem (free trivial)
  | remove container item => exact exact'.remove container item
  | addDeclarations rule declarations =>
    exact exact'.congr (store.sameLinks_addDeclarations rule declarations)
  | setOrigin origin rule => exact exact'.congr (store.sameLinks_setOrigin origin rule)

/-- So does any number of orderly moves. -/
theorem moves {other : Store} (exact' : store.LinksExact) (moves : Moves True store other) :
    other.LinksExact := by
  induction moves with
  | refl => exact exact'
  | tail _ last ih => exact ih.move last

end LinksExact

/-! ### What is done in moves -/

theorem Move.size_le {orderly : Prop} {store other : Store} (move : Move orderly store other) :
    store.objects.size ≤ other.objects.size := by
  cases move with
  | add content => exact size_add .. ▸ Nat.le_succ _
  | take _ _ _ => exact Nat.le_of_eq (size_take ..).symm
  | remove container item => exact Nat.le_of_eq (size_remove ..).symm
  | addDeclarations rule declarations =>
    exact Nat.le_of_eq (store.sameLinks_addDeclarations rule declarations).size.symm
  | setOrigin origin rule => exact Nat.le_of_eq (store.sameLinks_setOrigin origin rule).size.symm

/-- No object is lost by moves. -/
theorem Has.of_moves {orderly : Prop} {store other : Store} {id : Id} (present : store.Has id)
    (moves : Moves orderly store other) : other.Has id := by
  induction moves with
  | refl => exact present
  | tail _ last ih => exact Nat.lt_of_lt_of_le ih last.size_le

/-- Taking in several objects is orderly if they are distinct and have no parent. -/
theorem moves_append {orderly : Prop} {store : Store} {container : Id} {items : List Id}
    (container_mem : store.Has container) (items_mem : ∀ item ∈ items, store.Has item)
    (free : orderly → items.Nodup ∧ ∀ item ∈ items, store.parent? item = none) :
    Moves orderly store (store.append container items) := by
  induction items generalizing store with
  | nil => exact .refl
  | cons item items ih =>
    have first : Move orderly store (store.take container item) :=
      .take container_mem (items_mem item (List.mem_cons_self ..)) fun order =>
        (free order).2 item (List.mem_cons_self ..)
    refine .head first (ih ?_ (fun other mem => ?_) fun order => ?_)
    · rwa [has_take]
    · rw [has_take]
      exact items_mem other (List.mem_cons_of_mem _ mem)
    · obtain ⟨nodup, none⟩ := free order
      obtain ⟨notMem, nodup⟩ := List.nodup_cons.1 nodup
      refine ⟨nodup, fun other mem => ?_⟩
      have apart : item ≠ other := by
        rintro rfl
        exact notMem mem
      rw [parent?_take, if_neg fun both => apart both.1]
      exact none other (List.mem_cons_of_mem _ mem)

/-- A document is known by its objects. -/
theorem ext_get? {first second : Store} (same : ∀ id, first.get? id = second.get? id) :
    first = second := by
  cases first
  cases second
  congr 1
  exact Array.ext_getElem? fun index => same ⟨index⟩

/-- Parents are set without regard to children. -/
theorem setParent_modify_children (store : Store) (container : Id) (change : List Id → List Id)
    (parent : Option Id) (id : Id) :
    (store.modify container fun object =>
        { object with children := change object.children }).setParent parent id =
      (store.setParent parent id).modify container fun object =>
        { object with children := change object.children } := by
  refine ext_get? fun other => ?_
  unfold setParent
  by_cases here : container = other <;> by_cases there : id = other
  · subst here there
    rw [get?_modify_self, get?_modify_self, get?_modify_self, get?_modify_self, Option.map_map,
      Option.map_map]
    congr 1
    funext object
    dsimp only [Function.comp_apply]
    split <;> rfl
  · subst here
    rw [get?_modify_of_ne _ _ there, get?_modify_self, get?_modify_self, get?_modify_of_ne _ _ there]
  · subst there
    rw [get?_modify_self, get?_modify_of_ne _ _ here, get?_modify_of_ne _ _ here, get?_modify_self]
  · rw [get?_modify_of_ne _ _ there, get?_modify_of_ne _ _ here, get?_modify_of_ne _ _ here,
      get?_modify_of_ne _ _ there]

theorem foldl_setParent_modify_children (store : Store) (container : Id)
    (change : List Id → List Id) (ids : List Id) :
    ids.foldl (fun store child => store.setParent (some container) child)
        (store.modify container fun object =>
          { object with children := change object.children }) =
      (ids.foldl (fun store child => store.setParent (some container) child) store).modify container
        fun object => { object with children := change object.children } := by
  induction ids generalizing store with
  | nil => rfl
  | cons id ids ih => rw [List.foldl_cons, List.foldl_cons, setParent_modify_children, ih]

theorem modify_modify_children (store : Store) (container : Id) (first second : List Id) :
    (store.modify container fun object => { object with children := object.children ++ first }).modify
        container (fun object => { object with children := object.children ++ second }) =
      store.modify container fun object =>
        { object with children := object.children ++ (first ++ second) } := by
  refine ext_get? fun other => ?_
  by_cases here : container = other
  · subst here
    rw [get?_modify_self, get?_modify_self, get?_modify_self, Option.map_map]
    congr 1
    funext object
    rw [Function.comp_apply, List.append_assoc]
  · rw [get?_modify_of_ne _ _ here, get?_modify_of_ne _ _ here, get?_modify_of_ne _ _ here]

/-- The objects that a container takes in may be given their parent before they are listed. -/
theorem append_eq_modify (store : Store) (container : Id) (items : List Id) :
    store.append container items =
      (items.foldl (fun store child => store.setParent (some container) child) store).modify container
        fun object => { object with children := object.children ++ items } := by
  induction items generalizing store with
  | nil =>
    refine ext_get? fun other => ?_
    by_cases here : container = other
    · subst here
      simp [append]
    · rw [get?_modify_of_ne _ _ here]
      rfl
  | cons item items ih =>
    have rest := ih (store.take container item)
    rw [append] at rest
    rw [append, List.foldl_cons, rest, take, foldl_setParent_modify_children _ _ (· ++ [item]),
      modify_modify_children]
    rfl

/-- A container that is made over objects is an empty container that takes them in. -/
theorem newContainer_eq_append (store : Store) (content : Content) (ids : List Id) :
    (store.newContainer content ids).2 =
      (store.add { content }).2.append (store.add { content }).1 ids := by
  have listed : (store.add { content, children := ids }).2 =
      (store.add { content }).2.modify (store.add { content }).1 fun object =>
        { object with children := object.children ++ ids } := by
    refine ext_get? fun other => ?_
    by_cases new : (store.add { content }).1 = other
    · subst new
      rw [get?_modify_self, get?_add_self]
      exact get?_add_self store { content, children := ids }
    · rw [get?_modify_of_ne _ _ new, get?_add_of_ne _ new]
      exact store.get?_add_of_ne new
  rw [append_eq_modify, ← foldl_setParent_modify_children _ _ (· ++ ids), ← listed]
  rfl

/-- Making a container over objects is orderly if they are distinct and have no parent. -/
theorem moves_newContainer {orderly : Prop} {store : Store} {ids : List Id}
    (ids_mem : ∀ id ∈ ids, store.Has id)
    (free : orderly → ids.Nodup ∧ ∀ id ∈ ids, store.parent? id = none) (content : Content) :
    Moves orderly store (store.newContainer content ids).2 := by
  rw [newContainer_eq_append]
  have made : Move orderly store (store.add { content }).2 := .add content
  have grown : ∀ {id}, store.Has id → (store.add { content }).2.Has id := fun present =>
    Nat.lt_of_lt_of_le present made.size_le
  refine .head made (moves_append ?_ (fun id mem => grown (ids_mem id mem)) fun order => ?_)
  · rw [Has, size_add]
    exact Nat.lt_succ_self _
  · obtain ⟨nodup, none⟩ := free order
    refine ⟨nodup, fun id mem => ?_⟩
    rw [parent?_add]
    exact none id mem

/-- The objects of a row of trees are distinct. -/
theorem SpellAll.nodup {store : Store} {parent : Option Id} {first last : Nat} {ids : List Id}
    {nodes : List Node} (all : store.SpellAll parent first last ids nodes) : ids.Nodup := by
  induction ids generalizing first nodes with
  | nil => exact List.nodup_nil
  | cons id ids ih =>
    cases nodes with
    | nil => simp [SpellAll] at all
    | cons node nodes =>
      rw [SpellAll] at all
      refine List.nodup_cons.2 ⟨fun mem => ?_, ih all.2⟩
      have := (all.2.index_bounds mem).1
      omega

/-- The objects of a row of trees without a parent have none. -/
theorem SpellAll.parent?_eq_none {store : Store} {first last : Nat} {ids : List Id}
    {nodes : List Node} (all : store.SpellAll none first last ids nodes) {id : Id} (mem : id ∈ ids) :
    store.parent? id = none := by
  induction ids generalizing first nodes with
  | nil => simp at mem
  | cons head ids ih =>
    cases nodes with
    | nil => simp [SpellAll] at all
    | cons node nodes =>
      rw [SpellAll] at all
      rcases List.mem_cons.1 mem with rfl | mem
      · cases node with
        | declaration content =>
          rw [Spells] at all
          exact parent?_of_get? all.1.2
        | rule selector declarations =>
          rw [Spells] at all
          exact parent?_of_get? all.1.2
        | atRule name params hasBlock nodes =>
          rw [Spells] at all
          obtain ⟨⟨_, found, _⟩, _⟩ := all
          exact parent?_of_get? found
      · exact ih all.2 mem

/-- A container over trees that were planted is made in orderly moves. -/
theorem moves_newContainer_plantAll (orderly : Prop) (store : Store) (nodes : List Node)
    (content : Content) :
    Moves orderly (store.plantAll nodes).2
      ((store.plantAll nodes).2.newContainer content (store.plantAll nodes).1).2 := by
  obtain ⟨-, all⟩ := store.plantAll_spec nodes
  exact moves_newContainer (fun id mem => (all.index_bounds mem).2)
    (fun _ => ⟨all.nodup, fun id mem => all.parent?_eq_none mem⟩) content

mutual

/-- Trees are planted in orderly moves. -/
theorem moves_plant (orderly : Prop) (store : Store) : ∀ node : Node,
    Moves orderly store (store.plant node).2
  | .declaration content => by
    rw [plant]
    exact .single (.add _)
  | .rule selector declarations => by
    rw [plant, newRule]
    exact .single (.add _)
  | .atRule name params hasBlock nodes => by
    rw [plant]
    exact (moves_plantAll orderly store nodes).trans
      (moves_newContainer_plantAll orderly store nodes _)

/-- So are rows of trees. -/
theorem moves_plantAll (orderly : Prop) (store : Store) : ∀ nodes : List Node,
    Moves orderly store (store.plantAll nodes).2
  | [] => by rw [plantAll]
  | node :: nodes => by
    rw [plantAll]
    exact (moves_plant orderly store node).trans (moves_plantAll orderly _ nodes)

end

/-- So are whole stylesheets. -/
theorem moves_plantSheet (orderly : Prop) (store : Store) (sheet : Stylesheet) :
    Moves orderly store (store.plantSheet sheet).2 :=
  (moves_plantAll orderly store sheet).trans (moves_newContainer_plantAll orderly store sheet _)

/-- What each visit does to the store, a walk does, if doing nothing and doing it twice is of the same
kind. -/
theorem visitRules_related {α : Type} {visit : α → Store → Id → α × Store}
    {R : Store → Store → Prop} (refl : ∀ store, R store store)
    (trans : ∀ {first second third}, R first second → R second third → R first third)
    (step : ∀ result store id, R store (visit result store id).2) (depth : Nat) (result : α)
    (store : Store) (ids : List Id) : R store (visitRules visit depth result store ids).2 := by
  induction depth, result, store, ids using visitRules.induct visit with
  | case1 depth result store =>
    rw [visitRules]
    exact refl store
  | case2 depth result store id ids selector declarations rule next changed visited ih =>
    have first := step result store id
    rw [visitRules_cons, rule]
    rw [visited] at first
    dsimp only
    rw [visited]
    exact trans first ih
  | case3 result store id ids name params hasBlock atRule ih =>
    rw [visitRules_cons, atRule]
    exact ih
  | case4 result store id ids name params hasBlock atRule inner next changed visited ihInner ih =>
    rw [visitRules_cons, atRule]
    dsimp only
    rw [visited] at ihInner ⊢
    exact trans ihInner ih
  | case5 depth result store id ids notRule notAtRule ih =>
    rw [visitRules_cons]
    split
    · rename_i rule
      exact absurd rule (notRule _ _)
    · rename_i atRule
      exact absurd atRule (notAtRule _ _ _)
    · exact ih

/-- Detaching is an orderly move, or none. -/
theorem moves_detach (orderly : Prop) (store : Store) (id : Id) :
    Moves orderly store (store.detach id) := by
  unfold detach
  split
  · exact .single (.remove _ _)
  · exact .refl

/-- A rule is made in an orderly move. -/
theorem moves_newRule (orderly : Prop) (store : Store) (selector : String) (declarations : List Declaration) :
    Moves orderly store (store.newRule selector declarations).2 :=
  .single (.add _)

/-- A rule is made over the list of another one in orderly moves. -/
theorem moves_newRuleOver (orderly : Prop) (store : Store) (selector : String) (other : Id) :
    Moves orderly store (store.newRuleOver selector other).2 := by
  unfold newRuleOver
  split
  · exact .head (.setOrigin _ other) (.single (.add _))
  · exact moves_newRule ..

/-- Rules are merged in orderly moves. -/
theorem moves_mergeRules (orderly : Prop) (store : Store) (container : Id) :
    Moves orderly store (store.mergeRules container) := by
  refine visitRules_related (fun _ => .refl) .trans (fun seen store id => ?_) _ _ _ _
  unfold mergeRules.mergeInto
  split
  · exact .refl
  · split
    · exact .refl
    · exact .head (.addDeclarations _ _) (moves_detach orderly _ id)

/-- Merging gives no parent to an object that has none. -/
theorem parent?_mergeRules {store : Store} {id : Id} (none : store.parent? id = none)
    (container : Id) : (store.mergeRules container).parent? id = .none := by
  refine visitRules_related (R := fun first second => first.parent? id = .none →
    second.parent? id = .none) (fun _ same => same) (fun first second => second ∘ first)
    (fun seen store rule none => ?_) _ _ _ _ none
  unfold mergeRules.mergeInto
  split
  · exact none
  · split
    · exact none
    · rename_i selector declarations _ _ first _
      have same := (store.sameLinks_addDeclarations first declarations).parent? id
      unfold detach
      split
      · exact parent?_remove_eq_none (same.trans none) _ _
      · exact same.trans none

end ViewportScaling.Document.Store
