import ViewportScaling.Css.Node

/-!
# Documents with shared parts

A document is a store of objects: declarations, rules, at-rules and sheets. At-rules and sheets are
containers and list their children; rules and at-rules know the container that took them in last, their
parent. An object may be a child of several containers or several times of one, and a child is removed
by its identity, not by what it holds. The parent is a link of its own: taking an object into a container
sets it, and removing the object from any container clears it.

A rule has its declarations in a list. Rules that were read, and rules that a pass makes, have lists of
their own, but a rule may be made over the list of another one. From then on both hold that list, and what
is added to it through one of them is there in the other as well.
-/

namespace ViewportScaling.Document

open Css

/-- The identity of an object. -/
structure Id where
  /-- The place of the object in its store. -/
  index : Nat
deriving DecidableEq, Repr

/-- What an object is, apart from its links. -/
inductive Content where
  /-- A declaration. -/
  | declaration (content : Declaration)
  /-- A rule. -/
  | rule (selector : String) (declarations : List Declaration)
  /-- An at-rule, written with a block or without. -/
  | atRule (name params : String) (hasBlock : Bool)
  /-- A whole stylesheet. -/
  | sheet
deriving DecidableEq, Repr

/-- Whether an object has a parent link: rules and at-rules have. -/
def Content.isLinked : Content → Bool
  | .rule _ _ | .atRule _ _ _ => true
  | _ => false

/-- A rule with further declarations behind its own. Other objects have none. -/
def Content.extend (added : List Declaration) : Content → Content
  | .rule selector declarations => .rule selector (declarations ++ added)
  | content => content

/-- A rule that is given declarations stays a rule, and other objects stay what they are. -/
@[simp] theorem Content.isLinked_extend (added : List Declaration) (content : Content) :
    (content.extend added).isLinked = content.isLinked := by
  cases content <;> rfl

/-- An object with its links. -/
structure Object where
  /-- What the object is. -/
  content : Content
  /-- The children in order, if the object is a container. -/
  children : List Id := []
  /-- The container that took the object in last, unless it was removed since. -/
  parent : Option Id := none
  /-- The rule that the list of declarations came from, if rules hold it together. A rule without such
  an origin has a list of its own. -/
  origin : Option Id := none
deriving DecidableEq, Repr

/-- The objects of a document. -/
structure Store where
  /-- The objects, each at the place that its identity gives. -/
  objects : Array Object := #[]
deriving DecidableEq, Repr

namespace Store

/-- The object with an identity. -/
def get? (store : Store) (id : Id) : Option Object := store.objects[id.index]?

/-- What an object is. -/
def content? (store : Store) (id : Id) : Option Content := (store.get? id).map Object.content

/-- The children of an object. -/
def children (store : Store) (id : Id) : List Id := ((store.get? id).map Object.children).getD []

/-- The parent of an object. -/
def parent? (store : Store) (id : Id) : Option Id := (store.get? id).bind Object.parent

/-- The rule that the list of declarations of a rule came from, if the rule holds it with others. -/
def origin? (store : Store) (id : Id) : Option Id := (store.get? id).bind Object.origin

/-- Whether two rules hold one list of declarations together. -/
def shares (store : Store) (first second : Id) : Bool :=
  (store.origin? first).any fun origin => store.origin? second = some origin

/-- Puts a new object into the store, and gives its identity. -/
def add (store : Store) (object : Object) : Id × Store :=
  (⟨store.objects.size⟩, ⟨store.objects.push object⟩)

/-- Changes one object. -/
def modify (store : Store) (id : Id) (change : Object → Object) : Store :=
  ⟨store.objects.modify id.index change⟩

/-- Whether an object is an at-rule. -/
def isAtRule (store : Store) (id : Id) : Bool :=
  match store.content? id with
  | some (.atRule _ _ _) => true
  | _ => false

/-- Whether the parent of an object is an at-rule. -/
def isNested (store : Store) (id : Id) : Bool := (store.parent? id).any store.isAtRule

/-- Sets or clears the parent of a rule or at-rule. Other objects have none. -/
def setParent (store : Store) (parent : Option Id) (id : Id) : Store :=
  store.modify id fun object =>
    if object.content.isLinked then { object with parent } else object

/-- Takes an object into a container, behind its children. -/
def take (store : Store) (container item : Id) : Store :=
  (store.setParent (some container) item).modify container fun object =>
    { object with children := object.children ++ [item] }

/-- Takes objects into a container, in order. -/
def append (store : Store) (container : Id) (items : List Id) : Store :=
  items.foldl (fun store item => store.take container item) store

/-- Removes the first occurrence of an object among the children of a container, and clears its
parent. An object that is no child of the container is left alone. -/
def remove (store : Store) (container item : Id) : Store :=
  if item ∈ store.children container then
    (store.modify container fun object =>
      { object with children := object.children.erase item }).setParent none item
  else store

/-- Removes an object from its parent, if it has one. -/
def detach (store : Store) (item : Id) : Store :=
  match store.parent? item with
  | some container => store.remove container item
  | none => store

/-- Adds declarations to the list of a rule, and so to every rule that holds this list. -/
def addDeclarations (store : Store) (rule : Id) (declarations : List Declaration) : Store :=
  ⟨store.objects.mapIdx fun index object =>
    if ⟨index⟩ = rule ∨ store.shares rule ⟨index⟩ then
      { object with content := object.content.extend declarations }
    else object⟩

/-- A new rule, with a list of its own. -/
def newRule (store : Store) (selector : String) (declarations : List Declaration) : Id × Store :=
  store.add { content := .rule selector declarations }

/-- Notes where the list of a rule came from. -/
def setOrigin (store : Store) (origin rule : Id) : Store :=
  store.modify rule fun object => { object with origin := some origin }

/-- A new rule that is made over the list of another one. -/
def newRuleOver (store : Store) (selector : String) (other : Id) : Id × Store :=
  match store.content? other with
  | some (.rule _ declarations) =>
    let origin := (store.origin? other).getD other
    (store.setOrigin origin other).add { content := .rule selector declarations, origin := some origin }
  | _ => store.newRule selector []

/-- A new container with given children, which it takes in. -/
def newContainer (store : Store) (content : Content) (children : List Id) : Id × Store :=
  let (id, added) := store.add { content, children }
  (id, children.foldl (fun store child => store.setParent (some id) child) added)

mutual

/-- Puts a tree into the store, children first. -/
def plant (store : Store) : Node → Id × Store
  | .declaration content => store.add { content := .declaration content }
  | .rule selector declarations => store.newRule selector declarations
  | .atRule name params hasBlock nodes =>
    let (children, grown) := store.plantAll nodes
    grown.newContainer (.atRule name params hasBlock) children

/-- Puts trees into the store, in order. -/
def plantAll (store : Store) : List Node → List Id × Store
  | [] => ([], store)
  | node :: nodes =>
    let (id, grown) := store.plant node
    let (ids, full) := grown.plantAll nodes
    (id :: ids, full)

end

/-- Puts a stylesheet into the store. -/
def plantSheet (store : Store) (sheet : Stylesheet) : Id × Store :=
  let (children, grown) := store.plantAll sheet
  grown.newContainer .sheet children

/-! ### What the operations do to a look-up -/

@[simp] theorem get?_modify_self (store : Store) (id : Id) (change : Object → Object) :
    (store.modify id change).get? id = (store.get? id).map change := by
  simp [modify, get?, Array.getElem?_modify]

/-- At any other identity there is what was there before. -/
theorem get?_modify_of_ne (store : Store) {id other : Id} (change : Object → Object)
    (h : id ≠ other) : (store.modify id change).get? other = store.get? other := by
  have : id.index ≠ other.index := fun same => h (by cases id; cases other; simp_all)
  simp [modify, get?, Array.getElem?_modify, this]

/-- A change to one object leaves the others as they are. -/
theorem get?_modify (store : Store) (id other : Id) (change : Object → Object) :
    (store.modify id change).get? other =
      (store.get? other).map fun object => if other = id then change object else object := by
  by_cases same : other = id
  · subst same
    simp
  · rw [get?_modify_of_ne _ _ (Ne.symm same)]
    simp [same]

@[simp] theorem get?_add_self (store : Store) (object : Object) :
    (store.add object).2.get? (store.add object).1 = some object := by
  simp [add, get?]

/-- Declarations reach the rule they are added to and those that share its list. -/
theorem get?_addDeclarations (store : Store) (rule id : Id) (declarations : List Declaration) :
    (store.addDeclarations rule declarations).get? id = (store.get? id).map fun object =>
      { object with
        content := if id = rule ∨ store.shares rule id then object.content.extend declarations
          else object.content } := by
  simp only [addDeclarations, get?, Array.getElem?_mapIdx]
  refine Option.map_congr fun object _ => ?_
  split <;> rfl

/-- Noting an origin changes nothing else about the rule, and no other object. -/
theorem get?_setOrigin (store : Store) (origin rule id : Id) :
    (store.setOrigin origin rule).get? id = (store.get? id).map fun object =>
      { object with origin := if id = rule then some origin else object.origin } := by
  rw [setOrigin, get?_modify]
  refine Option.map_congr fun object _ => ?_
  split <;> rfl

theorem size_addDeclarations (store : Store) (rule : Id) (declarations : List Declaration) :
    (store.addDeclarations rule declarations).objects.size = store.objects.size := by
  simp [addDeclarations]

/-- A rule with a list of its own shares it with no other rule. -/
theorem shares_of_origin?_eq_none {store : Store} {rule : Id} (own : store.origin? rule = none) (id : Id) :
    store.shares rule id = false := by
  rw [shares, own, Option.any_none]

end Store

end ViewportScaling.Document
