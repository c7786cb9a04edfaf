import ViewportScaling.Proofs.Document.Coherence

/-!
# Planted sheets

A stylesheet that is planted into a store takes up consecutive places there, children before their
containers. From this follow the two facts that connect trees and stores: a planted sheet is coherent,
and the trees read off it are those that were planted.
-/

namespace ViewportScaling.Document.Store

open Css

mutual

/-- An object spells a tree whose objects have places from a first one up to its own. -/
def Spells (store : Store) (parent : Option Id) (first : Nat) (id : Id) : Node → Prop
  | .declaration content =>
    first ≤ id.index ∧ store.get? id = some ⟨.declaration content, [], none, none⟩
  | .rule selector declarations =>
    first ≤ id.index ∧ store.get? id = some ⟨.rule selector declarations, [], parent, none⟩
  | .atRule name params hasBlock nodes => ∃ children,
    store.get? id = some ⟨.atRule name params hasBlock, children, parent, none⟩ ∧
      SpellAll store (some id) first id.index children nodes

/-- Objects spell trees, one behind the other, in the places from a first one to a last one that is
left free. -/
def SpellAll (store : Store) (parent : Option Id) (first last : Nat) :
    List Id → List Node → Prop
  | [], [] => first ≤ last
  | id :: ids, node :: nodes =>
    Spells store parent first id node ∧ SpellAll store parent (id.index + 1) last ids nodes
  | _, _ => False

end

mutual

/-- The top of a tree does not stand before the first place of the tree. -/
theorem Spells.first_le {store : Store} {parent : Option Id} {first : Nat} {id : Id} :
    ∀ {node : Node}, store.Spells parent first id node → first ≤ id.index
  | .declaration _, spells => by
    rw [Spells] at spells
    exact spells.1
  | .rule _ _, spells => by
    rw [Spells] at spells
    exact spells.1
  | .atRule _ _ _ _, spells => by
    rw [Spells] at spells
    obtain ⟨_, _, all⟩ := spells
    exact all.first_le

/-- A row of trees does not end before it begins. -/
theorem SpellAll.first_le {store : Store} {parent : Option Id} {first last : Nat} :
    ∀ {ids : List Id} {nodes : List Node}, store.SpellAll parent first last ids nodes → first ≤ last
  | [], [], all => by rwa [SpellAll] at all
  | id :: ids, node :: nodes, all => by
    rw [SpellAll] at all
    have := all.1.first_le
    have := all.2.first_le
    omega
  | [], _ :: _, all => by simp [SpellAll] at all
  | _ :: _, [], all => by simp [SpellAll] at all

end

mutual

/-- What an object spells depends on the objects in the places of its tree alone. -/
theorem Spells.congr {store other : Store} {parent : Option Id} {first : Nat} {id : Id} :
    ∀ {node : Node}, store.Spells parent first id node →
      (∀ place : Id, first ≤ place.index → place.index ≤ id.index →
        other.get? place = store.get? place) →
      other.Spells parent first id node
  | .declaration _, spells, same => by
    rw [Spells] at spells ⊢
    exact ⟨spells.1, (same id spells.1 (Nat.le_refl _)).trans spells.2⟩
  | .rule _ _, spells, same => by
    rw [Spells] at spells ⊢
    exact ⟨spells.1, (same id spells.1 (Nat.le_refl _)).trans spells.2⟩
  | .atRule _ _ _ _, spells, same => by
    have first_le := spells.first_le
    rw [Spells] at spells ⊢
    obtain ⟨children, found, all⟩ := spells
    exact ⟨children, (same id first_le (Nat.le_refl _)).trans found,
      all.congr fun place low high => same place low (Nat.le_of_lt high)⟩

/-- What a row of objects spells depends on the objects in its places alone. -/
theorem SpellAll.congr {store other : Store} {parent : Option Id} {first last : Nat} :
    ∀ {ids : List Id} {nodes : List Node}, store.SpellAll parent first last ids nodes →
      (∀ place : Id, first ≤ place.index → place.index < last →
        other.get? place = store.get? place) →
      other.SpellAll parent first last ids nodes
  | [], [], all, _ => by rwa [SpellAll] at all ⊢
  | id :: ids, node :: nodes, all, same => by
    rw [SpellAll] at all ⊢
    have low := all.1.first_le
    have high := all.2.first_le
    exact ⟨all.1.congr fun place from' upTo => same place from' (by omega),
      all.2.congr fun place from' upTo => same place (by omega) upTo⟩
  | [], _ :: _, all, _ => by simp [SpellAll] at all
  | _ :: _, [], all, _ => by simp [SpellAll] at all

end

/-! ### Planting -/

/-- Objects with earlier places stay when another one is made. -/
theorem get?_add_of_lt (store : Store) (object : Object) {id : Id}
    (inside : id.index < store.objects.size) : (store.add object).2.get? id = store.get? id := by
  simp only [add, get?, Array.getElem?_push]
  rw [if_neg (by omega)]

/-- Setting the parents of objects one after another reaches exactly these objects. -/
theorem get?_foldl_setParent (container : Id) (ids : List Id) (store : Store) (id : Id) :
    (ids.foldl (fun store child => store.setParent (some container) child) store).get? id =
      (store.get? id).map fun object =>
        if id ∈ ids ∧ object.content.isLinked = true then { object with parent := some container }
        else object := by
  induction ids generalizing store with
  | nil => simp
  | cons child ids ih =>
    rw [List.foldl_cons, ih]
    by_cases same : child = id
    · subst same
      rw [setParent, get?_modify_self, Option.map_map]
      congr 1
      funext object
      by_cases linked : object.content.isLinked = true <;> simp [linked]
    · rw [setParent, get?_modify_of_ne _ _ same]
      congr 1
      funext object
      simp [Ne.symm same]

theorem size_foldl_setParent (container : Id) (ids : List Id) (store : Store) :
    (ids.foldl (fun store child => store.setParent (some container) child) store).objects.size =
      store.objects.size := by
  induction ids generalizing store with
  | nil => rfl
  | cons child ids ih =>
    rw [List.foldl_cons, ih, setParent]
    simp [modify]

/-- Every object of a row of trees has its place among theirs. -/
theorem SpellAll.index_bounds {store : Store} {parent : Option Id} {first last : Nat} {ids : List Id}
    {nodes : List Node} (all : store.SpellAll parent first last ids nodes) {id : Id}
    (mem : id ∈ ids) : first ≤ id.index ∧ id.index < last := by
  induction ids generalizing first nodes with
  | nil => simp at mem
  | cons head ids ih =>
    cases nodes with
    | nil => simp [SpellAll] at all
    | cons node nodes =>
      rw [SpellAll] at all
      have low := all.1.first_le
      have high := all.2.first_le
      rcases List.mem_cons.1 mem with rfl | mem
      · exact ⟨low, by omega⟩
      · have := ih all.2 mem
        exact ⟨by omega, this.2⟩

/-- A container that takes in new objects becomes their parent; what they hold stays. -/
theorem SpellAll.setParent {store : Store} {first last : Nat} {ids : List Id} {nodes : List Node}
    (all : store.SpellAll none first last ids nodes) (container : Id) :
    (ids.foldl (fun store child => store.setParent (some container) child) store).SpellAll
      (some container) first last ids nodes := by
  -- the objects in front of the row may be changed as well, as long as they are not in it
  suffices ∀ (before : List Id), (∀ id ∈ before, id.index < first) →
      ((before ++ ids).foldl (fun store child => store.setParent (some container) child)
        store).SpellAll (some container) first last ids nodes from
    this [] (by simp)
  induction ids generalizing first nodes with
  | nil =>
    intro before _
    cases nodes with
    | nil => rwa [SpellAll] at all ⊢
    | cons node nodes => simp [SpellAll] at all
  | cons id ids ih =>
    intro before early
    cases nodes with
    | nil => simp [SpellAll] at all
    | cons node nodes =>
      rw [SpellAll] at all ⊢
      have first_le := all.1.first_le
      refine ⟨?_, ?_⟩
      · have later : ∀ other ∈ ids, id.index < other.index := fun other mem =>
          (all.2.index_bounds mem).1
        have inner : ∀ place : Id, first ≤ place.index → place.index < id.index →
            place ∉ before ++ id :: ids := by
          intro place low high mem
          rcases List.mem_append.1 mem with mem | mem
          · have := early place mem
            omega
          · rcases List.mem_cons.1 mem with rfl | mem
            · omega
            · have := later place mem
              omega
        have self : id ∈ before ++ id :: ids := by simp
        cases node with
        | declaration content =>
          rw [Spells] at all ⊢
          refine ⟨all.1.1, ?_⟩
          rw [get?_foldl_setParent, all.1.2]
          simp [Content.isLinked]
        | rule selector declarations =>
          rw [Spells] at all ⊢
          refine ⟨all.1.1, ?_⟩
          rw [get?_foldl_setParent, all.1.2]
          simp [Content.isLinked]
        | atRule name params hasBlock nodes =>
          rw [Spells] at all ⊢
          obtain ⟨⟨children, found, below⟩, -⟩ := all
          refine ⟨children, ?_, below.congr fun place low high => ?_⟩
          · rw [get?_foldl_setParent, found]
            simp [Content.isLinked]
          · rw [get?_foldl_setParent]
            simp [inner place low high]
      · rw [List.append_cons]
        refine ih all.2 (before ++ [id]) fun other mem => ?_
        rcases List.mem_append.1 mem with mem | mem
        · have := early other mem
          omega
        · rw [List.mem_singleton.1 mem]
          exact Nat.lt_succ_self _

/-- What planting does: nothing to the old objects, and the new ones spell what was planted. -/
structure Planted (store grown : Store) : Prop where
  /-- Old objects are kept. -/
  kept : ∀ id : Id, id.index < store.objects.size → grown.get? id = store.get? id
  /-- The store does not shrink. -/
  size_le : store.objects.size ≤ grown.objects.size

/-- Planting may go on. -/
theorem Planted.trans {store middle grown : Store} (first : store.Planted middle)
    (second : middle.Planted grown) : store.Planted grown where
  kept id inside :=
    (second.kept id (Nat.lt_of_lt_of_le inside first.size_le)).trans (first.kept id inside)
  size_le := Nat.le_trans first.size_le second.size_le

/-- A new container over a row of new objects. -/
theorem newContainer_spec {store : Store} (content : Content) {first : Nat} {ids : List Id}
    {nodes : List Node}
    (all : store.SpellAll none first store.objects.size ids nodes) :
    (store.newContainer content ids).1 = ⟨store.objects.size⟩ ∧
      (store.newContainer content ids).2.get? ⟨store.objects.size⟩ = some ⟨content, ids, none, none⟩ ∧
      (store.newContainer content ids).2.SpellAll (some ⟨store.objects.size⟩) first
        store.objects.size ids nodes ∧
      (store.newContainer content ids).2.objects.size = store.objects.size + 1 ∧
      ∀ id : Id, id.index < first → (store.newContainer content ids).2.get? id = store.get? id := by
  let added := (store.add ⟨content, ids, none, none⟩).2
  have allAdded : added.SpellAll none first store.objects.size ids nodes :=
    all.congr fun place _ high => store.get?_add_of_lt _ high
  have fresh : (⟨store.objects.size⟩ : Id) ∉ ids := by
    intro mem
    have := (all.index_bounds mem).2
    exact Nat.lt_irrefl _ this
  refine ⟨rfl, ?_, allAdded.setParent ⟨store.objects.size⟩, ?_, fun id low => ?_⟩
  · refine (get?_foldl_setParent ⟨store.objects.size⟩ ids added ⟨store.objects.size⟩).trans ?_
    have found : added.get? ⟨store.objects.size⟩ = some ⟨content, ids, none, none⟩ :=
      get?_add_self store _
    rw [found]
    simp [fresh]
  · refine (size_foldl_setParent ⟨store.objects.size⟩ ids added).trans ?_
    simp [added, add]
  · refine (get?_foldl_setParent ⟨store.objects.size⟩ ids added id).trans ?_
    have notMem : id ∉ ids := by
      intro mem
      have := (all.index_bounds mem).1
      omega
    have first_le := all.first_le
    have inside : id.index < store.objects.size := by omega
    have kept : added.get? id = store.get? id := store.get?_add_of_lt _ inside
    rw [kept]
    simp [notMem]

mutual

/-- A planted tree is spelled by its new object, which has the last place. -/
theorem plant_spec (store : Store) : ∀ node : Node, store.Planted (store.plant node).2 ∧
    (store.plant node).2.Spells none store.objects.size (store.plant node).1 node ∧
    (store.plant node).1.index + 1 = (store.plant node).2.objects.size
  | .declaration content => by
    rw [plant]
    refine ⟨⟨fun id inside => store.get?_add_of_lt _ inside, ?_⟩, ?_, ?_⟩
    · simp [add]
    · rw [Spells]
      exact ⟨Nat.le_refl _, get?_add_self store _⟩
    · simp [add]
  | .rule selector declarations => by
    rw [plant, newRule]
    refine ⟨⟨fun id inside => store.get?_add_of_lt _ inside, ?_⟩, ?_, ?_⟩
    · simp [add]
    · rw [Spells]
      exact ⟨Nat.le_refl _, get?_add_self store _⟩
    · simp [add]
  | .atRule name params hasBlock nodes => by
    obtain ⟨planted, all⟩ := plantAll_spec store nodes
    obtain ⟨place, found, below, size, kept⟩ :=
      newContainer_spec (.atRule name params hasBlock) all
    rw [plant]
    dsimp only
    refine ⟨⟨fun id inside => ?_, ?_⟩, ?_, ?_⟩
    · rw [kept id inside, planted.kept id inside]
    · rw [size]
      exact Nat.le_succ_of_le planted.size_le
    · rw [Spells, place]
      exact ⟨_, found, below⟩
    · rw [place, size]

/-- Planted trees are spelled by their new objects, one behind the other. -/
theorem plantAll_spec (store : Store) : ∀ nodes : List Node, store.Planted (store.plantAll nodes).2 ∧
    (store.plantAll nodes).2.SpellAll none store.objects.size (store.plantAll nodes).2.objects.size
      (store.plantAll nodes).1 nodes
  | [] => by
    rw [plantAll, SpellAll]
    exact ⟨⟨fun _ _ => rfl, Nat.le_refl _⟩, Nat.le_refl _⟩
  | node :: nodes => by
    obtain ⟨planted, spells, last⟩ := plant_spec store node
    obtain ⟨planted', all⟩ := plantAll_spec (store.plant node).2 nodes
    rw [plantAll]
    dsimp only
    refine ⟨planted.trans planted', ?_⟩
    rw [SpellAll, last]
    exact ⟨spells.congr fun place _ high => planted'.kept place (by omega), all⟩

end

/-! ### What follows for a planted sheet -/

/-- Whether an object is a sheet that stands over a row of trees. -/
def IsPlantedSheet (store : Store) (sheet : Id) (nodes : List Node) : Prop :=
  ∃ children, store.get? sheet = some ⟨.sheet, children, none, none⟩ ∧
    store.SpellAll (some sheet) 0 sheet.index children nodes

/-- A sheet planted into an empty store stands over its trees. -/
theorem isPlantedSheet_plantSheet (nodes : Stylesheet) :
    (({} : Store).plantSheet nodes).2.IsPlantedSheet (({} : Store).plantSheet nodes).1 nodes := by
  obtain ⟨planted, all⟩ := plantAll_spec {} nodes
  obtain ⟨place, found, below, -, -⟩ := newContainer_spec .sheet all
  refine ⟨_, found, ?_⟩
  rw [plantSheet]
  dsimp only
  rw [place]
  exact below

/-- Each object of a row of trees spells one of the trees. -/
theorem SpellAll.exists_of_mem {store : Store} {parent : Option Id} {first last : Nat}
    {ids : List Id} {nodes : List Node} (all : store.SpellAll parent first last ids nodes) {id : Id}
    (mem : id ∈ ids) : ∃ first node, store.Spells parent first id node := by
  induction ids generalizing first nodes with
  | nil => simp at mem
  | cons head ids ih =>
    cases nodes with
    | nil => simp [SpellAll] at all
    | cons node nodes =>
      rw [SpellAll] at all
      rcases List.mem_cons.1 mem with rfl | mem
      · exact ⟨first, node, all.1⟩
      · exact ih all.2 mem

/-- An object that spells a tree is there, and if it is linked it has its parent. -/
theorem Spells.exists_get? {store : Store} {parent : Option Id} {first : Nat} {id : Id} {node : Node}
    (spells : store.Spells parent first id node) : ∃ object, store.get? id = some object ∧
      (store.isLinked id = true → object.parent = parent) := by
  cases node with
  | declaration content =>
    rw [Spells] at spells
    refine ⟨_, spells.2, fun linked => ?_⟩
    rw [isLinked, content?_of_get? spells.2] at linked
    contradiction
  | rule selector declarations =>
    rw [Spells] at spells
    exact ⟨_, spells.2, fun _ => rfl⟩
  | atRule name params hasBlock nodes =>
    rw [Spells] at spells
    obtain ⟨children, found, -⟩ := spells
    exact ⟨_, found, fun _ => rfl⟩

/-- The children of an object that spells a tree spell trees under it. -/
theorem Spells.exists_of_child {store : Store} {parent : Option Id} {first : Nat} {id child : Id}
    {node : Node} (spells : store.Spells parent first id node) (mem : child ∈ store.children id) :
    ∃ first node, store.Spells (some id) first child node := by
  cases node with
  | declaration content =>
    rw [Spells] at spells
    rw [children_of_get? spells.2] at mem
    simp at mem
  | rule selector declarations =>
    rw [Spells] at spells
    rw [children_of_get? spells.2] at mem
    simp at mem
  | atRule name params hasBlock nodes =>
    rw [Spells] at spells
    obtain ⟨children, found, all⟩ := spells
    rw [children_of_get? found] at mem
    exact all.exists_of_mem mem

namespace IsPlantedSheet

variable {store : Store} {sheet : Id} {nodes : List Node}

/-- Each child of a planted sheet spells a tree. -/
theorem exists_of_child (planted : store.IsPlantedSheet sheet nodes) {child : Id}
    (mem : child ∈ store.children sheet) :
    ∃ first node, store.Spells (some sheet) first child node := by
  obtain ⟨children, found, all⟩ := planted
  rw [children_of_get? found] at mem
  exact all.exists_of_mem mem

/-- A child of any container of a planted sheet spells a tree under that container. -/
theorem exists_spells (planted : store.IsPlantedSheet sheet nodes) {level : Nat}
    {container child : Id} (below : store.Below sheet level container)
    (mem : child ∈ store.children container) :
    ∃ first node, store.Spells (some container) first child node := by
  induction below generalizing child with
  | top => exact planted.exists_of_child mem
  | child _ mem' _ ih =>
    obtain ⟨first, node, spells⟩ := ih mem'
    exact spells.exists_of_child mem

/-- A planted sheet is coherent. -/
theorem coherent (planted : store.IsPlantedSheet sheet nodes) : store.Coherent sheet := by
  refine ⟨?_, fun below mem => ?_, fun below mem linked => ?_⟩
  · obtain ⟨children, found, -⟩ := planted
    exact content?_of_get? found
  · obtain ⟨first, node, spells⟩ := planted.exists_spells below mem
    obtain ⟨object, found, -⟩ := spells.exists_get?
    exact ⟨object, found⟩
  · obtain ⟨first, node, spells⟩ := planted.exists_spells below mem
    obtain ⟨object, found, up⟩ := spells.exists_get?
    rw [parent?_of_get? found, up linked]

end IsPlantedSheet

mutual

/-- The tree read off an object is the one that it spells, since depths are places and those below an
object come before it. -/
theorem Spells.nodeWithin?_eq {store : Store} {parent : Option Id} {first : Nat} {id : Id} :
    ∀ {node : Node}, store.Spells parent first id node → ∀ depth : Nat, id.index ≤ depth →
      store.nodeWithin? depth id = some node
  | .declaration content, spells, depth, _ => by
    rw [Spells] at spells
    cases depth <;> rw [nodeWithin?, content?_of_get? spells.2]
  | .rule selector declarations, spells, depth, _ => by
    rw [Spells] at spells
    cases depth <;> rw [nodeWithin?, content?_of_get? spells.2]
  | .atRule name params hasBlock nodes, spells, depth, enough => by
    rw [Spells] at spells
    obtain ⟨children, found, all⟩ := spells
    cases depth with
    | zero =>
      have none : nodes = [] := all.nodes_eq_nil (by omega)
      rw [nodeWithin?, content?_of_get? found, none]
    | succ inner =>
      rw [nodeWithin?, content?_of_get? found, children_of_get? found]
      dsimp only
      rw [all.filterMap_eq inner (by omega)]

/-- The trees that are read off a row of objects are those it spells. -/
theorem SpellAll.filterMap_eq {store : Store} {parent : Option Id} {first last : Nat} :
    ∀ {ids : List Id} {nodes : List Node}, store.SpellAll parent first last ids nodes →
      ∀ depth : Nat, last ≤ depth + 1 → ids.filterMap (store.nodeWithin? depth) = nodes
  | [], [], _, _, _ => rfl
  | id :: ids, node :: nodes, all, depth, enough => by
    rw [SpellAll] at all
    have high := all.2.first_le
    rw [List.filterMap_cons, all.1.nodeWithin?_eq depth (by omega)]
    dsimp only
    rw [all.2.filterMap_eq depth enough]
  | [], _ :: _, all, _, _ => by simp [SpellAll] at all
  | _ :: _, [], all, _, _ => by simp [SpellAll] at all

theorem SpellAll.nodes_eq_nil {store : Store} {parent : Option Id} {first last : Nat} :
    ∀ {ids : List Id} {nodes : List Node}, store.SpellAll parent first last ids nodes →
      last = 0 → nodes = []
  | [], [], _, _ => rfl
  | id :: ids, node :: nodes, all, zero => by
    rw [SpellAll] at all
    have := all.2.first_le
    omega
  | [], _ :: _, all, _ => by simp [SpellAll] at all
  | _ :: _, [], all, _ => by simp [SpellAll] at all

end

/-- The trees read off a planted sheet are those that were planted. -/
theorem IsPlantedSheet.nodes_eq {store : Store} {sheet : Id} {nodes : List Node}
    (planted : store.IsPlantedSheet sheet nodes) : store.nodes sheet = nodes := by
  obtain ⟨children, found, all⟩ := planted
  have := index_lt_of_get? found
  rw [Store.nodes, children_of_get? found]
  exact all.filterMap_eq _ (by omega)

/-- The selector and declarations of a node that is a rule. -/
def rulePart? : Node → Option (String × List Declaration)
  | .rule selector declarations => some (selector, declarations)
  | _ => none

/-- An object is a rule just if the tree it spells is one. -/
theorem Spells.rule?_eq {store : Store} {parent : Option Id} {first : Nat} {id : Id} {node : Node}
    (spells : store.Spells parent first id node) : store.rule? id = rulePart? node := by
  cases node with
  | declaration content =>
    rw [Spells] at spells
    rw [rule?, content?_of_get? spells.2, rulePart?]
    simp
  | rule selector declarations =>
    rw [Spells] at spells
    rw [rule?, content?_of_get? spells.2, rulePart?]
  | atRule name params hasBlock nodes =>
    rw [Spells] at spells
    obtain ⟨children, found, -⟩ := spells
    rw [rule?, content?_of_get? found, rulePart?]
    simp

/-- The direct rules of a planted sheet are the rules among its trees. -/
theorem IsPlantedSheet.directRules_eq {store : Store} {sheet : Id} {nodes : List Node}
    (planted : store.IsPlantedSheet sheet nodes) :
    store.directRules sheet = nodes.filterMap rulePart? := by
  obtain ⟨children, found, all⟩ := planted
  rw [directRules, children_of_get? found]
  clear found
  generalize sheet.index = last at all
  generalize 0 = first at all
  induction children generalizing first nodes with
  | nil =>
    cases nodes with
    | nil => rfl
    | cons node nodes => simp [SpellAll] at all
  | cons id ids ih =>
    cases nodes with
    | nil => simp [SpellAll] at all
    | cons node nodes =>
      rw [SpellAll] at all
      rw [List.filterMap_cons, List.filterMap_cons, all.1.rule?_eq, ih _ all.2]

end ViewportScaling.Document.Store
