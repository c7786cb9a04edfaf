import ViewportScaling.Proofs.Document.Coherence

/-!
# Sheets that grow at the end

A document grows at the end of a sheet if new objects are put into the store and the sheet takes some
of them in behind its children, while every other object stays as it is. The trees below the sheet
are then the old trees, followed by those of the new children. Growth composes. If the new children are
at-rules whose rules know them as their parents, the sheet stays coherent and has the same direct
rules.
-/

namespace ViewportScaling

open Css

/-- The tree of a media block with a condition and rules. -/
def Css.Node.media (params : String) (entries : List (String × List Declaration)) : Node :=
  .atRule "media" params true (entries.map fun entry => .rule entry.1 entry.2)

namespace Document.Store

/-- The other store is the store with new objects, of which the sheet took some in at the end. -/
structure GrowsTo (store other : Store) (sheet : Id) (added : List Id) : Prop where
  /-- Every object but the sheet is kept with its links. -/
  kept : ∀ {id : Id} {object : Object}, id ≠ sheet → store.get? id = some object →
    other.get? id = some object
  /-- The sheet has the new children behind the old ones. -/
  grown : ∀ {object : Object}, store.get? sheet = some object →
    other.get? sheet = some { object with children := object.children ++ added }
  /-- The new children are new objects. -/
  fresh : ∀ id ∈ added, store.get? id = none
  /-- No object is lost. -/
  size_le : store.objects.size ≤ other.objects.size

/-- An at-rule that holds rules with given selectors and declarations and nothing else. -/
structure IsBlock (store : Store) (block : Id) (params : String) (parent : Option Id)
    (rules : List Id) (entries : List (String × List Declaration)) : Prop where
  /-- The at-rule with its links. -/
  atRule : store.get? block = some ⟨.atRule "media" params true, rules, parent, none⟩
  /-- Its rules with theirs. -/
  holds : List.Forall₂ (fun id entry => store.get? id = some ⟨.rule entry.1 entry.2, [], some block, none⟩)
    rules entries
  /-- No rule stands in it twice. -/
  nodup : rules.Nodup

/-! ### Trees of a coherent sheet -/

variable {store other : Store} {sheet : Id} {added : List Id}

theorem GrowsTo.refl (store : Store) (sheet : Id) : store.GrowsTo store sheet [] where
  kept _ found := found
  grown found := by simpa using found
  fresh := by simp
  size_le := Nat.le_refl _

/-- What an object is does not change. -/
theorem GrowsTo.content?_eq (grows : store.GrowsTo other sheet added) {id : Id} {object : Object}
    (found : store.get? id = some object) : other.content? id = store.content? id := by
  by_cases same : id = sheet
  · subst same
    rw [content?_of_get? (grows.grown found), content?_of_get? found]
  · rw [content?_of_get? (grows.kept same found), content?_of_get? found]

/-- The children of an at-rule of the tree do not change. -/
theorem GrowsTo.children_eq (grows : store.GrowsTo other sheet added) (coherent : store.Coherent sheet)
    {id : Id} {object : Object} (found : store.get? id = some object)
    (linked : store.isLinked id = true) : other.children id = store.children id := by
  have apart : id ≠ sheet := by
    rintro rfl
    rw [coherent.not_linked_sheet] at linked
    contradiction
  rw [children_of_get? (grows.kept apart found), children_of_get? found]

/-- The tree of a child is the same in a store that has grown, at any depths that exceed the number of
levels below it. -/
theorem GrowsTo.nodeWithin?_eq (grows : store.GrowsTo other sheet added)
    (coherent : store.Coherent sheet) (depth depth' : Nat) {level : Nat} {container id : Id}
    (below : store.Below sheet level container) (mem : id ∈ store.children container)
    (enough : store.objects.size ≤ level + depth) (enough' : store.objects.size ≤ level + depth') :
    other.nodeWithin? depth' id = store.nodeWithin? depth id := by
  induction depth generalizing depth' level container id with
  | zero =>
    have := coherent.level_lt below
    omega
  | succ inner ih =>
    have bound := coherent.level_lt below
    obtain ⟨inner', rfl⟩ : ∃ inner', depth' = inner' + 1 := ⟨depth' - 1, by omega⟩
    obtain ⟨object, found⟩ := coherent.present below mem
    rw [nodeWithin?, nodeWithin?, grows.content?_eq found]
    split
    · rfl
    · rfl
    · rename_i name params hasBlock atRule
      have linked : store.isLinked id = true := by
        rw [isLinked, atRule]
        rfl
      have further := Below.child below mem linked
      rw [grows.children_eq coherent found linked]
      have same : (store.children id).filterMap (nodeWithin? other inner') =
          (store.children id).filterMap (nodeWithin? store inner) :=
        List.filterMap_congr fun child mem =>
          ih inner' further mem (by omega) (by omega)
      dsimp only
      rw [same]
    · rfl

/-- The trees under a sheet that has grown are the old trees and the new ones. -/
theorem GrowsTo.nodes_eq (grows : store.GrowsTo other sheet added)
    (coherent : store.Coherent sheet) :
    other.nodes sheet = store.nodes sheet ++ added.filterMap other.node? := by
  obtain ⟨object, found, -⟩ := exists_get?_of_content? coherent.isSheet
  have size := grows.size_le
  rw [nodes, nodes, children_of_get? (grows.grown found), children_of_get? found,
    List.filterMap_append]
  congr 1
  refine List.filterMap_congr fun child mem => ?_
  rw [← children_of_get? found] at mem
  exact grows.nodeWithin?_eq coherent _ _ .top mem (by omega) (by omega)

/-- Growth at the end of a sheet may go on. -/
theorem GrowsTo.trans {third : Store} {further : List Id} (first : store.GrowsTo other sheet added)
    (second : other.GrowsTo third sheet further) :
    store.GrowsTo third sheet (added ++ further) where
  kept apart found := second.kept apart (first.kept apart found)
  grown found := by
    have := second.grown (first.grown found)
    simpa using this
  fresh id mem := by
    rcases List.mem_append.1 mem with old | new
    · exact first.fresh id old
    · cases found : store.get? id with
      | none => rfl
      | some object =>
        have absent := second.fresh id new
        by_cases same : id = sheet
        · subst same
          rw [first.grown found] at absent
          contradiction
        · rw [first.kept same found] at absent
          contradiction
  size_le := Nat.le_trans first.size_le second.size_le

/-! ### Blocks -/

namespace IsBlock

variable {block : Id} {params : String} {parent : Option Id} {rules : List Id}
  {entries : List (String × List Declaration)}

/-- The tree of a block. -/
theorem node?_eq (holds : store.IsBlock block params parent rules entries) :
    store.node? block = some (.media params entries) := by
  have := index_lt_of_get? holds.atRule
  obtain ⟨inner, size⟩ : ∃ inner, store.objects.size = inner + 1 :=
    ⟨store.objects.size - 1, by omega⟩
  rw [node?, size, nodeWithin?, content?_of_get? holds.atRule, children_of_get? holds.atRule]
  have trees : rules.filterMap (store.nodeWithin? inner) =
      entries.map fun entry => Node.rule entry.1 entry.2 := by
    have all := holds.holds
    clear holds
    induction all with
    | nil => rfl
    | @cons id entry ids entries found _ ih =>
      have tree : store.nodeWithin? inner id = some (.rule entry.1 entry.2) := by
        cases inner <;> rw [nodeWithin?, content?_of_get? found]
      rw [List.filterMap_cons, tree, ih, List.map_cons]
  dsimp only
  rw [trees, Node.media]

/-- Every rule of a block is a rule that knows its block. -/
theorem exists_of_mem (holds : store.IsBlock block params parent rules entries) {id : Id}
    (mem : id ∈ rules) : ∃ selector declarations,
      store.get? id = some ⟨.rule selector declarations, [], some block, none⟩ := by
  have all := holds.holds
  clear holds
  induction all with
  | nil => simp at mem
  | cons found _ ih =>
    rcases List.mem_cons.1 mem with rfl | later
    · exact ⟨_, _, found⟩
    · exact ih later

/-- A block is no rule. -/
theorem rule?_eq_none (holds : store.IsBlock block params parent rules entries) :
    store.rule? block = none := by
  rw [rule?, content?_of_get? holds.atRule]

end IsBlock

/-! ### A sheet that takes in blocks stays coherent -/

/-- The children of an old object are its old ones and, if it is the sheet, the blocks. -/
theorem GrowsTo.mem_children (grows : store.GrowsTo other sheet added) {container child : Id}
    {object : Object} (found : store.get? container = some object)
    (mem : child ∈ other.children container) :
    child ∈ store.children container ∨ container = sheet ∧ child ∈ added := by
  by_cases same : container = sheet
  · subst same
    rw [children_of_get? (grows.grown found), List.mem_append] at mem
    rw [children_of_get? found]
    exact mem.imp_right fun new => ⟨rfl, new⟩
  · rw [children_of_get? (grows.kept same found), ← children_of_get? found] at mem
    exact .inl mem

/-- An object of the tree of a sheet that took in blocks is an old one, a block or a rule of one. -/
theorem GrowsTo.below_cases (grows : store.GrowsTo other sheet added)
    (coherent : store.Coherent sheet)
    (blocks : ∀ block ∈ added, ∃ params rules entries,
      other.IsBlock block params (some sheet) rules entries)
    {level : Nat} {id : Id} (below : other.Below sheet level id) :
    store.Below sheet level id ∨ id ∈ added ∨
      ∃ selector declarations block,
        other.get? id = some ⟨.rule selector declarations, [], some block, none⟩ := by
  induction below with
  | top => exact .inl .top
  | @child level container child above mem linked ih =>
    rcases ih with old | new | ⟨selector, declarations, block, rule⟩
    · obtain ⟨object, found⟩ := coherent.exists_get? old
      rcases grows.mem_children found mem with mem | ⟨-, mem⟩
      · obtain ⟨object', found'⟩ := coherent.present old mem
        rw [isLinked, grows.content?_eq found'] at linked
        exact .inl (.child old mem linked)
      · exact .inr (.inl mem)
    · obtain ⟨params, rules, entries, holds⟩ := blocks container new
      rw [children_of_get? holds.atRule] at mem
      obtain ⟨selector, declarations, rule⟩ := holds.exists_of_mem mem
      exact .inr (.inr ⟨selector, declarations, container, rule⟩)
    · rw [children_of_get? rule] at mem
      simp at mem

/-- A coherent sheet that takes in blocks of its own is coherent. -/
theorem GrowsTo.coherent (grows : store.GrowsTo other sheet added)
    (coherent : store.Coherent sheet)
    (blocks : ∀ block ∈ added, ∃ params rules entries,
      other.IsBlock block params (some sheet) rules entries) : other.Coherent sheet := by
  obtain ⟨top, foundTop, isSheet⟩ := exists_get?_of_content? coherent.isSheet
  -- a child of any container is there and, if it is linked, has that container as its parent
  have child_spec : ∀ {level : Nat} {container child : Id}, other.Below sheet level container →
      child ∈ other.children container → ∃ object, other.get? child = some object ∧
        (other.isLinked child = true → object.parent = some container) := by
    intro level container child below mem
    rcases grows.below_cases coherent blocks below with old | new | ⟨_, _, _, rule⟩
    · obtain ⟨object, found⟩ := coherent.exists_get? old
      rcases grows.mem_children found mem with mem | ⟨rfl, mem⟩
      · obtain ⟨object', found'⟩ := coherent.present old mem
        by_cases same : child = sheet
        · subst same
          refine ⟨_, grows.grown found', fun linked => ?_⟩
          rw [isLinked, grows.content?_eq found', coherent.isSheet] at linked
          contradiction
        · refine ⟨_, grows.kept same found', fun linked => ?_⟩
          rw [isLinked, grows.content?_eq found'] at linked
          rw [← parent?_of_get? found']
          exact coherent.linked old mem linked
      · obtain ⟨params, rules, entries, holds⟩ := blocks child mem
        exact ⟨_, holds.atRule, fun _ => rfl⟩
    · obtain ⟨params, rules, entries, holds⟩ := blocks container new
      rw [children_of_get? holds.atRule] at mem
      obtain ⟨selector, declarations, rule⟩ := holds.exists_of_mem mem
      exact ⟨_, rule, fun _ => rfl⟩
    · rw [children_of_get? rule] at mem
      simp at mem
  refine ⟨?_, fun below mem => ?_, fun below mem linked => ?_⟩
  · rw [grows.content?_eq foundTop, coherent.isSheet]
  · obtain ⟨object, found, -⟩ := child_spec below mem
    exact ⟨object, found⟩
  · obtain ⟨object, found, up⟩ := child_spec below mem
    rw [parent?_of_get? found]
    exact up linked

/-- Taking in blocks does not change the direct rules of a sheet. -/
theorem GrowsTo.directRules_eq (grows : store.GrowsTo other sheet added)
    (coherent : store.Coherent sheet)
    (blocks : ∀ block ∈ added, ∃ params rules entries,
      other.IsBlock block params (some sheet) rules entries) :
    other.directRules sheet = store.directRules sheet := by
  obtain ⟨object, found, -⟩ := exists_get?_of_content? coherent.isSheet
  have new : added.filterMap other.rule? = [] := by
    rw [List.filterMap_eq_nil_iff]
    intro block mem
    obtain ⟨params, rules, entries, holds⟩ := blocks block mem
    exact holds.rule?_eq_none
  rw [directRules, directRules, children_of_get? (grows.grown found), children_of_get? found,
    List.filterMap_append, new, List.append_nil]
  refine List.filterMap_congr fun child mem => ?_
  rw [← children_of_get? found] at mem
  obtain ⟨object', found'⟩ := coherent.present .top mem
  rw [rule?, rule?, grows.content?_eq found']

end Document.Store

end ViewportScaling
