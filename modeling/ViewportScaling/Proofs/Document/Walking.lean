import ViewportScaling.Proofs.Document.ParentLinks

/-!
# The walk over a tree

The parts of a tree name the containers they stand in, and none of them is listed twice. So each part stands
below one child of each container above it, and the walk meets every rule of the tree once. A visitor may
take rules that were visited out of their containers: the children of a container are listed before the
walk comes to the first of them, so it still meets the rules that were there at the start, in their order.
What is planted from a node is such a tree.
-/

namespace ViewportScaling.Document.Store

open Css

/-- A top whose tree has coherent parent links and no part twice. -/
structure IsTree (store : Store) (top : Id) : Prop extends store.IsRooted top where
  /-- No container lists a rule or at-rule twice. -/
  once : ∀ {level : Nat} {container : Id}, store.Below top level container →
    ((store.children container).filter store.isLinked).Nodup
  /-- No rule is a container. -/
  leaf : ∀ {level : Nat} {id : Id}, store.Below top level id → (store.rule? id).isSome = true →
    store.children id = []

variable {store : Store} {top : Id}

/-- Rules have parent links. -/
theorem isLinked_of_rule? {id : Id} (rule : (store.rule? id).isSome = true) : store.isLinked id = true := by
  obtain ⟨⟨selector, declarations⟩, found⟩ := Option.isSome_iff_exists.1 rule
  rw [isLinked, rule?_eq_some_iff.1 found]
  rfl

/-- An at-rule has a name and parameters, and a block or none. -/
theorem exists_of_isAtRule {id : Id} (atRule : store.isAtRule id = true) :
    ∃ name params hasBlock, store.content? id = some (.atRule name params hasBlock) := by
  unfold isAtRule at atRule
  split at atRule
  · rename_i found
    exact ⟨_, _, _, found⟩
  · cases atRule

/-- At-rules have parent links. -/
theorem isLinked_of_isAtRule {id : Id} (atRule : store.isAtRule id = true) : store.isLinked id = true := by
  obtain ⟨name, params, hasBlock, found⟩ := exists_of_isAtRule atRule
  rw [isLinked, found]
  rfl

/-- What has a parent link is a rule or an at-rule. -/
theorem isAtRule_of_isLinked {id : Id} (linked : store.isLinked id = true) (noRule : store.rule? id = none) :
    store.isAtRule id = true := by
  unfold isLinked at linked
  unfold rule? at noRule
  unfold isAtRule
  cases found : store.content? id with
  | none =>
    rw [found] at linked
    cases linked
  | some content => cases content <;> simp_all [Content.isLinked]

/-- A container that stands in no other one is the top of a tree if every parent link is exact and no rule is
a container. -/
theorem LinksExact.isTree (exact' : store.LinksExact) (present : store.Has top) (free : store.IsFree top)
    (leaf : ∀ id, (store.rule? id).isSome = true → store.children id = []) : store.IsTree top where
  exists_top := has_iff.1 present
  present _ mem := has_iff.1 (exact'.present mem)
  linked _ mem linked := exact'.parent mem linked
  apex _ mem := absurd mem (free _)
  once {level container} _ := by
    refine List.nodup_iff_count_le_one.2 fun child => ?_
    by_cases mem : child ∈ (store.children container).filter store.isLinked
    · obtain ⟨listed, linked⟩ := List.mem_filter.1 mem
      rw [List.count_filter linked]
      exact Nat.le_of_eq (exact'.once listed linked)
    · rw [List.count_eq_zero_of_not_mem mem]
      exact Nat.zero_le 1
  leaf _ rule := leaf _ rule

/-! ### Ways down -/

/-- A way down may go on from its end. -/
theorem Below.trans {middle id : Id} {first second : Nat} (above : store.Below top first middle)
    (below : store.Below middle second id) : store.Below top (first + second) id := by
  induction below with
  | top => exact above
  | child _ mem linked ih => exact .child ih mem linked

/-- A way down starts with a child of the top. -/
theorem Below.exists_first {level : Nat} {id : Id} (below : store.Below top (level + 1) id) :
    ∃ child ∈ store.children top, store.isLinked child = true ∧ store.Below child level id := by
  induction level generalizing id with
  | zero =>
    cases below with
    | child above mem linked =>
      cases above
      exact ⟨id, mem, linked, .top⟩
  | succ level ih =>
    cases below with
    | child above mem linked =>
      obtain ⟨child, first, linked', below'⟩ := ih above
      exact ⟨child, first, linked', .child below' mem linked⟩

/-- Two ways up of one length end in one place. -/
theorem IsRooted.below_unique (rooted : store.IsRooted top) {first second id : Id} {level level' steps : Nat}
    (above : store.Below top level first) (above' : store.Below top level' second)
    (below : store.Below first steps id) (below' : store.Below second steps id) : first = second := by
  induction steps generalizing id with
  | zero =>
    cases below
    cases below'
    rfl
  | succ steps ih =>
    cases below with
    | child down mem linked =>
      cases below' with
      | child down' mem' _ =>
        have up := rooted.linked (above.trans down) mem linked
        rw [rooted.linked (above'.trans down') mem' linked, Option.some.injEq] at up
        subst up
        exact ih down down'

/-- Nothing stands below two children of a container. -/
theorem IsRooted.branch_unique (rooted : store.IsRooted top) {level : Nat} {container : Id}
    (below : store.Below top level container) {first second id : Id} {steps steps' : Nat}
    (mem : first ∈ store.children container)
    (linked : store.isLinked first = true) (mem' : second ∈ store.children container)
    (linked' : store.isLinked second = true) (down : store.Below first steps id)
    (down' : store.Below second steps' id) : first = second := by
  have above := below.child mem linked
  have above' := below.child mem' linked'
  have same := rooted.level_unique (above.trans down) (above'.trans down')
  obtain rfl : steps = steps' := by omega
  exact rooted.below_unique above above' down down'

/-! ### The walk -/

/-- The walk comes to a rule, to an at-rule that it goes down into, or to an object that it passes over. -/
@[elab_as_elim]
theorem walk_induct {motive : Nat → List Id → Prop} (nil : ∀ depth, motive depth [])
    (rule : ∀ depth id ids, (store.rule? id).isSome = true → motive depth ids → motive depth (id :: ids))
    (atRule : ∀ depth id ids, store.rule? id = none → store.isAtRule id = true →
      motive depth (store.children id) → motive (depth + 1) ids → motive (depth + 1) (id :: ids))
    (other : ∀ depth id ids, store.rule? id = none → (depth = 0 ∨ store.isAtRule id = false) →
      motive depth ids → motive depth (id :: ids))
    (depth : Nat) (ids : List Id) : motive depth ids := by
  fun_induction store.rulesWithin depth ids with
  | case1 depth => exact nil depth
  | case2 depth id ids selector declarations found ih =>
    exact rule depth id ids (by rw [rule?_eq_some_iff.2 found]; rfl) ih
  | case3 id ids name params hasBlock found ih =>
    exact other 0 id ids (by rw [rule?, found]) (.inl rfl) ih
  | case4 id ids name params hasBlock found inner ihInner ih =>
    exact atRule inner id ids (by rw [rule?, found]) (by rw [isAtRule, found]) ihInner ih
  | case5 depth id ids noRule noAtRule ih =>
    refine other depth id ids ?_ (.inr ?_) ih
    · unfold rule?
      split
      · rename_i found
        exact absurd found (noRule _ _)
      · rfl
    · unfold isAtRule
      split
      · rename_i found
        exact absurd found (noAtRule _ _ _)
      · rfl

section

variable (store : Store) (depth : Nat) {id : Id} (ids : List Id)

/-- The walk meets a rule before all that stands behind it. -/
theorem rulesWithin_of_rule (rule : (store.rule? id).isSome = true) :
    store.rulesWithin depth (id :: ids) = id :: store.rulesWithin depth ids := by
  obtain ⟨⟨selector, declarations⟩, found⟩ := Option.isSome_iff_exists.1 rule
  rw [rulesWithin.eq_def]
  simp only [rule?_eq_some_iff.1 found]

/-- It goes down into an at-rule before it goes on behind it. -/
theorem rulesWithin_of_atRule (atRule : store.isAtRule id = true) :
    store.rulesWithin (depth + 1) (id :: ids) =
      store.rulesWithin depth (store.children id) ++ store.rulesWithin (depth + 1) ids := by
  obtain ⟨name, params, hasBlock, found⟩ := exists_of_isAtRule atRule
  rw [rulesWithin.eq_def]
  simp only [found]

/-- An object that is no rule is passed over unless it is an at-rule that is not too deep. -/
theorem rulesWithin_of_other (noRule : store.rule? id = none)
    (noAtRule : depth = 0 ∨ store.isAtRule id = false) :
    store.rulesWithin depth (id :: ids) = store.rulesWithin depth ids := by
  rw [rulesWithin.eq_def]
  dsimp only
  split
  · rename_i found
    rw [rule?, found] at noRule
    cases noRule
  · rename_i found
    rcases noAtRule with rfl | noAtRule
    · rfl
    · rw [isAtRule, found] at noAtRule
      cases noAtRule
  · rfl

variable {α : Type} (visit : α → Store → Id → α × Store) (result : α)

/-- A rule is visited, and the walk goes on with what the visitor leaves. -/
theorem visitRules_of_rule (rule : (store.rule? id).isSome = true) :
    visitRules visit depth result store (id :: ids) =
      visitRules visit depth (visit result store id).1 (visit result store id).2 ids := by
  obtain ⟨⟨selector, declarations⟩, found⟩ := Option.isSome_iff_exists.1 rule
  rw [visitRules_cons, rule?_eq_some_iff.1 found]

/-- The children of an at-rule are those it has when the walk comes to it. -/
theorem visitRules_of_atRule (atRule : store.isAtRule id = true) :
    visitRules visit (depth + 1) result store (id :: ids) =
      visitRules visit (depth + 1) (visitRules visit depth result store (store.children id)).1
        (visitRules visit depth result store (store.children id)).2 ids := by
  obtain ⟨name, params, hasBlock, found⟩ := exists_of_isAtRule atRule
  rw [visitRules_cons, found]

/-- What is no rule is not visited. -/
theorem visitRules_of_other (noRule : store.rule? id = none)
    (noAtRule : depth = 0 ∨ store.isAtRule id = false) :
    visitRules visit depth result store (id :: ids) = visitRules visit depth result store ids := by
  rw [visitRules_cons]
  split
  · rename_i found
    rw [rule?, found] at noRule
    cases noRule
  · rename_i found
    rcases noAtRule with rfl | noAtRule
    · rfl
    · rw [isAtRule, found] at noAtRule
      cases noAtRule
  · rfl

end

/-! ### Rules that are met -/

section

variable {level : Nat} {container : Id}

/-- The walk meets rules that stand below the objects it starts with. -/
theorem exists_below_of_mem_rulesWithin {depth : Nat} {ids : List Id} {id : Id}
    (mem : id ∈ store.rulesWithin depth ids) :
    (store.rule? id).isSome = true ∧ ∃ start ∈ ids, store.isLinked start = true ∧
      ∃ steps, store.Below start steps id := by
  induction depth, ids using store.walk_induct with
  | nil depth =>
    rw [rulesWithin] at mem
    cases mem
  | rule depth first ids rule ih =>
    rw [rulesWithin_of_rule _ _ _ rule] at mem
    rcases List.mem_cons.1 mem with rfl | later
    · exact ⟨rule, id, List.mem_cons_self, isLinked_of_rule? rule, 0, .top⟩
    · obtain ⟨found, start, among, linked, down⟩ := ih later
      exact ⟨found, start, List.mem_cons_of_mem _ among, linked, down⟩
  | atRule depth first ids noRule atRule ihInner ih =>
    rw [rulesWithin_of_atRule _ _ _ atRule] at mem
    rcases List.mem_append.1 mem with inside | later
    · obtain ⟨found, child, among, linked, steps, down⟩ := ihInner inside
      exact ⟨found, first, List.mem_cons_self, isLinked_of_isAtRule atRule, _,
        (Below.top.child among linked).trans down⟩
    · obtain ⟨found, start, among, linked, down⟩ := ih later
      exact ⟨found, start, List.mem_cons_of_mem _ among, linked, down⟩
  | other depth first ids noRule noAtRule ih =>
    rw [rulesWithin_of_other _ _ _ noRule noAtRule] at mem
    obtain ⟨found, start, among, linked, down⟩ := ih mem
    exact ⟨found, start, List.mem_cons_of_mem _ among, linked, down⟩

/-- The walk meets the rules it starts with, to any depth. -/
theorem mem_rulesWithin_of_mem (depth : Nat) {ids : List Id} {id : Id} (mem : id ∈ ids)
    (rule : (store.rule? id).isSome = true) : id ∈ store.rulesWithin depth ids := by
  induction depth, ids using store.walk_induct with
  | nil depth => cases mem
  | rule depth first ids found ih =>
    rw [rulesWithin_of_rule _ _ _ found]
    rcases List.mem_cons.1 mem with rfl | later
    · exact List.mem_cons_self
    · exact List.mem_cons_of_mem _ (ih later)
  | atRule depth first ids noRule atRule ihInner ih =>
    rw [rulesWithin_of_atRule _ _ _ atRule]
    rcases List.mem_cons.1 mem with rfl | later
    · rw [noRule] at rule
      cases rule
    · exact List.mem_append_right _ (ih later)
  | other depth first ids noRule noAtRule ih =>
    rw [rulesWithin_of_other _ _ _ noRule noAtRule]
    rcases List.mem_cons.1 mem with rfl | later
    · rw [noRule] at rule
      cases rule
    · exact ih later

namespace IsTree

/-- The walk meets no rule twice. -/
theorem nodup_rulesWithin (tree : store.IsTree top) (depth : Nat) {ids : List Id}
    (below : store.Below top level container) (inside : ids ⊆ store.children container)
    (once : (ids.filter store.isLinked).Nodup) : (store.rulesWithin depth ids).Nodup := by
  induction depth, ids using store.walk_induct generalizing level container with
  | nil depth =>
    rw [rulesWithin]
    exact List.nodup_nil
  | rule depth id ids rule ih =>
    obtain ⟨here, inside'⟩ := List.cons_subset.1 inside
    have linked := isLinked_of_rule? rule
    rw [List.filter_cons_of_pos linked, List.nodup_cons] at once
    rw [rulesWithin_of_rule _ _ _ rule]
    refine List.nodup_cons.2 ⟨fun again => ?_, ih below inside' once.2⟩
    obtain ⟨-, start, among, linked', steps, down⟩ := exists_below_of_mem_rulesWithin again
    obtain rfl := tree.branch_unique below here linked (inside' among) linked' .top down
    exact once.1 (List.mem_filter.2 ⟨among, linked⟩)
  | atRule depth id ids noRule atRule ihInner ih =>
    obtain ⟨here, inside'⟩ := List.cons_subset.1 inside
    have linked := isLinked_of_isAtRule atRule
    rw [List.filter_cons_of_pos linked, List.nodup_cons] at once
    rw [rulesWithin_of_atRule _ _ _ atRule]
    have further := below.child here linked
    refine List.nodup_append'.2 ⟨ihInner further (List.Subset.refl _) (tree.once further),
      ih below inside' once.2, fun rule first later => ?_⟩
    obtain ⟨-, child, among, linked', steps, down⟩ := exists_below_of_mem_rulesWithin first
    obtain ⟨-, start, among', linked'', steps', down'⟩ := exists_below_of_mem_rulesWithin later
    obtain rfl := tree.branch_unique below here linked (inside' among') linked''
      ((Below.top.child among linked').trans down) down'
    exact once.1 (List.mem_filter.2 ⟨among', linked⟩)
  | other depth id ids noRule noAtRule ih =>
    rw [rulesWithin_of_other _ _ _ noRule noAtRule]
    exact ih below (List.subset_of_cons_subset inside) (once.sublist ((List.sublist_cons_self ..).filter _))

/-- The walk over a tree meets no rule twice. -/
theorem nodup_rulesBelow (tree : store.IsTree top) : (store.rulesBelow top).Nodup := by
  rw [rulesBelow_eq]
  exact tree.nodup_rulesWithin _ .top (List.Subset.refl _) (tree.once .top)

/-- The walk meets each rule below the objects it starts with that is not too deep. -/
theorem mem_rulesWithin (tree : store.IsTree top) {depth : Nat} {ids : List Id} {start id : Id} {steps : Nat}
    (below : store.Below top level container) (inside : ids ⊆ store.children container)
    (among : start ∈ ids) (linked : store.isLinked start = true) (down : store.Below start steps id)
    (bound : steps ≤ depth) (rule : (store.rule? id).isSome = true) : id ∈ store.rulesWithin depth ids := by
  induction depth, ids using store.walk_induct generalizing level container start steps with
  | nil depth => cases among
  | rule depth first ids found ih =>
    obtain ⟨here, inside'⟩ := List.cons_subset.1 inside
    rw [rulesWithin_of_rule _ _ _ found]
    rcases List.mem_cons.1 among with rfl | later
    · cases steps with
      | zero =>
        cases down
        exact List.mem_cons_self
      | succ steps =>
        obtain ⟨child, mem, -⟩ := down.exists_first
        rw [tree.leaf (below.child here linked) found] at mem
        cases mem
    · exact List.mem_cons_of_mem _ (ih below inside' later linked down bound)
  | atRule depth first ids noRule atRule ihInner ih =>
    obtain ⟨here, inside'⟩ := List.cons_subset.1 inside
    rw [rulesWithin_of_atRule _ _ _ atRule]
    rcases List.mem_cons.1 among with rfl | later
    · cases steps with
      | zero =>
        cases down
        rw [noRule] at rule
        cases rule
      | succ steps =>
        obtain ⟨child, mem, linked', down'⟩ := down.exists_first
        exact List.mem_append_left _ (ihInner (below.child here linked) (List.Subset.refl _) mem linked' down'
          (Nat.le_of_succ_le_succ bound))
    · exact List.mem_append_right _ (ih below inside' later linked down bound)
  | other depth first ids noRule noAtRule ih =>
    obtain ⟨here, inside'⟩ := List.cons_subset.1 inside
    rw [rulesWithin_of_other _ _ _ noRule noAtRule]
    rcases List.mem_cons.1 among with rfl | later
    · rcases noAtRule with rfl | noAtRule
      · obtain rfl := Nat.le_zero.1 bound
        cases down
        rw [noRule] at rule
        cases rule
      · rw [isAtRule_of_isLinked linked noRule] at noAtRule
        cases noAtRule
    · exact ih below inside' later linked down bound

/-- The walk meets the rules of the tree. -/
theorem mem_rulesBelow_iff (tree : store.IsTree top) {id : Id} :
    id ∈ store.rulesBelow top ↔
      (store.rule? id).isSome = true ∧ ∃ level, store.Below top (level + 1) id := by
  rw [rulesBelow_eq]
  constructor
  · intro mem
    obtain ⟨rule, child, among, linked, steps, down⟩ := exists_below_of_mem_rulesWithin mem
    refine ⟨rule, steps, ?_⟩
    rw [Nat.add_comm]
    exact (Below.top.child among linked).trans down
  · rintro ⟨rule, level, below⟩
    obtain ⟨child, among, linked, down⟩ := below.exists_first
    have := tree.level_lt below
    exact tree.mem_rulesWithin .top (List.Subset.refl _) among linked down (by omega) rule

end IsTree

end

/-! ### Walks that change the store -/

/-- A store that differs from another one in what the children of containers are of which the walk has visited
some. -/
structure IsAhead (store current : Store) (visited : List Id) : Prop where
  /-- The same objects are rules. -/
  rule : ∀ id, (current.rule? id).isSome = (store.rule? id).isSome
  /-- The same objects are at-rules. -/
  atRule : ∀ id, current.isAtRule id = store.isAtRule id
  /-- A container of whose rules none was visited has the children it had. -/
  children : ∀ container,
    (∀ child ∈ store.children container, (store.rule? child).isSome = true → child ∉ visited) →
    current.children container = store.children container

namespace IsAhead

variable {current : Store} {visited : List Id} {id : Id} {depth : Nat}

/-- What was no rule is none later. -/
theorem rule?_eq_none (ahead : store.IsAhead current visited) (noRule : store.rule? id = none) :
    current.rule? id = none := by
  rw [← Option.not_isSome_iff_eq_none, ahead.rule, noRule]
  exact Bool.false_ne_true

/-- What the walk was to pass over, it passes over later as well. -/
theorem noAtRule (ahead : store.IsAhead current visited)
    (noAtRule : depth = 0 ∨ store.isAtRule id = false) : depth = 0 ∨ current.isAtRule id = false := by
  rwa [ahead.atRule]

end IsAhead

section

variable {α : Type} {visit : α → Store → Id → α × Store} (Holds : List Id → α → Store → Prop)

/-- What a visitor keeps up from one rule to the next holds at the end of the walk over the rules that were
there at the start, if the visitor changes no container that the walk has not come to. -/
theorem visitRules_induct {rules : List Id}
    (ahead : ∀ {visited result current}, Holds visited result current → store.IsAhead current visited)
    (step : ∀ {visited result current id}, Holds visited result current → id ∈ rules → id ∉ visited →
      Holds (visited ++ [id]) (visit result current id).1 (visit result current id).2)
    {depth : Nat} {ids visited : List Id} {result : α} {current : Store}
    (holds : Holds visited result current)
    (inside : store.rulesWithin depth ids ⊆ rules) (nodup : (visited ++ store.rulesWithin depth ids).Nodup) :
    Holds (visited ++ store.rulesWithin depth ids) (visitRules visit depth result current ids).1
      (visitRules visit depth result current ids).2 := by
  induction depth, ids using store.walk_induct generalizing visited result current with
  | nil depth =>
    rw [rulesWithin, List.append_nil, visitRules]
    exact holds
  | rule depth id ids rule ih =>
    rw [rulesWithin_of_rule _ _ _ rule] at inside nodup ⊢
    have new : id ∉ visited := fun old => (List.nodup_append'.1 nodup).2.2 old List.mem_cons_self
    rw [visitRules_of_rule _ _ _ _ _ (((ahead holds).rule id).trans rule)]
    rw [List.append_cons] at nodup ⊢
    exact ih (step holds (inside List.mem_cons_self) new) (List.subset_of_cons_subset inside) nodup
  | atRule depth id ids noRule atRule ihInner ih =>
    rw [rulesWithin_of_atRule _ _ _ atRule] at inside nodup ⊢
    -- The rules among the children are still to be visited, so the children are those at the start.
    have same : current.children id = store.children id :=
      (ahead holds).children id fun child mem rule old => (List.nodup_append'.1 nodup).2.2 old
        (List.mem_append_left _ (mem_rulesWithin_of_mem depth mem rule))
    obtain ⟨insideInner, inside'⟩ := List.append_subset.1 inside
    rw [visitRules_of_atRule _ _ _ _ _ (((ahead holds).atRule id).trans atRule), same]
    rw [← List.append_assoc] at nodup ⊢
    exact ih (ihInner holds insideInner (List.nodup_append'.1 nodup).1) inside' nodup
  | other depth id ids noRule noAtRule ih =>
    rw [rulesWithin_of_other _ _ _ noRule noAtRule] at inside nodup ⊢
    rw [visitRules_of_other _ _ _ _ _ ((ahead holds).rule?_eq_none noRule) ((ahead holds).noAtRule noAtRule)]
    exact ih holds inside nodup

/-- What a visitor keeps up from one rule of a tree to the next holds at the end of the walk. -/
theorem IsTree.foldRules_induct (tree : store.IsTree top)
    (ahead : ∀ {visited result current}, Holds visited result current → store.IsAhead current visited)
    (step : ∀ {visited result current id}, Holds visited result current → id ∈ store.rulesBelow top →
      id ∉ visited → Holds (visited ++ [id]) (visit result current id).1 (visit result current id).2)
    {result : α} (holds : Holds [] result store) :
    Holds (store.rulesBelow top) (store.foldRules top visit result).1
      (store.foldRules top visit result).2 := by
  have same := rulesBelow_eq store top
  have inside : store.rulesWithin store.objects.size (store.children top) ⊆ store.rulesBelow top := by
    rw [same]
    exact List.Subset.refl _
  have walked : Holds ([] ++ store.rulesWithin store.objects.size (store.children top))
      (store.foldRules top visit result).1 (store.foldRules top visit result).2 :=
    visitRules_induct Holds ahead step holds inside (same ▸ tree.nodup_rulesBelow)
  rwa [List.nil_append, ← same] at walked

end

/-! ### Planted trees -/

namespace Spells

variable {parent : Option Id} {first : Nat} {node : Node}

/-- Children have earlier places. -/
theorem index_lt (spells : store.Spells parent first top node) {child : Id}
    (mem : child ∈ store.children top) : child.index < top.index := by
  cases node with
  | declaration content =>
    rw [Spells] at spells
    rw [children_of_get? spells.2] at mem
    cases mem
  | rule selector declarations =>
    rw [Spells] at spells
    rw [children_of_get? spells.2] at mem
    cases mem
  | atRule name params hasBlock nodes =>
    rw [Spells] at spells
    obtain ⟨children, found, all⟩ := spells
    rw [children_of_get? found] at mem
    exact (all.index_bounds mem).2

/-- What stands below an object that spells a tree spells a tree. -/
theorem exists_of_below (spells : store.Spells parent first top node) {level : Nat} {id : Id}
    (below : store.Below top level id) :
    (∃ parent first node, store.Spells parent first id node) ∧ id.index ≤ top.index := by
  induction below with
  | top => exact ⟨⟨parent, first, node, spells⟩, Nat.le_refl _⟩
  | child _ mem _ ih =>
    obtain ⟨⟨parent', first', node', spells'⟩, bound⟩ := ih
    obtain ⟨first'', node'', spells''⟩ := spells'.exists_of_child mem
    have := spells'.index_lt mem
    exact ⟨⟨_, first'', node'', spells''⟩, by omega⟩

/-- The children of an object that spells a tree are distinct, and a rule has none. -/
theorem nodup_children (spells : store.Spells parent first top node) : (store.children top).Nodup ∧
    ((store.rule? top).isSome = true → store.children top = []) := by
  cases node with
  | declaration content =>
    rw [Spells] at spells
    rw [children_of_get? spells.2]
    exact ⟨List.nodup_nil, fun _ => rfl⟩
  | rule selector declarations =>
    rw [Spells] at spells
    rw [children_of_get? spells.2]
    exact ⟨List.nodup_nil, fun _ => rfl⟩
  | atRule name params hasBlock nodes =>
    rw [Spells] at spells
    obtain ⟨children, found, all⟩ := spells
    rw [children_of_get? found]
    refine ⟨all.nodup, fun rule => ?_⟩
    rw [rule?, content?_of_get? found] at rule
    cases rule

/-- An object that spells a tree is the top of a tree. -/
theorem isTree (spells : store.Spells parent first top node) : store.IsTree top where
  exists_top := by
    obtain ⟨object, found, -⟩ := spells.exists_get?
    exact ⟨object, found⟩
  present below mem := by
    obtain ⟨⟨_, _, _, spells'⟩, -⟩ := spells.exists_of_below below
    obtain ⟨_, _, spells''⟩ := spells'.exists_of_child mem
    obtain ⟨object, found, -⟩ := spells''.exists_get?
    exact ⟨object, found⟩
  linked below mem linked := by
    obtain ⟨⟨_, _, _, spells'⟩, -⟩ := spells.exists_of_below below
    obtain ⟨_, _, spells''⟩ := spells'.exists_of_child mem
    obtain ⟨object, found, up⟩ := spells''.exists_get?
    rw [parent?_of_get? found, up linked]
  apex below mem := by
    obtain ⟨⟨_, _, _, spells'⟩, bound⟩ := spells.exists_of_below below
    have := spells'.index_lt mem
    omega
  once below := by
    obtain ⟨⟨_, _, _, spells'⟩, -⟩ := spells.exists_of_below below
    exact spells'.nodup_children.1.filter _
  leaf below rule := by
    obtain ⟨⟨_, _, _, spells'⟩, -⟩ := spells.exists_of_below below
    exact spells'.nodup_children.2 rule

end Spells

/-- A planted tree is a tree. -/
theorem isTree_plant (store : Store) (node : Node) : (store.plant node).2.IsTree (store.plant node).1 :=
  (plant_spec store node).2.1.isTree

end ViewportScaling.Document.Store
