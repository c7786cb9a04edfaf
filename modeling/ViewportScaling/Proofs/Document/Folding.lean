import ViewportScaling.Proofs.Document.Bare
import ViewportScaling.Proofs.Document.Grouping

/-!
# Merging the rules of a tree

Merging folds the rules of a whole tree, however deep they stand. After some rules are visited the store is
known object by object: the first rule with a selector holds the declarations of all visited rules with it,
the other visited rules have no parent, and the containers they stood in have lost them. So at the end the
walk meets the first rules only, all else stands where it stood, and merging again changes nothing.

Which declarations the first rules end up with depends on lists that rules hold together, since a list that
is added to grows for every rule that holds it. Where no two rules of the tree do, each first rule has the
declarations of the rules with its selector and no others. Where two do, that may fail.
-/

namespace ViewportScaling.Document.Store

open Css

/-! ### What merging makes of an object -/

/-- The first of some rules that has a selector. -/
def firstWith? (store : Store) (rules : List Id) (selector : String) : Option Id :=
  rules.find? fun id => (store.rule? id).any (·.1 = selector)

/-- Whether a rule is the first of some rules with its selector. -/
def isFirst (store : Store) (rules : List Id) (id : Id) : Bool :=
  (store.rule? id).any fun rule => store.firstWith? rules rule.1 = some id

/-- Whether a rule is one of some rules, and not the first with its selector. -/
def isFolded (store : Store) (rules : List Id) (id : Id) : Bool :=
  (store.rule? id).isSome && decide (id ∈ rules) && !store.isFirst rules id

/-- The declarations of some rules with a selector, in order. -/
def gathered (store : Store) (rules : List Id) (selector : String) : List Declaration :=
  declarationsOf (rules.filterMap store.rule?) selector

/-- What an object holds when some rules are merged. -/
def mergedContent (store : Store) (rules : List Id) (id : Id) : Content → Content
  | .rule selector own =>
    .rule selector (if store.firstWith? rules selector = some id then store.gathered rules selector else own)
  | content => content

/-- An object when some rules are merged. -/
def mergedObject (store : Store) (rules : List Id) (id : Id) (object : Object) : Object where
  origin := object.origin
  content := store.mergedContent rules id object.content
  children := object.children.filter fun child =>
    !(store.isFolded rules child && decide (store.parent? child = some id))
  parent := if store.isFolded rules id then none else object.parent

/-- The store when some rules are merged. -/
def merged (store : Store) (rules : List Id) : Store :=
  ⟨store.objects.mapIdx fun index object => store.mergedObject rules ⟨index⟩ object⟩

variable {store : Store} {rules : List Id} {id : Id} {top : Id}

/-- Each object is found as merging makes it. -/
theorem get?_merged (store : Store) (rules : List Id) (id : Id) :
    (store.merged rules).get? id = (store.get? id).map (store.mergedObject rules id) := by
  simp [merged, get?]

theorem content?_merged (store : Store) (rules : List Id) (id : Id) :
    (store.merged rules).content? id = (store.content? id).map (store.mergedContent rules id) := by
  rw [content?, content?, get?_merged, Option.map_map, Option.map_map]
  rfl

theorem children_merged (store : Store) (rules : List Id) (id : Id) :
    (store.merged rules).children id = (store.children id).filter fun child =>
      !(store.isFolded rules child && decide (store.parent? child = some id)) := by
  rw [children, children, get?_merged]
  cases store.get? id <;> rfl

theorem parent?_merged (store : Store) (rules : List Id) (id : Id) :
    (store.merged rules).parent? id = if store.isFolded rules id then none else store.parent? id := by
  rw [parent?, parent?, get?_merged]
  cases store.get? id with
  | none => simp
  | some object => rfl

theorem shares_merged (store : Store) (rules : List Id) (first second : Id) :
    (store.merged rules).shares first second = store.shares first second := by
  have same (id : Id) : (store.merged rules).origin? id = store.origin? id := by
    rw [origin?, origin?, get?_merged]
    cases store.get? id <;> rfl
  rw [shares, shares, same, same]

/-- A rule keeps its selector, and the first one with it holds what is gathered. -/
theorem rule?_merged (store : Store) (rules : List Id) (id : Id) :
    (store.merged rules).rule? id = (store.rule? id).map fun rule =>
      (rule.1, if store.firstWith? rules rule.1 = some id then store.gathered rules rule.1 else rule.2) := by
  rw [rule?, rule?, content?_merged]
  cases store.content? id with
  | none => rfl
  | some content => cases content <;> rfl

/-- Merging changes no selector. -/
theorem selector?_merged (store : Store) (rules : List Id) (id : Id) :
    (store.merged rules).selector? id = store.selector? id := by
  rw [selector?, rule?_merged, Option.map_map]
  rfl

theorem isAtRule_merged (store : Store) (rules : List Id) (id : Id) :
    (store.merged rules).isAtRule id = store.isAtRule id := by
  rw [isAtRule, isAtRule, content?_merged]
  cases store.content? id with
  | none => rfl
  | some content => cases content <;> rfl

theorem isLinked_merged (store : Store) (rules : List Id) (id : Id) :
    (store.merged rules).isLinked id = store.isLinked id := by
  rw [isLinked, isLinked, content?_merged]
  cases store.content? id with
  | none => rfl
  | some content => cases content <;> rfl

/-- Before the first visit nothing has changed. -/
theorem merged_nil (store : Store) : store.merged [] = store := by
  refine ext_get? fun id => ?_
  have none (selector : String) : store.firstWith? [] selector = .none := rfl
  have noneFolded (id : Id) : store.isFolded [] id = false := by simp [isFolded]
  rw [get?_merged]
  cases store.get? id with
  | none => rfl
  | some object =>
    obtain ⟨content, children, parent, origin⟩ := object
    cases content <;> simp [mergedObject, mergedContent, none, noneFolded]

/-! ### First rules -/

/-- One more rule is the first one with its selector if there was none. -/
theorem firstWith?_concat (rules : List Id) {selector : String} {declarations : List Declaration}
    (rule : store.rule? id = some (selector, declarations)) (other : String) :
    store.firstWith? (rules ++ [id]) other =
      (store.firstWith? rules other).or (if selector = other then some id else none) := by
  rw [firstWith?, List.find?_append]
  congr 1
  by_cases same : selector = other <;> simp [rule, same]

/-- The first rule with a selector is one of the rules and has the selector. -/
theorem of_firstWith?_eq_some {selector : String} (first : store.firstWith? rules selector = some id) :
    id ∈ rules ∧ ∃ declarations, store.rule? id = some (selector, declarations) := by
  have holds := List.find?_some first
  obtain ⟨rule, found, same⟩ := (Option.any_eq_true ..).1 holds
  refine ⟨List.mem_of_find?_eq_some first, rule.2, ?_⟩
  rw [found, ← of_decide_eq_true same]

/-- There is a first rule for the selector of each of the rules. -/
theorem exists_firstWith? {selector : String} {declarations : List Declaration} (mem : id ∈ rules)
    (rule : store.rule? id = some (selector, declarations)) :
    ∃ first, store.firstWith? rules selector = some first := by
  rw [← Option.isSome_iff_exists, firstWith?, List.find?_isSome]
  exact ⟨id, mem, by simp [rule]⟩

/-- One more rule adds its declarations to what is gathered for its selector. -/
theorem gathered_concat (rules : List Id) {selector : String} {declarations : List Declaration}
    (rule : store.rule? id = some (selector, declarations)) (other : String) :
    store.gathered (rules ++ [id]) other =
      store.gathered rules other ++ if selector = other then declarations else [] := by
  have single : [id].filterMap store.rule? = [(selector, declarations)] := by simp [rule]
  rw [gathered, List.filterMap_append, single, declarationsOf_append, declarationsOf_singleton]
  rfl

/-- Nothing is gathered for a selector that no rule has. -/
theorem gathered_of_none {selector : String} (none : store.firstWith? rules selector = none) :
    store.gathered rules selector = [] := by
  refine declarationsOf_of_notMem fun mem => ?_
  obtain ⟨rule, among, rfl⟩ := List.mem_map.1 mem
  obtain ⟨id, mem', found⟩ := List.mem_filterMap.1 among
  obtain ⟨first, some⟩ := exists_firstWith? mem' found
  rw [none] at some
  cases some

section

variable {selector : String} {declarations : List Declaration}

/-- A rule that is not among some rules is not the first of them. -/
theorem firstWith?_ne_some_of_notMem (new : id ∉ rules) (selector : String) :
    store.firstWith? rules selector ≠ some id :=
  fun first => new (of_firstWith?_eq_some first).1

/-- Only rules are folded. -/
theorem isFolded_of_none (noRule : store.rule? id = none) : store.isFolded rules id = false := by
  rw [isFolded, noRule]
  rfl

/-- Only rules that are visited are folded. -/
theorem isFolded_of_notMem (new : id ∉ rules) : store.isFolded rules id = false := by
  rw [isFolded, decide_eq_false new, Bool.and_false, Bool.false_and]

/-- One more rule does not change which of the earlier ones are first. -/
theorem isFirst_concat_of_mem {other : Id} (rule : store.rule? id = some (selector, declarations))
    (mem : other ∈ rules) : store.isFirst (rules ++ [id]) other = store.isFirst rules other := by
  unfold isFirst
  cases found : store.rule? other with
  | none => rfl
  | some entry =>
    obtain ⟨first, some⟩ := exists_firstWith? mem found
    rw [Option.any_some, Option.any_some, firstWith?_concat rules rule, some]
    rfl

/-- One more rule is folded if its selector has occurred. -/
theorem isFolded_concat (rule : store.rule? id = some (selector, declarations)) (new : id ∉ rules)
    (other : Id) : store.isFolded (rules ++ [id]) other =
      (store.isFolded rules other || decide (other = id) && (store.firstWith? rules selector).isSome) := by
  unfold isFolded
  by_cases same : other = id
  · subst same
    rw [isFirst, rule, Option.any_some, firstWith?_concat rules rule]
    cases known : store.firstWith? rules selector with
    | none => simp [new]
    | some first =>
      have apart : first ≠ other := by
        rintro rfl
        exact firstWith?_ne_some_of_notMem new _ known
      simp [new, apart]
  · by_cases mem : other ∈ rules
    · rw [isFirst_concat_of_mem rule mem]
      simp [mem, same]
    · simp [mem, same]

/-- One more rule with a known selector is folded itself. -/
theorem isFolded_concat_of_some (rule : store.rule? id = some (selector, declarations)) (new : id ∉ rules)
    {first : Id} (known : store.firstWith? rules selector = some first) (other : Id) :
    store.isFolded (rules ++ [id]) other = (store.isFolded rules other || decide (other = id)) := by
  rw [isFolded_concat rule new, known, Option.isSome_some, Bool.and_true]

/-! ### One visit -/

/-- A rule with a new selector is left alone. -/
theorem merged_concat_of_none (rule : store.rule? id = some (selector, declarations)) (new : id ∉ rules)
    (none : store.firstWith? rules selector = none) :
    store.merged (rules ++ [id]) = store.merged rules := by
  have folded (other : Id) : store.isFolded (rules ++ [id]) other = store.isFolded rules other := by
    rw [isFolded_concat rule new, none, Option.isSome_none, Bool.and_false, Bool.or_false]
  refine ext_get? fun other => ?_
  rw [get?_merged, get?_merged]
  refine Option.map_congr fun object found => ?_
  have content : store.mergedContent (rules ++ [id]) other object.content =
      store.mergedContent rules other object.content := by
    have here := content?_of_get? found
    cases kind : object.content with
    | rule selector' own =>
      rw [mergedContent, mergedContent, firstWith?_concat rules rule, gathered_concat rules rule]
      by_cases same : selector = selector'
      · subst same
        rw [if_pos rfl, if_pos rfl, none, Option.none_or, gathered_of_none none]
        by_cases same' : id = other
        · subst same'
          rw [kind] at here
          have : (selector, own) = (selector, declarations) :=
            Option.some.inj ((rule?_eq_some_iff.2 here).symm.trans rule)
          simp_all
        · simp [same']
      · rw [if_neg same, if_neg same, Option.or_none, List.append_nil]
    | declaration content => rfl
    | atRule name params hasBlock => rfl
    | sheet => rfl
  simp only [mergedObject, folded, content]

/-- Detaching a rule or at-rule from the container that lists it. -/
theorem get?_detach {container : Id} (up : store.parent? id = some container)
    (mem : id ∈ store.children container) (linked : store.isLinked id = true) (other : Id) :
    (store.detach id).get? other = (store.get? other).map fun object =>
      { object with
        children := if other = container then object.children.erase id else object.children
        parent := if other = id then none else object.parent } := by
  rw [detach, up]
  dsimp only
  rw [remove, if_pos mem, setParent, get?_modify, get?_modify, Option.map_map]
  refine Option.map_congr fun object found => ?_
  have kind : other = id → object.content.isLinked = true := by
    rintro rfl
    rw [isLinked, content?_of_get? found, Option.any_some] at linked
    exact linked
  by_cases same : other = id <;> by_cases same' : other = container <;> simp_all

/-- What is listed once is taken out of a list altogether. -/
theorem erase_eq_filter {ids : List Id} (once : ids.count id ≤ 1) :
    ids.erase id = ids.filter fun other => !decide (other = id) := by
  induction ids with
  | nil => rfl
  | cons first ids ih =>
    by_cases same : first = id
    · subst same
      rw [List.count_cons_self] at once
      have absent : first ∉ ids := List.count_eq_zero.1 (by omega)
      rw [List.erase_cons_head, List.filter_cons_of_neg (by simp), List.filter_eq_self.2]
      intro other mem
      simp only [Bool.not_eq_true', decide_eq_false_iff_not]
      rintro rfl
      exact absent mem
    · rw [List.count_cons_of_ne same] at once
      rw [List.erase_cons_tail (by simpa using same), List.filter_cons_of_pos (by simpa using same), ih once]

/-- A rule with a known selector extends what the first rule with it holds. -/
theorem mergedContent_concat_of_some (rule : store.rule? id = some (selector, declarations)) {first : Id}
    (known : store.firstWith? rules selector = some first) {other : Id} {content : Content}
    (found : store.content? other = some content) :
    store.mergedContent (rules ++ [id]) other content =
      if other = first then (store.mergedContent rules other content).extend declarations
      else store.mergedContent rules other content := by
  cases content with
  | rule selector' own =>
    rw [mergedContent, mergedContent, firstWith?_concat rules rule, gathered_concat rules rule]
    by_cases same : selector = selector'
    · subst same
      rw [if_pos rfl, if_pos rfl, known, Option.some_or]
      by_cases same' : other = first
      · rw [if_pos same', if_pos (congrArg some same'.symm), if_pos (congrArg some same'.symm),
          Content.extend]
      · have apart : some first ≠ some other := fun same => same' (Option.some.inj same).symm
        rw [if_neg same', if_neg apart, if_neg apart]
    · have apart : other ≠ first := by
        rintro rfl
        obtain ⟨-, own', found'⟩ := of_firstWith?_eq_some known
        rw [rule?_eq_some_iff, found] at found'
        cases found'
        exact same rfl
      rw [if_neg same, if_neg same, Option.or_none, List.append_nil, if_neg apart]
  | declaration content => exact (ite_self _).symm
  | atRule name params hasBlock => exact (ite_self _).symm
  | sheet => exact (ite_self _).symm

/-- So the first rule with the selector is given the declarations of the next one, and no other object is. -/
theorem content?_merged_concat_of_some (rule : store.rule? id = some (selector, declarations)) {first : Id}
    (known : store.firstWith? rules selector = some first) (other : Id) :
    (store.merged (rules ++ [id])).content? other = ((store.merged rules).content? other).map fun content =>
      if other = first then content.extend declarations else content := by
  rw [content?_merged, content?_merged, Option.map_map]
  exact Option.map_congr fun content found => mergedContent_concat_of_some rule known found

/-- But for its declarations, merging leaves what an object is. -/
theorem bare_mergedContent (store : Store) (rules : List Id) (id : Id) (content : Content) :
    (store.mergedContent rules id content).bare = content.bare := by
  cases content <;> rfl

/-- The container of a rule with a known selector loses the rule, and the other containers lose nothing. -/
theorem filter_isFolded_concat_of_some (rule : store.rule? id = some (selector, declarations))
    (new : id ∉ rules) {first : Id} (known : store.firstWith? rules selector = some first) {container : Id}
    (up : store.parent? id = some container) {other : Id} {ids : List Id}
    (once : other = container → ids.count id ≤ 1) :
    (ids.filter fun child =>
        !(store.isFolded (rules ++ [id]) child && decide (store.parent? child = some other))) =
      if other = container then
        (ids.filter fun child =>
          !(store.isFolded rules child && decide (store.parent? child = some other))).erase id
      else
        ids.filter fun child =>
          !(store.isFolded rules child && decide (store.parent? child = some other)) := by
  have folded := isFolded_concat_of_some rule new known
  by_cases same : other = container
  · subst same
    have once' : (ids.filter fun child =>
        !(store.isFolded rules child && decide (store.parent? child = some other))).count id ≤ 1 :=
      Nat.le_trans (List.filter_sublist.count_le id) (once rfl)
    rw [if_pos rfl, erase_eq_filter once', List.filter_filter]
    refine List.filter_congr fun child _ => ?_
    by_cases same' : child = id
    · simp [folded, same', up]
    · simp [folded, same']
  · rw [if_neg same]
    refine List.filter_congr fun child _ => ?_
    by_cases same' : child = id
    · subst same'
      have apart : store.parent? child ≠ some other := by
        rw [up]
        exact fun same' => same (Option.some.inj same').symm
      simp [apart]
    · simp [folded, same']

/-- But for the declarations, a rule with a known selector is taken out of its container. -/
theorem bare_merged_concat_of_some (rule : store.rule? id = some (selector, declarations)) (new : id ∉ rules)
    {first : Id} (known : store.firstWith? rules selector = some first) {container : Id}
    (up : store.parent? id = some container) (mem : id ∈ store.children container)
    (once : (store.children container).count id ≤ 1) :
    (store.merged (rules ++ [id])).bare = ((store.merged rules).detach id).bare := by
  have still : store.isFolded rules id = false := isFolded_of_notMem new
  have up' : (store.merged rules).parent? id = some container := by
    rw [parent?_merged, still, if_neg Bool.false_ne_true, up]
  have mem' : id ∈ (store.merged rules).children container := by
    rw [children_merged, List.mem_filter, still]
    exact ⟨mem, rfl⟩
  have linked' : (store.merged rules).isLinked id = true := by
    rw [isLinked_merged]
    exact isLinked_of_rule? (by rw [rule]; rfl)
  refine ext_get? fun other => ?_
  rw [get?_bare, get?_bare, get?_detach up' mem' linked', get?_merged, get?_merged, Option.map_map,
    Option.map_map, Option.map_map]
  refine Option.map_congr fun object found => ?_
  have once' : other = container → object.children.count id ≤ 1 := by
    rintro rfl
    rwa [children_of_get? found] at once
  have lost := filter_isFolded_concat_of_some rule new known up once'
  have parents : (if store.isFolded (rules ++ [id]) other then none else object.parent) =
      if other = id then none else if store.isFolded rules other then none else object.parent := by
    by_cases same : other = id <;> simp [isFolded_concat_of_some rule new known, same]
  simp only [Function.comp_apply, Object.bare, mergedObject, bare_mergedContent, lost, parents]

end

/-! ### The whole walk -/

/-- A rule of a tree stands once in the container that it names as its parent. -/
theorem IsTree.exists_container (tree : store.IsTree top) (mem : id ∈ store.rulesBelow top) :
    ∃ level container, store.Below top level container ∧ id ∈ store.children container ∧
      store.parent? id = some container ∧ (store.children container).count id ≤ 1 := by
  obtain ⟨rule, level, below⟩ := tree.mem_rulesBelow_iff.1 mem
  cases below with
  | @child _ container _ above among linked =>
    refine ⟨level, container, above, among, tree.linked above among linked, ?_⟩
    rw [← List.count_filter linked]
    exact List.nodup_iff_count_le_one.1 (tree.once above) id

/-- A store in which some rules are merged differs in the containers of these rules only. -/
theorem isAhead_merged (store : Store) (rules : List Id) : store.IsAhead (store.merged rules) rules where
  rule id := by rw [rule?_merged, Option.isSome_map]
  atRule := store.isAtRule_merged rules
  children container none := by
    rw [children_merged, List.filter_eq_self]
    intro child mem
    have still : store.isFolded rules child = false := by
      cases rule : store.rule? child with
      | none => exact isFolded_of_none rule
      | some entry => exact isFolded_of_notMem (none child mem (by rw [rule]; rfl))
    rw [still]
    rfl

/-- Whether a rule holds its list of declarations with none of some other rules. -/
def IsAlone (store : Store) (rules : List Id) (id : Id) : Prop :=
  ∀ rule ∈ rules, store.shares rule id = true → rule = id

/-- Whether no two of some rules hold a list of declarations together. -/
def Unshared (store : Store) (rules : List Id) : Prop := ∀ id ∈ rules, store.IsAlone rules id

instance (store : Store) (rules : List Id) (id : Id) : Decidable (store.IsAlone rules id) :=
  inferInstanceAs (Decidable (∀ rule ∈ rules, _ → _))

instance (store : Store) (rules : List Id) : Decidable (store.Unshared rules) :=
  inferInstanceAs (Decidable (∀ id ∈ rules, store.IsAlone rules id))

/-- How far a walk that merges has come: but for declarations it has merged the rules that it visited, and it
has the first with each selector in mind. -/
structure MergesTo (store : Store) (top : Id) (visited : List Id) (seen : List (String × Id))
    (current : Store) : Prop where
  /-- The visited rules are rules of the tree. -/
  known : visited ⊆ store.rulesBelow top
  /-- But for declarations, they are merged. -/
  bare : current.bare = (store.merged visited).bare
  /-- A rule that shares its list with no rule of the tree has the declarations that merging gives it. For a
  rule of the tree this takes that none of them share a list: what is folded into it is to be unchanged. -/
  holds : ∀ id, store.IsAlone (store.rulesBelow top) id →
    (id ∈ store.rulesBelow top → store.Unshared (store.rulesBelow top)) →
    current.content? id = (store.merged visited).content? id
  /-- The first of the visited rules with each selector is listed. -/
  lookup : ∀ selector, seen.lookup selector = store.firstWith? visited selector

namespace MergesTo

variable {visited : List Id} {seen : List (String × Id)} {current : Store}

/-- The walk meets the rules that merging leaves. -/
theorem rulesBelow (merges : store.MergesTo top visited seen current) :
    current.rulesBelow top = (store.merged visited).rulesBelow top := by
  rw [← rulesBelow_bare, merges.bare, rulesBelow_bare]

/-- The containers have the children that merging leaves. -/
theorem children (merges : store.MergesTo top visited seen current) (id : Id) :
    current.children id = (store.merged visited).children id := by
  rw [← children_bare, merges.bare, children_bare]

/-- The objects have the parents that merging leaves. -/
theorem parent? (merges : store.MergesTo top visited seen current) (id : Id) :
    current.parent? id = (store.merged visited).parent? id := by
  rw [← parent?_bare, merges.bare, parent?_bare]

/-- The rules have their selectors still. -/
theorem selector? (merges : store.MergesTo top visited seen current) (id : Id) :
    current.selector? id = store.selector? id := by
  rw [← selector?_bare, merges.bare, selector?_bare, selector?_merged]

/-- What is to come is not changed in its links. -/
theorem isAhead (merges : store.MergesTo top visited seen current) : store.IsAhead current visited where
  rule id := by
    rw [← isSome_rule?_bare, merges.bare, isSome_rule?_bare]
    exact (store.isAhead_merged visited).rule id
  atRule id := by
    rw [← isAtRule_bare, merges.bare, isAtRule_bare, isAtRule_merged]
  children container unmet := by
    rw [merges.children]
    exact (store.isAhead_merged visited).children container unmet

/-- A rule that is not visited has the selector it had. If no two rules of the tree share a list, it has the
declarations it had as well. -/
theorem exists_rule? (merges : store.MergesTo top visited seen current) {selector : String}
    {declarations : List Declaration} (rule : store.rule? id = some (selector, declarations))
    (mem : id ∈ store.rulesBelow top) (new : id ∉ visited) :
    ∃ held, current.rule? id = some (selector, held) ∧
      (store.Unshared (store.rulesBelow top) → held = declarations) := by
  have same : (store.merged visited).rule? id = some (selector, declarations) := by
    rw [rule?_merged, rule, Option.map_some, if_neg (firstWith?_ne_some_of_notMem new selector)]
  have selectors : current.selector? id = some selector := by
    rw [merges.selector?, Store.selector?, rule, Option.map_some]
  obtain ⟨⟨_, held⟩, found, rfl⟩ := Option.map_eq_some_iff.1 selectors
  refine ⟨held, found, fun unshared => ?_⟩
  have contents := merges.holds id (unshared id mem) fun _ => unshared
  rw [rule?_eq_some_iff.1 same, rule?_eq_some_iff.1 found, Option.some.injEq, Content.rule.injEq] at contents
  exact contents.2

end MergesTo

/-- One more visit merges one more rule. -/
theorem IsTree.mergesTo_concat (tree : store.IsTree top) {visited : List Id} {seen : List (String × Id)}
    {current : Store} (merges : store.MergesTo top visited seen current) (mem : id ∈ store.rulesBelow top)
    (new : id ∉ visited) : store.MergesTo top (visited ++ [id]) (mergeRules.mergeInto seen current id).1
      (mergeRules.mergeInto seen current id).2 := by
  obtain ⟨⟨selector, declarations⟩, rule⟩ := Option.isSome_iff_exists.1 (tree.mem_rulesBelow_iff.1 mem).1
  obtain ⟨held, found, heldOf⟩ := merges.exists_rule? rule mem new
  have known' : visited ++ [id] ⊆ store.rulesBelow top :=
    List.append_subset.2 ⟨merges.known, List.cons_subset.2 ⟨mem, List.nil_subset _⟩⟩
  rw [mergeRules.mergeInto, found]
  dsimp only
  rw [merges.lookup]
  cases known : store.firstWith? visited selector with
  | none =>
    have same := merged_concat_of_none rule new known
    refine ⟨known', by rw [same]; exact merges.bare, by rw [same]; exact merges.holds, fun other => ?_⟩
    rw [List.lookup_append, merges.lookup, firstWith?_concat visited rule]
    congr 1
    by_cases same : selector = other
    · simp [same]
    · have apart : (other == selector) = false := beq_false_of_ne (Ne.symm same)
      simp [List.lookup_cons, same, apart]
  | some first =>
    obtain ⟨level, container, -, among, up, once⟩ := tree.exists_container mem
    have firstIn : first ∈ store.rulesBelow top := merges.known (of_firstWith?_eq_some known).1
    refine ⟨known', ?_, fun other alone unshared => ?_, fun other => ?_⟩
    · rw [bare_merged_concat_of_some rule new known up among once, bare_detach, bare_addDeclarations,
        merges.bare, bare_detach]
    · -- The added declarations reach no other rule that holds its list alone.
      have reach : (other = first ∨ current.shares first other = true) ↔ other = first := by
        rw [← shares_bare, merges.bare, shares_bare, shares_merged, or_iff_left_iff_imp]
        exact fun shares => (alone first firstIn shares).symm
      rw [content?_detach, content?_addDeclarations, merges.holds other alone unshared,
        content?_merged_concat_of_some rule known other]
      refine Option.map_congr fun content _ => ?_
      simp only [reach]
      by_cases same : other = first
      · subst same
        rw [heldOf (unshared firstIn)]
      · rw [if_neg same, if_neg same]
    · rw [merges.lookup, firstWith?_concat visited rule]
      by_cases same : selector = other
      · subst same
        rw [known]
        rfl
      · rw [if_neg same, Option.or_none]

/-- Merging the rules of a tree is merging the rules that the walk meets. -/
theorem IsTree.mergesTo (tree : store.IsTree top) :
    ∃ seen, store.MergesTo top (store.rulesBelow top) seen (store.mergeRules top) := by
  have start : store.MergesTo top [] [] store := by
    refine ⟨List.nil_subset _, ?_, fun _ _ _ => ?_, fun _ => rfl⟩ <;> rw [merged_nil]
  exact ⟨_, tree.foldRules_induct (store.MergesTo top) MergesTo.isAhead tree.mergesTo_concat start⟩

/-! ### What is left -/

/-- The containers of a tree lose the rules that are folded. -/
theorem IsTree.children_merged (tree : store.IsTree top) {level : Nat} {container : Id}
    (below : store.Below top level container) :
    (store.merged (store.rulesBelow top)).children container =
      (store.children container).filter fun child => !store.isFolded (store.rulesBelow top) child := by
  rw [Store.children_merged]
  refine List.filter_congr fun child mem => ?_
  cases rule : store.rule? child with
  | none => simp [isFolded, rule]
  | some entry =>
    have up := tree.linked below mem (isLinked_of_rule? (by rw [rule]; rfl))
    rw [up, decide_eq_true rfl, Bool.and_true]

/-- The walk over the merged tree meets the rules that are not folded. -/
theorem IsTree.rulesWithin_merged (tree : store.IsTree top) (depth : Nat) {ids : List Id} {level : Nat}
    {container : Id} (below : store.Below top level container) (inside : ids ⊆ store.children container) :
    (store.merged (store.rulesBelow top)).rulesWithin depth
        (ids.filter fun child => !store.isFolded (store.rulesBelow top) child) =
      (store.rulesWithin depth ids).filter fun id => !store.isFolded (store.rulesBelow top) id := by
  have ahead := store.isAhead_merged (store.rulesBelow top)
  induction depth, ids using store.walk_induct generalizing level container with
  | nil depth => rw [List.filter_nil, rulesWithin, rulesWithin, List.filter_nil]
  | rule depth id ids rule ih =>
    have rest := ih below (List.subset_of_cons_subset inside)
    rw [rulesWithin_of_rule _ _ _ rule, List.filter_cons, List.filter_cons]
    split
    · rw [rulesWithin_of_rule _ _ _ ((ahead.rule id).trans rule), rest]
    · exact rest
  | atRule depth id ids noRule atRule ihInner ih =>
    obtain ⟨here, inside'⟩ := List.cons_subset.1 inside
    have further := below.child here (isLinked_of_isAtRule atRule)
    rw [rulesWithin_of_atRule _ _ _ atRule, List.filter_cons_of_pos (by rw [isFolded_of_none noRule]; rfl),
      rulesWithin_of_atRule _ _ _ ((ahead.atRule id).trans atRule), tree.children_merged further,
      ihInner further (List.Subset.refl _), ih below inside', List.filter_append]
  | other depth id ids noRule noAtRule ih =>
    rw [rulesWithin_of_other _ _ _ noRule noAtRule,
      List.filter_cons_of_pos (by rw [isFolded_of_none noRule]; rfl),
      rulesWithin_of_other _ _ _ (ahead.rule?_eq_none noRule) (ahead.noAtRule noAtRule)]
    exact ih below (List.subset_of_cons_subset inside)

theorem size_merged (store : Store) (rules : List Id) :
    (store.merged rules).objects.size = store.objects.size := by
  simp [merged]

/-- The walk over the merged tree meets the first rules. -/
theorem IsTree.rulesBelow_merged (tree : store.IsTree top) :
    (store.merged (store.rulesBelow top)).rulesBelow top =
      (store.rulesBelow top).filter (store.isFirst (store.rulesBelow top)) := by
  rw [rulesBelow_eq (store.merged _), size_merged, tree.children_merged .top,
    tree.rulesWithin_merged _ .top (List.Subset.refl _), ← rulesBelow_eq]
  refine List.filter_congr fun id mem => ?_
  rw [isFolded, (tree.mem_rulesBelow_iff.1 mem).1, decide_eq_true mem, Bool.true_and, Bool.true_and,
    Bool.not_not]

/-- No two first rules have one selector. -/
theorem nodup_selector?_filter {rules : List Id} (nodup : rules.Nodup) :
    ((rules.filter (store.isFirst rules)).filterMap store.selector?).Nodup := by
  have first : ∀ id ∈ rules.filter (store.isFirst rules), ∀ selector, store.selector? id = some selector →
      store.firstWith? rules selector = some id := by
    intro id mem selector found
    obtain ⟨rule, same, rfl⟩ := Option.map_eq_some_iff.1 found
    have holds := (List.mem_filter.1 mem).2
    rw [isFirst, same, Option.any_some] at holds
    exact of_decide_eq_true holds
  rw [List.Nodup, List.pairwise_filterMap]
  refine (nodup.filter _).imp_of_mem ?_
  rintro id other mem mem' apart selector found selector' found' rfl
  exact apart (Option.some.inj ((first _ mem _ found).symm.trans (first _ mem' _ found')))

/-! ### Merging again -/

/-- A walk over rules with distinct selectors folds none of them. -/
theorem visitRules_mergeInto_of_nodup {depth : Nat} {ids : List Id} {seen : List (String × Id)}
    (distinct : (seen.map Prod.fst ++ (store.rulesWithin depth ids).filterMap store.selector?).Nodup) :
    ∃ seen', visitRules mergeRules.mergeInto depth seen store ids = (seen', store) ∧
      seen'.map Prod.fst = seen.map Prod.fst ++ (store.rulesWithin depth ids).filterMap store.selector? := by
  induction depth, ids using store.walk_induct generalizing seen with
  | nil depth => exact ⟨seen, by rw [visitRules], by rw [rulesWithin, List.filterMap_nil, List.append_nil]⟩
  | rule depth id ids rule ih =>
    obtain ⟨⟨selector, declarations⟩, found⟩ := Option.isSome_iff_exists.1 rule
    have first : store.selector? id = some selector := by rw [selector?, found]; rfl
    rw [rulesWithin_of_rule _ _ _ rule, List.filterMap_cons_some first, List.append_cons] at distinct ⊢
    have new : seen.lookup selector = none := by
      rw [List.lookup_eq_none_iff]
      intro entry mem
      rw [bne_iff_ne]
      rintro rfl
      have apart := (List.nodup_append'.1 (List.nodup_append'.1 distinct).1).2.2
      exact apart (List.mem_map_of_mem mem) List.mem_cons_self
    have visited : mergeRules.mergeInto seen store id = (seen ++ [(selector, id)], store) := by
      rw [mergeRules.mergeInto, found]
      dsimp only
      rw [new]
    rw [visitRules_of_rule _ _ _ _ _ rule, visited]
    have distinct' : ((seen ++ [(selector, id)]).map Prod.fst ++
        (store.rulesWithin depth ids).filterMap store.selector?).Nodup := by simpa using distinct
    obtain ⟨seen', walked, keys⟩ := ih distinct'
    exact ⟨seen', walked, by simpa using keys⟩
  | atRule depth id ids noRule atRule ihInner ih =>
    rw [rulesWithin_of_atRule _ _ _ atRule, List.filterMap_append, ← List.append_assoc] at distinct ⊢
    obtain ⟨middle, walked, keys⟩ := ihInner (List.nodup_append'.1 distinct).1
    rw [← keys] at distinct ⊢
    rw [visitRules_of_atRule _ _ _ _ _ atRule, walked]
    exact ih distinct
  | other depth id ids noRule noAtRule ih =>
    rw [rulesWithin_of_other _ _ _ noRule noAtRule] at distinct ⊢
    rw [visitRules_of_other _ _ _ _ _ noRule noAtRule]
    exact ih distinct

/-- Nothing is merged where no two rules have one selector. -/
theorem mergeRules_of_nodup (distinct : ((store.rulesBelow top).filterMap store.selector?).Nodup) :
    store.mergeRules top = store := by
  rw [rulesBelow_eq, ← List.nil_append (List.filterMap ..), ← List.map_nil (f := Prod.fst)] at distinct
  obtain ⟨seen, walked, -⟩ := visitRules_mergeInto_of_nodup distinct
  rw [mergeRules, foldRules, walked]

/-! ### The merged tree -/

/-- What merging the rules below a top leaves, when the store before is a tree below the top. -/
structure IsMergeOf (store merged : Store) (top : Id) : Prop where
  /-- The walk before met the rules of the tree, each once. -/
  met : (store.rulesBelow top).Nodup ∧ ∀ id, id ∈ store.rulesBelow top ↔
    (store.rule? id).isSome = true ∧ ∃ level, store.Below top (level + 1) id
  /-- The walk meets the first rule with each selector, in the order in which it met them before. -/
  firsts : merged.rulesBelow top = (store.rulesBelow top).filter (store.isFirst (store.rulesBelow top))
  /-- No two of them have one selector. -/
  distinct : ((merged.rulesBelow top).filterMap merged.selector?).Nodup
  /-- If no two rules of the tree shared a list, each of them holds the declarations of all rules with its
  selector, in the order of the walk. -/
  holds : store.Unshared (store.rulesBelow top) →
    ∀ id ∈ merged.rulesBelow top, ∃ selector own, store.rule? id = some (selector, own) ∧
      merged.rule? id =
        some (selector, declarationsOf ((store.rulesBelow top).filterMap store.rule?) selector)
  /-- The other rules have no parent, and no container of the tree lists them. -/
  detached : ∀ id ∈ store.rulesBelow top, id ∉ merged.rulesBelow top → merged.parent? id = none ∧
    ∀ {level : Nat} {container : Id}, store.Below top level container → id ∉ merged.children container
  /-- The containers of the tree list all else that they listed, in order. -/
  children : ∀ {level : Nat} {container : Id}, store.Below top level container →
    merged.children container = (store.children container).filter fun id =>
      decide (id ∈ store.rulesBelow top → id ∈ merged.rulesBelow top)
  /-- An object that is not detached has the parent it had. -/
  parents : ∀ id, (id ∈ store.rulesBelow top → id ∈ merged.rulesBelow top) →
    merged.parent? id = store.parent? id
  /-- An object that is no rule holds what it held. -/
  contents : ∀ id, store.rule? id = none → merged.content? id = store.content? id
  /-- No object outside of the tree changes, unless it shares its list with a rule of the tree. -/
  outside : ∀ id, (∀ level, ¬store.Below top level id) → store.IsAlone (store.rulesBelow top) id →
    merged.get? id = store.get? id
  /-- Merging again changes nothing. -/
  again : merged.mergeRules top = merged

/-- What is met by the walk over a tree stands below its top. -/
theorem IsTree.exists_below (tree : store.IsTree top) (mem : id ∈ store.rulesBelow top) :
    ∃ level, store.Below top level id :=
  have ⟨_, level, below⟩ := tree.mem_rulesBelow_iff.1 mem
  ⟨level + 1, below⟩

/-- What is folded is met before and not after. -/
theorem IsTree.isFolded_iff (tree : store.IsTree top) : store.isFolded (store.rulesBelow top) id = true ↔
    ¬(id ∈ store.rulesBelow top → id ∈ (store.merged (store.rulesBelow top)).rulesBelow top) := by
  rw [tree.rulesBelow_merged, List.mem_filter, isFolded]
  by_cases mem : id ∈ store.rulesBelow top
  · simp [mem, (tree.mem_rulesBelow_iff.1 mem).1]
  · simp [mem]

/-- No object outside of the tree changes. -/
theorem IsTree.get?_merged_of_not_below (tree : store.IsTree top)
    (away : ∀ level, ¬store.Below top level id) :
    (store.merged (store.rulesBelow top)).get? id = store.get? id := by
  have absent : id ∉ store.rulesBelow top := fun mem =>
    have ⟨level, below⟩ := tree.exists_below mem
    away level below
  have still : store.isFolded (store.rulesBelow top) id = false := isFolded_of_notMem absent
  -- A rule that is folded names a container of the tree, and that is another one.
  have children (object : Object) : object.children.filter (fun child =>
      !(store.isFolded (store.rulesBelow top) child && decide (store.parent? child = some id))) =
        object.children := by
    refine List.filter_eq_self.2 fun child _ => ?_
    rw [Bool.not_eq_true', Bool.and_eq_false_iff, decide_eq_false_iff_not, ← Bool.not_eq_true,
      ← imp_iff_not_or]
    intro folded up
    have mem : child ∈ store.rulesBelow top := by
      by_contra absent
      exact tree.isFolded_iff.1 folded fun mem => absurd mem absent
    obtain ⟨level, container, below, -, up', -⟩ := tree.exists_container mem
    rw [up'] at up
    cases up
    exact away level below
  rw [get?_merged]
  cases store.get? id with
  | none => rfl
  | some object =>
    rw [Option.map_some, mergedObject, still, children]
    obtain ⟨content, ids, parent, origin⟩ := object
    cases content with
    | rule selector own => rw [mergedContent, if_neg (firstWith?_ne_some_of_notMem absent selector)]; rfl
    | declaration content => rfl
    | atRule name params hasBlock => rfl
    | sheet => rfl

/-- What is no rule holds what it held. -/
theorem content?_merged_of_none {rules : List Id} (noRule : store.rule? id = none) :
    (store.merged rules).content? id = store.content? id := by
  rw [content?_merged]
  cases found : store.content? id with
  | none => rfl
  | some content =>
    cases content with
    | rule selector declarations =>
      rw [rule?, found] at noRule
      cases noRule
    | declaration content => rfl
    | atRule name params hasBlock => rfl
    | sheet => rfl

/-- The first rule with a selector holds what all rules with it held. -/
theorem exists_rule?_merged_of_isFirst {rules : List Id} (first : store.isFirst rules id = true) :
    ∃ selector own, store.rule? id = some (selector, own) ∧
      (store.merged rules).rule? id =
        some (selector, declarationsOf (rules.filterMap store.rule?) selector) := by
  obtain ⟨⟨selector, own⟩, rule, same⟩ := (Option.any_eq_true ..).1 first
  refine ⟨selector, own, rule, ?_⟩
  rw [rule?_merged, rule, Option.map_some, if_pos (of_decide_eq_true same)]
  rfl

/-- Merging folds the rules of a tree into the first ones, and leaves all else as it is. -/
theorem mergeRules_isMergeOf (tree : store.IsTree top) : store.IsMergeOf (store.mergeRules top) top := by
  obtain ⟨seen, merges⟩ := tree.mergesTo
  have walk := merges.rulesBelow
  have distinct :
      (((store.mergeRules top).rulesBelow top).filterMap (store.mergeRules top).selector?).Nodup := by
    rw [walk, funext merges.selector?, tree.rulesBelow_merged]
    exact nodup_selector?_filter tree.nodup_rulesBelow
  constructor
  case met => exact ⟨tree.nodup_rulesBelow, fun _ => tree.mem_rulesBelow_iff⟩
  case firsts => exact walk.trans tree.rulesBelow_merged
  case distinct => exact distinct
  case holds =>
    intro unshared id mem
    rw [walk, tree.rulesBelow_merged] at mem
    obtain ⟨among, first⟩ := List.mem_filter.1 mem
    have contents := merges.holds id (unshared id among) fun _ => unshared
    obtain ⟨selector, own, rule, gathered⟩ := exists_rule?_merged_of_isFirst first
    rw [rule?_eq_some_iff, ← contents, ← rule?_eq_some_iff] at gathered
    exact ⟨selector, own, rule, gathered⟩
  case detached =>
    intro id mem absent
    rw [walk] at absent
    have folded : store.isFolded (store.rulesBelow top) id = true :=
      tree.isFolded_iff.2 fun kept => absent (kept mem)
    refine ⟨by rw [merges.parent?, parent?_merged, if_pos folded], fun below listed => ?_⟩
    rw [merges.children, tree.children_merged below, List.mem_filter, folded] at listed
    cases listed.2
  case children =>
    intro level container below
    rw [merges.children, walk, tree.children_merged below]
    refine List.filter_congr fun id _ => ?_
    rw [Bool.eq_iff_iff, Bool.not_eq_true', ← Bool.not_eq_true, tree.isFolded_iff, not_not,
      decide_eq_true_iff]
  case parents =>
    intro id kept
    rw [walk] at kept
    rw [merges.parent?, parent?_merged, if_neg fun folded => tree.isFolded_iff.1 folded kept]
  case contents =>
    intro id noRule
    have noRule' : (store.merged (store.rulesBelow top)).rule? id = none := by
      rw [rule?_merged, noRule, Option.map_none]
    rw [content?_eq_of_bare merges.bare noRule', content?_merged_of_none noRule]
  case outside =>
    intro id away alone
    have absent : id ∉ store.rulesBelow top := fun mem =>
      have ⟨level, below⟩ := tree.exists_below mem
      away level below
    rw [get?_eq_of_bare merges.bare (merges.holds id alone fun mem => absurd mem absent)]
    exact tree.get?_merged_of_not_below away
  case again => exact mergeRules_of_nodup distinct

/-- Where no rule of the tree shares its list with any other one, all objects are known. -/
theorem IsTree.mergeRules_eq (tree : store.IsTree top)
    (alone : ∀ id, store.IsAlone (store.rulesBelow top) id) :
    store.mergeRules top = store.merged (store.rulesBelow top) := by
  obtain ⟨seen, merges⟩ := tree.mergesTo
  exact ext_get? fun id => get?_eq_of_bare merges.bare (merges.holds id (alone id) fun _ id _ => alone id)

/-- A block with rules for two selectors on two levels. -/
def nestedBlock : Node :=
  .atRule "media" "print" true
    [.rule "p" [⟨"top", "1px", false⟩],
      .atRule "supports" "(gap: 0)" true
        [.rule "q" [⟨"left", "2px", false⟩], .declaration ⟨"gap", "0", false⟩,
          .rule "p" [⟨"top", "3px", true⟩]],
      .rule "q" [⟨"right", "4px", false⟩]]

/-- The walk over the block goes down into the inner one before it comes to the last rule. -/
theorem rulesBelow_nestedBlock :
    (({} : Store).plant nestedBlock).2.rulesBelow (({} : Store).plant nestedBlock).1 =
      [⟨0⟩, ⟨1⟩, ⟨3⟩, ⟨5⟩] := by
  have outer : (({} : Store).plant nestedBlock).2.children (({} : Store).plant nestedBlock).1 =
      [⟨0⟩, ⟨4⟩, ⟨5⟩] := by decide +kernel
  have inner : (({} : Store).plant nestedBlock).2.children ⟨4⟩ = [⟨1⟩, ⟨2⟩, ⟨3⟩] := by decide +kernel
  have size : (({} : Store).plant nestedBlock).2.objects.size = 7 := by decide +kernel
  rw [rulesBelow_eq, outer, size,
    rulesWithin_of_rule _ _ _ (by decide +kernel), rulesWithin_of_atRule _ _ _ (by decide +kernel), inner,
    rulesWithin_of_rule _ _ _ (by decide +kernel),
    rulesWithin_of_other _ _ _ (by decide +kernel) (.inr (by decide +kernel)),
    rulesWithin_of_rule _ _ _ (by decide +kernel), rulesWithin_of_rule _ _ _ (by decide +kernel),
    rulesWithin, rulesWithin]
  rfl

/-- In the block, whose rules have lists of their own, the last rule of each level is folded. -/
theorem mergeRules_isMergeOf_nestedBlock :
    let planted := ({} : Store).plant nestedBlock
    planted.2.IsTree planted.1 ∧ planted.2.Unshared (planted.2.rulesBelow planted.1) ∧
      planted.2.IsMergeOf (planted.2.mergeRules planted.1) planted.1 ∧
      (planted.2.mergeRules planted.1).node? planted.1 = some (.atRule "media" "print" true
        [.rule "p" [⟨"top", "1px", false⟩, ⟨"top", "3px", true⟩],
          .atRule "supports" "(gap: 0)" true
            [.rule "q" [⟨"left", "2px", false⟩, ⟨"right", "4px", false⟩],
              .declaration ⟨"gap", "0", false⟩]]) := by
  intro planted
  have tree : planted.2.IsTree planted.1 := isTree_plant _ _
  have alone (id : Id) : planted.2.IsAlone (planted.2.rulesBelow planted.1) id := by
    have own : ∀ rule ∈ planted.2.rulesBelow planted.1, planted.2.origin? rule = none := by
      rw [rulesBelow_nestedBlock]
      decide +kernel
    intro rule mem shares
    rw [shares_of_origin?_eq_none (own rule mem)] at shares
    cases shares
  refine ⟨tree, fun id _ => alone id, mergeRules_isMergeOf tree, ?_⟩
  rw [tree.mergeRules_eq alone, rulesBelow_nestedBlock]
  decide +kernel

/-- A block with three rules, of which the second is made over the empty list of the first. -/
def sharedBlock : Id × Store :=
  let (first, store) := ({} : Store).newRule "p" []
  let (second, store) := store.newRuleOver "q" first
  let (third, store) := store.newRule "p" [⟨"top", "1px", false⟩]
  store.newContainer (.atRule "media" "print" true) [first, second, third]

/-- The block is a tree. -/
theorem isTree_sharedBlock : sharedBlock.2.IsTree sharedBlock.1 := by
  have first := moves_newRule True {} "p" []
  have second := first.trans (moves_newRuleOver True _ "q" ⟨0⟩)
  have third := second.trans (moves_newRule True _ "p" [⟨"top", "1px", false⟩])
  have block : Moves True {} sharedBlock.2 :=
    third.trans (moves_newContainer (by decide +kernel) (fun _ => by decide +kernel) _)
  have leaf : ∀ index < 4, (sharedBlock.2.rule? ⟨index⟩).isSome = true →
      sharedBlock.2.children ⟨index⟩ = [] := by decide +kernel
  have free : sharedBlock.2.IsFree sharedBlock.1 := by decide +kernel
  exact (LinksExact.empty.moves block).isTree (by decide +kernel) free fun id rule =>
    leaf id.index (has_of_isLinked (isLinked_of_rule? rule)) rule

/-- The walk over the block meets its three rules. -/
theorem rulesBelow_sharedBlock : sharedBlock.2.rulesBelow sharedBlock.1 = [⟨0⟩, ⟨1⟩, ⟨2⟩] := by
  have listed : sharedBlock.2.children sharedBlock.1 = [⟨0⟩, ⟨1⟩, ⟨2⟩] := by decide +kernel
  rw [rulesBelow_eq, listed, rulesWithin_of_rule _ _ _ (by decide +kernel),
    rulesWithin_of_rule _ _ _ (by decide +kernel), rulesWithin_of_rule _ _ _ (by decide +kernel), rulesWithin]

/-- When its third rule is folded into the first one, the second one, which is the only rule with its selector
and had no declarations, is given a declaration as well. -/
theorem mergeRules_sharedBlock :
    sharedBlock.2.IsTree sharedBlock.1 ∧ ¬sharedBlock.2.Unshared (sharedBlock.2.rulesBelow sharedBlock.1) ∧
      (sharedBlock.2.mergeRules sharedBlock.1).rulesBelow sharedBlock.1 = [⟨0⟩, ⟨1⟩] ∧
      declarationsOf ((sharedBlock.2.rulesBelow sharedBlock.1).filterMap sharedBlock.2.rule?) "q" = [] ∧
      (sharedBlock.2.mergeRules sharedBlock.1).rule? ⟨1⟩ = some ("q", [⟨"top", "1px", false⟩]) := by
  have listed : sharedBlock.2.children sharedBlock.1 = [⟨0⟩, ⟨1⟩, ⟨2⟩] := by decide +kernel
  refine ⟨isTree_sharedBlock, ?_, ?_, ?_, ?_⟩
  · rw [rulesBelow_sharedBlock]
    decide +kernel
  · rw [(mergeRules_isMergeOf isTree_sharedBlock).firsts, rulesBelow_sharedBlock]
    decide +kernel
  · rw [rulesBelow_sharedBlock]
    decide +kernel
  · rw [mergeRules, foldRules, listed, visitRules_of_rule _ _ _ _ _ (by decide +kernel),
      visitRules_of_rule _ _ _ _ _ (by decide +kernel), visitRules_of_rule _ _ _ _ _ (by decide +kernel),
      visitRules]
    decide +kernel

end ViewportScaling.Document.Store
