import Mathlib.Data.List.Forall2
import Mathlib.Data.List.Induction
import ViewportScaling.Proofs.Document.Extension

/-!
# Merging the rules of a block

Merging a block that holds nothing but rules leaves one rule for each selector: the first with that
selector, which has taken over the declarations of all of them in order. The lists of selectors and
declarations on both sides are related by `grouped`, which is defined without the store. The rules that
were folded into others are removed, and no object outside the block changes.
-/

namespace ViewportScaling.Document

open Css

/-- The declarations listed under a selector, in order. -/
def declarationsOf (entries : List (String × List Declaration)) (selector : String) :
    List Declaration :=
  (entries.filter (·.1 = selector)).flatMap Prod.snd

/-- One entry for each selector, in the order in which the selectors first occur, with all that is
listed under it. -/
def grouped (entries : List (String × List Declaration)) : List (String × List Declaration) :=
  (entries.map Prod.fst).eraseDups.map fun selector => (selector, declarationsOf entries selector)

/-- What is listed under a selector in two lists is listed there first by the one, then by the other. -/
theorem declarationsOf_append (first second : List (String × List Declaration))
    (selector : String) :
    declarationsOf (first ++ second) selector =
      declarationsOf first selector ++ declarationsOf second selector := by
  rw [declarationsOf, List.filter_append, List.flatMap_append]
  rfl

/-- An entry lists its declarations under its own selector. -/
theorem declarationsOf_singleton (entry : String × List Declaration) (selector : String) :
    declarationsOf [entry] selector = if entry.1 = selector then entry.2 else [] := by
  unfold declarationsOf
  by_cases same : entry.1 = selector <;> simp [same]

/-- A selector under which nothing is listed has no declarations. -/
theorem declarationsOf_of_notMem {entries : List (String × List Declaration)} {selector : String}
    (absent : selector ∉ entries.map Prod.fst) : declarationsOf entries selector = [] := by
  have none : entries.filter (·.1 = selector) = [] := by
    rw [List.filter_eq_nil_iff]
    intro entry mem
    rw [decide_eq_true_eq]
    rintro rfl
    exact absent (List.mem_map_of_mem mem)
  rw [declarationsOf, none, List.flatMap_nil]

/-- The selectors of a list with one more entry. -/
theorem eraseDups_concat (keys : List String) (key : String) :
    (keys ++ [key]).eraseDups =
      if key ∈ keys then keys.eraseDups else keys.eraseDups ++ [key] := by
  rw [List.eraseDups_append]
  by_cases known : key ∈ keys <;> simp [known, List.removeAll, List.eraseDups_cons]

/-- No selector is left twice. -/
theorem nodup_eraseDups (keys : List String) : keys.eraseDups.Nodup := by
  induction keys using List.reverseRecOn with
  | nil => simp
  | append_singleton keys key ih =>
    rw [eraseDups_concat]
    split
    · exact ih
    · rename_i new
      rw [List.nodup_append]
      refine ⟨ih, by simp, fun old member last mem same => new ?_⟩
      rw [List.mem_singleton.1 mem] at same
      rw [← same]
      exact List.mem_eraseDups.1 member

namespace Store

/-! ### One step of merging -/

/-- A rule that is given declarations has them behind its own. -/
theorem get?_addDeclarations_self {store : Store} {id : Id} {selector : String}
    {own : List Declaration} {children : List Id} {parent origin : Option Id}
    (found : store.get? id = some ⟨.rule selector own, children, parent, origin⟩)
    (declarations : List Declaration) :
    (store.addDeclarations id declarations).get? id =
      some ⟨.rule selector (own ++ declarations), children, parent, origin⟩ := by
  rw [get?_addDeclarations, found, Option.map_some, if_pos (.inl rfl), Content.extend]

/-- Adding declarations to a rule with a list of its own changes no other object. -/
theorem get?_addDeclarations_of_ne {store : Store} {id other : Id} (own : store.origin? id = none)
    (h : id ≠ other) (declarations : List Declaration) :
    (store.addDeclarations id declarations).get? other = store.get? other := by
  have apart : ¬(other = id ∨ store.shares id other = true) := by
    rw [shares_of_origin?_eq_none own]
    exact fun same => same.elim (fun same => h same.symm) (nomatch ·)
  simp only [get?_addDeclarations, if_neg apart, Option.map_id']

/-- Removing a rule from the block it stands in takes it from the children of the block. -/
theorem get?_detach_parent {store : Store} {id block : Id} {content : Content} {rule : Object}
    {children : List Id} {parent : Option Id} (apart : id ≠ block)
    (found : store.get? id = some rule) (up : rule.parent = some block)
    (foundBlock : store.get? block = some ⟨content, children, parent, none⟩) (mem : id ∈ children) :
    (store.detach id).get? block = some ⟨content, children.erase id, parent, none⟩ := by
  have here : id ∈ store.children block := by rwa [children_of_get? foundBlock]
  rw [detach, parent?_of_get? found, up]
  dsimp only
  rw [remove, if_pos here, setParent, get?_modify_of_ne _ _ apart, get?_modify_self, foundBlock]
  rfl

/-- Removing a rule from the block it stands in changes no object but these two. -/
theorem get?_detach_of_ne {store : Store} {id block other : Id} {rule : Object}
    (found : store.get? id = some rule) (up : rule.parent = some block)
    (notRule : id ≠ other) (notBlock : block ≠ other) :
    (store.detach id).get? other = store.get? other := by
  rw [detach, parent?_of_get? found, up]
  dsimp only
  rw [remove]
  split
  · rw [setParent, get?_modify_of_ne _ _ notRule, get?_modify_of_ne _ _ notBlock]
  · rfl

/-- Folding a rule of a block into another one extends that rule, takes the rule from the children of the
block, and changes no object but these three. -/
theorem fold_rule {store : Store} {id first block : Id} {content : Content} {children : List Id}
    {parent : Option Id} {selector : String} {own declarations : List Declaration}
    (foundBlock : store.get? block = some ⟨content, children, parent, none⟩)
    (foundFirst : store.get? first = some ⟨.rule selector own, [], some block, none⟩)
    (found : store.get? id = some ⟨.rule selector declarations, [], some block, none⟩)
    (firstBlock : first ≠ block) (idBlock : id ≠ block) (apart : first ≠ id) (mem : id ∈ children) :
    let folded := (store.addDeclarations first declarations).detach id
    folded.get? block = some ⟨content, children.erase id, parent, none⟩ ∧
      folded.get? first = some ⟨.rule selector (own ++ declarations), [], some block, none⟩ ∧
      ∀ other, other ≠ block → other ≠ id → other ≠ first → folded.get? other = store.get? other := by
  intro folded
  have alone : store.origin? first = none := origin?_of_get? foundFirst
  have kept : (store.addDeclarations first declarations).get? id =
      some ⟨.rule selector declarations, [], some block, none⟩ := by
    rw [get?_addDeclarations_of_ne alone apart, found]
  have keptBlock : (store.addDeclarations first declarations).get? block =
      some ⟨content, children, parent, none⟩ := by
    rw [get?_addDeclarations_of_ne alone firstBlock, foundBlock]
  refine ⟨get?_detach_parent idBlock kept rfl keptBlock mem, ?_, fun other notBlock notId notFirst => ?_⟩
  · rw [get?_detach_of_ne kept rfl apart.symm firstBlock.symm, get?_addDeclarations_self foundFirst]
  · rw [get?_detach_of_ne kept rfl notId.symm notBlock.symm,
      get?_addDeclarations_of_ne alone notFirst.symm]

theorem size_detach (store : Store) (id : Id) :
    (store.detach id).objects.size = store.objects.size := by
  rw [detach]
  split
  · exact size_remove ..
  · rfl

/-! ### The invariant of merging -/

/-- How far a block is merged: the entries of `done` are folded into the rules that `seen` lists by
their selectors, and the rules of `rest` are still to come. -/
structure Merging (start store : Store) (block : Id) (params : String) (parent : Option Id)
    (rules : List Id) (done : List (String × List Declaration)) (seen : List (String × Id))
    (rest : List Id) (entries : List (String × List Declaration)) : Prop where
  /-- The block holds the first rules and the remaining ones. -/
  atRule : store.get? block =
    some ⟨.atRule "media" params true, seen.map Prod.snd ++ rest, parent, none⟩
  /-- The first rules hold what is listed under their selectors so far. -/
  firsts : ∀ entry ∈ seen, store.get? entry.2 =
    some ⟨.rule entry.1 (declarationsOf done entry.1), [], some block, none⟩
  /-- There is a first rule for each selector so far. -/
  keys : seen.map Prod.fst = (done.map Prod.fst).eraseDups
  /-- The remaining rules are as they were. -/
  remaining : List.Forall₂
    (fun id entry => store.get? id = some ⟨.rule entry.1 entry.2, [], some block, none⟩) rest entries
  /-- No rule stands in the block twice. -/
  nodup : (seen.map Prod.snd ++ rest).Nodup
  /-- The block holds no other rules than it did. -/
  inside : seen.map Prod.snd ++ rest ⊆ rules
  /-- No other object has changed. -/
  kept : ∀ id, id ≠ block → id ∉ rules → store.get? id = start.get? id
  /-- The store has not grown. -/
  size_eq : store.objects.size = start.objects.size

namespace Merging

variable {start store : Store} {block : Id} {params : String} {parent : Option Id}
  {rules : List Id} {done : List (String × List Declaration)} {seen : List (String × Id)}
  {id : Id} {rest : List Id} {entry : String × List Declaration}
  {entries : List (String × List Declaration)}

/-- A rule is no block. -/
theorem ne_block (merging : Merging start store block params parent rules done seen rest entries)
    {other : Id} {selector : String} {declarations : List Declaration} {children : List Id}
    {up : Option Id} (found : store.get? other = some ⟨.rule selector declarations, children, up, none⟩) :
    other ≠ block := by
  rintro rfl
  rw [merging.atRule] at found
  cases found

/-- A rule with a new selector becomes the first one with it. -/
theorem step_new
    (merging : Merging start store block params parent rules done seen (id :: rest) (entry :: entries))
    (new : entry.1 ∉ done.map Prod.fst) :
    Merging start store block params parent rules (done ++ [entry]) (seen ++ [(entry.1, id)]) rest
      entries := by
  obtain ⟨found, remaining⟩ := List.forall₂_cons.1 merging.remaining
  refine ⟨?_, ?_, ?_, remaining, ?_, ?_, merging.kept, merging.size_eq⟩
  · rw [merging.atRule, List.map_append, List.append_assoc]
    rfl
  · intro other mem
    rcases List.mem_append.1 mem with old | last
    · have apart : entry.1 ≠ other.1 := by
        intro same
        refine new ?_
        rw [same, ← List.mem_eraseDups, ← merging.keys]
        exact List.mem_map_of_mem old
      rw [merging.firsts other old, declarationsOf_append, declarationsOf_singleton,
        if_neg apart, List.append_nil]
    · rw [List.mem_singleton.1 last, declarationsOf_append, declarationsOf_of_notMem new,
        declarationsOf_singleton, if_pos rfl, List.nil_append]
      exact found
  · rw [List.map_append, List.map_append, List.map_singleton, List.map_singleton, eraseDups_concat,
      if_neg new, merging.keys]
  · simpa using merging.nodup
  · simpa using merging.inside

/-- There is but one first rule for a selector. -/
theorem eq_of_mem_seen (merging : Merging start store block params parent rules done seen rest entries)
    {selector : String} {first other : Id} (known : (selector, first) ∈ seen)
    (mem : (selector, other) ∈ seen) : other = first := by
  have distinct : (seen.map Prod.fst).Nodup := by
    rw [merging.keys]
    exact nodup_eraseDups _
  have same := List.inj_on_of_nodup_map distinct mem known rfl
  exact congrArg Prod.snd same

/-- The first rules for two selectors are two rules. -/
theorem ne_of_mem_seen (merging : Merging start store block params parent rules done seen rest entries)
    {selector selector' : String} {first other : Id} (known : (selector, first) ∈ seen)
    (mem : (selector', other) ∈ seen) (apart : selector' ≠ selector) : other ≠ first := by
  rintro rfl
  have found := merging.firsts _ mem
  rw [merging.firsts _ known] at found
  injection found with objects
  injection objects with contents
  injection contents with selectors
  exact apart selectors.symm

/-- The next rule is none of the others in the block. -/
theorem nodup_cons (merging : Merging start store block params parent rules done seen (id :: rest) entries) :
    id ∉ seen.map Prod.snd ++ rest ∧ (seen.map Prod.snd ++ rest).Nodup := by
  have nodup := merging.nodup
  rwa [List.nodup_middle, List.nodup_cons] at nodup

/-- A rule with a known selector is folded into the first one with it. -/
theorem step_known
    (merging : Merging start store block params parent rules done seen (id :: rest) (entry :: entries))
    {first : Id} (known : (entry.1, first) ∈ seen) :
    Merging start ((store.addDeclarations first entry.2).detach id) block params parent rules
      (done ++ [entry]) seen rest entries := by
  obtain ⟨found, remaining⟩ := List.forall₂_cons.1 merging.remaining
  obtain ⟨notIn, nodup⟩ := merging.nodup_cons
  have foundFirst := merging.firsts _ known
  have firstIn : first ∈ seen.map Prod.snd := List.mem_map_of_mem known
  have apart : first ≠ id := by
    rintro rfl
    exact notIn (List.mem_append_left _ firstIn)
  obtain ⟨changedBlock, changedFirst, untouched⟩ := fold_rule merging.atRule foundFirst found
    (merging.ne_block foundFirst) (merging.ne_block found) apart (by simp)
  refine ⟨?_, ?_, ?_, ?_, nodup, ?_, ?_, ?_⟩
  · rw [changedBlock, List.erase_append_right _ fun mem => notIn (List.mem_append_left _ mem),
      List.erase_cons_head]
  · rintro ⟨selector, other⟩ mem
    rw [declarationsOf_append, declarationsOf_singleton]
    by_cases same : entry.1 = selector
    · subst same
      rw [merging.eq_of_mem_seen known mem, if_pos rfl, changedFirst]
    · have notFirst := merging.ne_of_mem_seen known mem (Ne.symm same)
      have notId : other ≠ id := by
        rintro rfl
        exact notIn (List.mem_append_left _ (List.mem_map_of_mem mem))
      have foundOther := merging.firsts _ mem
      rw [untouched _ (merging.ne_block foundOther) notId notFirst, foundOther, if_neg same,
        List.append_nil]
  · have old : entry.1 ∈ done.map Prod.fst := by
      rw [← List.mem_eraseDups, ← merging.keys]
      exact List.mem_map_of_mem known
    rw [List.map_append, List.map_singleton, eraseDups_concat, if_pos old, merging.keys]
  · have both := (List.forall₂_and_left rest entries).2 ⟨fun _ mem => mem, remaining⟩
    refine both.imp fun other entry' ⟨mem, found'⟩ => ?_
    have notId : other ≠ id := by
      rintro rfl
      exact notIn (List.mem_append_right _ mem)
    have notFirst : other ≠ first := by
      rintro rfl
      exact (List.disjoint_of_nodup_append nodup) firstIn mem
    rw [untouched _ (merging.ne_block found') notId notFirst, found']
  · intro other mem
    refine merging.inside ?_
    rcases List.mem_append.1 mem with early | late
    · exact List.mem_append_left _ early
    · exact List.mem_append_right _ (List.mem_cons_of_mem _ late)
  · intro other notBlock notRule
    have notId : other ≠ id := by
      rintro rfl
      exact notRule (merging.inside (by simp))
    have notFirst : other ≠ first := by
      rintro rfl
      exact notRule (merging.inside (List.mem_append_left _ firstIn))
    rw [untouched other notBlock notId notFirst, merging.kept other notBlock notRule]
  · rw [size_detach, size_addDeclarations, merging.size_eq]

/-- A block whose rules are all merged holds the grouped entries. -/
theorem isBlock (merging : Merging start store block params parent rules done seen [] []) :
    store.IsBlock block params parent (seen.map Prod.snd) (grouped done) := by
  refine ⟨?_, ?_, ?_⟩
  · rw [merging.atRule, List.append_nil]
  · rw [grouped, ← merging.keys, List.map_map, List.forall₂_map_left_iff, List.forall₂_map_right_iff,
      List.forall₂_same]
    exact merging.firsts
  · simpa using merging.nodup

/-- The walk folds the remaining rules in, one by one. -/
theorem visitRules
    (merging : Merging start store block params parent rules done seen rest entries) (depth : Nat) :
    ∃ seen', Merging start (visitRules mergeRules.mergeInto depth seen store rest).2 block params
      parent rules (done ++ entries) seen' [] [] := by
  induction rest generalizing store done seen entries with
  | nil =>
    obtain rfl := List.forall₂_nil_left_iff.1 merging.remaining
    refine ⟨seen, ?_⟩
    rw [Store.visitRules, List.append_nil]
    exact merging
  | cons id rest ih =>
    cases entries with
    | nil => cases merging.remaining
    | cons entry entries =>
      obtain ⟨found, -⟩ := List.forall₂_cons.1 merging.remaining
      have rule := rule?_eq_some_iff.2 (content?_of_get? found)
      rw [visitRules_cons, content?_of_get? found, List.append_cons]
      dsimp only
      rw [mergeRules.mergeInto, rule]
      dsimp only
      -- The walk remembers the first rule for each selector, which is what the invariant lists.
      split
      · rename_i none
        refine ih (merging.step_new fun old => ?_)
        rw [← List.mem_eraseDups, ← merging.keys] at old
        obtain ⟨other, mem, same⟩ := List.mem_map.1 old
        have := List.lookup_eq_none_iff.1 none other mem
        simp [same] at this
      · rename_i first some
        obtain ⟨before, behind, split, -⟩ := List.lookup_eq_some_iff.1 some
        exact ih (merging.step_known (by simp [split]))

end Merging

/-- Merging a block of rules groups its entries, and changes nothing but the block and its rules. -/
theorem IsBlock.mergeRules {store : Store} {block : Id} {params : String} {parent : Option Id}
    {rules : List Id} {entries : List (String × List Declaration)}
    (holds : store.IsBlock block params parent rules entries) :
    ∃ rules', (store.mergeRules block).IsBlock block params parent rules' (grouped entries) ∧
      rules' ⊆ rules ∧
      (∀ id, id ≠ block → id ∉ rules → (store.mergeRules block).get? id = store.get? id) ∧
      (store.mergeRules block).objects.size = store.objects.size := by
  have start : Merging store store block params parent rules [] [] rules entries :=
    ⟨holds.atRule, by simp, rfl, holds.holds, holds.nodup, List.Subset.refl _, fun _ _ _ => rfl, rfl⟩
  obtain ⟨seen, merged⟩ := start.visitRules store.objects.size
  rw [List.nil_append] at merged
  rw [Store.mergeRules, foldRules, children_of_get? holds.atRule]
  refine ⟨seen.map Prod.snd, merged.isBlock, ?_, merged.kept, merged.size_eq⟩
  simpa using merged.inside

end Store

end ViewportScaling.Document
