import ViewportScaling.Media.Context
import ViewportScaling.Proofs.Document.Merging

/-!
# Blocks while they grow and when they are finished

A context keeps three media blocks apart from the objects that a document had before. Emissions put a
rule each behind the rules of their block. Finishing groups the rules of the blocks that hold any and
makes the sheet take the blocks in, so that the document has grown at the end of the sheet by exactly
these blocks.
-/

namespace ViewportScaling.Document.Store

open Css

/-- A block is the same in a store that has the same block and the same rules in it. -/
theorem IsBlock.congr {store other : Store} {block : Id} {params : String} {parent : Option Id}
    {rules : List Id} {entries : List (String × List Declaration)}
    (holds : store.IsBlock block params parent rules entries)
    (sameBlock : other.get? block = store.get? block)
    (sameRules : ∀ id ∈ rules, other.get? id = store.get? id) :
    other.IsBlock block params parent rules entries := by
  refine ⟨sameBlock.trans holds.atRule, ?_, holds.nodup⟩
  have both := (List.forall₂_and_left rules entries).2 ⟨fun _ mem => mem, holds.holds⟩
  exact both.imp fun id entry ⟨mem, found⟩ => (sameRules id mem).trans found

/-- A rule of a block is no block itself. -/
theorem IsBlock.ne_of_mem {store : Store} {block block' : Id} {params params' : String}
    {parent parent' : Option Id} {rules rules' : List Id}
    {entries entries' : List (String × List Declaration)}
    (holds : store.IsBlock block params parent rules entries)
    (holds' : store.IsBlock block' params' parent' rules' entries') {id : Id} (mem : id ∈ rules) :
    id ≠ block' := by
  rintro rfl
  obtain ⟨selector, declarations, found⟩ := holds.exists_of_mem mem
  rw [holds'.atRule] at found
  cases found

/-- Two blocks share no rule. -/
theorem IsBlock.disjoint {store : Store} {block block' : Id} {params params' : String}
    {parent parent' : Option Id} {rules rules' : List Id}
    {entries entries' : List (String × List Declaration)}
    (holds : store.IsBlock block params parent rules entries)
    (holds' : store.IsBlock block' params' parent' rules' entries') (apart : block ≠ block')
    {id : Id} (mem : id ∈ rules) : id ∉ rules' := by
  intro mem'
  obtain ⟨_, _, found⟩ := holds.exists_of_mem mem
  obtain ⟨_, _, found'⟩ := holds'.exists_of_mem mem'
  rw [found] at found'
  cases found'
  exact apart rfl

/-- No object has a new identity. -/
theorem ne_of_fresh {store : Store} {id other : Id} {object : Object} (fresh : store.get? id = none)
    (found : store.get? other = some object) : id ≠ other := by
  rintro rfl
  rw [fresh] at found
  contradiction

/-- A new rule that a block takes in is the last one in it, and no other object changes. -/
theorem IsBlock.add_rule {store : Store} {block : Id} {params : String} {parent : Option Id}
    {rules : List Id} {entries : List (String × List Declaration)}
    (holds : store.IsBlock block params parent rules entries) (selector : String)
    (declarations : List Declaration) :
    let new := (store.add { content := .rule selector declarations }).1
    let grown := (store.add { content := .rule selector declarations }).2.take block new
    grown.IsBlock block params parent (rules ++ [new]) (entries ++ [(selector, declarations)]) ∧
      ∀ {id : Id} {object : Object}, store.get? id = some object → block ≠ id →
        grown.get? id = store.get? id := by
  intro new grown
  have isNew : store.get? new = none := store.get?_add_fst _
  have apart := (ne_of_fresh isNew holds.atRule).symm
  have untouched : ∀ {id : Id} {object : Object}, store.get? id = some object → block ≠ id →
      grown.get? id = store.get? id := by
    intro id object found notBlock
    rw [get?_take_of_ne _ notBlock (ne_of_fresh isNew found), store.get?_add_of_ne (ne_of_fresh isNew found)]
  have foundNew : grown.get? new = some ⟨.rule selector declarations, [], some block, none⟩ :=
    get?_take_item apart (store.get?_add_self _) rfl
  have foundBlock : (store.add { content := .rule selector declarations }).2.get? block = _ :=
    (store.get?_add_of_ne apart.symm).trans holds.atRule
  have notMem : new ∉ rules := by
    intro mem
    obtain ⟨_, _, found⟩ := holds.exists_of_mem mem
    exact ne_of_fresh isNew found rfl
  refine ⟨⟨get?_take_container apart foundBlock, ?_, ?_⟩, untouched⟩
  · refine List.rel_append ?_ (.cons foundNew .nil)
    have both := (List.forall₂_and_left rules _).2 ⟨fun _ mem => mem, holds.holds⟩
    refine both.imp fun id entry ⟨mem, found⟩ => ?_
    exact (untouched found (holds.ne_of_mem holds mem).symm).trans found
  · rw [List.nodup_append]
    refine ⟨holds.nodup, by simp, fun id mem last isLast same => notMem ?_⟩
    rw [← List.mem_singleton.1 isLast, ← same]
    exact mem

end ViewportScaling.Document.Store

namespace ViewportScaling.Media

open Css Document

/-- The media condition of a block. -/
def Block.params (settings : Settings) : Block → String
  | .desktop => settings.desktopParams
  | .landscape => settings.landscapeParams
  | .shared => settings.sharedParams

/-- The selectors and declarations that emissions put into a block, in order. -/
def entriesFor (block : Block) (emissions : List Emission) : List (String × List Declaration) :=
  (emissions.filter (·.block = block)).map fun emission => (emission.selector, emission.declarations)

/-- What emissions put into a block is put there in their order. -/
theorem entriesFor_append (block : Block) (first second : List Emission) :
    entriesFor block (first ++ second) = entriesFor block first ++ entriesFor block second := by
  rw [entriesFor, List.filter_append, List.map_append]
  rfl

namespace Context

/-- The state of a document and the blocks of a context: the document has grown at the end of a sheet,
and each block holds its entries in rules of its own that are new as well. -/
structure Holds (context : Context) (start store : Store) (sheet : Id)
    (parent : Block → Option Id) (entries : Block → List (String × List Declaration))
    (added : List Id) : Prop where
  /-- The sheet is an object of the document. -/
  sheet_mem : ∃ object, start.get? sheet = some object
  /-- The document has grown at the end of the sheet. -/
  grows : start.GrowsTo store sheet added
  /-- The blocks hold their entries in new rules. -/
  isBlock : ∀ block, ∃ rules, store.IsBlock (context.block block) (block.params context.settings)
    (parent block) rules (entries block) ∧ ∀ id ∈ rules, start.get? id = none
  /-- The blocks are new objects. -/
  fresh : ∀ block, start.get? (context.block block) = none
  /-- The blocks are three objects. -/
  distinct : ∀ {first second : Block}, context.block first = context.block second → first = second

namespace Holds

variable {context : Context} {start store : Store} {sheet : Id} {parent : Block → Option Id}
  {entries : Block → List (String × List Declaration)} {added : List Id}

/-- No new object is the sheet. -/
theorem ne_sheet (holds : context.Holds start store sheet parent entries added) {id : Id}
    (fresh : start.get? id = none) : id ≠ sheet := by
  rintro rfl
  obtain ⟨object, found⟩ := holds.sheet_mem
  rw [fresh] at found
  contradiction

end Holds

/-! ### A new context -/

theorem size_openBlock (store : Store) (params : String) :
    (openBlock store params).2.objects.size = store.objects.size + 1 :=
  store.size_add _

/-- A block that is opened is empty. -/
theorem get?_openBlock (store : Store) (params : String) :
    (openBlock store params).2.get? ⟨store.objects.size⟩ =
      some ⟨.atRule "media" params true, [], none, none⟩ :=
  Store.get?_add_self store _

/-- Opening a block changes no other object. -/
theorem get?_openBlock_of_ne (store : Store) {params : String} {id : Id}
    (h : store.objects.size ≠ id.index) :
    (openBlock store params).2.get? id = store.get? id :=
  store.get?_add_of_ne fun same => h (congrArg Id.index same)

/-- The blocks of a new context are new and empty. -/
theorem holds_create (store : Store) (settings : Settings) {sheet : Id} {object : Object}
    (found : store.get? sheet = some object) :
    (create store settings).1.Holds store (create store settings).2 sheet (fun _ => none)
      (fun _ => []) [] := by
  let first := (openBlock store settings.desktopParams).2
  let second := (openBlock first settings.landscapeParams).2
  let third := (openBlock second settings.sharedParams).2
  have sizeFirst : first.objects.size = store.objects.size + 1 := size_openBlock _ _
  have sizeSecond : second.objects.size = store.objects.size + 2 := by
    rw [size_openBlock, sizeFirst]
  have sizeThird : third.objects.size = store.objects.size + 3 := by
    rw [size_openBlock, sizeSecond]
  have old : ∀ id : Id, id.index < store.objects.size → third.get? id = store.get? id := by
    intro id inside
    rw [get?_openBlock_of_ne _ (by omega), get?_openBlock_of_ne _ (by omega),
      get?_openBlock_of_ne _ (by omega)]
  have places : ∀ block, (create store settings).1.block block = ⟨store.objects.size + match block with
      | .desktop => 0
      | .landscape => 1
      | .shared => 2⟩ := by
    intro block
    cases block with
    | desktop => rfl
    | landscape => exact congrArg Id.mk sizeFirst
    | shared => exact congrArg Id.mk sizeSecond
  have empty : ∀ block, third.get? ((create store settings).1.block block) =
      some ⟨.atRule "media" (block.params settings) true, [], none, none⟩ := by
    intro block
    cases block with
    | desktop =>
      change third.get? ⟨store.objects.size⟩ = _
      rw [get?_openBlock_of_ne _ (by dsimp only; omega), get?_openBlock_of_ne _ (by dsimp only; omega)]
      exact get?_openBlock _ _
    | landscape =>
      change third.get? ⟨first.objects.size⟩ = _
      rw [get?_openBlock_of_ne _ (by dsimp only; omega)]
      exact get?_openBlock _ _
    | shared => exact get?_openBlock _ _
  refine ⟨⟨object, found⟩, ⟨fun _ found => ?_, fun found => ?_, by simp, ?_⟩, fun block => ?_,
    fun block => ?_, fun {first second} same => ?_⟩
  · rw [← found]
    exact old _ (Store.index_lt_of_get? found)
  · rw [List.append_nil, ← found]
    exact old _ (Store.index_lt_of_get? found)
  · change store.objects.size ≤ third.objects.size
    omega
  · exact ⟨[], ⟨empty block, .nil, by simp⟩, by simp⟩
  · rw [Store.get?_eq_none_iff, places]
    exact Nat.le_add_right _ _
  · rw [places, places] at same
    cases first <;> cases second <;> simp at same ⊢

/-! ### Emissions -/

namespace Holds

variable {context : Context} {start store : Store} {sheet : Id} {parent : Block → Option Id}
  {entries : Block → List (String × List Declaration)} {added : List Id}

/-- The sheet in the grown document. -/
theorem exists_sheet (holds : context.Holds start store sheet parent entries added) :
    ∃ object, start.get? sheet = some object ∧
      store.get? sheet = some { object with children := object.children ++ added } := by
  obtain ⟨object, found⟩ := holds.sheet_mem
  exact ⟨object, found, holds.grows.grown found⟩

/-- An identity that is new in the grown document was new before. -/
theorem fresh_of_fresh (holds : context.Holds start store sheet parent entries added) {id : Id}
    (fresh : store.get? id = none) : start.get? id = none := by
  cases found : start.get? id with
  | none => rfl
  | some object =>
    by_cases same : id = sheet
    · obtain ⟨_, _, foundSheet⟩ := holds.exists_sheet
      exact absurd same (Store.ne_of_fresh fresh foundSheet)
    · exact absurd rfl (Store.ne_of_fresh fresh (holds.grows.kept same found))

/-- An emission puts a new rule behind the rules of its block. -/
theorem emit (holds : context.Holds start store sheet parent entries added) (emission : Emission) :
    context.Holds start (context.emit store emission).2 sheet parent
      (fun block => entries block ++ entriesFor block [emission]) added := by
  obtain ⟨rules, isBlock, freshRules⟩ := holds.isBlock emission.block
  obtain ⟨grown, untouched⟩ := isBlock.add_rule emission.selector emission.declarations
  refine ⟨holds.sheet_mem, ⟨fun apart found => ?_, fun found => ?_, holds.grows.fresh, ?_⟩,
    fun block => ?_, holds.fresh, holds.distinct⟩
  · have kept := holds.grows.kept apart found
    rw [← kept]
    exact untouched kept (Store.ne_of_fresh (holds.fresh _) found)
  · have kept := holds.grows.grown found
    rw [← kept]
    exact untouched kept (Store.ne_of_fresh (holds.fresh _) found)
  · have size : (context.emit store emission).2.objects.size = store.objects.size + 1 :=
      (Store.size_take _ _ _).trans (Store.size_add _ _)
    exact size ▸ Nat.le_succ_of_le holds.grows.size_le
  · by_cases same : emission.block = block
    · subst same
      have one : entriesFor emission.block [emission] =
          [(emission.selector, emission.declarations)] := by simp [entriesFor]
      rw [one]
      refine ⟨_, grown, fun id mem => ?_⟩
      rcases List.mem_append.1 mem with old | last
      · exact freshRules id old
      · rw [List.mem_singleton.1 last]
        exact holds.fresh_of_fresh (store.get?_add_fst _)
    · obtain ⟨rules', isBlock', freshRules'⟩ := holds.isBlock block
      have none : entriesFor block [emission] = [] := by simp [entriesFor, same]
      rw [none, List.append_nil]
      refine ⟨rules', isBlock'.congr ?_ fun id mem => ?_, freshRules'⟩
      · exact untouched isBlock'.atRule fun one => same (holds.distinct one)
      · obtain ⟨_, _, found⟩ := isBlock'.exists_of_mem mem
        exact untouched found (isBlock'.ne_of_mem isBlock mem).symm

/-- Emissions put new rules behind the rules of their blocks, in order. -/
theorem emitAll (holds : context.Holds start store sheet parent entries added)
    (emissions : List Emission) :
    context.Holds start (context.emitAll store emissions) sheet parent
      (fun block => entries block ++ entriesFor block emissions) added := by
  induction emissions generalizing store entries with
  | nil => simpa [Context.emitAll, entriesFor] using holds
  | cons emission emissions ih =>
    have further := ih (holds.emit emission)
    have same : ∀ block, entries block ++ entriesFor block [emission] ++ entriesFor block emissions =
        entries block ++ entriesFor block (emission :: emissions) := by
      intro block
      rw [List.append_assoc, ← entriesFor_append, List.singleton_append]
    simp only [same] at further
    exact further

/-! ### Finishing -/

/-- Finishing a block groups its entries and puts it behind the children of the sheet. -/
theorem finishBlock (holds : context.Holds start store sheet parent entries added) (block : Block) :
    context.Holds start (context.finishBlock sheet store block).2 sheet
      (fun other => if other = block then some sheet else parent other)
      (fun other => if other = block then grouped (entries other) else entries other)
      (added ++ [context.block block]) := by
  obtain ⟨rules, isBlock, freshRules⟩ := holds.isBlock block
  -- Merging changes nothing but the block and its rules, and these are none of the old objects.
  obtain ⟨rules', merged, fewer, kept, size⟩ := isBlock.mergeRules
  let target := context.block block
  let finished := (store.mergeRules target).take sheet target
  have notSheet : sheet ≠ target := (holds.ne_sheet (holds.fresh block)).symm
  have untouched : ∀ {id : Id}, sheet ≠ id → target ≠ id → id ∉ rules →
      finished.get? id = store.get? id := by
    intro id apart notTarget notRule
    rw [Store.get?_take_of_ne _ apart notTarget, kept id notTarget.symm notRule]
  have old : ∀ {id : Id} {object : Object}, start.get? id = some object → id ∉ rules := by
    intro id object found mem
    rw [freshRules id mem] at found
    contradiction
  refine ⟨holds.sheet_mem, ⟨fun apart found => ?_, fun found => ?_, ?_, ?_⟩, fun other => ?_,
    holds.fresh, holds.distinct⟩
  · rw [← holds.grows.kept apart found]
    exact untouched apart.symm (Store.ne_of_fresh (holds.fresh block) found) (old found)
  · have here : (store.mergeRules target).get? sheet = _ :=
      (kept sheet notSheet (old found)).trans (holds.grows.grown found)
    have taken := Store.get?_take_container notSheet here
    rw [List.append_assoc] at taken
    exact taken
  · intro id mem
    rcases List.mem_append.1 mem with early | last
    · exact holds.grows.fresh id early
    · rw [List.mem_singleton.1 last]
      exact holds.fresh block
  · refine Nat.le_trans holds.grows.size_le (Nat.le_of_eq ?_)
    change store.objects.size = finished.objects.size
    rw [Store.size_take, size]
  · by_cases same : other = block
    · subst same
      rw [if_pos rfl, if_pos rfl]
      refine ⟨rules', ⟨Store.get?_take_item notSheet merged.atRule rfl, ?_, merged.nodup⟩,
        fun id mem => freshRules id (fewer mem)⟩
      have both := (List.forall₂_and_left rules' _).2 ⟨fun _ mem => mem, merged.holds⟩
      refine both.imp fun id entry ⟨mem, found⟩ => ?_
      have isRule := (holds.ne_sheet (freshRules id (fewer mem))).symm
      exact (Store.get?_take_of_ne _ isRule (merged.ne_of_mem merged mem).symm).trans found
    · obtain ⟨rules'', isBlock', freshRules'⟩ := holds.isBlock other
      have apart : target ≠ context.block other := fun one => same (holds.distinct one).symm
      rw [if_neg same, if_neg same]
      refine ⟨rules'', isBlock'.congr ?_ fun id mem => ?_, freshRules'⟩
      · refine untouched (holds.ne_sheet (holds.fresh other)).symm apart fun mem => ?_
        exact isBlock.ne_of_mem isBlock' mem rfl
      · exact untouched (holds.ne_sheet (freshRules' id mem)).symm
          (isBlock'.ne_of_mem isBlock mem).symm (isBlock'.disjoint isBlock apart.symm mem)

/-- Finishing several blocks groups the entries of each and puts them behind the children of the
sheet, in order. -/
theorem finishBlocks (holds : context.Holds start store sheet parent entries added)
    {blocks : List Block} (nodup : blocks.Nodup) :
    context.Holds start (blocks.foldl (fun store block => (context.finishBlock sheet store block).2) store)
      sheet (fun other => if other ∈ blocks then some sheet else parent other)
      (fun other => if other ∈ blocks then grouped (entries other) else entries other)
      (added ++ blocks.map context.block) := by
  induction blocks generalizing store parent entries added with
  | nil => simpa using holds
  | cons block blocks ih =>
    obtain ⟨notMem, nodup⟩ := List.nodup_cons.1 nodup
    have further := ih (holds.finishBlock block) nodup
    have parents : ∀ other, (if other ∈ blocks then some sheet else
          if other = block then some sheet else parent other) =
        if other ∈ block :: blocks then some sheet else parent other := by
      intro other
      by_cases early : other = block <;> by_cases late : other ∈ blocks <;> simp [early, late]
    have contents : ∀ other, (if other ∈ blocks then
          grouped (if other = block then grouped (entries other) else entries other)
          else if other = block then grouped (entries other) else entries other) =
        if other ∈ block :: blocks then grouped (entries other) else entries other := by
      intro other
      by_cases early : other = block
      · subst early
        simp [notMem]
      · by_cases late : other ∈ blocks <;> simp [early, late]
    rw [List.append_assoc, List.singleton_append, ← List.map_cons] at further
    simp only [parents, contents] at further
    exact further

end Holds

/-- The notices have no part in what finishing does to the document. -/
theorem finish_store (context : Context) (store : Store) (sheet : Id) :
    (context.finish store sheet).2.2 = (context.finished store).foldl
      (fun store block => (context.finishBlock sheet store block).2) store := by
  unfold finish
  exact (List.foldl_hom Prod.snd fun _ _ => rfl).symm

end Context

end ViewportScaling.Media
