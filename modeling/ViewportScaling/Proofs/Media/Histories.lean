import ViewportScaling.Media.Pass
import ViewportScaling.Proofs.Document.ParentLinks
import ViewportScaling.Proofs.Media.Blocks

/-!
# Histories of a document

A document comes about by operations: stylesheets are read, objects are made, containers take objects
in and lose them, rules are merged and detached, passes are run, and contexts are opened, filled and
finished by hand. Every operation is done in moves, and in orderly ones if the objects it is told to
take in are distinct and in no container. The objects that an operation makes on its own have no parent
when they are taken in. So what holds for moves holds for every document that is reached.
-/

namespace ViewportScaling.Media

open Css Document Numeric

/-- Something that is done to a document. -/
inductive Operation where
  /-- A stylesheet is read and planted, if it can be read. -/
  | read (source : String)
  /-- A declaration is made. -/
  | newDeclaration (declaration : Declaration)
  /-- A rule is made. -/
  | newRule (selector : String) (declarations : List Declaration)
  /-- A rule is made over the list of declarations of another one. -/
  | newRuleOver (selector : String) (other : Id)
  /-- An at-rule is made over objects, which it takes in. -/
  | newAtRule (name params : String) (hasBlock : Bool) (children : List Id)
  /-- A sheet is made over objects, which it takes in. -/
  | newSheet (children : List Id)
  /-- A container takes objects in. -/
  | append (container : Id) (items : List Id)
  /-- A rule is given declarations. -/
  | addDeclarations (rule : Id) (declarations : List Declaration)
  /-- A container loses an object. -/
  | remove (container item : Id)
  /-- A rule is removed from its parent. -/
  | detach (rule : Id)
  /-- The rules below a container are merged. -/
  | merge (container : Id)
  /-- A pass is run over a sheet. -/
  | pass (settings : Settings) (sheet : Id)
  /-- A context is opened. -/
  | openContext (settings : Settings)
  /-- An emission goes to its block of a context. -/
  | emit (context : Context) (emission : Emission)
  /-- The blocks of a context are merged and taken into a sheet. -/
  | finish (context : Context) (sheet : Id)

namespace Operation

/-- The document after an operation. -/
def perform (store : Store) : Operation → Store
  | .read source =>
    match Stylesheet.read source with
    | .ok sheet => (store.plantSheet sheet).2
    | .error _ => store
  | .newDeclaration declaration => (store.add { content := .declaration declaration }).2
  | .newRule selector declarations => (store.newRule selector declarations).2
  | .newRuleOver selector other => (store.newRuleOver selector other).2
  | .newAtRule name params hasBlock children =>
    (store.newContainer (.atRule name params hasBlock) children).2
  | .newSheet children => (store.newContainer .sheet children).2
  | .append container items => store.append container items
  | .addDeclarations rule declarations => store.addDeclarations rule declarations
  | .remove container item => store.remove container item
  | .detach rule => store.detach rule
  | .merge container => store.mergeRules container
  | .pass settings sheet => (Media.pass settings store sheet).store
  | .openContext settings => (Context.create store settings).2
  | .emit context emission => (context.emit store emission).2
  | .finish context sheet => (context.finish store sheet).2.2

/-- The objects that an operation names. They have to be there. -/
def named : Operation → List Id
  | .read _ | .newDeclaration _ | .newRule _ _ | .openContext _ => []
  | .newRuleOver _ other => [other]
  | .newAtRule _ _ _ children | .newSheet children => children
  | .append container items => container :: items
  | .addDeclarations rule _ | .detach rule => [rule]
  | .remove container item => [container, item]
  | .merge container => [container]
  | .pass _ sheet => [sheet]
  | .emit context _ => [context.desktop, context.landscape, context.shared]
  | .finish context sheet => [sheet, context.desktop, context.landscape, context.shared]

/-- Those of the named objects that are taken into a container, in order. -/
def inserted (store : Store) : Operation → List Id
  | .newAtRule _ _ _ children | .newSheet children => children
  | .append _ items => items
  | .finish context _ => (context.finished store).map context.block
  | _ => []

end Operation

/-- A document to which operations lead from the empty one. In an orderly history no operation inserts
an object twice, or one that is in a container. -/
inductive Reached (orderly : Prop) : Store → Prop
  /-- Nothing is there at first. -/
  | empty : Reached orderly {}
  /-- An operation on objects that are there. -/
  | perform {store : Store} (before : Reached orderly store) (operation : Operation)
      (present : ∀ id ∈ operation.named, store.Has id)
      (free : orderly → (operation.inserted store).Nodup ∧
        ∀ id ∈ operation.inserted store, store.IsFree id) :
      Reached orderly (operation.perform store)

open Store

/-! ### Contexts in moves -/

namespace Context

variable {orderly : Prop} {store : Store}

/-- A block is opened in an orderly move. -/
theorem moves_openBlock (orderly : Prop) (store : Store) (params : String) :
    Moves orderly store (openBlock store params).2 :=
  moves_newContainer (by simp) (by simp) _

/-- A context is opened in orderly moves. -/
theorem moves_create (orderly : Prop) (store : Store) (settings : Settings) :
    Moves orderly store (create store settings).2 :=
  ((moves_openBlock orderly store settings.desktopParams).trans
    (moves_openBlock orderly _ settings.landscapeParams)).trans
    (moves_openBlock orderly _ settings.sharedParams)

/-- The rule of an emission is new, so that its block takes it in in an orderly way. -/
theorem moves_emit (context : Context) {emission : Emission}
    (present : store.Has (context.block emission.block)) :
    Moves orderly store (context.emit store emission).2 := by
  let content := Content.rule emission.selector emission.declarations
  have made : Move orderly store (store.add { content }).2 := .add _
  refine .head made (moves_append ?_ ?_ fun _ => ⟨List.nodup_singleton _, ?_⟩)
  · exact Nat.lt_of_lt_of_le present made.size_le
  · intro item mem
    rw [List.mem_singleton.1 mem, Has, size_add]
    exact Nat.lt_succ_self _
  · intro item mem
    rw [List.mem_singleton.1 mem]
    exact parent?_of_get? (get?_add_self store { content })

/-- Emissions are made in orderly moves. -/
theorem moves_emitAll (context : Context) (emissions : List Emission)
    (present : ∀ block, store.Has (context.block block)) :
    Moves orderly store (context.emitAll store emissions) := by
  induction emissions generalizing store with
  | nil => exact .refl
  | cons emission emissions ih =>
    have first : Moves orderly store (context.emit store emission).2 :=
      context.moves_emit (present emission.block)
    exact first.trans (ih fun block => (present block).of_moves first)

/-- Blocks that are distinct and without a parent are finished in orderly moves. -/
theorem moves_finishBlocks (context : Context) {sheet : Id} (sheet_mem : store.Has sheet)
    (present : ∀ block, store.Has (context.block block)) {blocks : List Block}
    (free : orderly → (blocks.map context.block).Nodup ∧
      ∀ id ∈ blocks.map context.block, store.parent? id = none) :
    Moves orderly store
      (blocks.foldl (fun store block => (context.finishBlock sheet store block).2) store) := by
  induction blocks generalizing store with
  | nil => exact .refl
  | cons block blocks ih =>
    let id := context.block block
    have merged : Moves orderly store (store.mergeRules id) := store.moves_mergeRules orderly id
    have taken : Move orderly (store.mergeRules id) (context.finishBlock sheet store block).2 :=
      .take (sheet_mem.of_moves merged) ((present block).of_moves merged) fun order =>
        parent?_mergeRules ((free order).2 id (List.mem_cons_self ..)) _
    have both := merged.tail taken
    refine both.trans (ih (sheet_mem.of_moves both) (fun block => (present block).of_moves both)
      fun order => ?_)
    obtain ⟨nodup, none⟩ := free order
    obtain ⟨notMem, nodup⟩ := List.nodup_cons.1 nodup
    refine ⟨nodup, fun other mem => ?_⟩
    have apart : id ≠ other := by
      rintro rfl
      exact notMem mem
    have untouched : (context.finishBlock sheet store block).2.parent? other =
        (store.mergeRules id).parent? other := by
      refine (parent?_take _ sheet id other).trans (if_neg fun both => apart both.1)
    rw [untouched]
    exact parent?_mergeRules (none other (List.mem_cons_of_mem _ mem)) _

/-- A context is finished in moves, and in orderly ones if its blocks are distinct and in no container. -/
theorem moves_finish (context : Context) {sheet : Id} (sheet_mem : store.Has sheet)
    (present : ∀ block, store.Has (context.block block))
    (free : orderly → ((context.finished store).map context.block).Nodup ∧
      ∀ id ∈ (context.finished store).map context.block, store.parent? id = none) :
    Moves orderly store (context.finish store sheet).2.2 := by
  rw [finish_store]
  exact context.moves_finishBlocks sheet_mem present free

end Context

/-- The blocks of a pass are new, so that the sheet takes them in in an orderly way. -/
theorem moves_pass {orderly : Prop} {store : Store} {sheet : Id} (sheet_mem : store.Has sheet)
    (settings : Settings) : Moves orderly store (pass settings store sheet).store := by
  unfold pass
  dsimp only
  split
  · exact .refl
  · rename_i trace _
    obtain ⟨object, found⟩ := has_iff.1 sheet_mem
    let context := (Context.create store settings).1
    let opened := (Context.create store settings).2
    have created := Context.moves_create orderly store settings
    have holds := Context.holds_create store settings found
    have present : ∀ block, opened.Has (context.block block) := fun block => by
      obtain ⟨_, isBlock, _⟩ := holds.isBlock block
      exact has_iff.2 ⟨_, isBlock.atRule⟩
    let emissions := (contributions settings (plainRules store sheet)).emissions
    have emitted : Moves orderly opened (context.emitAll opened emissions) :=
      context.moves_emitAll emissions present
    have grown := holds.emitAll emissions
    refine (created.trans emitted).trans (context.moves_finish ((sheet_mem.of_moves created).of_moves
      emitted) (fun block => (present block).of_moves emitted) fun _ => ⟨?_, fun id mem => ?_⟩)
    · refine List.Nodup.map (fun _ _ => grown.distinct) ?_
      unfold Context.finished
      dsimp only
      split <;> split <;> split <;> decide
    · obtain ⟨block, -, rfl⟩ := List.mem_map.1 mem
      obtain ⟨_, isBlock, _⟩ := grown.isBlock block
      exact parent?_of_get? isBlock.atRule

/-! ### Operations in moves -/

/-- Every operation is done in moves, and in orderly ones if what it inserts is distinct and without a
parent. -/
theorem Operation.moves {orderly : Prop} {store : Store} (operation : Operation)
    (present : ∀ id ∈ operation.named, store.Has id)
    (free : orderly → (operation.inserted store).Nodup ∧
      ∀ id ∈ operation.inserted store, store.parent? id = none) :
    Moves orderly store (operation.perform store) := by
  cases operation with
  | read source =>
    rw [perform]
    cases Stylesheet.read source with
    | ok sheet => exact store.moves_plantSheet orderly sheet
    | error error => exact .refl
  | newDeclaration declaration => exact .single (.add _)
  | newRule selector declarations => exact store.moves_newRule orderly selector declarations
  | newRuleOver selector other => exact store.moves_newRuleOver orderly selector other
  | newAtRule name params hasBlock children => exact moves_newContainer present free _
  | newSheet children => exact moves_newContainer present free _
  | append container items =>
    exact moves_append (present container (List.mem_cons_self ..))
      (fun item mem => present item (List.mem_cons_of_mem _ mem)) free
  | addDeclarations rule declarations => exact .single (.addDeclarations _ _)
  | remove container item => exact .single (.remove _ _)
  | detach rule => exact store.moves_detach orderly rule
  | merge container => exact store.moves_mergeRules orderly container
  | pass settings sheet => exact moves_pass (present sheet (List.mem_singleton_self _)) settings
  | openContext settings => exact Context.moves_create orderly store settings
  | emit context emission =>
    refine context.moves_emit (present _ ?_)
    cases emission.block <;> simp [named, Context.block]
  | finish context sheet =>
    refine context.moves_finish (present sheet (List.mem_cons_self ..)) (fun block => present _ ?_)
      free
    cases block <;> simp [named, Context.block]

namespace Reached

variable {store : Store}

/-- An orderly history is a history. -/
theorem unordered {orderly : Prop} (reached : Reached orderly store) : Reached False store := by
  induction reached with
  | empty => exact .empty
  | perform _ operation present _ ih => exact ih.perform operation present False.elim

/-- In every document that is reached, parents have their objects among their children. -/
theorem linksHold {orderly : Prop} (reached : Reached orderly store) : store.LinksHold := by
  induction reached with
  | empty => exact LinksExact.empty.toLinksHold
  | perform _ operation present free ih =>
    refine ih.moves (operation.moves present (?_ : orderly → _))
    intro order
    obtain ⟨nodup, free⟩ := free order
    exact ⟨nodup, fun id mem => ih.parent?_of_isFree (free id mem)⟩

/-- After an orderly history, rules and at-rules stand where their parent says, once. -/
theorem linksExact (reached : Reached True store) : store.LinksExact := by
  induction reached with
  | empty => exact .empty
  | perform _ operation present free ih =>
    refine ih.moves (operation.moves present fun _ => ?_)
    obtain ⟨nodup, free⟩ := free trivial
    exact ⟨nodup, fun id mem => ih.toLinksHold.parent?_of_isFree (free id mem)⟩

end Reached

/-- Detaching a rule from its parent takes one occurrence of it out of that container and clears its
parent. The other containers stay as they are. -/
theorem detach_of_parent {store : Store} (holds : store.LinksHold) {rule container : Id}
    (up : store.parent? rule = some container) :
    (store.detach rule).children container = (store.children container).erase rule ∧
      ((store.detach rule).children container).length + 1 = (store.children container).length ∧
      (∀ other ≠ container, (store.detach rule).children other = store.children other) ∧
      (store.detach rule).parent? rule = none := by
  have mem := holds.mem up
  have removed : store.detach rule = store.remove container rule := by rw [detach, up]
  have erased : (store.remove container rule).children container =
      (store.children container).erase rule := by rw [children_remove mem, if_pos rfl]
  rw [removed]
  refine ⟨erased, ?_, fun other apart => ?_, ?_⟩
  · rw [erased, List.length_erase_of_mem mem]
    exact Nat.sub_add_cancel (List.length_pos_of_mem mem)
  · rw [children_remove mem, if_neg apart.symm]
  · rw [parent?_remove mem, if_pos ⟨rfl, holds.linked up⟩]

/-- A rule is nested exactly if it stands in an at-rule, once its links are exact. -/
theorem isNested_iff {store : Store} (exact' : store.LinksExact) {rule : Id}
    (is_rule : (store.rule? rule).isSome) :
    store.isNested rule = true ↔
      ∃ atRule, store.isAtRule atRule = true ∧ rule ∈ store.children atRule := by
  have linked : store.isLinked rule = true := by
    obtain ⟨⟨selector, declarations⟩, found⟩ := Option.isSome_iff_exists.1 is_rule
    rw [isLinked, rule?_eq_some_iff.1 found]
    rfl
  rw [isNested, Option.any_eq_true]
  constructor
  · rintro ⟨atRule, up, isAtRule⟩
    exact ⟨atRule, isAtRule, exact'.mem up⟩
  · rintro ⟨atRule, isAtRule, mem⟩
    exact ⟨atRule, exact'.parent mem linked, isAtRule⟩

/-- However a document was reached, the parent of a rule or at-rule has it among its children, so that
detaching it takes one occurrence out and clears the parent. If nothing was inserted that stood in a
container already, then a rule or at-rule stands in one container at most, once, and has it as its
parent, so that the nested rules are those that stand in at-rules. -/
theorem parent_links_coherent :
    (∀ {store : Store}, Reached False store → ∀ {child container : Id},
      store.parent? child = some container →
        child ∈ store.children container ∧
        (store.detach child).children container = (store.children container).erase child ∧
        ((store.detach child).children container).length + 1 = (store.children container).length ∧
        (∀ other ≠ container, (store.detach child).children other = store.children other) ∧
        (store.detach child).parent? child = none) ∧
    (∀ {store : Store}, Reached True store →
      (∀ {child container : Id}, child ∈ store.children container → store.isLinked child = true →
        store.parent? child = some container ∧ (store.children container).count child = 1 ∧
          ∀ other, child ∈ store.children other → other = container) ∧
      ∀ {rule : Id}, (store.rule? rule).isSome →
        (store.isNested rule = true ↔
          ∃ atRule, store.isAtRule atRule = true ∧ rule ∈ store.children atRule)) := by
  refine ⟨fun reached => fun up => ?_, fun reached => ⟨fun mem linked => ?_, fun is_rule => ?_⟩⟩
  · exact ⟨reached.linksHold.mem up, detach_of_parent reached.linksHold up⟩
  · have up := reached.linksExact.parent mem linked
    refine ⟨up, reached.linksExact.once mem linked, fun other mem' => ?_⟩
    rw [reached.linksExact.parent mem' linked] at up
    exact Option.some.inj up
  · exact isNested_iff reached.linksExact is_rule

/-- A rule that replaces the rule of an at-rule is nested, and is gone from there once it is
detached. -/
theorem parent_links_coherent_replaced : ∃ store : Store, Reached True store ∧
    store.children ⟨1⟩ = [⟨3⟩] ∧ store.isNested ⟨3⟩ = true ∧
    (store.detach ⟨3⟩).children ⟨1⟩ = [] ∧ (store.detach ⟨3⟩).parent? ⟨3⟩ = none := by
  let history := [Operation.read "@media x \x7b a \x7b top: 0 \x7d \x7d", .newRule "b" [], .append ⟨1⟩ [⟨3⟩],
    .remove ⟨1⟩ ⟨0⟩]
  let store := history.foldl Operation.perform {}
  have reached : Reached True store :=
    (((Reached.empty.perform (.read "@media x \x7b a \x7b top: 0 \x7d \x7d") (by decide +kernel)
      (by decide +kernel)).perform (.newRule "b" []) (by decide +kernel)
      (by decide +kernel)).perform (.append ⟨1⟩ [⟨3⟩]) (by decide +kernel)
      (by decide +kernel)).perform (.remove ⟨1⟩ ⟨0⟩) (by decide +kernel) (by decide +kernel)
  have stands : store.isAtRule ⟨1⟩ = true ∧ (⟨3⟩ : Id) ∈ store.children ⟨1⟩ := by decide +kernel
  obtain ⟨-, nested⟩ := parent_links_coherent.2 reached
  have up : store.parent? ⟨3⟩ = some ⟨1⟩ := by decide +kernel
  obtain ⟨-, erased, -, -, cleared⟩ := parent_links_coherent.1 reached.unordered up
  refine ⟨store, reached, by decide +kernel, (nested (by decide +kernel)).2 ⟨⟨1⟩, stands⟩, ?_,
    cleared⟩
  rw [erased]
  decide +kernel

end ViewportScaling.Media
