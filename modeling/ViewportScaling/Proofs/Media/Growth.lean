import ViewportScaling.Media.Pass
import ViewportScaling.Proofs.Media.Blocks

/-!
# How a pass makes a document grow

A pass over a coherent sheet depends on the direct rules of the sheet alone. If it succeeds, the document
has grown at the end of the sheet by the blocks that got entries, and the shared block only where both
others did. Each block is one at-rule with the grouped entries. The sheet stays coherent and keeps its
direct rules, so further passes make it grow in the same way.
-/

namespace ViewportScaling.Media

open Css Document Numeric

/-- The blocks that a sheet takes in when the blocks of a context hold given entries. -/
def wantedBlocks (entries : Block → List (String × List Declaration)) : List Block :=
  (if entries .desktop = [] then [] else [.desktop]) ++
    (if entries .landscape = [] then [] else [.landscape]) ++
    if entries .desktop = [] ∨ entries .landscape = [] then [] else [.shared]

/-- The trees of the blocks that a sheet takes in. -/
def blockNodes (settings : Settings) (entries : Block → List (String × List Declaration)) :
    List Node :=
  (wantedBlocks entries).map fun block =>
    .media (block.params settings) (grouped (entries block))

/-- What the rules of a sheet contribute to the blocks of a pass. -/
def traceOf (settings : Settings) (store : Store) (sheet : Id) : Trace :=
  contributions settings (store.directRules sheet)

/-- The entries of the blocks of a pass. -/
def passEntries (settings : Settings) (store : Store) (sheet : Id) (block : Block) :
    List (String × List Declaration) :=
  entriesFor block (traceOf settings store sheet).emissions

/-- No block is wanted twice. -/
theorem nodup_wantedBlocks (entries : Block → List (String × List Declaration)) :
    (wantedBlocks entries).Nodup := by
  unfold wantedBlocks
  by_cases desktop : entries .desktop = [] <;> by_cases landscape : entries .landscape = [] <;>
    simp [desktop, landscape]

namespace Context.Holds

variable {context : Context} {start store : Store} {sheet : Id} {parent : Block → Option Id}
  {entries : Block → List (String × List Declaration)} {added : List Id}

/-- A block has children exactly if it has entries. -/
theorem isEmpty_children (holds : context.Holds start store sheet parent entries added)
    (block : Block) :
    (store.children (context.block block)).isEmpty = (entries block).isEmpty := by
  obtain ⟨rules, isBlock, -⟩ := holds.isBlock block
  rw [Store.children_of_get? isBlock.atRule]
  have length := isBlock.holds.length_eq
  cases rules <;> cases contents : entries block <;> simp_all

/-- The blocks taken in are those with entries, and the shared block if both others have some. -/
theorem finished_eq (holds : context.Holds start store sheet parent entries added) :
    context.finished store = wantedBlocks entries := by
  have desktop := holds.isEmpty_children .desktop
  have landscape := holds.isEmpty_children .landscape
  simp only [Context.block] at desktop landscape
  unfold finished wantedBlocks
  rw [desktop, landscape]
  cases entries .desktop <;> cases entries .landscape <;> rfl

end Context.Holds

/-- What a successful pass leaves behind. -/
structure PassGrowth (settings : Settings) (store other : Store) (sheet : Id)
    (entries : Block → List (String × List Declaration)) (added : List Id) : Prop where
  /-- The document has grown at the end of the sheet. -/
  grows : store.GrowsTo other sheet added
  /-- The sheet has taken in blocks that hold rules of their own. -/
  blocks : ∀ block ∈ added, ∃ params rules entries,
    other.IsBlock block params (some sheet) rules entries
  /-- The trees of these blocks. -/
  nodes_eq : added.filterMap other.node? = blockNodes settings entries

/-- Finishing a context makes the document grow by its blocks. -/
theorem Context.Holds.finish {context : Context} {start store : Store} {sheet : Id}
    {entries : Block → List (String × List Declaration)}
    (holds : context.Holds start store sheet (fun _ => none) entries []) :
    ∃ added, PassGrowth context.settings start (context.finish store sheet).2.2 sheet entries
      added := by
  have finished := holds.finishBlocks (nodup_wantedBlocks entries)
  rw [← holds.finished_eq, ← context.finish_store, holds.finished_eq, List.nil_append] at finished
  refine ⟨_, finished.grows, fun id mem => ?_, ?_⟩
  · obtain ⟨block, wanted, rfl⟩ := List.mem_map.1 mem
    obtain ⟨rules, isBlock, -⟩ := finished.isBlock block
    rw [if_pos wanted] at isBlock
    exact ⟨_, _, _, isBlock⟩
  · rw [List.filterMap_map, blockNodes, ← List.filterMap_eq_map]
    refine List.filterMap_congr fun block wanted => ?_
    obtain ⟨rules, isBlock, -⟩ := finished.isBlock block
    rw [Function.comp_apply, isBlock.node?_eq, if_pos wanted]
    rfl

section Pass

variable {settings : Settings} {store : Store} {sheet : Id}

/-- A pass stops where the contributions of the direct rules stop. -/
theorem error_pass (coherent : store.Coherent sheet) :
    (pass settings store sheet).error = (traceOf settings store sheet).error := by
  unfold pass plainRules traceOf
  rw [coherent.filterMap_rulesBelow]
  dsimp only
  split
  · rename_i error stopped
    rw [stopped]
  · rename_i none
    rw [none]

/-- A pass that succeeds makes the document grow by the blocks that got entries. -/
theorem exists_passGrowth (coherent : store.Coherent sheet)
    (success : (pass settings store sheet).error = none) :
    ∃ added, PassGrowth settings store (pass settings store sheet).store sheet
      (passEntries settings store sheet) added := by
  rw [error_pass coherent] at success
  obtain ⟨object, found, -⟩ := Store.exists_get?_of_content? coherent.isSheet
  have created := Context.holds_create store settings found
  have holds := created.emitAll (traceOf settings store sheet).emissions
  simp only [List.nil_append] at holds
  have same : (pass settings store sheet).store =
      ((Context.create store settings).1.finish
        ((Context.create store settings).1.emitAll (Context.create store settings).2
          (traceOf settings store sheet).emissions) sheet).2.2 := by
    unfold pass plainRules
    rw [coherent.filterMap_rulesBelow]
    unfold traceOf at success ⊢
    dsimp only
    rw [success]
  rw [same]
  exact holds.finish

namespace PassGrowth

variable {other : Store} {entries : Block → List (String × List Declaration)} {added : List Id}

/-- The trees under the sheet are the old ones and the blocks. -/
theorem nodes_sheet (growth : PassGrowth settings store other sheet entries added)
    (coherent : store.Coherent sheet) :
    other.nodes sheet = store.nodes sheet ++ blockNodes settings entries := by
  rw [growth.grows.nodes_eq coherent, growth.nodes_eq]

/-- The sheet stays coherent. -/
theorem coherent (growth : PassGrowth settings store other sheet entries added)
    (coherent : store.Coherent sheet) : other.Coherent sheet :=
  growth.grows.coherent coherent growth.blocks

/-- The sheet keeps its direct rules. -/
theorem directRules_eq (growth : PassGrowth settings store other sheet entries added)
    (coherent : store.Coherent sheet) : other.directRules sheet = store.directRules sheet :=
  growth.grows.directRules_eq coherent growth.blocks

end PassGrowth

end Pass

end ViewportScaling.Media
