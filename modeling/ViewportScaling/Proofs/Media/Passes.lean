import ViewportScaling.Proofs.Document.Planting
import ViewportScaling.Proofs.Media.Growth

/-!
# Sequences of passes

Passes in sequence over one sheet add up: each puts the same blocks behind the children of the sheet that
it would put there alone, and every object but the sheet keeps its content and its links. What a pass adds
depends on the direct rules of the sheet alone, so neither the blocks of earlier passes nor any other
at-rule matter to it.
-/

namespace ViewportScaling.Media

open Css Document Numeric

/-- The trees that a single pass puts behind those of a sheet. -/
def addedBlocks (settings : Settings) (store : Store) (sheet : Id) : List Node :=
  ((pass settings store sheet).store.nodes sheet).drop (store.nodes sheet).length

section

variable {settings : Settings} {store : Store} {sheet : Id}

/-- The blocks that a pass adds are given by the entries of its direct rules. -/
theorem addedBlocks_eq (coherent : store.Coherent sheet)
    (success : (pass settings store sheet).error = none) :
    addedBlocks settings store sheet = blockNodes settings (passEntries settings store sheet) := by
  obtain ⟨added, growth⟩ := exists_passGrowth coherent success
  rw [addedBlocks, growth.nodes_sheet coherent, List.drop_left]

/-- A pass that succeeds puts its blocks behind the trees of the sheet. -/
theorem nodes_pass (coherent : store.Coherent sheet)
    (success : (pass settings store sheet).error = none) :
    (pass settings store sheet).store.nodes sheet =
      store.nodes sheet ++ addedBlocks settings store sheet := by
  obtain ⟨added, growth⟩ := exists_passGrowth coherent success
  rw [addedBlocks_eq coherent success, growth.nodes_sheet coherent]

/-- Sheets with the same direct rules get the same blocks, or the same error. -/
theorem pass_congr (settings : Settings) (coherent : store.Coherent sheet) {other : Store} {sheet' : Id}
    (coherent' : other.Coherent sheet')
    (same : other.directRules sheet' = store.directRules sheet) :
    (pass settings other sheet').error = (pass settings store sheet).error ∧
      ((pass settings store sheet).error = none →
        addedBlocks settings other sheet' = addedBlocks settings store sheet) := by
  have errors : (pass settings other sheet').error = (pass settings store sheet).error := by
    rw [error_pass coherent', error_pass coherent, traceOf, traceOf, same]
  refine ⟨errors, fun success => ?_⟩
  rw [addedBlocks_eq coherent' (errors.trans success), addedBlocks_eq coherent success]
  unfold passEntries traceOf
  rw [same]

/-- A pass that succeeds is followed by the further ones. -/
theorem passes_cons (further : List Settings) (success : (pass settings store sheet).error = none) :
    (passes store sheet (settings :: further)).error =
        (passes (pass settings store sheet).store sheet further).error ∧
      (passes store sheet (settings :: further)).store =
        (passes (pass settings store sheet).store sheet further).store := by
  rw [passes]
  dsimp only
  rw [success]
  exact ⟨rfl, rfl⟩

/-- Passes that succeed together succeed one by one. -/
theorem error_pass_of_passes {further : List Settings}
    (success : (passes store sheet (settings :: further)).error = none) :
    (pass settings store sheet).error = none := by
  rw [passes] at success
  dsimp only at success
  split at success
  · exact success
  · assumption

/-- Passes in sequence succeed exactly if each of them succeeds on the sheet as it was. -/
theorem error_passes_iff (coherent : store.Coherent sheet) (sequence : List Settings) :
    (passes store sheet sequence).error = none ↔
      ∀ settings ∈ sequence, (traceOf settings store sheet).error = none := by
  induction sequence generalizing store with
  | nil => simp [passes]
  | cons settings further ih =>
    rw [List.forall_mem_cons, ← error_pass coherent]
    constructor
    · intro success
      have first := error_pass_of_passes success
      obtain ⟨added, growth⟩ := exists_passGrowth coherent first
      have rest := (ih (growth.coherent coherent)).1 ((passes_cons further first).1 ▸ success)
      unfold traceOf at rest
      rw [growth.directRules_eq coherent] at rest
      exact ⟨first, rest⟩
    · rintro ⟨first, rest⟩
      obtain ⟨added, growth⟩ := exists_passGrowth coherent first
      rw [(passes_cons further first).1, ih (growth.coherent coherent)]
      unfold traceOf
      rw [growth.directRules_eq coherent]
      exact rest

/-- Passes that succeed make the document grow at the end of the sheet by the blocks that each of them
adds alone. -/
theorem exists_growsTo_passes (coherent : store.Coherent sheet) (sequence : List Settings)
    (success : (passes store sheet sequence).error = none) :
    ∃ added, store.GrowsTo (passes store sheet sequence).store sheet added ∧
      (passes store sheet sequence).store.nodes sheet =
        store.nodes sheet ++ sequence.flatMap fun settings => addedBlocks settings store sheet := by
  induction sequence generalizing store with
  | nil => exact ⟨[], .refl store sheet, by simp [passes]⟩
  | cons settings further ih =>
    have first := error_pass_of_passes success
    obtain ⟨added, growth⟩ := exists_passGrowth coherent first
    have coherent' := growth.coherent coherent
    have rest : (passes (pass settings store sheet).store sheet further).error = none :=
      (passes_cons further first).1 ▸ success
    obtain ⟨added', grows, nodes⟩ := ih coherent' rest
    -- The first pass leaves the direct rules as they are, so the others add what they would add first.
    have same : ∀ next ∈ further, addedBlocks next (pass settings store sheet).store sheet =
        addedBlocks next store sheet := by
      intro next mem
      have traces := (error_passes_iff coherent' further).1 rest next mem
      have congr := pass_congr next coherent coherent' (growth.directRules_eq coherent)
      exact congr.2 (congr.1 ▸ (error_pass coherent').trans traces)
    rw [(passes_cons further first).2]
    refine ⟨added ++ added', growth.grows.trans grows, ?_⟩
    rw [nodes, nodes_pass coherent first, List.append_assoc, List.flatMap_cons]
    congr 2
    exact List.flatMap_congr same

end

/-- Passes are append-only and independent. If passes in sequence succeed over a coherent sheet, every
object but the sheet keeps its content, its children and its parent, and the trees of the sheet are the
old ones followed, for each pass in turn, by the blocks that it adds alone. What a pass adds alone, or the
error it stops with, is the same over any two coherent sheets with the same direct rules. -/
theorem passes_append_only {store : Store} {sheet : Id} (coherent : store.Coherent sheet)
    (sequence : List Settings) (success : (passes store sheet sequence).error = none) :
    (∃ added, store.GrowsTo (passes store sheet sequence).store sheet added) ∧
      (passes store sheet sequence).store.nodes sheet =
        store.nodes sheet ++ sequence.flatMap (fun settings => addedBlocks settings store sheet) ∧
      (∀ settings ∈ sequence, (pass settings store sheet).error = none ∧
        (pass settings store sheet).store.nodes sheet =
          store.nodes sheet ++ addedBlocks settings store sheet) ∧
      ∀ (settings : Settings) (other : Store) (sheet' : Id), other.Coherent sheet' →
        other.directRules sheet' = store.directRules sheet →
        (pass settings other sheet').error = (pass settings store sheet).error ∧
          ((pass settings store sheet).error = none →
            addedBlocks settings other sheet' = addedBlocks settings store sheet) := by
  obtain ⟨added, grows, nodes⟩ := exists_growsTo_passes coherent sequence success
  refine ⟨⟨added, grows⟩, nodes, fun settings mem => ?_, fun settings other sheet' coherent' same =>
    pass_congr settings coherent coherent' same⟩
  have alone : (pass settings store sheet).error = none :=
    (error_pass coherent).trans ((error_passes_iff coherent sequence).1 success settings mem)
  exact ⟨alone, nodes_pass coherent alone⟩

/-- Two passes over a page with a rule for the root container next to a block that holds the same rule. -/
theorem passes_append_only_page :
    let rule : Node := .rule ".root-class" [⟨"width", "75px", false⟩]
    let page := ({} : Store).plantSheet [rule, .atRule "media" "print" true [rule]]
    let sequence : List Settings := [{}, { border := true }]
    page.2.Coherent page.1 ∧ (passes page.2 page.1 sequence).error = none ∧
      (passes page.2 page.1 sequence).store.nodes page.1 =
        [rule, .atRule "media" "print" true [rule]] ++
          sequence.flatMap fun settings => addedBlocks settings page.2 page.1 := by
  intro rule page sequence
  have planted : page.2.IsPlantedSheet page.1 _ := Store.isPlantedSheet_plantSheet _
  have success : (passes page.2 page.1 sequence).error = none := by
    rw [error_passes_iff planted.coherent]
    unfold traceOf
    rw [planted.directRules_eq]
    decide +kernel
  refine ⟨planted.coherent, success, ?_⟩
  rw [(passes_append_only planted.coherent sequence success).2.1, planted.nodes_eq]

end ViewportScaling.Media
