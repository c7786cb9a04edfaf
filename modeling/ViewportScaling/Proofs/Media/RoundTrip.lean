import ViewportScaling.Proofs.Css.Rereading
import ViewportScaling.Proofs.Media.Passes
import ViewportScaling.Proofs.Media.Printing

/-!
# Reading undoes writing

A stylesheet that is read from a plain source can be printed, passes over it put blocks behind it that can
be printed, too, and what can be printed is read back from its text. So a stylesheet and whatever passes
make of it survive being written and read, however deep the indentation.
-/

namespace ViewportScaling.Media

open Css Document Numeric

/-- Passes over a stylesheet succeed exactly if no rule at its top level stops one of them, and then it is
followed by the blocks of each pass. -/
theorem transform_eq_ok_iff {sequence : List Settings} {sheet transformed : Stylesheet} :
    let rules := sheet.filterMap Store.rulePart?
    (transform sequence sheet).1 = .ok transformed ↔
      (∀ settings ∈ sequence, (contributions settings rules).error = none) ∧
        transformed = sheet ++ sequence.flatMap fun settings =>
          blockNodes settings fun block => entriesFor block (contributions settings rules).emissions := by
  intro rules
  -- The passes run over the planted sheet, and its direct rules are the rules at the top of the tree.
  let planted := ({} : Store).plantSheet sheet
  let result := passes planted.2 planted.1 sequence
  have spells : planted.2.IsPlantedSheet planted.1 sheet := Store.isPlantedSheet_plantSheet sheet
  have coherent := spells.coherent
  have direct : planted.2.directRules planted.1 = rules := spells.directRules_eq
  have success : result.error = none ↔
      ∀ settings ∈ sequence, (contributions settings rules).error = none := by
    have := error_passes_iff coherent sequence
    unfold traceOf at this
    rwa [direct] at this
  have outcome : (transform sequence sheet).1 =
      result.error.elim (.ok (result.store.nodes planted.1)) .error := by
    unfold transform
    dsimp only
    split <;> rename_i stopped <;> exact (congrArg (Option.elim · _ _) stopped).symm
  rw [← success, outcome]
  cases stopped : result.error with
  | some error => simp
  | none =>
    obtain ⟨added, -, nodes⟩ := exists_growsTo_passes coherent sequence stopped
    have blocks : ∀ settings ∈ sequence, addedBlocks settings planted.2 planted.1 =
        blockNodes settings fun block => entriesFor block (contributions settings rules).emissions := by
      intro settings mem
      have alone := (error_passes_iff coherent sequence).1 stopped settings mem
      rw [addedBlocks_eq coherent ((error_pass coherent).trans alone)]
      unfold passEntries traceOf
      rw [direct]
    rw [spells.nodes_eq, List.flatMap_congr blocks] at nodes
    change Except.ok (result.store.nodes planted.1) = _ ↔ _
    rw [Except.ok.injEq, nodes]
    rw [eq_self, true_and, eq_comm]

/-- Passes over a stylesheet that can be printed leave one that can be. -/
theorem isPrintable_of_transform {sequence : List Settings} {sheet transformed : Stylesheet}
    (printable : sheet.IsPrintable) (found : (transform sequence sheet).1 = .ok transformed) :
    transformed.IsPrintable := by
  have nodes := Node.arePrintable_iff.1 printable.nodes
  have rules : ∀ rule ∈ sheet.filterMap Store.rulePart?, (Node.rule rule.1 rule.2).IsPrintable := by
    intro rule mem
    have ⟨node, among, part⟩ := List.mem_filterMap.1 mem
    cases node with
    | rule selector declarations =>
      cases part
      exact nodes _ among
    | declaration content => cases part
    | atRule name params hasBlock children => cases part
  have ⟨_, same⟩ := transform_eq_ok_iff.1 found
  rw [same]
  constructor
  · rw [Node.arePrintable_iff]
    refine List.forall_mem_append.2 ⟨nodes, fun node mem => ?_⟩
    have ⟨settings, _, inside⟩ := List.mem_flatMap.1 mem
    exact isPrintable_blockNodes settings rules node inside
  · refine List.forall_mem_append.2 ⟨printable.top, fun node mem => ?_⟩
    have ⟨settings, _, inside⟩ := List.mem_flatMap.1 mem
    have ⟨block, _, media⟩ := List.mem_map.1 inside
    rw [← media]
    exact fun _ => nofun

/-- Reading undoes writing. If a plain source is read and any sequence of passes over its stylesheet
succeeds, the outcome is read back from its text with any indentation of spaces and tabs. -/
theorem read_write_transform {source : String} {sheet : Stylesheet}
    (found : Stylesheet.read source = .ok sheet) (plain : IsPlainSource source.toList)
    {sequence : List Settings} {transformed : Stylesheet}
    (success : (transform sequence sheet).1 = .ok transformed) {indent : String}
    (spacing : ∀ c ∈ indent.toList, c = ' ' ∨ c = '\t') :
    Stylesheet.read (transformed.write indent) = .ok transformed := by
  have printable := Stylesheet.isPrintable_of_read found plain
  refine Stylesheet.read_write (isPrintable_of_transform printable success) fun c mem => ?_
  rcases spacing c mem with rfl | rfl <;> decide

/-- A page with a comment, an address that holds a brace and a nested rule, after two passes. -/
theorem read_write_transform_page :
    let source := "/* page */ .box  a\x7bwidth : 75px; background:url(a\x7db)\x7d\n@media print\x7b" ++
      ".box\x7bcolor:red!important\x7d\x7d"
    let sheet : Stylesheet :=
      [.rule ".box a" [⟨"width", "75px", false⟩, ⟨"background", "url(a\x7db)", false⟩],
        .atRule "media" "print" true [.rule ".box" [⟨"color", "red", true⟩]]]
    let sequence : List Settings := [{}, { disableLandscape := true, desktopWidth := .whole 375 }]
    let transformed := sheet ++
      [.media "(min-width: 600px) and (min-height: 640px)" [(".box a", [⟨"width", "60.000px", false⟩])],
        .media ("((min-width: 600px) and (max-height: 640px)) or " ++
          "((max-width: 600px) and (orientation: landscape))")
          [(".box a", [⟨"width", "42.500px", false⟩])],
        .media "(min-width: 600px) or ((orientation: landscape) and (max-width: 600))" [],
        .media "(min-width: 375px) and (min-height: 640px)" [(".box a", [⟨"width", "37.500px", false⟩])]]
    Stylesheet.read source = .ok sheet ∧ IsPlainSource source.toList ∧
      (transform sequence sheet).1 = .ok transformed ∧
        Stylesheet.read (transformed.write "\t") = .ok transformed := by
  intro source sheet sequence transformed
  have found : Stylesheet.read source = .ok sheet := by decide +kernel
  have plain : IsPlainSource source.toList := by decide +kernel
  have success : (transform sequence sheet).1 = .ok transformed :=
    transform_eq_ok_iff.2 ⟨by decide +kernel, by decide +kernel⟩
  exact ⟨found, plain, success, read_write_transform found plain success (by decide)⟩

end ViewportScaling.Media
