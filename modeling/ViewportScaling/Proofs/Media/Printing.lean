import ViewportScaling.Proofs.Document.Grouping
import ViewportScaling.Proofs.Media.Growth
import ViewportScaling.Proofs.Scaling.Values

/-!
# Blocks that can be printed

What a rule contributes to the blocks has the selector of the rule, and its declarations are made by the
pass or are copies of declarations of the rule with scaled values. If the rule can be printed, so can
each emission, and then the blocks: merging only puts declarations together, and the conditions are
made of constant texts and numbers.
-/

namespace ViewportScaling.Media

open Css Document Numeric Scaling

/-- An emission can be printed as a rule. -/
structure Emission.IsPrintable (emission : Emission) : Prop where
  /-- The selector is tidy. -/
  selector : IsTidySelector emission.selector.toList
  /-- Each declaration can be printed. -/
  declarations : ∀ content ∈ emission.declarations, content.IsPrintable

/-- Each emission of a contribution can be printed. -/
def Trace.IsPrintable (trace : Trace) : Prop := ∀ emission ∈ trace.emissions, emission.IsPrintable

namespace Trace.IsPrintable

theorem empty : (∅ : Trace).IsPrintable := by
  intro emission mem
  cases mem

theorem note (notice : Notice) : (Trace.note notice).IsPrintable := by
  intro emission mem
  cases mem

/-- An emission is printable if its selector is tidy and its declarations are printable. -/
theorem emit {block : Block} {selector : String} {declarations : List Declaration}
    (tidy : IsTidySelector selector.toList) (printable : ∀ content ∈ declarations, content.IsPrintable) :
    (Trace.emit block selector declarations).IsPrintable := by
  intro emission mem
  rw [List.mem_singleton.1 mem]
  exact ⟨tidy, printable⟩

theorem append {first second : Trace} (one : first.IsPrintable) (other : second.IsPrintable) :
    (first ++ second).IsPrintable := by
  unfold IsPrintable
  rw [Trace.append_def]
  split
  · exact one
  · exact List.forall_mem_append.2 ⟨one, other⟩

theorem concat {traces : List Trace} (each : ∀ trace ∈ traces, trace.IsPrintable) :
    (Trace.concat traces).IsPrintable := by
  induction traces with
  | nil => exact empty
  | cons trace traces ih =>
    have ⟨first, others⟩ := List.forall_mem_cons.1 each
    rw [Trace.concat_cons]
    exact first.append (ih others)

/-- A contribution that is made only under a condition. -/
theorem guarded {condition : Prop} [Decidable condition] {trace : Trace} (printable : trace.IsPrintable) :
    (if condition then trace else ∅).IsPrintable := by
  split
  · exact printable
  · exact empty

end Trace.IsPrintable

/-! ### Declarations that are made -/

/-- The declarations that are the same in every pass can be printed. -/
theorem isPrintable_constant : ∀ content ∈ [marginLeft, marginRight, leftEdge, rightEdge, contentBox,
    fullHeight, autoHeight, borderLeft, borderRight], content.IsPrintable := by
  decide +kernel

/-- A length whose number is a numeral can be printed in place of another. -/
theorem isPrintable_pixels {declaration : Declaration} (printable : declaration.IsPrintable)
    (zero : declaration.value = "0px") (width : Number) :
    Declaration.IsPrintable { declaration with value := width.plainText ++ "px" } := by
  have ⟨nonempty, numeral⟩ := width.isNumeral_plainText
  have scaling : IsScaling declaration.value.toList (width.plainText ++ "px").toList := by
    rw [zero, String.toList_append]
    exact .number (show ['0'] ≠ [] by simp) (by decide) ⟨nonempty, numeral⟩ ⟨[], rfl⟩ (.refl ['p', 'x'])
  exact printable.congr scaling.alike (scaling.trim printable.value_trimmed) fun plain =>
    scaling.unmarked (printable.unmarked plain)

theorem isPrintable_fixedWidth (width : Number) : (fixedWidth width).IsPrintable :=
  isPrintable_pixels (show Declaration.IsPrintable ⟨"width", "0px", false⟩ by decide +kernel) rfl width

theorem isPrintable_cappedWidth (width : Number) : (cappedWidth width).IsPrintable :=
  isPrintable_pixels (show Declaration.IsPrintable ⟨"max-width", "0px", true⟩ by decide +kernel) rfl width

/-! ### Contributions -/

section

variable {selector : String} (tidy : IsTidySelector selector.toList)
include tidy

/-- Printable declarations are placed in printable rules. -/
theorem isPrintable_place (settings : Settings) {desktopOwn landscapeOwn common : List Declaration}
    (desktop : ∀ content ∈ desktopOwn, content.IsPrintable)
    (landscape : ∀ content ∈ landscapeOwn, content.IsPrintable)
    (shared : ∀ content ∈ common, content.IsPrintable) :
    (place settings selector desktopOwn landscapeOwn common).IsPrintable := by
  unfold place
  split
  · exact ((Trace.IsPrintable.emit tidy desktop).append (.emit tidy landscape)).append (.emit tidy shared)
  split
  · exact .emit tidy (List.forall_mem_append.2 ⟨landscape, shared⟩)
  split
  · exact .emit tidy (List.forall_mem_append.2 ⟨desktop, shared⟩)
  · exact .empty

/-- A scaled copy of a printable declaration is printable. -/
theorem isPrintable_scaledCopy (block : Block) (ratio : Except ArithmeticError Double)
    {declaration : Declaration} (printable : declaration.IsPrintable) :
    (scaledCopy block ratio selector declaration).IsPrintable := by
  unfold scaledCopy
  cases ratio with
  | error error => exact .empty
  | ok factor =>
    simp only [bind, Except.bind]
    cases found : scaleValue (.double factor) declaration.value with
    | error error => exact .empty
    | ok value =>
      refine .emit tidy ?_
      simpa using isPrintable_of_scaleValue printable found

/-- So are the copies for both classes. -/
theorem isPrintable_scaledLength (settings : Settings) {declaration : Declaration}
    (printable : declaration.IsPrintable) :
    (scaledLength settings selector declaration).IsPrintable := by
  unfold scaledLength
  refine .guarded (.append (.guarded ?_) (.guarded ?_))
  · exact isPrintable_scaledCopy tidy .desktop settings.desktopRatio printable
  · exact isPrintable_scaledCopy tidy .landscape settings.landscapeRatio printable

/-- The rules that centre the root container are printable. -/
theorem isPrintable_centredRoot (settings : Settings) :
    (centredRoot settings selector).IsPrintable := by
  unfold centredRoot
  refine isPrintable_place tidy settings ?_ ?_ ?_
  · simpa using isPrintable_cappedWidth settings.desktopWidth
  · simpa using isPrintable_cappedWidth settings.landscapeWidth
  · intro content mem
    apply isPrintable_constant
    split at mem
    · simp only [List.mem_append, List.mem_cons, List.not_mem_nil, or_false] at mem ⊢
      tauto
    · simp only [List.mem_append, List.mem_cons, List.not_mem_nil, or_false] at mem ⊢
      tauto

/-- So are those of the width patterns. -/
theorem isPrintable_patternContribution (settings : Settings) (flags : Flags) :
    (patternContribution settings selector flags).IsPrintable := by
  have desktop : ∀ content ∈ [fixedWidth settings.desktopWidth], content.IsPrintable := by
    simpa using isPrintable_fixedWidth settings.desktopWidth
  have landscape : ∀ content ∈ [fixedWidth settings.landscapeWidth], content.IsPrintable := by
    simpa using isPrintable_fixedWidth settings.landscapeWidth
  unfold patternContribution
  split
  · rename_i pattern found
    cases pattern with
    | fixedBar =>
      refine isPrintable_place tidy settings desktop landscape fun content mem => ?_
      apply isPrintable_constant
      simp only [List.mem_cons, List.not_mem_nil, or_false] at mem ⊢
      tauto
    | viewWidth => exact .append (.guarded (.emit tidy desktop)) (.guarded (.emit tidy landscape))
  · exact .empty

/-- What a rule that can be printed contributes can be printed. -/
theorem isPrintable_contribution (settings : Settings) {declarations : List Declaration}
    (printable : ∀ content ∈ declarations, content.IsPrintable) :
    (contribution settings selector declarations).IsPrintable := by
  have root : (if selector = settings.rootSelector then
      Trace.note (.rootFound selector) ++ centredRoot settings selector else ∅).IsPrintable :=
    .guarded ((Trace.IsPrintable.note _).append (isPrintable_centredRoot tidy settings))
  have lengths : (Trace.concat (declarations.map (scaledLength settings selector))).IsPrintable := by
    refine .concat fun trace mem => ?_
    have ⟨content, among, same⟩ := List.mem_map.1 mem
    rw [← same]
    exact isPrintable_scaledLength tidy settings (printable content among)
  unfold contribution
  refine ((root.append lengths).append (isPrintable_patternContribution tidy settings _)).append ?_
  split
  · exact .note _
  · exact .empty

end

/-- What rules that can be printed contribute can be printed. -/
theorem isPrintable_contributions (settings : Settings) {rules : List (String × List Declaration)}
    (printable : ∀ rule ∈ rules, (Node.rule rule.1 rule.2).IsPrintable) :
    (contributions settings rules).IsPrintable := by
  refine .concat fun trace mem => ?_
  have ⟨rule, among, same⟩ := List.mem_map.1 mem
  have whole := printable rule among
  rw [Node.IsPrintable] at whole
  rw [← same]
  exact isPrintable_contribution whole.1 settings whole.2

/-! ### Blocks -/

/-- Grouping entries that can be printed leaves rules that can be. -/
theorem isPrintable_grouped {entries : List (String × List Declaration)}
    (printable : ∀ entry ∈ entries, (Node.rule entry.1 entry.2).IsPrintable) :
    ∀ entry ∈ grouped entries, (Node.rule entry.1 entry.2).IsPrintable := by
  intro entry mem
  rw [Node.IsPrintable]
  constructor
  · obtain ⟨first, listed, named⟩ := List.mem_map.1 (mem_map_fst_grouped.1 (List.mem_map_of_mem mem))
    have whole := printable first listed
    rw [Node.IsPrintable] at whole
    rw [← named]
    exact whole.1
  · intro content inside
    obtain ⟨other, listed, -, holds⟩ := exists_of_mem_grouped mem inside
    have part := printable other listed
    rw [Node.IsPrintable] at part
    exact part.2 content holds

theorem isNumeral_zero : IsNumeral ['0'] := ⟨by simp, by decide⟩

/-- The condition of the desktop block is tidy. -/
theorem isTidyPrelude_desktopParams (settings : Settings) :
    IsTidyPrelude settings.desktopParams.toList := by
  have wide := Scan.Alike.of_isNumeral isNumeral_zero settings.breakPoint.isNumeral_plainText
  have high := Scan.Alike.of_isNumeral isNumeral_zero settings.xAxisBreakPoint.isNumeral_plainText
  have model : IsTidyPrelude ("(min-width: ".toList ++ ['0'] ++ "px) and (min-height: ".toList ++
      ['0'] ++ "px)".toList) := by decide +kernel
  unfold Settings.desktopParams
  simp only [String.toList_append]
  refine model.congr ?_ ⟨'(', rfl, by decide⟩
  exact ((((Scan.Alike.refl "(min-width: ".toList).append wide).append
    (.refl "px) and (min-height: ".toList)).append high).append (.refl "px)".toList)

theorem isTidyPrelude_landscapeParams (settings : Settings) :
    IsTidyPrelude settings.landscapeParams.toList := by
  have wide := Scan.Alike.of_isNumeral isNumeral_zero settings.breakPoint.isNumeral_plainText
  have high := Scan.Alike.of_isNumeral isNumeral_zero settings.xAxisBreakPoint.isNumeral_plainText
  have model : IsTidyPrelude ("((min-width: ".toList ++ ['0'] ++ "px) and (max-height: ".toList ++
      ['0'] ++ "px)) or ((max-width: ".toList ++ ['0'] ++
      "px) and (orientation: landscape))".toList) := by decide +kernel
  unfold Settings.landscapeParams
  simp only [String.toList_append]
  refine model.congr ?_ ⟨'(', rfl, by decide⟩
  exact ((((((Scan.Alike.refl "((min-width: ".toList).append wide).append
    (.refl "px) and (max-height: ".toList)).append high).append
    (.refl "px)) or ((max-width: ".toList)).append wide).append
    (.refl "px) and (orientation: landscape))".toList)

theorem isTidyPrelude_sharedParams (settings : Settings) :
    IsTidyPrelude settings.sharedParams.toList := by
  have wide := Scan.Alike.of_isNumeral isNumeral_zero settings.breakPoint.isNumeral_plainText
  have model : IsTidyPrelude ("(min-width: ".toList ++ ['0'] ++
      "px) or ((orientation: landscape) and (max-width: ".toList ++ ['0'] ++ "))".toList) := by
    decide +kernel
  unfold Settings.sharedParams
  simp only [String.toList_append]
  refine model.congr ?_ ⟨'(', rfl, by decide⟩
  exact ((((Scan.Alike.refl "(min-width: ".toList).append wide).append
    (.refl "px) or ((orientation: landscape) and (max-width: ".toList)).append wide).append
    (.refl "))".toList)

/-- The condition of each block is tidy. -/
theorem isTidyPrelude_params (settings : Settings) (block : Block) :
    IsTidyPrelude (block.params settings).toList := by
  cases block with
  | desktop => exact isTidyPrelude_desktopParams settings
  | landscape => exact isTidyPrelude_landscapeParams settings
  | shared => exact isTidyPrelude_sharedParams settings

/-- A media block with a tidy condition and rules that can be printed can be printed. -/
theorem isPrintable_media {params : String} {entries : List (String × List Declaration)}
    (tidy : IsTidyPrelude params.toList)
    (printable : ∀ entry ∈ entries, (Node.rule entry.1 entry.2).IsPrintable) :
    (Node.media params entries).IsPrintable := by
  have named : IsName "media".toList := by
    refine ⟨'m', "edia".toList, rfl, by decide, ?_⟩
    decide +kernel
  rw [Node.media, Node.IsPrintable]
  refine ⟨named, fun _ => tidy, fun open' => absurd open' (by decide),
    Node.arePrintable_iff.2 fun node mem => ?_⟩
  obtain ⟨entry, among, same⟩ := List.mem_map.1 mem
  rw [← same]
  exact printable entry among

/-- The blocks of what rules contribute can be printed if the rules can be. -/
theorem isPrintable_blockNodes (settings : Settings) {rules : List (String × List Declaration)}
    (printable : ∀ rule ∈ rules, (Node.rule rule.1 rule.2).IsPrintable) :
    ∀ node ∈ blockNodes settings fun block => entriesFor block (contributions settings rules).emissions,
      node.IsPrintable := by
  intro node mem
  have ⟨block, _, same⟩ := List.mem_map.1 mem
  rw [← same]
  refine isPrintable_media (isTidyPrelude_params settings block) (isPrintable_grouped ?_)
  intro entry listed
  have ⟨emission, emitted, spelled⟩ := List.mem_map.1 listed
  have all := isPrintable_contributions settings printable
  have ⟨tidy, declarations⟩ := all emission (List.mem_filter.1 emitted).1
  rw [← spelled, Node.IsPrintable]
  exact ⟨tidy, declarations⟩

end ViewportScaling.Media
