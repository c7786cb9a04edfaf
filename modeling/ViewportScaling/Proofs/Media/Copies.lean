import ViewportScaling.Proofs.Media.Atomicity
import ViewportScaling.Proofs.Media.RoundTrip
import ViewportScaling.Proofs.Media.Units
import ViewportScaling.Proofs.Scaling.Gate

/-!
# Which declarations are copied

The blocks of the classes get a copy of each declaration that passes the gate, whether or not anything in
its value is replaced. A value with a number in it always passes. One without any passes exactly if a run
with two points or more ends in a digit in front of the unit, and then each class gets the declaration as
it is.
-/

namespace ViewportScaling.Media

open Css Document Numeric Scaling

/-- A scaled declaration without a number in its value is the declaration. -/
theorem scaledDeclaration_of_noNumber {ratio : Except ArithmeticError Double}
    {source copy : Declaration} (none : ¬HoldsNumber source.value.toList)
    (scaled : scaledDeclaration ratio source = .ok copy) : copy = source := by
  obtain ⟨factor, value, -, found, rfl⟩ := scaledDeclaration_eq_ok_iff.1 scaled
  rw [scaleValue_of_noNumber _ fun digits mem => none ⟨digits, mem⟩] at found
  cases found
  rfl

/-- The gate of scaling and the numbers that are replaced. A text passes the gate exactly if it holds a
number or a malformed run, and it holds a number exactly if one of its maximal runs of digits and points
ends in a digit in front of the unit and has no more than one point. In a pass that succeeds an enabled
class gets a copy of a declaration of a direct rule with this text as its value exactly if the text passes,
and if it holds no number the copy is the declaration itself. -/
theorem pass_copies_gated (text : List Char) :
    (hasLength text = true ↔ HoldsNumber text ∨ HoldsMalformed text) ∧
    (HoldsNumber text ↔ ∃ run ∈ runs text, isLengthRun run.1 run.2 = true) ∧
    ∀ {store : Store} {sheet : Id} {settings : Settings} {view : View}
      {rule : String × List Declaration} {declaration : Declaration}, store.Coherent sheet →
      (pass settings store sheet).error = none → view.enabled settings = true →
      rule ∈ store.directRules sheet → declaration ∈ rule.2 → declaration.value.toList = text →
      let copies := (scaledLength settings rule.1 declaration).entries view.block
      (¬HoldsNumber text ∧ ¬HoldsMalformed text → copies = []) ∧
        (HoldsNumber text ∨ HoldsMalformed text → ∃ copy,
          scaledDeclaration (view.ratio settings) declaration = .ok copy ∧ copies = [(rule.1, [copy])] ∧
          copy ∈ blockDeclarations settings store sheet view rule.1 ∧
          (¬HoldsNumber text → copy = declaration)) := by
  refine ⟨hasLength_iff, holdsNumber_iff, ?_⟩
  rintro store sheet settings view rule declaration coherent success enabled direct mem rfl copies
  have traced : (traceOf settings store sheet).error = none := error_pass coherent ▸ success
  have handled := error_contributions_eq_none_iff.1 traced rule direct declaration mem
  have ⟨refused, passed⟩ := entries_scaledLength handled enabled
  refine ⟨fun neither => refused ?_, fun either => ?_⟩
  · rw [← Bool.not_eq_true, hasLength_iff, not_or]
    exact neither
  · have holds := hasLength_iff.2 either
    obtain ⟨copy, scaled, gets⟩ := passed holds
    obtain ⟨copy', scaled', inside⟩ := exists_copy_of_pass coherent success enabled direct mem holds
    obtain rfl := Except.ok.inj (scaled.symm.trans scaled')
    exact ⟨copy, scaled, gets, inside, fun none => scaledDeclaration_of_noNumber none scaled⟩

/-- On a page whose one rule has a value without any number that passes, the desktop class gets the
declaration as it is. -/
theorem pass_copies_gated_page :
    let settings : Settings := { disableLandscape := true }
    let declaration : Declaration := ⟨"left", "1.2.3px", false⟩
    let page := ({} : Store).plantSheet [.rule ".box" [⟨"width", "75px", false⟩, declaration]]
    let value := declaration.value.toList
    page.2.Coherent page.1 ∧ (pass settings page.2 page.1).error = none ∧
      (".box", [⟨"width", "75px", false⟩, declaration]) ∈ page.2.directRules page.1 ∧
      ¬HoldsNumber value ∧ HoldsMalformed value ∧
      (scaledLength settings ".box" declaration).entries .desktop = [(".box", [declaration])] ∧
      declaration ∈ blockDeclarations settings page.2 page.1 .desktop ".box" := by
  intro settings declaration page value
  have planted : page.2.IsPlantedSheet page.1 _ := Store.isPlantedSheet_plantSheet _
  have direct : page.2.directRules page.1 =
      [(".box", [⟨"width", "75px", false⟩, declaration])] := planted.directRules_eq
  have success : (pass settings page.2 page.1).error = none := by
    rw [error_pass planted.coherent]
    unfold traceOf
    rw [direct]
    decide +kernel
  have whole : runs value = [("1.2.3".toList, "px".toList)] := by decide +kernel
  have malformed : HoldsMalformed value := by
    rw [HoldsMalformed, whole]
    decide
  have without : ¬HoldsNumber value := by
    rw [holdsNumber_iff, whole]
    decide
  have among : (".box", [⟨"width", "75px", false⟩, declaration]) ∈ page.2.directRules page.1 := by
    rw [direct]
    exact List.mem_singleton_self _
  have enabled : View.desktop.enabled settings = true := rfl
  have copied := ((pass_copies_gated value).2.2 planted.coherent success enabled among
    (List.mem_cons_of_mem _ List.mem_cons_self) rfl).2 (.inr malformed)
  obtain ⟨copy, -, copies, inside, same⟩ := copied
  rw [same without] at copies inside
  exact ⟨planted.coherent, success, among, without, malformed, copies, inside⟩

/-- A value may pass without any number in it; the pass then appends a block in which nothing is
scaled. -/
theorem malformed_run_is_copied :
    let settings : Settings := { disableLandscape := true }
    let rules : List Node := [.rule "a" [⟨"width", "1.2.3px", false⟩]]
    hasLength "1.2.3px".toList = true ∧
      (∀ digits, Part.number digits ∉ parts "1.2.3px".toList) ∧
      (∀ ratio, scaleValue ratio "1.2.3px" = .ok "1.2.3px") ∧
      (transform [settings] rules).1 =
        .ok (rules ++ [.atRule "media" settings.desktopParams true rules]) := by
  intro settings rules
  have whole : parts "1.2.3px".toList = "1.2.3px".toList.map .other := by decide +kernel
  have without : ∀ digits, Part.number digits ∉ parts "1.2.3px".toList := by
    rw [whole]
    simp
  exact ⟨by decide, without, fun ratio => scaleValue_of_noNumber ratio without,
    transform_eq_ok_iff.2 ⟨by decide +kernel, by decide +kernel⟩⟩

end ViewportScaling.Media
