import ViewportScaling.Proofs.Media.Contributions
import ViewportScaling.Proofs.Media.RoundTrip
import ViewportScaling.Proofs.Numeric.Respelling
import ViewportScaling.Proofs.Settings.Validation

/-!
# Two spellings of the settings

A pass reads the widths and break points of its settings as texts and as ratios. So settings that spell some
numbers as doubles instead of whole numbers, or the other way round, lead to the same text or to the same
error. The one exception is a ratio with a whole number that no double has as its value: beside a whole
number it is divided exactly, and beside a double it is rounded first, or is too large to be.
-/

namespace ViewportScaling

open Numeric Media

namespace Settings

/-- Settings that differ at most in how their numbers are spelled. -/
structure Respelled (settings settings' : Settings) : Prop where
  /-- The width of the design. -/
  viewportWidth : Number.Respelled settings.viewportWidth settings'.viewportWidth
  /-- The width on desktop viewports. -/
  desktopWidth : Number.Respelled settings.desktopWidth settings'.desktopWidth
  /-- The width on phones held sideways. -/
  landscapeWidth : Number.Respelled settings.landscapeWidth settings'.landscapeWidth
  /-- The break point of the viewport width, which is absent in both or in neither. -/
  yAxisBreakPoint : Option.Rel Number.Respelled settings.yAxisBreakPoint settings'.yAxisBreakPoint
  /-- The break point of the viewport height. -/
  xAxisBreakPoint : Number.Respelled settings.xAxisBreakPoint settings'.xAxisBreakPoint
  /-- One class of the root container. -/
  rootClass : settings.rootClass = settings'.rootClass
  /-- One kind of border. -/
  border : settings.border = settings'.border
  /-- Desktop blocks in both or in neither. -/
  disableDesktop : settings.disableDesktop = settings'.disableDesktop
  /-- Landscape blocks in both or in neither. -/
  disableLandscape : settings.disableLandscape = settings'.disableLandscape

/-- The ratio of each enabled class has its two numbers spelled as in the other settings, or both are
exact. -/
def RatiosAlike (settings settings' : Settings) : Prop :=
  ∀ view : View, view.enabled settings = true →
    (view.targetWidth settings = view.targetWidth settings' ∧
      settings.viewportWidth = settings'.viewportWidth) ∨
    ((view.targetWidth settings).IsExact ∧ settings.viewportWidth.IsExact)

/-- The width of a class is not at most zero in valid settings. -/
theorem IsValid.targetWidth {settings : Settings} (valid : settings.IsValid) (view : View) :
    (view.targetWidth settings).isAtMostZero = false := by
  refine valid.numbers _ ?_
  cases view <;> simp [View.targetWidth, Settings.numbers]

namespace Respelled

variable {settings settings' : Settings}

/-- The break points of the viewport width are respelled too. Where they are absent, the desktop widths
stand for them. -/
theorem breakPoint (respelled : settings.Respelled settings') :
    Number.Respelled settings.breakPoint settings'.breakPoint := by
  have points := respelled.yAxisBreakPoint
  unfold Settings.breakPoint
  generalize settings.yAxisBreakPoint = point, settings'.yAxisBreakPoint = point' at points ⊢
  cases points with
  | none => exact respelled.desktopWidth
  | some given => exact given

/-- So are the widths of each class. -/
theorem targetWidth (respelled : settings.Respelled settings') (view : View) :
    Number.Respelled (view.targetWidth settings) (view.targetWidth settings') := by
  cases view with
  | desktop => exact respelled.desktopWidth
  | landscape => exact respelled.landscapeWidth

end Respelled

end Settings

namespace Media

open Css Document Scaling

/-! ### What a pass reads of its settings -/

/-- Settings of which a pass reads the same. -/
structure ReadAlike (settings settings' : Settings) : Prop where
  /-- One selector of the root container. -/
  rootSelector : settings'.rootSelector = settings.rootSelector
  /-- One kind of border. -/
  border : settings'.border = settings.border
  /-- The same classes are enabled. -/
  enabled : ∀ view : View, view.enabled settings' = view.enabled settings
  /-- The widths of the classes have one text. -/
  width : ∀ view : View, (view.targetWidth settings').plainText = (view.targetWidth settings).plainText
  /-- The ratios of the enabled classes are equal, or fail alike. -/
  ratio : ∀ view : View, view.enabled settings = true → view.ratio settings' = view.ratio settings
  /-- The break points of the viewport width have one text. -/
  breakPoint : settings'.breakPoint.plainText = settings.breakPoint.plainText
  /-- The break points of the viewport height have one text. -/
  height : settings'.xAxisBreakPoint.plainText = settings.xAxisBreakPoint.plainText

/-- Contributions that are equal stay so one behind the other. -/
theorem composes_eq : Composes Eq where
  empty := rfl
  note := fun _ => rfl
  append := fun first second => first ▸ second ▸ rfl

namespace ReadAlike

variable {settings settings' : Settings} (alike : ReadAlike settings settings')
include alike

/-- The desktop class is enabled in both or in neither. -/
theorem desktopEnabled : settings'.desktopEnabled = settings.desktopEnabled := alike.enabled .desktop

theorem landscapeEnabled : settings'.landscapeEnabled = settings.landscapeEnabled :=
  alike.enabled .landscape

/-- Declarations are placed in the same blocks. -/
theorem place_eq (selector : String) (desktopOwn landscapeOwn common : List Declaration) :
    place settings' selector desktopOwn landscapeOwn common =
      place settings selector desktopOwn landscapeOwn common := by
  unfold place
  rw [alike.desktopEnabled, alike.landscapeEnabled]

/-- The width of a class is declared with one text. -/
theorem fixedWidth_eq (view : View) :
    fixedWidth (view.targetWidth settings') = fixedWidth (view.targetWidth settings) := by
  rw [fixedWidth, fixedWidth, alike.width]

theorem cappedWidth_eq (view : View) :
    cappedWidth (view.targetWidth settings') = cappedWidth (view.targetWidth settings) := by
  rw [cappedWidth, cappedWidth, alike.width]

/-- A length is scaled to the same texts, or stops with the same error. -/
theorem scaledLength_eq (selector : String) (declaration : Declaration) :
    scaledLength settings' selector declaration = scaledLength settings selector declaration := by
  have copies (view : View) (block : Block) :
      (if view.enabled settings' then scaledCopy block (view.ratio settings') selector declaration
        else ∅) =
      if view.enabled settings then scaledCopy block (view.ratio settings) selector declaration
        else ∅ := by
    rw [alike.enabled]
    by_cases enabled : view.enabled settings = true
    · rw [alike.ratio view enabled]
    · rw [if_neg enabled, if_neg enabled]
  exact congrArg₂ (fun desktop landscape => if hasLength declaration.value.toList then
    desktop ++ landscape else ∅) (copies .desktop .desktop) (copies .landscape .landscape)

/-- The rules contribute the same. -/
theorem contributions_eq (rules : List (String × List Declaration)) :
    contributions settings' rules = contributions settings rules := by
  refine composes_eq.contributions alike.rootSelector.symm ?_ ?_ ?_
  · intro selector
    rw [centredRoot, centredRoot, alike.place_eq, alike.border]
    exact congrArg₂ (fun desktop landscape => place settings selector [desktop] [landscape] _)
      (alike.cappedWidth_eq .desktop) (alike.cappedWidth_eq .landscape)
  · intro rule _ declaration _
    exact alike.scaledLength_eq rule.1 declaration
  · intro selector pattern
    have desktop := alike.fixedWidth_eq .desktop
    have landscape := alike.fixedWidth_eq .landscape
    change fixedWidth settings'.desktopWidth = fixedWidth settings.desktopWidth at desktop
    change fixedWidth settings'.landscapeWidth = fixedWidth settings.landscapeWidth at landscape
    cases pattern with
    | fixedBar => simp only [Pattern.contribution, alike.place_eq, desktop, landscape]
    | viewWidth =>
      simp only [Pattern.contribution, alike.desktopEnabled, alike.landscapeEnabled, desktop, landscape]

/-- The blocks have the same conditions. -/
theorem params_eq : settings'.desktopParams = settings.desktopParams ∧
    settings'.landscapeParams = settings.landscapeParams ∧
      settings'.sharedParams = settings.sharedParams := by
  unfold Settings.desktopParams Settings.landscapeParams Settings.sharedParams
  rw [alike.breakPoint, alike.height]
  exact ⟨rfl, rfl, rfl⟩

/-- A pass leaves the same behind: the same document, the same reports and the same error. -/
theorem pass_eq (store : Store) (sheet : Id) : pass settings' store sheet = pass settings store sheet := by
  have ⟨desktop, landscape, shared⟩ := alike.params_eq
  unfold pass Context.create
  rw [alike.contributions_eq, desktop, landscape, shared]
  -- A context keeps the settings, but growing and finishing its blocks reads their identities only.
  rfl

/-- So a pass does the same to every stylesheet. -/
theorem transform_eq (sheet : Stylesheet) : transform [settings'] sheet = transform [settings] sheet := by
  unfold transform passes
  simp only [alike.pass_eq]

/-- So a text is converted to the same text, or stops with the same error. -/
theorem convert_eq (source : String) : convert source settings' [] = convert source settings [] := by
  unfold convert
  simp only [Settings.override_nil, alike.transform_eq]

end ReadAlike

/-! ### Spellings -/

variable {settings settings' : Settings}

/-- Of valid settings in two spellings a pass reads the same, if the ratios are alike. -/
theorem readAlike_of_respelled (valid : settings.IsValid) (valid' : settings'.IsValid)
    (respelled : settings.Respelled settings') (ratios : settings.RatiosAlike settings') :
    ReadAlike settings settings' where
  rootSelector := by rw [Settings.rootSelector, Settings.rootSelector, respelled.rootClass]
  border := respelled.border.symm
  enabled view := by
    cases view with
    | desktop => exact congrArg not respelled.disableDesktop.symm
    | landscape => exact congrArg not respelled.disableLandscape.symm
  width view :=
    ((respelled.targetWidth view).plainText_eq (valid.targetWidth view) (valid'.targetWidth view)).symm
  ratio view enabled :=
    ((respelled.targetWidth view).ratio_eq respelled.viewportWidth
      ⟨valid.targetWidth view, valid'.targetWidth view⟩
      ⟨valid.numbers _ (by simp [Settings.numbers]), valid'.numbers _ (by simp [Settings.numbers])⟩
      (ratios view enabled)).symm
  breakPoint :=
    (respelled.breakPoint.plainText_eq (valid.numbers _ settings.breakPoint_mem_numbers)
      (valid'.numbers _ settings'.breakPoint_mem_numbers)).symm
  height :=
    (respelled.xAxisBreakPoint.plainText_eq (valid.numbers _ (by simp [Settings.numbers]))
      (valid'.numbers _ (by simp [Settings.numbers]))).symm

/-- A text is converted alike with valid settings in two spellings: into the same text, or with the same
error, and with the same reports. For each enabled class this asks that the two numbers of its ratio are
spelled alike, or that both are doubles or the values of doubles. -/
theorem convert_respelled (valid : settings.IsValid) (valid' : settings'.IsValid)
    (respelled : settings.Respelled settings') (ratios : settings.RatiosAlike settings')
    (source : String) : convert source settings [] = convert source settings' [] :=
  ((readAlike_of_respelled valid valid' respelled ratios).convert_eq source).symm

/-- Defaults with one width and one break point in another spelling. -/
theorem convert_respelled_page :
    let settings : Settings := { yAxisBreakPoint := some (.double (.ofInt 700)) }
    let settings' : Settings :=
      { viewportWidth := .double (.ofInt 750), yAxisBreakPoint := some (.whole 700) }
    settings.IsValid ∧ settings'.IsValid ∧ settings.Respelled settings' ∧
      settings.RatiosAlike settings' ∧
      convert "a \x7b left: 10px \x7d" settings [] = convert "a \x7b left: 10px \x7d" settings' [] := by
  intro settings settings'
  have design : IsDouble 750 :=
    ⟨.finite false 6597069766656000 (-43) (by decide), by norm_num [Double.value?]⟩
  have point : IsDouble 700 :=
    ⟨.finite false 6157265115545600 (-43) (by decide), by norm_num [Double.value?]⟩
  have desktop : IsDouble 600 :=
    ⟨.finite false 5277655813324800 (-43) (by decide), by norm_num [Double.value?]⟩
  have landscape : IsDouble 425 :=
    ⟨.finite false 7476679068876800 (-44) (by decide), by norm_num [Double.value?]⟩
  have valid : settings.IsValid :=
    Settings.Draft.validate_eq_ok_iff.2 ⟨rfl, by decide +kernel, by decide⟩
  have valid' : settings'.IsValid :=
    Settings.Draft.validate_eq_ok_iff.2 ⟨rfl, by decide +kernel, by decide⟩
  have respelled : settings.Respelled settings' :=
    ⟨.asDouble design, .same _, .same _, .some (.asWhole point), .same _, rfl, rfl, rfl, rfl⟩
  have ratios : settings.RatiosAlike settings' := by
    intro view _
    cases view with
    | desktop => exact .inr ⟨desktop, design⟩
    | landscape => exact .inr ⟨landscape, design⟩
  exact ⟨valid, valid', respelled, ratios, convert_respelled valid valid' respelled ratios _⟩

/-- With a design too wide for a double, a width spelled as a whole number is divided by it, and one spelled
as a double is not. -/
theorem convert_wide_design :
    let settings : Settings := { viewportWidth := .whole (10 ^ 400) }
    let settings' : Settings := { viewportWidth := .whole (10 ^ 400), desktopWidth := .double (.ofInt 600),
                                  landscapeWidth := .double (.ofInt 425) }
    settings.IsValid ∧ settings'.IsValid ∧ settings.Respelled settings' ∧
      (∃ css, (convert "a \x7b left: 1px \x7d" settings []).1 = .ok css) ∧
      (convert "a \x7b left: 1px \x7d" settings' []).1 = .error (.arithmetic .integerOverflow) := by
  intro settings settings'
  have desktop : IsDouble 600 :=
    ⟨.finite false 5277655813324800 (-43) (by decide), by norm_num [Double.value?]⟩
  have landscape : IsDouble 425 :=
    ⟨.finite false 7476679068876800 (-44) (by decide), by norm_num [Double.value?]⟩
  have read : Stylesheet.read "a \x7b left: 1px \x7d" = .ok [.rule "a" [⟨"left", "1px", false⟩]] := by
    decide +kernel
  refine ⟨Settings.Draft.validate_eq_ok_iff.2 ⟨rfl, by decide +kernel, by decide⟩,
    Settings.Draft.validate_eq_ok_iff.2 ⟨rfl, by decide +kernel, by decide⟩,
    ⟨.same _, .asDouble desktop, .asDouble landscape, .none, .same _, rfl, rfl, rfl, rfl⟩, ?_, ?_⟩
  · obtain ⟨sheet, done⟩ : ∃ sheet, (transform [settings] [.rule "a" [⟨"left", "1px", false⟩]]).1 =
        .ok sheet := ⟨_, transform_eq_ok_iff.2 ⟨by decide +kernel, rfl⟩⟩
    unfold convert
    simp only [read, Settings.override_nil, done]
    exact ⟨_, rfl⟩
  · let page := ({} : Store).plantSheet [.rule "a" [⟨"left", "1px", false⟩]]
    have planted : page.2.IsPlantedSheet page.1 _ := Store.isPlantedSheet_plantSheet _
    have stopped : (pass settings' page.2 page.1).error = some .integerOverflow := by
      rw [error_pass planted.coherent, traceOf, planted.directRules_eq]
      decide +kernel
    have failed : (transform [settings'] [.rule "a" [⟨"left", "1px", false⟩]]).1 =
        .error .integerOverflow := by
      unfold transform passes
      dsimp only
      rw [stopped]
      dsimp only
      rw [stopped]
    unfold convert
    simp only [read, Settings.override_nil, failed]
    rfl

end Media

end ViewportScaling
