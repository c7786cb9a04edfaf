import ViewportScaling.Json.Value
import ViewportScaling.Settings.Field

/-!
# Settings

The settings of a pass, and their validation. A draft gives every field a value of any kind; it is valid
if the widths and the break points are numbers that are not at most zero, the flags are truth values
and the class is a text that is not empty. The fields are checked in a fixed order, and the first that
fails is reported. The break point of the viewport width may be absent: then the desktop width stands
for it.
-/

namespace ViewportScaling

open Numeric Json

/-- The settings of a pass. -/
structure Settings where
  /-- The width of the design that the lengths of a stylesheet assume. -/
  viewportWidth : Number := .whole 750
  /-- The width of the page on desktop viewports. -/
  desktopWidth : Number := .whole 600
  /-- The width of the page on phones held sideways. -/
  landscapeWidth : Number := .whole 425
  /-- The viewport width above which the desktop width applies, if it is not that width. -/
  yAxisBreakPoint : Option Number := none
  /-- The viewport height below which a wide viewport counts as a phone held sideways. -/
  xAxisBreakPoint : Number := .whole 640
  /-- The class of the root container. -/
  rootClass : String := "root-class"
  /-- Whether the root container has a border. -/
  border : Bool := false
  /-- Whether there is no desktop block. -/
  disableDesktop : Bool := false
  /-- Whether there is no landscape block. -/
  disableLandscape : Bool := false
deriving DecidableEq, Repr

/-- Why a draft is not valid. -/
inductive SettingsError where
  /-- A field is not a number above zero. -/
  | notPositive (field : Settings.Field) (value : Value)
  /-- The break point of the viewport width is neither absent nor a number above zero. -/
  | notPositiveOrAbsent (value : Value)
  /-- A flag is not a truth value. -/
  | notFlag (field : Settings.Field) (value : Value)
  /-- The class of the root container is empty or no text. -/
  | noRootClass (value : Value)

/-- The message of the error. -/
def SettingsError.message : SettingsError → String
  | .notPositive field value =>
    field.name ++ " must be a positive number, got " ++ value.description
  | .notPositiveOrAbsent value =>
    Settings.Field.yAxisBreakPoint.name ++ " must be a positive number or None, got " ++
      value.description
  | .notFlag field value => field.name ++ " must be a boolean, got " ++ value.description
  | .noRootClass value =>
    Settings.Field.rootClass.name ++ " must be a non-empty string, got " ++ value.description

namespace Settings

/-- A value of any kind for each field. -/
abbrev Draft := Field → Value

/-- The draft with another value for one field. -/
def Draft.set (draft : Draft) (field : Field) (value : Value) : Draft :=
  fun other => if other = field then value else draft other

@[simp] theorem Draft.set_self (draft : Draft) (field : Field) (value : Value) :
    draft.set field value field = value := by
  simp [Draft.set]

theorem Draft.set_of_ne (draft : Draft) {field other : Field} (value : Value)
    (h : other ≠ field) : draft.set field value other = draft other := by
  simp [Draft.set, h]

/-- The number in a field, if it is valid. -/
def Draft.positive (draft : Draft) (field : Field) : Except SettingsError Number :=
  match draft field with
  | .number n => if n.isAtMostZero then .error (.notPositive field (.number n)) else .ok n
  | other => .error (.notPositive field other)

/-- The break point of the viewport width, if it is valid. -/
def Draft.breakPoint (draft : Draft) : Except SettingsError (Option Number) :=
  match draft .yAxisBreakPoint with
  | .null => .ok none
  | .number n => if n.isAtMostZero then .error (.notPositiveOrAbsent (.number n)) else .ok (some n)
  | other => .error (.notPositiveOrAbsent other)

/-- The truth value in a field, if it is valid. -/
def Draft.flag (draft : Draft) (field : Field) : Except SettingsError Bool :=
  match draft field with
  | .flag b => .ok b
  | other => .error (.notFlag field other)

/-- The class of the root container, if it is valid. -/
def Draft.class (draft : Draft) : Except SettingsError String :=
  match draft .rootClass with
  | .text s => if s = "" then .error (.noRootClass (.text s)) else .ok s
  | other => .error (.noRootClass other)

/-- The settings that a draft describes, if it is valid. -/
def Draft.validate (draft : Draft) : Except SettingsError Settings := do
  let viewportWidth ← draft.positive .viewportWidth
  let desktopWidth ← draft.positive .desktopWidth
  let landscapeWidth ← draft.positive .landscapeWidth
  let xAxisBreakPoint ← draft.positive .xAxisBreakPoint
  let yAxisBreakPoint ← draft.breakPoint
  let border ← draft.flag .border
  let disableDesktop ← draft.flag .disableDesktop
  let disableLandscape ← draft.flag .disableLandscape
  let rootClass ← draft.class
  return { viewportWidth, desktopWidth, landscapeWidth, yAxisBreakPoint, xAxisBreakPoint,
           rootClass, border, disableDesktop, disableLandscape }

/-- The values of the settings. -/
def draft (settings : Settings) : Draft
  | .viewportWidth => .number settings.viewportWidth
  | .desktopWidth => .number settings.desktopWidth
  | .landscapeWidth => .number settings.landscapeWidth
  | .yAxisBreakPoint => (settings.yAxisBreakPoint.map Value.number).getD .null
  | .xAxisBreakPoint => .number settings.xAxisBreakPoint
  | .rootClass => .text settings.rootClass
  | .border => .flag settings.border
  | .disableDesktop => .flag settings.disableDesktop
  | .disableLandscape => .flag settings.disableLandscape

/-! ### What follows from the settings -/

/-- The viewport width above which the desktop width applies. -/
def breakPoint (settings : Settings) : Number :=
  settings.yAxisBreakPoint.getD settings.desktopWidth

/-- The factor of lengths on desktop viewports. -/
def desktopRatio (settings : Settings) : Except ArithmeticError Double :=
  settings.desktopWidth.ratio settings.viewportWidth

/-- The factor of lengths on phones held sideways. -/
def landscapeRatio (settings : Settings) : Except ArithmeticError Double :=
  settings.landscapeWidth.ratio settings.viewportWidth

/-- Whether there is a desktop block. -/
def desktopEnabled (settings : Settings) : Bool := !settings.disableDesktop

/-- Whether there is a landscape block. -/
def landscapeEnabled (settings : Settings) : Bool := !settings.disableLandscape

/-- The selector of the root container. -/
def rootSelector (settings : Settings) : String := "." ++ settings.rootClass

/-- The condition of the desktop block. -/
def desktopParams (settings : Settings) : String :=
  let width := settings.breakPoint.plainText
  let height := settings.xAxisBreakPoint.plainText
  "(min-width: " ++ width ++ "px) and (min-height: " ++ height ++ "px)"

/-- The condition of the landscape block. -/
def landscapeParams (settings : Settings) : String :=
  let width := settings.breakPoint.plainText
  let height := settings.xAxisBreakPoint.plainText
  "((min-width: " ++ width ++ "px) and (max-height: " ++ height ++ "px)) or ((max-width: " ++
    width ++ "px) and (orientation: landscape))"

/-- The condition of the shared block. The second width is written without its unit. -/
def sharedParams (settings : Settings) : String :=
  let width := settings.breakPoint.plainText
  "(min-width: " ++ width ++ "px) or ((orientation: landscape) and (max-width: " ++ width ++ "))"

end Settings

end ViewportScaling
