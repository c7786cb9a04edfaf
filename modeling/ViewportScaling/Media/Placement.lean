import ViewportScaling.Media.Emission
import ViewportScaling.Scaling.Length
import ViewportScaling.Settings.Basic

/-!
# What a rule contributes

A rule contributes scaled copies of its lengths, one declaration at a time. The rule of the root
container is centred and its width is capped, and a rule that spans the whole viewport is given the width
of the page instead. Declarations that both classes of viewport need go into the shared block if both
classes are enabled, and into the only block otherwise.
-/

namespace ViewportScaling.Media

open Css Numeric Scaling

/-! ### Declarations that are made -/

/-- Equal margins on the left. -/
def marginLeft : Declaration := ⟨"margin-left", "auto", true⟩

/-- Equal margins on the right. -/
def marginRight : Declaration := ⟨"margin-right", "auto", true⟩

/-- The left edge of the viewport. -/
def leftEdge : Declaration := ⟨"left", "0", true⟩

/-- The right edge of the viewport. -/
def rightEdge : Declaration := ⟨"right", "0", true⟩

/-- Widths without the border. -/
def contentBox : Declaration := ⟨"box-sizing", "content-box", false⟩

/-- At least the height of the viewport. -/
def fullHeight : Declaration := ⟨"min-height", "100vh", false⟩

/-- The height of the content. -/
def autoHeight : Declaration := ⟨"height", "auto", true⟩

/-- The line drawn beside the root container. -/
def borderLine : String := "1px solid #eee"

/-- A line on the left. -/
def borderLeft : Declaration := ⟨"border-left", borderLine, false⟩

/-- A line on the right. -/
def borderRight : Declaration := ⟨"border-right", borderLine, false⟩

/-- A width in pixels. -/
def fixedWidth (width : Number) : Declaration := ⟨"width", width.plainText ++ "px", false⟩

/-- A greatest width in pixels. -/
def cappedWidth (width : Number) : Declaration := ⟨"max-width", width.plainText ++ "px", true⟩

/-! ### Contributions -/

/-- Distributes declarations over the blocks: with both classes enabled each block gets its own, and
the common ones go to the shared block; a single block gets its own and the common ones. -/
def place (settings : Settings) (selector : String)
    (desktopOwn landscapeOwn common : List Declaration) : Trace :=
  if settings.desktopEnabled && settings.landscapeEnabled then
    .emit .desktop selector desktopOwn ++ .emit .landscape selector landscapeOwn ++
      .emit .shared selector common
  else if settings.landscapeEnabled then .emit .landscape selector (landscapeOwn ++ common)
  else if settings.desktopEnabled then .emit .desktop selector (desktopOwn ++ common)
  else ∅

/-- The declaration with its lengths scaled by a ratio, for one block. -/
def scaledCopy (block : Block) (ratio : Except ArithmeticError Double) (selector : String)
    (declaration : Declaration) : Trace :=
  .ofExcept do
    let value ← scaleValue (.double (← ratio)) declaration.value
    return .emit block selector [{ declaration with value }]

/-- Copies of a declaration that holds a length, scaled for each class that is enabled. -/
def scaledLength (settings : Settings) (selector : String) (declaration : Declaration) : Trace :=
  if hasLength declaration.value.toList then
    (if settings.desktopEnabled then
      scaledCopy .desktop settings.desktopRatio selector declaration else ∅) ++
    (if settings.landscapeEnabled then
      scaledCopy .landscape settings.landscapeRatio selector declaration else ∅)
  else ∅

/-- The root container is centred and its width is capped; it may get a border. -/
def centredRoot (settings : Settings) (selector : String) : Trace :=
  place settings selector [cappedWidth settings.desktopWidth]
    [cappedWidth settings.landscapeWidth]
    ([marginLeft, marginRight] ++
      if settings.border then [contentBox, borderLeft, borderRight, fullHeight, autoHeight]
      else [])

/-! ### Width patterns -/

/-- What the declarations of a rule say about its width and position. -/
structure Flags where
  /-- The width is that of the surroundings. -/
  fullPercent : Bool := false
  /-- The width is that of the viewport. -/
  fullView : Bool := false
  /-- The position is fixed. -/
  fixed : Bool := false
deriving DecidableEq, Repr

/-- Whether the rule is as wide as its surroundings or the viewport. -/
def Flags.fullWidth (flags : Flags) : Bool := flags.fullPercent || flags.fullView

/-- Raises the flags that a declaration calls for. -/
def Flags.raise (flags : Flags) (declaration : Declaration) : Flags where
  fullPercent :=
    flags.fullPercent || declaration.property == "width" && declaration.value == "100%"
  fullView :=
    flags.fullView || declaration.property == "width" && declaration.value == "100vw"
  fixed := flags.fixed || declaration.property == "position" && declaration.value == "fixed"

/-- The flags of a list of declarations. -/
def Flags.of (declarations : List Declaration) : Flags := declarations.foldl Flags.raise {}

/-- A way to span the viewport that is replaced by the width of the page. -/
inductive Pattern where
  /-- A fixed bar of full width. -/
  | fixedBar
  /-- The width of the viewport. -/
  | viewWidth
deriving DecidableEq, Repr

/-- The name of a pattern in notices. -/
def Pattern.name : Pattern → String
  | .fixedBar => "fixed-full-width"
  | .viewWidth => "full-vw-width"

/-- The pattern of a rule with given flags. A fixed bar comes first. -/
def Flags.pattern? (flags : Flags) : Option Pattern :=
  if flags.fixed && flags.fullWidth then some .fixedBar
  else if flags.fullView then some .viewWidth
  else none

/-- A fixed bar becomes a centred bar of the width of the page; a width of the viewport becomes the
width of the page. -/
def Pattern.contribution (settings : Settings) (selector : String) : Pattern → Trace
  | .fixedBar =>
    place settings selector [fixedWidth settings.desktopWidth]
      [fixedWidth settings.landscapeWidth] [marginLeft, marginRight, leftEdge, rightEdge]
  | .viewWidth =>
    (if settings.desktopEnabled then
      .emit .desktop selector [fixedWidth settings.desktopWidth] else ∅) ++
    (if settings.landscapeEnabled then
      .emit .landscape selector [fixedWidth settings.landscapeWidth] else ∅)

/-- What the width pattern of a rule contributes, if it has one. -/
def patternContribution (settings : Settings) (selector : String) (flags : Flags) : Trace :=
  match flags.pattern? with
  | some pattern => pattern.contribution settings selector
  | none => ∅

/-! ### A whole rule -/

/-- What a rule contributes, with the notices about it. -/
def contribution (settings : Settings) (selector : String) (declarations : List Declaration) :
    Trace :=
  let root :=
    if selector = settings.rootSelector then
      .note (.rootFound selector) ++ centredRoot settings selector
    else ∅
  let lengths := Trace.concat (declarations.map (scaledLength settings selector))
  let flags := Flags.of declarations
  let found := match flags.pattern? with
    | some pattern => .note (.patternFound selector pattern.name)
    | none => ∅
  root ++ lengths ++ patternContribution settings selector flags ++ found

/-- What rules contribute, in order. -/
def contributions (settings : Settings) (rules : List (String × List Declaration)) : Trace :=
  .concat (rules.map fun rule => contribution settings rule.1 rule.2)

end ViewportScaling.Media
