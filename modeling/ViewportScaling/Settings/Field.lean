/-!
# The fields of the settings

Each setting has a name and an alternative spelling, and options may use either.
-/

namespace ViewportScaling.Settings

/-- A setting. -/
inductive Field where
  /-- The width of the design that the lengths of a stylesheet assume. -/
  | viewportWidth
  /-- The width of the page on desktop viewports. -/
  | desktopWidth
  /-- The width of the page on phones held sideways. -/
  | landscapeWidth
  /-- The viewport width above which the desktop width applies. -/
  | yAxisBreakPoint
  /-- The viewport height below which a wide viewport counts as a phone held sideways. -/
  | xAxisBreakPoint
  /-- The class of the root container. -/
  | rootClass
  /-- Whether the root container has a border. -/
  | border
  /-- Whether there is no desktop block. -/
  | disableDesktop
  /-- Whether there is no landscape block. -/
  | disableLandscape
deriving DecidableEq, Repr

namespace Field

/-- All settings. -/
def all : List Field :=
  [.viewportWidth, .desktopWidth, .landscapeWidth, .yAxisBreakPoint, .xAxisBreakPoint, .rootClass,
    .border, .disableDesktop, .disableLandscape]

/-- The name of a setting. -/
def name : Field → String
  | .viewportWidth => "viewport_width"
  | .desktopWidth => "desktop_width"
  | .landscapeWidth => "landscape_width"
  | .yAxisBreakPoint => "y_axis_break_point"
  | .xAxisBreakPoint => "x_axis_break_point"
  | .rootClass => "root_class"
  | .border => "border"
  | .disableDesktop => "disable_desktop"
  | .disableLandscape => "disable_landscape"

/-- The alternative spelling of the name. -/
def otherName : Field → String
  | .viewportWidth => "viewportWidth"
  | .desktopWidth => "desktopWidth"
  | .landscapeWidth => "landscapeWidth"
  | .yAxisBreakPoint => "yAxisBreakPoint"
  | .xAxisBreakPoint => "xAxisBreakPoint"
  | .rootClass => "rootClass"
  | .border => "border"
  | .disableDesktop => "disableDesktop"
  | .disableLandscape => "disableLandscape"

/-- The setting that an option's name denotes. -/
def ofOption? (option : String) : Option Field :=
  all.find? fun field => field.name == option || field.otherName == option

/-- A field is found by its name. -/
theorem ofOption?_name (field : Field) : ofOption? field.name = some field := by
  cases field <;> decide

/-- It is found by its alternative spelling as well. -/
theorem ofOption?_otherName (field : Field) : ofOption? field.otherName = some field := by
  cases field <;> decide

end Field

end ViewportScaling.Settings
