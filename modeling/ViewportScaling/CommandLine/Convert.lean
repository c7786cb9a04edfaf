import ViewportScaling.CommandLine.Outcome
import ViewportScaling.Media.Pass
import ViewportScaling.Numeric.Reading
import ViewportScaling.Settings.File

/-!
# The command that converts

The command appends the media blocks to a stylesheet. Its settings come from a file of options, and
options of the command line override them. The result is written to a file if a path is given for it.
All parameters are checked before anything is read: the options in the order in which they were given,
and then the path of the stylesheet.
-/

namespace ViewportScaling.CommandLine.Convert

open Numeric Settings Text Css Media

/-- An option with a value. -/
inductive Valued where
  /-- The path of the result. -/
  | output
  /-- The path of a file of options. -/
  | config
  /-- A setting that is a number. -/
  | number (field : Field)
  /-- A setting that is a text. -/
  | text (field : Field)
deriving DecidableEq, Repr

/-- An option without a value. -/
inductive Switch where
  /-- Turns a setting on. -/
  | setting (field : Field)
  /-- Shows all notices. -/
  | verbose
  /-- Tells the usage. -/
  | help
deriving DecidableEq, Repr

/-- The name of the option for a setting. -/
def settingName (field : Field) : String :=
  "--" ++ String.ofList (field.name.toList.map fun c => if c = '_' then '-' else c)

example : settingName .xAxisBreakPoint = "--x-axis-break-point" := by decide +kernel

/-- The setting among given ones that an option is for. -/
def settingOf? (fields : List Field) (name : String) : Option Field :=
  fields.find? fun field => settingName field == name

/-- The settings that are numbers. -/
def numbers : List Field :=
  [.viewportWidth, .desktopWidth, .landscapeWidth, .yAxisBreakPoint, .xAxisBreakPoint]

/-- The settings that are turned on. -/
def flags : List Field := [.border, .disableDesktop, .disableLandscape]

/-- The options of the command. -/
def vocabulary : Vocabulary Valued Switch where
  valued? name :=
    if name = "-o" || name = "--output" then some .output
    else if name = "--config" then some .config
    else ((settingOf? numbers name).map .number).or ((settingOf? [.rootClass] name).map .text)
  switch? name :=
    if name = "-v" || name = "--verbose" then some .verbose
    else if name = "--help" then some .help
    else (settingOf? flags name).map .setting
  interspersed := true

/-- What the command is asked to do. -/
structure Request where
  /-- The path and the bytes of the stylesheet. -/
  source : String × List UInt8 := ("", [])
  /-- The path of the result, if it is written to a file. -/
  output : Option String := none
  /-- The path and the bytes of the file of options, if there is one. -/
  config : Option (String × List UInt8) := none
  /-- The options that override. -/
  options : Options := []
  /-- Whether all notices are shown. -/
  verbose : Bool := false

namespace Request

/-- Checks the value of an option and takes it into the request. -/
def take (tree : FileTree) (request : Request) : Valued × String → Except UsageError Request
  | (.output, path) =>
    if tree.find path matches .ok .directory then .error (.notFile "'-o' / '--output'" path)
    else .ok { request with output := if path = "" then none else some path }
  | (.config, path) =>
    (tree.fileOf "'--config'" path).map fun bytes => { request with config := some (path, bytes) }
  | (.number field, text) =>
    match Double.read? text with
    | none => .error (.notNumber (quotation (settingName field)) text)
    | some d => .ok { request with
        options := request.options ++ [(field.name, .number (.double d))] }
  | (.text field, text) =>
    .ok { request with options := request.options ++ [(field.name, .text text)] }

/-- The options that turn settings on. -/
def turnedOn (switches : List Switch) : Options :=
  flags.filterMap fun field =>
    if .setting field ∈ switches then some (field.name, .flag true) else none

/-- Checks the parameters of the command. -/
def ofArguments (tree : FileTree) (arguments : Arguments Valued Switch) :
    Except UsageError Request := do
  let request ← arguments.values.foldlM (take tree) {}
  let source ← tree.sourceOf arguments.words
  onlyOneWord arguments.words
  return { request with
    source
    options := request.options ++ turnedOn arguments.switches
    verbose := .verbose ∈ arguments.switches }

end Request

/-- Why there is no result. -/
inductive Failure where
  /-- The file of options gives no settings. -/
  | file (error : FileError)
  /-- The options that override are not valid. -/
  | options (error : SettingsError)
  /-- The bytes of the stylesheet are no text. -/
  | encoding (error : EncodingError)
  /-- The text is no stylesheet. -/
  | malformed (error : SyntaxError)
  /-- A length cannot be scaled. -/
  | arithmetic (error : ArithmeticError)

/-- The outcome of a run with such a failure on a stylesheet of a given name. -/
def Failure.outcome (name diagnostics : String) : Failure → Outcome
  | .file (.encoding error) | .encoding error => .givenUp diagnostics (.encoding error)
  | .arithmetic error => .givenUp diagnostics (.arithmetic error)
  | .malformed error =>
    .failed diagnostics ("Parse error in " ++ name ++ " (line " ++ toString error.position.line ++
      ", column " ++ toString error.position.column ++ "): " ++ error.message)
  | .file error => .failed diagnostics ("Error: " ++ error.message)
  | .options error => .failed diagnostics ("Error: " ++ error.message)

namespace Request

/-- The settings before options override them, and what is reported on the way. -/
def base (request : Request) : Except FileError Settings × List Notice :=
  match request.config with
  | none => (.ok {}, [])
  | some (path, bytes) => Settings.ofFile (plainPath path) bytes

/-- The settings in force and the text of the stylesheet. -/
def prepared (request : Request) : Except Failure (Settings × String) := do
  let base ← request.base.1.mapError .file
  let settings ← (base.override request.options).mapError .options
  let text ← (decodeFile request.source.2).mapError .encoding
  return (settings, text)

/-- The settings in force and the stylesheet. -/
def parsed (request : Request) : Except Failure (Settings × Stylesheet) := do
  let (settings, text) ← request.prepared
  let sheet ← (Stylesheet.read text).mapError .malformed
  return (settings, sheet)

/-- The text of the result, and what is reported on the way. -/
def result (request : Request) : Except Failure String × List Notice :=
  match request.parsed with
  | .error failure => (.error failure, request.base.2)
  | .ok (settings, sheet) =>
    let (transformed, notices) := applyTransforms settings [] sheet
    ((transformed.map (Stylesheet.write standardIndent)).mapError .arithmetic, request.base.2 ++ notices)

/-- Runs the command. -/
def run (tree : FileTree) (request : Request) : Outcome :=
  let (result, notices) := request.result
  let diagnostics := shownNotices request.verbose notices
  match result, request.output with
  | .error failure, _ => failure.outcome (fileName request.source.1) diagnostics
  | .ok css, none => { output := printed css, diagnostics }
  | .ok css, some path =>
    match tree.place (plainPath path) with
    | .error problem => .givenUp diagnostics (.path problem (plainPath path))
    | .ok location =>
      { diagnostics := diagnostics ++ printed ("Wrote " ++ path) ++ "\n"
        written := some (location, css) }

end Request

end ViewportScaling.CommandLine.Convert
