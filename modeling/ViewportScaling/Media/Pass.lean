import ViewportScaling.Css.Printer
import ViewportScaling.Css.Reader
import ViewportScaling.Media.Context
import ViewportScaling.Settings.Options

/-!
# Passes

A pass derives media blocks from the rules of a sheet that stand in no at-rule, and takes them into the
sheet. The sheet is changed in no other way, and not at all if some rule stops with an error. Rules in
at-rules are left alone, and so a further pass does not see the blocks of an earlier one.
-/

namespace ViewportScaling.Media

open Css Document Numeric

/-- The rules below a sheet that stand in no at-rule. -/
def plainRules (store : Store) (sheet : Id) : List (String × List Declaration) :=
  ((store.rulesBelow sheet).filter fun rule => !store.isNested rule).filterMap store.rule?

/-- What a pass leaves behind. -/
structure PassResult where
  /-- The document, changed if the pass succeeded. -/
  store : Store
  /-- What was reported. -/
  notices : List Notice
  /-- The error that stopped the pass, if one did. -/
  error : Option ArithmeticError

/-- Runs a pass over a sheet. -/
def pass (settings : Settings) (store : Store) (sheet : Id) : PassResult :=
  let trace := contributions settings (plainRules store sheet)
  match trace.error with
  | some error => ⟨store, trace.notices, some error⟩
  | none =>
    let (context, opened) := Context.create store settings
    let grown := context.emitAll opened trace.emissions
    let (blocks, notices, finished) := context.finish grown sheet
    let size := blocks.foldl (fun total block => total + (finished.children block).length) 0
    ⟨finished, trace.notices ++ notices ++ [.passFinished blocks.length size], none⟩

/-- Runs passes over a sheet, in order, up to the first that is stopped. -/
def passes (store : Store) (sheet : Id) : List Settings → PassResult
  | [] => ⟨store, [], none⟩
  | settings :: further =>
    let first := pass settings store sheet
    match first.error with
    | some _ => first
    | none =>
      let rest := passes first.store sheet further
      { rest with notices := first.notices ++ rest.notices }

/-- Runs passes over a stylesheet that is given as trees: the stylesheet then, and what was
reported. -/
def transform (settings : List Settings) (sheet : Stylesheet) :
    Except ArithmeticError Stylesheet × List Notice :=
  let (id, store) := ({} : Store).plantSheet sheet
  let result := passes store id settings
  match result.error with
  | some error => (.error error, result.notices)
  | none => (.ok (result.store.nodes id), result.notices)

/-- Applies a pass over given settings to a stylesheet, and behind it further passes. -/
def applyTransforms (settings : Settings) (further : List Settings) (sheet : Stylesheet) :
    Except ArithmeticError Stylesheet × List Notice :=
  transform (settings :: further) sheet

/-- Why a text is not converted. -/
inductive ConversionError where
  /-- The settings are not valid. -/
  | settings (error : SettingsError)
  /-- The text is no stylesheet. -/
  | malformed (error : SyntaxError)
  /-- A length cannot be scaled. -/
  | arithmetic (error : ArithmeticError)

/-- The text of a stylesheet after one pass, with options in force over given settings. -/
def convert (source : String) (base : Settings) (options : Settings.Options) :
    Except ConversionError String × List Notice :=
  match Stylesheet.read source with
  | .error error => (.error (.malformed error), [])
  | .ok sheet =>
    let unknown := Settings.unknownOptions options
    match base.override options with
    | .error error => (.error (.settings error), unknown)
    | .ok settings =>
      let (result, notices) := transform [settings] sheet
      ((result.map (Stylesheet.write standardIndent)).mapError .arithmetic, unknown ++ notices)

end ViewportScaling.Media
