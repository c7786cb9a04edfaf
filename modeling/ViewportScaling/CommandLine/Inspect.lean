import ViewportScaling.CommandLine.Outcome
import ViewportScaling.Css.Reader
import ViewportScaling.Document.Walk

/-!
# The command that inspects

The command shows how many rules and at-rules a stylesheet has, and the rules that a pass leaves alone
because they stand in at-rules.
-/

namespace ViewportScaling.CommandLine.Inspect

open Css Document Text

/-- The options of the command. Only its usage can be asked for. -/
def vocabulary : Vocabulary Empty Unit where
  valued? _ := none
  switch? name := if name = "--help" then some () else none
  interspersed := true

/-- The line for a rule in an at-rule. -/
def nestedLine (store : Store) (rule : Id) : String :=
  let (name, params) := ((store.parent? rule).bind store.atRule?).getD ("", "")
  let selector := ((store.rule? rule).map Prod.fst).getD ""
  "  @" ++ name ++ " " ++ params ++ "  " ++ selector

/-- The lines that describe a stylesheet with a given name. -/
def description (name : String) (sheet : Stylesheet) : List String :=
  let (id, store) := ({} : Store).plantSheet sheet
  let rules := store.rulesBelow id
  let nested := rules.filter store.isNested
  ["Stylesheet: " ++ name,
    "Rules:      " ++ toString rules.length,
    "At-rules:   " ++ toString (store.atRuleNames id).length,
    "Nested:     " ++ toString nested.length] ++
  if nested.isEmpty then []
  else "" :: "Nested rules (skipped by convert):" :: nested.map (nestedLine store)

/-- Runs the command on a file. -/
def run (source : String × List UInt8) : Outcome :=
  match decodeFile source.2 with
  | .error error => .givenUp "" (.encoding error)
  | .ok text =>
    match Stylesheet.read text with
    | .error error => .failed "" ("Parse error: " ++ error.message)
    | .ok sheet =>
      { output := String.join ((description (fileName source.1) sheet).map (printed · ++ "\n")) }

end ViewportScaling.CommandLine.Inspect
