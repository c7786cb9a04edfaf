import ViewportScaling.Css.Node

/-!
# Writing stylesheets

Each declaration and each brace stands on a line of its own, indented by the depth of its block. Nodes at
the top level are separated by a blank line. An at-rule without a block ends in a semicolon, whatever
nodes it holds.
-/

namespace ViewportScaling.Css

/-- The name of an at-rule with its sign and parameters. -/
def atRuleHead (name params : String) : List Char :=
  '@' :: name.toList ++ if params = "" then [] else ' ' :: params.toList

mutual

/-- The lines of a node, with the margin of its block. -/
def Node.lines (indent margin : List Char) : Node → List (List Char)
  | .declaration content => [margin ++ content.text ++ [';']]
  | .rule selector declarations =>
    [margin ++ selector.toList ++ [' ', '\x7b']] ++
      declarations.map (fun content => margin ++ indent ++ content.text ++ [';']) ++
      [margin ++ ['\x7d']]
  | .atRule name params hasBlock children =>
    if hasBlock then
      [margin ++ atRuleHead name params ++ [' ', '\x7b']] ++
        Node.linesAll indent (margin ++ indent) children ++ [margin ++ ['\x7d']]
    else [margin ++ atRuleHead name params ++ [';']]

/-- The lines of a list of nodes. -/
def Node.linesAll (indent margin : List Char) : List Node → List (List Char)
  | [] => []
  | node :: nodes => node.lines indent margin ++ Node.linesAll indent margin nodes

end

/-- The text of a node at the top level. -/
def Node.print (indent : List Char) (node : Node) : List Char :=
  ['\n'].intercalate (node.lines indent [])

/-- The text of a stylesheet. -/
def Stylesheet.print (indent : List Char) (sheet : Stylesheet) : List Char :=
  if sheet = [] then [] else ['\n', '\n'].intercalate (sheet.map (Node.print indent)) ++ ['\n']

/-- The indentation used where none is asked for. -/
def standardIndent : String := "  "

/-- Writes a stylesheet. -/
def Stylesheet.write (indent : String) (sheet : Stylesheet) : String :=
  String.ofList (sheet.print indent.toList)

end ViewportScaling.Css
