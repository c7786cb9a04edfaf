import ViewportScaling.Css.Outline
import ViewportScaling.Text.Position
import ViewportScaling.Text.Quotation

/-!
# Messages about malformed stylesheets

A stylesheet is refused because its text has no outline, or because a declaration in it has no
property. Either way the message tells the place and what was found there, and, where the outline
fails, what might have stood there instead.
-/

namespace ViewportScaling.Css

open Text

/-- Why a stylesheet is refused. -/
inductive SyntaxFault where
  /-- The text has no outline. -/
  | outline (error : OutlineError)
  /-- A declaration has no property or no colon; its token and its text without comments. -/
  | noProperty (token : Token) (text : List Char)
deriving DecidableEq, Repr

/-- A stylesheet that is refused, and why. -/
structure SyntaxError where
  /-- The text of the stylesheet. -/
  source : List Char
  /-- The reason. -/
  fault : SyntaxFault
deriving DecidableEq, Repr

/-- The number of characters before the place of an error. Where the text ends too early this is the
start of the last token. -/
def OutlineError.offset : OutlineError → Nat
  | .unexpectedToken token _ => token.offset
  | .unexpectedEnd last _ => (last.map Token.offset).getD 0
  | .misplacedToken token _ _ => token.offset
  | .noToken offset _ _ => offset

/-- A token as messages show it. -/
def tokenText (terminal : Terminal) (text : List Char) : String :=
  "Token('" ++ terminal.name ++ "', " ++ quotation (String.ofList text) ++ ")"

/-- The token as messages show it. -/
def Token.description (token : Token) : String := tokenText token.terminal token.text

/-- The list of kinds of token in a message. -/
def expectedText (terminals : List Terminal) : String :=
  "Expected one of: \n" ++ String.join (terminals.map fun t => "\t* " ++ t.name ++ "\n")

/-- The message about a token that may not stand where it is. -/
def unexpectedText (token : String) (position : Position) (accepted : List Terminal) : String :=
  "Unexpected token " ++ token ++ " at line " ++ toString position.line ++ ", column " ++
    toString position.column ++ ".\n" ++ expectedText accepted

/-- The column reached after a text when tabs go to the next multiple of eight. -/
def tabbedWidth (text : List Char) : Nat :=
  (text.foldl (fun (total, column) c =>
    if c = '\t' then (total + (8 - column % 8), column + (8 - column % 8))
    else if c = '\n' || c = '\r' then (total + 1, 0)
    else (total + 1, column + 1)) (0, 0)).1

/-- The number of characters shown on each side of a place where no token is found. -/
def contextSpan : Nat := 40

/-- The surroundings of a place on its line, and a mark under it. -/
def contextText (source : List Char) (offset : Nat) : String :=
  let onLine := fun c => !(c = '\n')
  let before := (((source.take offset).reverse.take contextSpan).takeWhile onLine).reverse
  let following := ((source.drop offset).take contextSpan).takeWhile onLine
  String.ofList (before ++ following ++ '\n' :: List.replicate (tabbedWidth before) ' ') ++ "^\n"

/-- The message of an error in the outline. -/
def OutlineError.message (source : List Char) (error : OutlineError) : String :=
  let position := Position.ofOffset source error.offset
  match error with
  | .unexpectedToken token accepted => unexpectedText token.description position accepted
  | .unexpectedEnd _ accepted => unexpectedText (tokenText .endOfText []) position accepted
  | .misplacedToken token accepted last =>
    unexpectedText token.description position accepted ++ "Previous tokens: [" ++
      (last.map Token.description).getD "None" ++ "]\n"
  | .noToken offset sought last =>
    "No terminal matches '" ++ String.ofList ((source.drop offset).take 1) ++
      "' in the current parser context, at line " ++ toString position.line ++ " col " ++
      toString position.column ++ "\n\n" ++ contextText source offset ++ expectedText sought ++
      (last.map fun token => "\nPrevious tokens: " ++ token.description ++ "\n").getD ""

namespace SyntaxError

/-- The place of the error. -/
def position (error : SyntaxError) : Position :=
  .ofOffset error.source <| match error.fault with
    | .outline cause => cause.offset
    | .noProperty token _ => token.offset

/-- The message of the error. -/
def message (error : SyntaxError) : String :=
  match error.fault with
  | .outline cause => cause.message error.source
  | .noProperty _ text => "Expected 'property: value', got " ++ quotation (String.ofList text)

end SyntaxError

end ViewportScaling.Css
