import ViewportScaling.Css.Cleaning
import ViewportScaling.Css.Node
import ViewportScaling.Css.SyntaxError

/-!
# Reading stylesheets

A stylesheet is read in two steps: the outline of the whole text, and then the nodes from their tokens.
So an error in the outline is reported even if a malformed declaration stands before it, and of several
malformed declarations the first is reported.
-/

namespace ViewportScaling.Css

open Unicode Text

/-- Whether a character is a given lower-case letter in some case. The letter i has two further forms,
the dotted capital and the dotless small one. -/
def isLetter (letter c : Char) : Bool :=
  c = letter || c = letter.toUpper || (letter = 'i' && (c = '\u0130' || c = '\u0131'))

/-- The rest of a text behind a word in any case. -/
def afterWord? : List Char → List Char → Option (List Char)
  | [], text => some text
  | letter :: word, c :: text => if isLetter letter c then afterWord? word text else none
  | _ :: _, [] => none

/-- Splits a mark of importance off the end of a value without blanks at its ends: an exclamation mark
and the word, with any blanks before each. -/
def splitImportance (value : List Char) : List Char × Bool :=
  match afterWord? "important".toList.reverse value.reverse with
  | none => (value, false)
  | some before =>
    match before.dropWhile isBlank with
    | '!' :: marked => (trim marked.reverse, true)
    | _ => (value, false)

/-- The declaration of a token: what stands before its first colon and what stands behind. -/
def Declaration.ofToken (token : Token) : Except SyntaxFault Declaration :=
  let text := uncommented token.text
  let property := trim (text.takeWhile (!· = ':'))
  match text.dropWhile (!· = ':') with
  | [] => .error (.noProperty token text)
  | _ :: behind =>
    if property = [] then .error (.noProperty token text)
    else
      let (value, important) := splitImportance (trim behind)
      .ok ⟨String.ofList property, String.ofList value, important⟩

/-- The cleaned text of a token. -/
def Token.cleaned (token : Token) : String := String.ofList (clean token.text)

mutual

/-- The node of an item of the outline. -/
def Node.ofItem : Item → Except SyntaxFault Node
  | .declaration token => Node.declaration <$> Declaration.ofToken token
  | .rule selector declarations =>
    Node.rule selector.cleaned <$> declarations.mapM Declaration.ofToken
  | .atRule keyword prelude body =>
    let name := String.ofList (keyword.text.drop 1)
    let params := (prelude.map Token.cleaned).getD ""
    match body with
    | none => .ok (.atRule name params false [])
    | some items => Node.atRule name params true <$> Node.ofItems items

/-- The nodes of the items of an outline. -/
def Node.ofItems : List Item → Except SyntaxFault (List Node)
  | [] => .ok []
  | item :: items => do return (← Node.ofItem item) :: (← Node.ofItems items)

end

/-- Reads a stylesheet. -/
def Stylesheet.read (source : String) : Except SyntaxError Stylesheet :=
  let nodes := do
    let items ← (outline source.toList).mapError SyntaxFault.outline
    Node.ofItems items
  nodes.mapError fun fault => ⟨source.toList, fault⟩

end ViewportScaling.Css
