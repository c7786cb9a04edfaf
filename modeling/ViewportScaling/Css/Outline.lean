import ViewportScaling.Css.Token

/-!
# The outline of a stylesheet

The outline is the nesting of a stylesheet in terms of its tokens: which tokens are selectors, at-rule
names, preludes and declarations, and which blocks they stand in. It is read from left to right with
the blocks that are open kept innermost first. Which kinds of token are looked for depends on what
was read last, and which are accepted also on the innermost open block; a token that is found and not
accepted is an error.
-/

namespace ViewportScaling.Css

/-- A part of the outline. -/
inductive Item where
  /-- A declaration in the block of an at-rule. -/
  | declaration (token : Token)
  /-- A rule: its selector and declarations. -/
  | rule (selector : Token) (declarations : List Token)
  /-- An at-rule: its name, its prelude if there is one, and the items of its block if there is
  one. -/
  | atRule (keyword : Token) (prelude : Option Token) (body : Option (List Item))

/-- A block that is still open, with what it holds so far. -/
inductive Block where
  /-- The block of a rule. -/
  | rule (selector : Token) (declarations : List Token)
  /-- The block of an at-rule. -/
  | atRule (keyword : Token) (prelude : Option Token) (items : List Item)

/-- What was read last, as far as it decides what is looked for next. -/
inductive Stage where
  /-- Nothing. -/
  | start
  /-- The name of an at-rule. -/
  | keyword (keyword : Token)
  /-- The name and the prelude of an at-rule. -/
  | prelude (keyword prelude : Token)
  /-- A selector. -/
  | selector (selector : Token)
  /-- The opening of the block of a rule, or a semicolon in it. -/
  | inRule
  /-- A whole item, or the opening of the block of an at-rule or a semicolon in it. -/
  | between

/-- How far the outline has been read. -/
structure Reading where
  /-- The items at the top level so far. -/
  items : List Item := []
  /-- The open blocks, innermost first. -/
  openBlocks : List Block := []
  /-- What was read last. -/
  stage : Stage := .start
  /-- The last token, if there was one. -/
  last : Option Token := none

/-- The kinds of token looked for, in the order in which they are tried. -/
def Stage.sought : Stage → List Terminal
  | .start => [.selector, .atKeyword]
  | .keyword _ => [.prelude, .openingBrace, .semicolon]
  | .prelude _ _ => [.openingBrace, .semicolon]
  | .selector _ => [.openingBrace]
  | .inRule => [.declaration, .closingBrace, .semicolon]
  | .between => [.declaration, .selector, .atKeyword, .closingBrace, .semicolon]

/-- All kinds of token, in the order in which they are tried where any is looked for. -/
def Terminal.ordered : List Terminal :=
  [.prelude, .declaration, .selector, .atKeyword, .openingBrace, .closingBrace, .semicolon]

/-- The order in which messages list kinds of token: by name. -/
def Terminal.listed : List Terminal :=
  [.endOfText, .atKeyword, .declaration, .openingBrace, .prelude, .closingBrace, .selector,
    .semicolon]

/-- The kinds of token that may follow. -/
def Reading.accepted (reading : Reading) : List Terminal :=
  match reading.stage with
  | .keyword _ => [.openingBrace, .prelude, .semicolon]
  | .prelude _ _ => [.openingBrace, .semicolon]
  | .selector _ => [.openingBrace]
  | _ =>
    match reading.openBlocks with
    | [] => [.endOfText, .atKeyword, .selector]
    | .rule _ _ :: _ => [.declaration, .closingBrace, .semicolon]
    | .atRule _ _ _ :: _ => [.atKeyword, .declaration, .closingBrace, .selector, .semicolon]

/-- Puts a whole item into the innermost open block. In the block of a rule there are none. -/
def Reading.add (reading : Reading) (item : Item) : Reading :=
  match reading.openBlocks with
  | .atRule keyword prelude items :: outer =>
    { reading with openBlocks := .atRule keyword prelude (items ++ [item]) :: outer }
  | _ => { reading with items := reading.items ++ [item] }

/-- Takes in a token, if it may follow. -/
def Reading.take? (reading : Reading) (token : Token) : Option Reading :=
  let next := { reading with last := some token, stage := .between }
  match reading.stage, token.terminal with
  | .keyword keyword, .prelude => some { next with stage := .prelude keyword token }
  | .keyword keyword, .openingBrace =>
    some { next with openBlocks := .atRule keyword none [] :: reading.openBlocks }
  | .keyword keyword, .semicolon => some (next.add (.atRule keyword none none))
  | .prelude keyword prelude, .openingBrace =>
    some { next with openBlocks := .atRule keyword (some prelude) [] :: reading.openBlocks }
  | .prelude keyword prelude, .semicolon =>
    some (next.add (.atRule keyword (some prelude) none))
  | .selector selector, .openingBrace =>
    some { next with openBlocks := .rule selector [] :: reading.openBlocks, stage := .inRule }
  | .keyword _, _ | .prelude _ _, _ | .selector _, _ => none
  | _, .atKeyword =>
    match reading.openBlocks with
    | .rule _ _ :: _ => none
    | _ => some { next with stage := .keyword token }
  | _, .selector =>
    match reading.openBlocks with
    | .rule _ _ :: _ => none
    | _ => some { next with stage := .selector token }
  | _, .declaration =>
    match reading.openBlocks with
    | [] => none
    | .rule selector declarations :: outer =>
      some { next with openBlocks := .rule selector (declarations ++ [token]) :: outer }
    | .atRule _ _ _ :: _ => some (next.add (.declaration token))
  | _, .closingBrace =>
    match reading.openBlocks with
    | [] => none
    | .rule selector declarations :: outer =>
      some ({ next with openBlocks := outer }.add (.rule selector declarations))
    | .atRule keyword prelude items :: outer =>
      some ({ next with openBlocks := outer }.add (.atRule keyword prelude (some items)))
  | _, .semicolon =>
    match reading.openBlocks with
    | [] => none
    | .rule _ _ :: _ => some { next with stage := .inRule }
    | .atRule _ _ _ :: _ => some next
  | _, _ => none

/-- Why a text has no outline. Places are given by the number of characters before them. -/
inductive OutlineError where
  /-- A token that was looked for may not follow here. -/
  | unexpectedToken (token : Token) (accepted : List Terminal)
  /-- The text may not end here. -/
  | unexpectedEnd (last : Option Token) (accepted : List Terminal)
  /-- A token is found here, but of a kind that was not looked for. -/
  | misplacedToken (token : Token) (accepted : List Terminal) (last : Option Token)
  /-- No token of any kind is found here. -/
  | noToken (offset : Nat) (sought : List Terminal) (last : Option Token)
deriving DecidableEq, Repr

/-- Reads on to the end of the text, which has `length` characters. -/
def Reading.finish (length : Nat) (reading : Reading) (input : List Char) :
    Except OutlineError (List Item) :=
  let start := skipIgnored input
  let offset := length - start.length
  match _found : Token.next? reading.stage.sought offset start with
  | some (token, rest) =>
    match reading.take? token with
    | some further => further.finish length rest
    | none => .error (.unexpectedToken token reading.accepted)
  | none =>
    if start.isEmpty then
      if reading.accepted.contains .endOfText then .ok reading.items
      else .error (.unexpectedEnd reading.last reading.accepted)
    else
      match Token.next? Terminal.ordered offset start with
      | some (token, _) => .error (.misplacedToken token reading.accepted reading.last)
      | none =>
        .error (.noToken offset
          (Terminal.listed.filter reading.stage.sought.contains) reading.last)
termination_by input.length
decreasing_by
  have : rest.length < (skipIgnored input).length := Token.length_lt_of_next? ‹_›
  have := length_skipIgnored_le input
  omega

/-- The outline of a text. -/
def outline (source : List Char) : Except OutlineError (List Item) :=
  Reading.finish source.length {} source

end ViewportScaling.Css
