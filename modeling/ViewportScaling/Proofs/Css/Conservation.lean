import ViewportScaling.Css.Printer
import ViewportScaling.Proofs.Css.Cleaning
import ViewportScaling.Proofs.Css.Outline

/-!
# Reading and writing lose nothing

The essence of a text is what is left of it without blanks and semicolons. While a text without comments
is read, the essence of what has been read never changes: the tokens in the items, in the open blocks
and left over spell it together with the rest of the text. Each node then has the essence of its item, and
its printed lines have the essence of the node. So a stylesheet that is read and written keeps every
character that counts, once and in its place.
-/

namespace ViewportScaling.Css

open Unicode Text

/-! ### Essences -/

/-- The text without blanks and semicolons. -/
def essence (text : List Char) : List Char := text.filter fun c => !(isBlank c || c = ';')

@[simp] theorem essence_nil : essence [] = [] := rfl

@[simp] theorem essence_append (first second : List Char) :
    essence (first ++ second) = essence first ++ essence second :=
  List.filter_append first second

theorem essence_cons_of_kept {c : Char} (kept : (!(isBlank c || c = ';')) = true) (rest : List Char) :
    essence (c :: rest) = c :: essence rest :=
  List.filter_cons_of_pos kept

theorem essence_cons_of_idle {c : Char} (idle : (isBlank c || c = ';') = true) (rest : List Char) :
    essence (c :: rest) = essence rest :=
  List.filter_cons_of_neg (by simp [idle])

/-- Blanks have no essence. -/
theorem essence_blanks {blanks : List Char} (all : ∀ c ∈ blanks, isBlank c = true) :
    essence blanks = [] := by
  refine List.filter_eq_nil_iff.2 fun c mem => ?_
  simp [all c mem]

/-- What separates texts does not matter if it is blank. -/
theorem essence_intercalate {separator : List Char} (blank : ∀ c ∈ separator, isBlank c = true)
    (texts : List (List Char)) : essence (separator.intercalate texts) = essence texts.flatten := by
  induction texts with
  | nil => rfl
  | cons text texts ih =>
    cases texts with
    | nil => simp
    | cons next others =>
      rw [List.intercalate_cons_cons, essence_append, essence_append, essence_blanks blank, ih,
        List.append_nil, ← essence_append, ← List.flatten_cons]

/-- Texts that are made of parts with the same essence have the same essence. -/
theorem essence_flatMap {α : Type} {items : List α} {first second : α → List Char}
    (same : ∀ item ∈ items, essence (first item) = essence (second item)) :
    essence (items.flatMap first) = essence (items.flatMap second) := by
  induction items with
  | nil => rfl
  | cons item items ih =>
    obtain ⟨one, others⟩ := List.forall_mem_cons.1 same
    rw [List.flatMap_cons, List.flatMap_cons, essence_append, essence_append, one, ih others]

/-- Trimming takes nothing essential away. -/
theorem essence_trim (text : List Char) : essence (trim text) = essence text := by
  obtain ⟨front, back, left, right, whole⟩ := exists_trim text
  conv_rhs => rw [whole]
  rw [essence_append, essence_append, essence_blanks left, essence_blanks right, List.nil_append,
    List.append_nil]

/-- What stands between tokens has no essence if it holds no comment. -/
theorem essence_skipIgnored {input : List Char} (plain : NoComment input) :
    essence (skipIgnored input) = essence input := by
  fun_induction skipIgnored input with
  | case1 input text rest found ih =>
    rw [comment?_of_noComment plain] at found
    cases found
  | case2 => rfl
  | case3 c rest _ spacing ih =>
    have blank : isBlank c = true := by
      simp only [isSpacing, Bool.or_eq_true, decide_eq_true_eq] at spacing
      rcases spacing with (((rfl | rfl) | rfl) | rfl) | rfl <;> decide
    rw [ih (plain.of_infix (List.suffix_cons c rest).isInfix),
      essence_cons_of_idle (by rw [blank, Bool.true_or])]
  | case4 => rfl

/-! ### The tokens of an outline -/

/-- The text of the name of an at-rule and its prelude. -/
def headText (keyword : Token) (prelude : Option Token) : List Char :=
  keyword.text ++ (prelude.map Token.text).getD []

mutual

/-- The tokens of an item, with the braces of its block. -/
def Item.spelling : Item → List Char
  | .declaration token => token.text
  | .rule selector declarations =>
    selector.text ++ '\x7b' :: declarations.flatMap Token.text ++ ['\x7d']
  | .atRule keyword prelude body =>
    headText keyword prelude ++
      match body with
      | none => []
      | some items => '\x7b' :: Item.spellingOf items ++ ['\x7d']

/-- The tokens of items, one after the other. -/
def Item.spellingOf : List Item → List Char
  | [] => []
  | item :: items => item.spelling ++ Item.spellingOf items

end

/-- The tokens of two rows of items are those of the first and those of the second. -/
theorem Item.spellingOf_append (first second : List Item) :
    spellingOf (first ++ second) = spellingOf first ++ spellingOf second := by
  induction first with
  | nil => rfl
  | cons item items ih => simp [spellingOf, ih]

/-- The tokens of an open block. -/
def Block.spelling : Block → List Char
  | .rule selector declarations => selector.text ++ '\x7b' :: declarations.flatMap Token.text
  | .atRule keyword prelude items => headText keyword prelude ++ '\x7b' :: Item.spellingOf items

/-- The tokens left over. -/
def Stage.spelling : Stage → List Char
  | .keyword name => headText name none
  | .prelude name params => headText name (some params)
  | .selector token => token.text
  | _ => []

/-- The head of an at-rule that is complete is all that is left over. -/
theorem Stage.spelling_of_head? {stage : Stage} {keyword : Token} {prelude : Option Token}
    (found : stage.head? = some (keyword, prelude)) : stage.spelling = headText keyword prelude := by
  cases stage <;> cases found <;> rfl

/-- Where a whole item may follow, nothing is left over. -/
theorem Stage.spelling_of_isFree {stage : Stage} (free : stage.isFree = true) : stage.spelling = [] := by
  cases stage <;> first | rfl | cases free

namespace Reading

/-- The tokens of a reading. -/
def spelling (reading : Reading) : List Char :=
  Item.spellingOf reading.items ++ reading.openBlocks.reverse.flatMap Block.spelling ++
    reading.stage.spelling

/-- An item is spelled behind everything else where nothing is left over. -/
theorem spelling_add {reading : Reading} (item : Item)
    (outside : ∀ block ∈ reading.openBlocks.head?, block.isAtRule = true)
    (free : reading.stage.spelling = []) :
    (reading.add item).spelling = reading.spelling ++ item.spelling := by
  obtain ⟨none, added⟩ | ⟨keyword, prelude, items, outer, some, added⟩ := add_cases item outside
  · rw [added]
    simp [spelling, none, free, Item.spellingOf_append, Item.spellingOf]
  · rw [added]
    simp [spelling, some, free, Block.spelling, Item.spellingOf_append, Item.spellingOf]

/-- The text that a kind of token always has. -/
def fixedText : Terminal → Option (List Char)
  | .openingBrace => some ['\x7b']
  | .closingBrace => some ['\x7d']
  | .semicolon => some [';']
  | _ => none

/-- A token of a kind that always has one text has this text. -/
theorem text_of_fixedText {terminal : Terminal} {input rest : List Char} {found : List Segment}
    (split : terminal.match? input = some (found, rest)) :
    ∀ text ∈ fixedText terminal, Segment.textAll found = text := by
  intro text fixed
  cases terminal <;> cases fixed <;> exact text_of_single? split

/-- A step spells the essence of the token behind what was there. -/
theorem essence_takes {reading further : Reading} {token : Token} (proper : reading.Proper)
    (fixed : ∀ text ∈ fixedText token.terminal, token.text = text)
    (taken : reading.Takes token further) :
    essence further.spelling = essence (reading.spelling ++ token.text) := by
  have idle : essence [';'] = [] := rfl
  cases taken with
  | «prelude» stage kind =>
    rw [spelling, spelling, stage]
    simp [Stage.spelling, headText]
  | openAtRule stage kind =>
    have text := fixed _ (by rw [kind]; rfl)
    rw [spelling, spelling, Stage.spelling_of_head? stage, text]
    simp [Stage.spelling, Block.spelling, Item.spellingOf]
  | statement stage kind =>
    have text := fixed _ (by rw [kind]; rfl)
    have outside := proper.blocks_of_head? stage
    rw [spelling_add, text, spelling, spelling, Stage.spelling_of_head? stage]
    · simp [Stage.spelling, Item.spelling, idle]
    · exact fun block mem => outside block (List.mem_of_mem_head? mem)
    · rfl
  | openRule stage kind =>
    have text := fixed _ (by rw [kind]; rfl)
    rw [spelling, spelling, stage, text]
    simp [Stage.spelling, Block.spelling]
  | keyword free kind outside =>
    rw [spelling, spelling, Stage.spelling_of_isFree free]
    simp [Stage.spelling, headText]
  | selector free kind outside =>
    rw [spelling, spelling, Stage.spelling_of_isFree free]
    simp [Stage.spelling]
  | inRule free kind blocks =>
    rw [spelling, spelling, Stage.spelling_of_isFree free, blocks]
    simp [Stage.spelling, Block.spelling]
  | inAtRule free kind blocks =>
    rw [spelling_add, spelling, spelling, Stage.spelling_of_isFree free]
    · simp [Stage.spelling, Item.spelling]
    · simp [blocks, Block.isAtRule]
    · rfl
  | closeRule free kind blocks =>
    have text := fixed _ (by rw [kind]; rfl)
    have outer := proper.outer
    rw [blocks] at outer
    rw [spelling_add, text, spelling, spelling, Stage.spelling_of_isFree free, blocks]
    · simp [Stage.spelling, Item.spelling, Block.spelling]
    · exact fun block mem => outer block (List.mem_of_mem_head? mem)
    · rfl
  | closeAtRule free kind blocks =>
    have text := fixed _ (by rw [kind]; rfl)
    have outer := proper.outer
    rw [blocks] at outer
    rw [spelling_add, text, spelling, spelling, Stage.spelling_of_isFree free, blocks]
    · simp [Stage.spelling, Item.spelling, Block.spelling]
    · exact fun block mem => outer block (List.mem_of_mem_head? mem)
    · rfl
  | semicolon free kind next =>
    have text := fixed _ (by rw [kind]; rfl)
    rw [spelling, spelling, Stage.spelling_of_isFree free, text]
    rcases next with rfl | rfl <;> simp [Stage.spelling, idle]

/-- A reading that may end here has closed all blocks and left nothing over. -/
theorem spelling_of_accepted {reading : Reading}
    (final : reading.accepted.contains .endOfText = true) :
    reading.spelling = Item.spellingOf reading.items := by
  obtain ⟨items, blocks, stage, last⟩ := reading
  unfold accepted at final
  cases stage with
  | keyword | «prelude» | selector => cases final
  | start | inRule | between =>
    rcases blocks with _ | ⟨⟨selector, declarations⟩ | ⟨keyword, prelude, inner⟩, outer⟩
    · simp [spelling, Stage.spelling]
    · cases final
    · cases final

end Reading

/-- The items of an outline spell the essence of the source. -/
theorem essence_outline {source : List Char} {items : List Item} (plain : NoComment source)
    (found : outline source = .ok items) : essence (Item.spellingOf items) = essence source := by
  let holds := fun (reading : Reading) input =>
    NoComment input ∧ reading.Proper ∧ essence (reading.spelling ++ input) = essence source
  have start : holds {} source := ⟨plain, Reading.proper_empty, rfl⟩
  have step : ∀ {reading further : Reading} {input rest : List Char} {token : Token},
      holds reading input → token.terminal.match? (skipIgnored input) = some (token.segments, rest) →
      token.text ++ rest = skipIgnored input → reading.Takes token further → holds further rest := by
    intro reading further input rest token ⟨plain, proper, same⟩ matched whole taken
    have inside : rest <:+: input := by
      have suffix := skipIgnored_suffix input
      rw [← whole] at suffix
      exact ((List.suffix_append token.text rest).trans suffix).isInfix
    refine ⟨plain.of_infix inside, proper.takes taken, ?_⟩
    have spelled := Reading.essence_takes proper (Reading.text_of_fixedText matched) taken
    calc essence (further.spelling ++ rest)
        = essence (reading.spelling ++ token.text) ++ essence rest := by
          rw [essence_append, spelled]
      _ = essence reading.spelling ++ essence (skipIgnored input) := by
          rw [← whole]
          simp
      _ = essence source := by
          rw [essence_skipIgnored plain, ← essence_append, same]
  obtain ⟨reading, input, ⟨plain', -, same⟩, empty, final, rfl⟩ := Reading.exists_of_finish step start found
  have none := essence_skipIgnored plain'
  rw [empty] at none
  rw [essence_append, ← none, Reading.spelling_of_accepted final] at same
  simpa using same

/-! ### Nodes -/

/-- A declaration read as important ends in the word in small letters. -/
def Token.MarksPlainly (token : Token) : Prop :=
  ∀ declaration, Declaration.ofToken token = .ok declaration → declaration.important = true →
    "important".toList <:+ trim token.text

instance (token : Token) : Decidable token.MarksPlainly :=
  match found : Declaration.ofToken token with
  | .error _ => isTrue fun _ other => nomatch found.symm.trans other
  | .ok declaration =>
    decidable_of_iff (declaration.important = true → "important".toList <:+ trim token.text) (by
      unfold Token.MarksPlainly
      rw [found]
      simp)

/-- What is asked of a token that is kept whole: it holds no comment, it starts with the sign if it is the
name of an at-rule, and it marks importance plainly if it is a declaration. -/
def Token.IsKept (terminal : Terminal) (token : Token) : Prop :=
  NoComment token.text ∧ (terminal = .atKeyword → token.text.head? = some '@') ∧
    (terminal = .declaration → token.MarksPlainly)

/-- Cleaning a text without comments takes nothing essential away. -/
theorem essence_clean {text : List Char} (plain : NoComment text) :
    essence (clean text) = essence text := by
  have same : ∀ piece ∈ pieces text, essence piece.spaced = essence piece.text := by
    intro piece mem
    have none := plain.pieces piece mem
    cases piece with
    | comment text => cases none
    | quoted text => rfl
    | blanks blanks => exact (essence_blanks (isBlank_of_mem_pieces mem)).symm
    | plain c => rfl
  rw [clean, essence_trim, essence_flatMap same, flatMap_pieces]

/-- Blanks behind a suffix that does not end in one are no blanks at all. -/
theorem suffix_of_append_blanks {word text blanks : List Char} (suffix : word <:+ text ++ blanks)
    (all : ∀ c ∈ blanks, isBlank c = true) (solid : ∀ c ∈ word.getLast?, isBlank c = false)
    (nonempty : word ≠ []) : blanks = [] := by
  by_contra some
  obtain ⟨front, whole⟩ := suffix
  have last := congrArg List.getLast? whole
  rw [List.getLast?_append_of_ne_nil _ some, List.getLast?_append_of_ne_nil _ nonempty] at last
  have blank := all (blanks.getLast some) (List.getLast_mem some)
  rw [solid _ (last.trans (List.getLast?_eq_some_getLast some))] at blank
  cases blank

/-- A declaration keeps the essence of its token. -/
theorem essence_declaration {token : Token} {declaration : Declaration} (plain : NoComment token.text)
    (marks : token.MarksPlainly) (found : Declaration.ofToken token = .ok declaration) :
    essence declaration.text = essence token.text := by
  obtain ⟨before, behind, whole, -, property, -, split⟩ := Declaration.of_ofToken plain.pieces found
  have value : essence (declaration.value.toList ++
      if declaration.important then " !important".toList else []) = essence behind := by
    rw [← essence_trim behind]
    cases important : declaration.important with
    | false =>
      rw [important] at split
      rw [splitImportance_eq_false split]
      simp
    | true =>
      rw [important] at split
      obtain ⟨front, blanks, word, marked, all, isWord, same⟩ := splitImportance_eq_true_iff.1 split
      have plainly := marks declaration found important
      obtain ⟨left, right, -, blankRight, ends⟩ := exists_trim behind
      rw [whole, ends, ← List.cons_append, ← List.append_assoc] at plainly
      have none := suffix_of_append_blanks plainly blankRight (by decide) (by decide)
      rw [none, List.append_nil, marked] at plainly
      have spelled : word = "important".toList := by
        have inside : word <:+ before ++ ':' :: (left ++ (front ++ '!' :: blanks ++ word)) :=
          ⟨before ++ ':' :: (left ++ (front ++ '!' :: blanks)), by simp⟩
        have length : word.length = "important".toList.length := isWord.length_eq.symm
        have shorter := List.suffix_of_suffix_length_le inside plainly (Nat.le_of_eq length)
        exact shorter.eq_of_length length
      have mark : essence " !important".toList = '!' :: essence "important".toList := by decide
      rw [same, marked, spelled, if_pos rfl, essence_append, essence_append, essence_append, essence_trim,
        essence_cons_of_kept (by decide), essence_blanks all, mark]
      simp
  have token_text : essence token.text = essence before ++ ':' :: essence behind := by
    rw [← essence_trim token.text, whole, essence_append, essence_cons_of_kept (by decide)]
  rw [token_text, ← value, Declaration.text, property, List.append_assoc, essence_append, essence_trim,
    List.cons_append, essence_cons_of_kept (by decide), List.cons_append,
    essence_cons_of_idle (by decide)]

/-- The lines of declarations have the essence of their tokens. -/
theorem essence_declarationLines {front : List Char} (blank : ∀ c ∈ front, isBlank c = true)
    {tokens : List Token} {declarations : List Declaration}
    (kept : ∀ token ∈ tokens, Token.IsKept .declaration token)
    (found : List.Forall₂ (fun token content => Declaration.ofToken token = .ok content) tokens
      declarations) :
    essence (declarations.map fun content => front ++ content.text ++ [';']).flatten =
      essence (tokens.flatMap Token.text) := by
  have idle : essence [';'] = [] := rfl
  induction found with
  | nil => rfl
  | cons one _ ih =>
    obtain ⟨⟨plain, -, marks⟩, others⟩ := List.forall_mem_cons.1 kept
    rw [List.map_cons, List.flatten_cons, List.flatMap_cons, essence_append, essence_append, ih others,
      essence_append, essence_append, essence_blanks blank, idle,
      essence_declaration plain (marks rfl) one]
    simp

/-- The head of an at-rule has the essence of its tokens. -/
theorem essence_atRuleHead {keyword : Token} {prelude : Option Token}
    (sign : keyword.text.head? = some '@') (plain : ∀ token ∈ prelude, NoComment token.text) :
    essence (atRuleHead (String.ofList (keyword.text.drop 1)) (Node.paramsOf prelude)) =
      essence (headText keyword prelude) := by
  have params : essence (if Node.paramsOf prelude = "" then []
      else ' ' :: (Node.paramsOf prelude).toList) = essence ((prelude.map Token.text).getD []) := by
    have same : essence (Node.paramsOf prelude).toList = essence ((prelude.map Token.text).getD []) := by
      cases prelude with
      | none => rfl
      | some token =>
        have := essence_clean (plain token rfl)
        simpa [Node.paramsOf, Token.cleaned] using this
    rw [← same]
    split
    · rename_i none
      rw [none]
      rfl
    · exact essence_cons_of_idle (by decide) _
  have name : '@' :: keyword.text.drop 1 = keyword.text := by
    cases text : keyword.text with
    | nil =>
      rw [text] at sign
      cases sign
    | cons c rest =>
      rw [text] at sign
      cases sign
      rfl
  rw [atRuleHead, String.toList_ofList, name, essence_append, params, headText, essence_append]

/-- The lines of a block are its head and its inner lines between braces. -/
theorem essence_blockLines {margin : List Char} (blank : ∀ c ∈ margin, isBlank c = true)
    (head : List Char) (inner : List (List Char)) :
    essence ([margin ++ head ++ [' ', '\x7b']] ++ inner ++ [margin ++ ['\x7d']]).flatten =
      essence head ++ '\x7b' :: essence inner.flatten ++ ['\x7d'] := by
  have opening : essence (margin ++ head ++ [' ', '\x7b']) = essence head ++ ['\x7b'] := by
    rw [essence_append, essence_append, essence_blanks blank, List.nil_append,
      essence_cons_of_idle (by decide)]
    rfl
  have closing : essence (margin ++ ['\x7d']) = ['\x7d'] := by
    rw [essence_append, essence_blanks blank]
    rfl
  rw [List.flatten_append, List.flatten_append, List.flatten_singleton, List.flatten_singleton,
    essence_append, essence_append, opening, closing]
  simp

mutual

/-- The printed lines of a node have the essence of its item. -/
theorem essence_lines {indent : List Char} (blankIndent : ∀ c ∈ indent, isBlank c = true) :
    ∀ {item : Item} {node : Node} {margin : List Char}, (∀ c ∈ margin, isBlank c = true) →
      item.Every Token.IsKept → Node.ofItem item = .ok node →
      essence (node.lines indent margin).flatten = essence item.spelling
  | .declaration token, node, margin, blank, kept, found => by
    obtain ⟨content, one, rfl⟩ := Node.ofItem_declaration.1 found
    rw [Item.Every] at kept
    have text := essence_declarationLines blank (List.forall_mem_singleton.2 kept) (.cons one .nil)
    rw [Node.lines, Item.spelling]
    simpa using text
  | .rule selector declarations, node, margin, blank, kept, found => by
    obtain ⟨contents, all, rfl⟩ := Node.ofItem_rule.1 found
    rw [Item.Every] at kept
    have text := essence_declarationLines (List.forall_mem_append.2 ⟨blank, blankIndent⟩) kept.2 all
    rw [Node.lines, Item.spelling, essence_blockLines blank, text, Token.cleaned, String.toList_ofList,
      essence_clean kept.1.1, essence_append, essence_append, essence_cons_of_kept (by decide)]
    rfl
  | .atRule keyword prelude none, node, margin, blank, kept, found => by
    rw [Item.Every] at kept
    have head := essence_atRuleHead (kept.1.2.1 rfl) fun token mem => (kept.2.1 token mem).1
    rw [← Node.ofItem_statement.1 found, Node.lines, Item.spelling, if_neg (by simp), List.append_nil,
      ← head]
    simp [essence_blanks blank, essence_cons_of_idle]
  | .atRule keyword prelude (some items), node, margin, blank, kept, found => by
    obtain ⟨nodes, all, rfl⟩ := Node.ofItem_block.1 found
    rw [Item.Every] at kept
    have head := essence_atRuleHead (kept.1.2.1 rfl) fun token mem => (kept.2.1 token mem).1
    have inner := essence_linesAll blankIndent (List.forall_mem_append.2 ⟨blank, blankIndent⟩) kept.2.2 all
    rw [Node.lines, Item.spelling, if_pos rfl, essence_blockLines blank, inner, head, essence_append,
      essence_append, essence_cons_of_kept (by decide)]
    simp
    rfl

/-- The lines in which trees are printed have the essence of the tokens that the trees were made of. -/
theorem essence_linesAll {indent : List Char} (blankIndent : ∀ c ∈ indent, isBlank c = true) :
    ∀ {items : List Item} {nodes : List Node} {margin : List Char}, (∀ c ∈ margin, isBlank c = true) →
      Item.EveryOf Token.IsKept items → Node.ofItems items = .ok nodes →
      essence (Node.linesAll indent margin nodes).flatten = essence (Item.spellingOf items)
  | [], nodes, margin, _, _, found => by
    rw [Node.ofItems_nil.1 found]
    rfl
  | item :: items, nodes, margin, blank, kept, found => by
    obtain ⟨node, others, one, rest, rfl⟩ := Node.ofItems_cons.1 found
    rw [Item.EveryOf] at kept
    rw [Node.linesAll, Item.spellingOf, List.flatten_append, essence_append, essence_append,
      essence_lines blankIndent blank kept.1 one, essence_linesAll blankIndent blank kept.2 rest]

end

/-- A printed stylesheet has the essence of its items. -/
theorem essence_print {indent : List Char} (blank : ∀ c ∈ indent, isBlank c = true)
    {items : List Item} {sheet : Stylesheet} (kept : Item.EveryOf Token.IsKept items)
    (found : Node.ofItems items = .ok sheet) :
    essence (sheet.print indent) = essence (Item.spellingOf items) := by
  have lines : essence (Node.linesAll indent [] sheet).flatten = essence (Item.spellingOf items) :=
    essence_linesAll blank (by simp) kept found
  have line_end : essence ['\n'] = [] := rfl
  have joined : ∀ nodes : List Node, essence (nodes.map (Node.print indent)).flatten =
      essence (Node.linesAll indent [] nodes).flatten := by
    intro nodes
    induction nodes with
    | nil => rfl
    | cons node nodes ih =>
      rw [List.map_cons, List.flatten_cons, essence_append, ih, Node.print,
        essence_intercalate (by decide), Node.linesAll, List.flatten_append, essence_append]
  rw [Stylesheet.print, ← lines, ← joined]
  split
  · rename_i none
    rw [none]
    rfl
  · rw [essence_append, essence_intercalate (by decide), line_end, List.append_nil]

/-- Tokens read from a source without comments that mark importance plainly are kept. -/
theorem Token.ReadFrom.isKept {source : List Char} (plain : NoComment source) {terminal : Terminal}
    {token : Token} (read : token.ReadFrom source terminal)
    (marks : terminal = .declaration → token.MarksPlainly) : token.IsKept terminal := by
  obtain ⟨input, rest, inside, matched⟩ := read
  have whole := (Terminal.append_of_match? matched).1
  refine ⟨plain.of_infix ?_, fun kind => ?_, marks⟩
  · rw [← whole] at inside
    exact (List.prefix_append token.text rest).isInfix.trans inside.isInfix
  · rw [kind] at matched
    simp only [Terminal.match?, atKeyword?] at matched
    split at matched
    · split at matched
      · rw [Option.some.injEq, Prod.mk.injEq] at matched
        rw [Token.text, ← matched.1]
        rfl
      · cases matched
    · cases matched

/-- Reading and writing lose nothing: a source without comment marks whose marks of importance are
spelled in small letters has the same characters, in the same order, as what is written of it, but for
blanks and semicolons. -/
theorem write_read_conserves {source indent : String} {sheet : Stylesheet}
    (plain : NoComment source.toList)
    (marks : EveryToken (fun terminal token => terminal = .declaration → token.MarksPlainly)
      source.toList)
    (blank : ∀ c ∈ indent.toList, isBlank c = true) (found : Stylesheet.read source = .ok sheet) :
    essence (sheet.write indent).toList = essence source.toList := by
  obtain ⟨items, outlined, nodes⟩ := Stylesheet.read_eq_ok_iff.1 found
  have kept : Item.EveryOf Token.IsKept items :=
    (every_outline outlined).1.combine (fun _ _ read marked => read.isKept plain marked)
      (marks items outlined)
  have printed := essence_print blank kept nodes
  rw [Stylesheet.write, String.toList_ofList, printed, essence_outline plain outlined]

/-- A stylesheet with nested blocks, a string that holds a colon, and a spaced mark of importance. -/
theorem write_read_conserves_nested :
    let source := "@media  x\x7ba [b=\":;\"] >c\x7bd :e ! important ;;f:g\x7d\x7d@import \"h\" ;"
    let sheet : Stylesheet := [.atRule "media" "x" true
      [.rule "a [b=\":;\"] >c" [⟨"d", "e", true⟩, ⟨"f", "g", false⟩]], .atRule "import" "\"h\"" false []]
    NoComment source.toList ∧ Stylesheet.read source = .ok sheet ∧
      essence (sheet.write "\t").toList = essence source.toList := by
  intro source sheet
  have plain : NoComment source.toList := by
    unfold NoComment
    decide +kernel
  have marks : EveryToken (fun terminal token => terminal = .declaration → token.MarksPlainly)
      source.toList := by decide +kernel
  have indent : ∀ c ∈ "\t".toList, isBlank c = true := by decide
  have found : Stylesheet.read source = .ok sheet := by decide +kernel
  exact ⟨plain, found, write_read_conserves plain marks indent found⟩

end ViewportScaling.Css
