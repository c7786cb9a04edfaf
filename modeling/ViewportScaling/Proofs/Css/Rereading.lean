import ViewportScaling.Css.Printer
import ViewportScaling.Proofs.Css.Printable

/-!
# Reading what was printed

The lines of a tree that can be printed are read one token after the other. What stands between tokens
does not matter, so margins and line ends are skipped. Each token is split off whole, whatever kinds are
tried before its own, and does what the step for its kind says. By induction on the tree the lines of a
node add one item to what has been read, and the item gives the node back.
-/

namespace ViewportScaling.Css

open Unicode Text

/-! ### What stands between tokens -/

/-- Spacing is skipped. -/
theorem skipIgnored_spacing {c : Char} (spacing : isSpacing c = true) (rest : List Char) :
    skipIgnored (c :: rest) = skipIgnored rest := by
  have noComment : comment? (c :: rest) = none := by
    refine comment?_of_not_prefix ?_
    rintro ⟨_, same⟩
    cases same
    cases spacing
  rw [skipIgnored]
  split
  · rename_i found
    rw [noComment] at found
    cases found
  · simp [spacing]

/-- Where neither a comment nor spacing starts, nothing is skipped. -/
theorem skipIgnored_of_head {c : Char} {rest : List Char} (noComment : comment? (c :: rest) = none)
    (solid : isSpacing c = false) : skipIgnored (c :: rest) = c :: rest := by
  rw [skipIgnored]
  split
  · rename_i found
    rw [noComment] at found
    cases found
  · simp [solid]

/-- What is not blank is no spacing. -/
theorem isSpacing_of_not_isBlank {c : Char} (solid : isBlank c = false) : isSpacing c = false := by
  by_contra spacing
  simp only [Bool.not_eq_false, isSpacing, Bool.or_eq_true, decide_eq_true_eq] at spacing
  rcases spacing with (((rfl | rfl) | rfl) | rfl) | rfl <;> cases solid

/-- No comment starts a text that does not start with one and goes on with anything but a star. -/
theorem comment?_append {text : List Char} (nonempty : text ≠ []) (plain : ¬['/', '*'] <+: text)
    {c : Char} (star : c ≠ '*') (rest : List Char) : comment? (text ++ c :: rest) = none := by
  refine comment?_of_not_prefix ?_
  rintro ⟨tail, same⟩
  cases text with
  | nil => exact nonempty rfl
  | cons first more =>
    cases more with
    | nil =>
      cases same
      exact star rfl
    | cons second more =>
      cases same
      exact plain ⟨more, rfl⟩

/-- A selector or declaration is found where it starts. -/
theorem IsOpened.skipIgnored {addresses : Bool} {text : List Char} (opened : IsOpened addresses text)
    {c : Char} (star : c ≠ '*') (rest : List Char) :
    Css.skipIgnored (text ++ c :: rest) = text ++ c :: rest := by
  obtain ⟨d, tail, final, rfl, starts, read, -⟩ := opened.scanned
  exact skipIgnored_of_head
    (comment?_append (List.cons_ne_nil d tail) (Scan.not_prefix_of_run_behind read) star rest)
    (isSpacing_of_not_isBlank (isBlank_of_startsText starts))

/-- A prelude is found where it starts. -/
theorem IsPrelude.skipIgnored {text : List Char} (scanned : IsPrelude text) {c : Char} (star : c ≠ '*')
    (rest : List Char) : Css.skipIgnored (text ++ c :: rest) = text ++ c :: rest := by
  obtain ⟨d, head, solid⟩ := scanned.solid
  obtain ⟨final, read, -⟩ := scanned.scanned
  obtain ⟨tail, rfl⟩ := List.head?_eq_some_iff.1 head
  exact skipIgnored_of_head (comment?_append (by simp) (Scan.not_prefix_of_run rfl read) star rest)
    (isSpacing_of_not_isBlank solid)

/-! ### Tokens -/

/-- The name of an at-rule is split off in front of anything that may not stand in it. -/
theorem IsName.atKeyword? {name : List Char} (named : IsName name) {rest : List Char}
    (ends : ∀ c ∈ rest.head?, isNameChar c = false) :
    Css.atKeyword? ('@' :: name ++ rest) = some (('@' :: name).map .plain, rest) := by
  obtain ⟨c, tail, rfl, starts, all⟩ := named.spelled
  have taken : (tail ++ rest).takeWhile isNameChar = tail := by
    rw [List.takeWhile_append_of_pos all]
    cases rest with
    | nil => simp
    | cons d rest => rw [List.takeWhile_cons_of_neg (by simp [ends d rfl]), List.append_nil]
  have left : (tail ++ rest).dropWhile isNameChar = rest := by
    rw [List.dropWhile_append_of_pos all]
    cases rest with
    | nil => rfl
    | cons d rest => rw [List.dropWhile_cons_of_neg (by simp [ends d rfl])]
  change (if startsKeyword c = true then
    some (('@' :: c :: (tail ++ rest).takeWhile isNameChar).map Segment.plain,
      (tail ++ rest).dropWhile isNameChar) else none) = _
  rw [if_pos starts, taken, left]

/-- The first kind of token that matches is split off. -/
theorem Token.next?_of_match? {before after : List Terminal} {terminal : Terminal}
    {input rest : List Char} {found : List Segment}
    (others : ∀ other ∈ before, other.match? input = none)
    (matched : terminal.match? input = some (found, rest)) (offset : Nat) :
    next? (before ++ terminal :: after) offset input = some (⟨terminal, found, offset⟩, rest) := by
  induction before with
  | nil => simp [next?, matched]
  | cons other before ih =>
    obtain ⟨first, others⟩ := List.forall_mem_cons.1 others
    have := ih others
    unfold next? at this ⊢
    rw [List.cons_append, List.findSome?_cons, first]
    exact this

/-- Braces and semicolons with their kinds of token. -/
def marks : List (Char × Terminal) :=
  [('\x7b', .openingBrace), ('\x7d', .closingBrace), (';', .semicolon)]

/-- A brace or semicolon is split off as what it is and starts no other token. -/
theorem Terminal.match?_mark {mark : Char} {kind : Terminal} (pair : (mark, kind) ∈ marks)
    (terminal : Terminal) (rest : List Char) : terminal.match? (mark :: rest) =
      if terminal = kind then some ([.plain mark], rest) else none := by
  have stops : ∀ mark ∈ marks.map Prod.fst, Stops (mark :: rest) := by
    intro mark mem
    refine ⟨mark, rfl, ?_⟩
    revert mark
    decide
  have segment := Segment.next?_stop true (stops mark (List.mem_map_of_mem pair))
  simp only [marks, List.mem_cons, List.not_mem_nil, or_false, Prod.mk.injEq] at pair
  rcases pair with ⟨rfl, rfl⟩ | ⟨rfl, rfl⟩ | ⟨rfl, rfl⟩ <;> cases terminal <;>
    simp [match?, declaration?, selector?, opening?, isDelimiter, atKeyword?, single?, prelude?, segment]

/-- A brace or semicolon is found where it stands. -/
theorem skipIgnored_mark {mark : Char} {kind : Terminal} (pair : (mark, kind) ∈ marks)
    (rest : List Char) : skipIgnored (mark :: rest) = mark :: rest := by
  simp only [marks, List.mem_cons, List.not_mem_nil, or_false, Prod.mk.injEq] at pair
  rcases pair with ⟨rfl, -⟩ | ⟨rfl, -⟩ | ⟨rfl, -⟩ <;> exact skipIgnored_of_head rfl rfl

/-- A brace or semicolon is split off wherever it is looked for. -/
theorem Token.next?_mark {mark : Char} {kind : Terminal} (pair : (mark, kind) ∈ marks)
    {allowed : List Terminal} (mem : kind ∈ allowed) (offset : Nat) (rest : List Char) :
    next? allowed offset (mark :: rest) = some (⟨kind, [.plain mark], offset⟩, rest) := by
  induction allowed with
  | nil => cases mem
  | cons terminal allowed ih =>
    unfold next? at ih ⊢
    rw [List.findSome?_cons, Terminal.match?_mark pair]
    by_cases same : terminal = kind
    · rw [if_pos same, same]
      rfl
    · rw [if_neg same]
      exact ih ((List.mem_cons.1 mem).resolve_left fun other => same other.symm)

namespace Reading

variable {length : Nat} {reading further : Reading} {rest : List Char}

/-- Only what is left behind spacing and comments matters. -/
theorem finish_congr {first second : List Char} (same : skipIgnored first = skipIgnored second) :
    reading.finish length first = reading.finish length second := by
  rw [finish, finish, same]

/-- Spacing in front of a text makes no difference to a reading. -/
theorem finish_spacing {front : List Char} (spacing : ∀ c ∈ front, isSpacing c = true) :
    reading.finish length (front ++ rest) = reading.finish length rest := by
  induction front with
  | nil => rfl
  | cons c front ih =>
    obtain ⟨first, others⟩ := List.forall_mem_cons.1 spacing
    rw [List.cons_append, finish_congr (skipIgnored_spacing first _), ih others]

/-- A token that is split off and taken in is one step. -/
theorem finish_of_next? {input : List Char} {token : Token} (starts : skipIgnored input = input)
    (found : Token.next? reading.stage.sought (length - input.length) input = some (token, rest))
    (taken : reading.take? token = some further) :
    reading.finish length input = further.finish length rest := by
  rw [finish]
  split
  · rename_i token' rest' found'
    rw [starts, found, Option.some.injEq, Prod.mk.injEq] at found'
    obtain ⟨rfl, rfl⟩ := found'
    rw [taken]
  · rename_i none
    rw [starts, found] at none
    cases none

/-- The token of a brace or semicolon with a text behind it. -/
def markToken (length : Nat) (kind : Terminal) (mark : Char) (rest : List Char) : Token :=
  ⟨kind, [.plain mark], length - (rest.length + 1)⟩

/-- A brace or semicolon that is sought and taken is read before the rest. -/
theorem finish_mark {mark : Char} {kind : Terminal} (pair : (mark, kind) ∈ marks)
    (sought : kind ∈ reading.stage.sought)
    (taken : reading.take? (markToken length kind mark rest) = some further) :
    reading.finish length (mark :: rest) = further.finish length rest :=
  finish_of_next? (skipIgnored_mark pair rest) (Token.next?_mark pair sought _ rest) taken

/-! ### Steps -/

/-- A whole item may follow. -/
structure IsReady (reading : Reading) : Prop where
  /-- An item was read last, or nothing. -/
  stage : reading.stage = .between ∨ reading.stage = .start ∧ reading.openBlocks = []
  /-- The innermost open block belongs to an at-rule. -/
  outside : ∀ block ∈ reading.openBlocks.head?, block.isAtRule = true

namespace IsReady

/-- Where an item may follow, selectors are looked for behind declarations and before names. -/
theorem exists_sought (ready : reading.IsReady) : ∃ before after,
    reading.stage.sought = before ++ .selector :: .atKeyword :: after ∧
      ∀ terminal ∈ before, terminal = .declaration := by
  rcases ready.stage with same | ⟨same, -⟩
  · exact ⟨[.declaration], [.closingBrace, .semicolon], by rw [same]; rfl, by simp⟩
  · exact ⟨[], [], by rw [same]; rfl, by simp⟩

/-- Where a whole item may follow, nothing is left over. -/
theorem isFree (ready : reading.IsReady) : reading.stage.isFree = true := by
  rcases ready.stage with same | ⟨same, -⟩ <;> rw [same] <;> rfl

/-- There a selector is taken. -/
theorem take?_selector (ready : reading.IsReady) {token : Token} (kind : token.terminal = .selector) :
    reading.take? token = some { reading with stage := .selector token, last := some token } := by
  have outside := ready.outside
  rw [take?_eq_of_isFree token ready.isFree]
  obtain ⟨items, blocks, stage, last⟩ := reading
  unfold take?
  rw [kind]
  rcases blocks with _ | ⟨⟨selector, declarations⟩ | ⟨keyword, params, inner⟩, outer⟩
  · rfl
  · simp [Block.isAtRule] at outside
  · rfl

/-- So is the keyword of an at-rule. -/
theorem take?_keyword (ready : reading.IsReady) {token : Token} (kind : token.terminal = .atKeyword) :
    reading.take? token = some { reading with stage := .keyword token, last := some token } := by
  have outside := ready.outside
  rw [take?_eq_of_isFree token ready.isFree]
  obtain ⟨items, blocks, stage, last⟩ := reading
  unfold take?
  rw [kind]
  rcases blocks with _ | ⟨⟨selector, declarations⟩ | ⟨keyword, params, inner⟩, outer⟩
  · rfl
  · simp [Block.isAtRule] at outside
  · rfl

/-- Behind an item, another may follow. -/
theorem add (outside : ∀ block ∈ reading.openBlocks.head?, block.isAtRule = true) (item : Item)
    (last : Option Token) : ({ reading with stage := .between, last := last }.add item).IsReady := by
  obtain ⟨items, blocks, stage, last'⟩ := reading
  rcases blocks with _ | ⟨⟨selector, declarations⟩ | ⟨keyword, params, inner⟩, outer⟩
  · exact ⟨.inl rfl, by simp [Reading.add]⟩
  · simp [Block.isAtRule] at outside
  · exact ⟨.inl rfl, by simp [Reading.add, Block.isAtRule]⟩

end IsReady

/-- A tidy selector in front of a brace is read as a selector that is cleaned to itself. -/
theorem finish_selector (length : Nat) {selector : List Char} (ready : reading.IsReady)
    (tidy : IsTidySelector selector) (rest : List Char) : ∃ token : Token,
    token.cleaned = String.ofList selector ∧
      reading.finish length (selector ++ ' ' :: '\x7b' :: rest) =
        finish length { reading with stage := .selector token, last := some token } ('\x7b' :: rest) := by
  obtain ⟨found, split, spelled⟩ := tidy.opened.selector? rest
  have split : Terminal.selector.match? _ = _ := split
  have never := tidy.opened.declaration?_eq_none rest
  have starts := tidy.opened.skipIgnored (c := '\x7b') (by decide) rest
  rw [List.append_assoc] at split never starts
  obtain ⟨before, after, sought, only⟩ := ready.exists_sought
  let input := selector ++ ([' '] ++ '\x7b' :: rest)
  refine ⟨⟨.selector, found, length - input.length⟩, ?_, ?_⟩
  · rw [Token.cleaned, Token.text, spelled, tidy.clean_eq.2]
  · refine finish_of_next? starts ?_ (ready.take?_selector rfl)
    rw [sought]
    refine Token.next?_of_match? (fun other mem => ?_) split _
    rw [only other mem]
    exact never

/-- Neither braces and semicolons nor a space belong to a name. -/
theorem isNameChar_mark : ∀ mark ∈ ['\x7b', ';', ' '], isNameChar mark = false := by
  decide +kernel

/-- The name of an at-rule is read where an item may follow. -/
theorem finish_keyword (length : Nat) {name : List Char} (ready : reading.IsReady) (named : IsName name) {mark : Char}
    (ends : isNameChar mark = false) (rest : List Char) : ∃ token : Token,
    token.text = '@' :: name ∧ reading.finish length ('@' :: name ++ mark :: rest) =
      finish length { reading with stage := .keyword token, last := some token } (mark :: rest) := by
  let input := '@' :: name ++ mark :: rest
  have split : Terminal.atKeyword.match? input = some (('@' :: name).map .plain, mark :: rest) :=
    named.atKeyword? (by simpa using ends)
  obtain ⟨before, after, sought, only⟩ := ready.exists_sought
  refine ⟨⟨.atKeyword, ('@' :: name).map .plain, length - input.length⟩, ?_, ?_⟩
  · rw [Token.text, Segment.textAll_map_plain]
  · refine finish_of_next? (skipIgnored_of_head rfl rfl) ?_ (ready.take?_keyword rfl)
    rw [sought, List.append_cons]
    refine Token.next?_of_match? (fun other mem => ?_) split _
    rcases List.mem_append.1 mem with mem | mem
    · rw [only other mem]
      rfl
    · rw [List.mem_singleton.1 mem]
      rfl

/-- What may stand between the head of an at-rule and the brace or semicolon behind it. -/
def IsGap (gap : List Char) : Prop := gap = [] ∨ gap = [' ']

/-- Tidy parameters behind a keyword are read as a prelude that is cleaned to themselves. -/
theorem finish_prelude (length : Nat) {keyword : Token} {params gap : List Char} {mark : Char}
    (stage : reading.stage = .keyword keyword) (tidy : IsTidyPrelude params) (small : IsGap gap)
    (ends : mark = '\x7b' ∨ mark = ';') (rest : List Char) : ∃ token : Token,
    token.cleaned = String.ofList params ∧ reading.finish length (params ++ gap ++ mark :: rest) =
      finish length { reading with stage := .prelude keyword token, last := some token }
        (mark :: rest) := by
  have scanned : IsPrelude (params ++ gap) := by
    rcases small with rfl | rfl
    · rw [List.append_nil]
      exact tidy.isPrelude.1
    · exact tidy.isPrelude.2
  have cleaned : clean (params ++ gap) = params := by
    rcases small with rfl | rfl
    · rw [List.append_nil]
      exact tidy.clean_eq.1
    · exact tidy.clean_eq.2
  have star : mark ≠ '*' := by rcases ends with rfl | rfl <;> decide
  have stops : Stops (mark :: rest) := by
    refine ⟨mark, rfl, ?_⟩
    rcases ends with rfl | rfl <;> decide
  obtain ⟨found, split, spelled⟩ := scanned.prelude? stops
  have split : Terminal.prelude.match? _ = _ := split
  let input := params ++ gap ++ mark :: rest
  let token : Token := ⟨.prelude, found, length - input.length⟩
  refine ⟨token, ?_, ?_⟩
  · rw [Token.cleaned, Token.text, spelled, cleaned]
  · have next : Token.next? reading.stage.sought (length - input.length) input =
        some (token, mark :: rest) := by
      rw [stage]
      exact Token.next?_of_match? (show ∀ other ∈ [], _ from by simp) split _
    refine finish_of_next? (scanned.skipIgnored star rest) next ?_
    unfold take?
    rw [stage]

/-- The name of an at-rule is read together with its parameters. -/
theorem finish_head (length : Nat) {name params : String} {gap : List Char} {mark : Char} (ready : reading.IsReady)
    (named : IsName name.toList) (tidy : params ≠ "" → IsTidyPrelude params.toList)
    (small : IsGap gap) (ends : mark = '\x7b' ∨ mark = ';') (rest : List Char) :
    ∃ keyword prelude stage last, keyword.text = '@' :: name.toList ∧
      Node.paramsOf prelude = params ∧ stage.head? = some (keyword, prelude) ∧
      reading.finish length (atRuleHead name params ++ gap ++ mark :: rest) =
        finish length { reading with stage := stage, last := last } (mark :: rest) := by
  have skipped : ∀ c ∈ gap, isSpacing c = true := by
    rcases small with rfl | rfl <;> decide
  have stop : isNameChar mark = false := by
    refine isNameChar_mark mark ?_
    rcases ends with rfl | rfl <;> decide
  by_cases none : params = ""
  · subst none
    have bare : atRuleHead name "" = '@' :: name.toList := by simp [atRuleHead]
    have behind : ∃ next more, gap ++ mark :: rest = next :: more ∧ isNameChar next = false := by
      rcases small with rfl | rfl
      · exact ⟨mark, rest, rfl, stop⟩
      · exact ⟨' ', mark :: rest, rfl, isNameChar_mark ' ' (by decide)⟩
    obtain ⟨next, more, whole, solid⟩ := behind
    obtain ⟨keyword, spelled, read⟩ := finish_keyword length ready named solid more
    refine ⟨keyword, Option.none, .keyword keyword, some keyword, spelled, rfl, rfl, ?_⟩
    rw [bare, List.append_assoc, whole, read, ← whole, finish_spacing skipped]
  · have full : atRuleHead name params ++ gap ++ mark :: rest =
        '@' :: name.toList ++ ' ' :: (params.toList ++ gap ++ mark :: rest) := by
      simp [atRuleHead, none]
    obtain ⟨keyword, spelled, read⟩ := finish_keyword length ready named
      (isNameChar_mark ' ' (by decide)) (params.toList ++ gap ++ mark :: rest)
    obtain ⟨token, cleaned, further⟩ := finish_prelude length
      (show ({ reading with stage := .keyword keyword, last := some keyword } : Reading).stage =
        .keyword keyword from rfl) (tidy none) small ends rest
    refine ⟨keyword, some token, .prelude keyword token, some token, spelled, ?_, rfl, ?_⟩
    · rw [Node.paramsOf, Option.map_some, Option.getD_some, cleaned, String.ofList_toList]
    · rw [full, read, ← further]
      exact finish_spacing (show ∀ c ∈ [' '], isSpacing c = true by decide)

/-- Behind its head, an at-rule opens a block. -/
theorem finish_openAtRule (length : Nat) {keyword : Token} {prelude : Option Token}
    (head : reading.stage.head? = some (keyword, prelude)) (rest : List Char) : ∃ last,
    reading.finish length ('\x7b' :: rest) = finish length { reading with
      stage := .between, last := last
      openBlocks := .atRule keyword prelude [] :: reading.openBlocks } rest := by
  refine ⟨some (markToken length .openingBrace '\x7b' rest),
    finish_mark (show ('\x7b', Terminal.openingBrace) ∈ marks by decide) ?_ ?_⟩
  · cases stage : reading.stage <;> rw [stage] at head <;> cases head <;> simp [Stage.sought]
  · unfold take?
    cases stage : reading.stage <;> rw [stage] at head <;> cases head <;> rfl

/-- Behind its head, an at-rule without a block ends. -/
theorem finish_statement (length : Nat) {keyword : Token} {prelude : Option Token}
    (head : reading.stage.head? = some (keyword, prelude)) (rest : List Char) : ∃ last,
    reading.finish length (';' :: rest) = finish length
      ({ reading with stage := .between, last := last }.add (.atRule keyword prelude none)) rest := by
  refine ⟨some (markToken length .semicolon ';' rest),
    finish_mark (show (';', Terminal.semicolon) ∈ marks by decide) ?_ ?_⟩
  · cases stage : reading.stage <;> rw [stage] at head <;> cases head <;> simp [Stage.sought]
  · unfold take?
    cases stage : reading.stage <;> rw [stage] at head <;> cases head <;> rfl

/-- A printable declaration in front of a semicolon is read as a token that holds the declaration. -/
theorem finish_declaration (length : Nat) {content : Declaration} (printable : content.IsPrintable)
    (sought : ∃ after, reading.stage.sought = .declaration :: after) (rest : List Char) :
    ∃ token : Token, token.terminal = .declaration ∧ Declaration.ofToken token = .ok content ∧
      ∀ further, reading.take? token = some further →
        reading.finish length (content.text ++ ';' :: rest) = further.finish length (';' :: rest) := by
  obtain ⟨found, split, spelled⟩ := printable.opened.declaration? (show endsDeclaration ';' = true from rfl) rest
  have split : Terminal.declaration.match? _ = _ := split
  obtain ⟨after, sought⟩ := sought
  let input := content.text ++ ';' :: rest
  refine ⟨⟨.declaration, found, length - input.length⟩, rfl, printable.ofToken spelled,
    fun further taken => finish_of_next? (printable.opened.skipIgnored (by decide) rest) ?_ taken⟩
  rw [sought]
  exact Token.next?_of_match? (show ∀ other ∈ [], _ from by simp) split _

/-! ### Nodes -/

/-- The text of lines. -/
def linesText (lines : List (List Char)) : List Char := lines.flatMap (· ++ ['\n'])

/-- A line is read without its margin and its end. -/
theorem finish_line {margin body next : List Char} (spacing : ∀ c ∈ margin, isSpacing c = true)
    (read : reading.finish length (body ++ '\n' :: next) = further.finish length ('\n' :: next)) :
    reading.finish length (linesText [margin ++ body] ++ next) = further.finish length next := by
  have whole : linesText [margin ++ body] ++ next = margin ++ (body ++ '\n' :: next) := by
    simp [linesText]
  rw [whole, finish_spacing spacing, read]
  exact finish_spacing (show ∀ c ∈ ['\n'], isSpacing c = true by decide)

/-- The text of lines is that of the first ones and behind it that of the others. -/
theorem linesText_append (first second : List (List Char)) (rest : List Char) :
    linesText (first ++ second) ++ rest = linesText first ++ (linesText second ++ rest) := by
  simp [linesText]

/-- The declarations of a rule are read line by line. -/
theorem finish_declarations (length : Nat) {margin : List Char}
    (spacing : ∀ c ∈ margin, isSpacing c = true) {contents : List Declaration}
    (printable : ∀ content ∈ contents, content.IsPrintable) (items : List Item) (selector : Token)
    (done : List Token) (outer : List Block) (last : Option Token) (rest : List Char) :
    ∃ tokens last',
      List.Forall₂ (fun token content => Declaration.ofToken token = .ok content) tokens contents ∧
        finish length ⟨items, .rule selector done :: outer, .inRule, last⟩
            (linesText (contents.map fun content => margin ++ content.text ++ [';']) ++ rest) =
          finish length ⟨items, .rule selector (done ++ tokens) :: outer, .inRule, last'⟩ rest := by
  induction contents generalizing done last with
  | nil => exact ⟨[], last, .nil, by rw [List.append_nil]; rfl⟩
  | cons content contents ih =>
    have ⟨first, others⟩ := List.forall_mem_cons.1 printable
    let lines := contents.map fun content => margin ++ content.text ++ [';']
    let reading : Reading := ⟨items, .rule selector done :: outer, .inRule, last⟩
    have ⟨token, kind, found, read⟩ := finish_declaration length first
      (show ∃ after, reading.stage.sought = .declaration :: after from ⟨_, rfl⟩)
      ('\n' :: (linesText lines ++ rest))
    have taken := read ⟨items, .rule selector (done ++ [token]) :: outer, .between, some token⟩ (by
      unfold take?
      rw [kind])
    let semicolon := markToken length .semicolon ';' ('\n' :: (linesText lines ++ rest))
    have ⟨tokens, last', each, following⟩ := ih others (done ++ [token]) (some semicolon)
    refine ⟨token :: tokens, last', .cons found each, ?_⟩
    rw [List.append_assoc] at following
    have whole : linesText ((margin ++ content.text ++ [';']) :: lines) ++ rest =
        linesText [margin ++ (content.text ++ [';'])] ++ (linesText lines ++ rest) := by
      rw [← List.append_assoc margin]
      exact linesText_append [_] lines rest
    rw [List.map_cons, whole, finish_line spacing, following]
    · rfl
    · rw [List.append_assoc]
      exact taken.trans (finish_mark (show (';', Terminal.semicolon) ∈ marks by decide)
        (show Terminal.semicolon ∈ Stage.between.sought by decide) rfl)

/-- What was read last does not matter to where an item is put. -/
theorem add_again (reading : Reading) (item : Item) (stage stage' : Stage) (last last' : Option Token) :
    ({ ({ reading with stage := stage, last := last } : Reading).add item with
      stage := stage', last := last' } : Reading) =
      ({ reading with stage := stage', last := last' } : Reading).add item := by
  obtain ⟨items, blocks, stage'', last''⟩ := reading
  rcases blocks with _ | ⟨⟨selector, declarations⟩ | ⟨keyword, params, inner⟩, outer⟩ <;> rfl

/-- No block is opened or closed by a whole item. -/
theorem openBlocks_add (reading : Reading) {item : Item} (none : (reading.add item).openBlocks = []) :
    reading.openBlocks = [] := by
  obtain ⟨items, blocks, stage, last⟩ := reading
  rcases blocks with _ | ⟨⟨selector, declarations⟩ | ⟨keyword, params, inner⟩, outer⟩
  · rfl
  · exact none
  · cases none

/-- Puts whole items into the innermost open block. -/
def addAll (reading : Reading) (items : List Item) : Reading := items.foldl add reading

theorem addAll_atRule (items : List Item) (keyword : Token) (prelude : Option Token)
    (inner : List Item) (outer : List Block) (stage : Stage) (last : Option Token) (more : List Item) :
    addAll ⟨items, .atRule keyword prelude inner :: outer, stage, last⟩ more =
      ⟨items, .atRule keyword prelude (inner ++ more) :: outer, stage, last⟩ := by
  induction more generalizing inner with
  | nil => rw [List.append_nil]; rfl
  | cons item more ih =>
    have := ih (inner ++ [item])
    rw [List.append_assoc] at this
    exact this

theorem addAll_top (items : List Item) (stage : Stage) (last : Option Token) (more : List Item) :
    addAll ⟨items, [], stage, last⟩ more = ⟨items ++ more, [], stage, last⟩ := by
  induction more generalizing items with
  | nil => rw [List.append_nil]; rfl
  | cons item more ih =>
    have := ih (items ++ [item])
    rw [List.append_assoc] at this
    exact this

/-- The lines of a rule add it to what has been read. -/
theorem finish_rule (length : Nat) {indent margin : List Char}
    (indented : ∀ c ∈ indent, isSpacing c = true) (spacing : ∀ c ∈ margin, isSpacing c = true)
    (ready : reading.IsReady) {selector : String} {contents : List Declaration}
    (tidy : IsTidySelector selector.toList) (printable : ∀ content ∈ contents, content.IsPrintable)
    (rest : List Char) : ∃ item last, Node.ofItem item = .ok (.rule selector contents) ∧
      reading.finish length (linesText ((Node.rule selector contents).lines indent margin) ++ rest) =
        finish length ({ reading with stage := .between, last := last }.add item) rest := by
  let body := contents.map fun content => margin ++ indent ++ content.text ++ [';']
  let closing := linesText [margin ++ ['\x7d']] ++ rest
  have within : ∀ c ∈ margin ++ indent, isSpacing c = true :=
    List.forall_mem_append.2 ⟨spacing, indented⟩
  have ⟨token, cleaned, opening⟩ := finish_selector length ready tidy
    ('\n' :: (linesText body ++ closing))
  let brace := markToken length .openingBrace '\x7b' ('\n' :: (linesText body ++ closing))
  have opened := finish_mark (show ('\x7b', Terminal.openingBrace) ∈ marks by decide)
    (show Terminal.openingBrace ∈ (Stage.selector token).sought by simp [Stage.sought])
    (show take? { reading with stage := .selector token, last := some token } brace =
      some ⟨reading.items, .rule token [] :: reading.openBlocks, .inRule, some brace⟩ from rfl)
  have ⟨tokens, last, each, inside⟩ := finish_declarations length within printable
    reading.items token [] reading.openBlocks (some brace) closing
  let final := markToken length .closingBrace '\x7d' ('\n' :: rest)
  have closed := finish_mark (show ('\x7d', Terminal.closingBrace) ∈ marks by decide)
    (show Terminal.closingBrace ∈ Stage.inRule.sought by decide)
    (show take? ⟨reading.items, .rule token tokens :: reading.openBlocks, .inRule, last⟩ final =
      some ({ reading with stage := .between, last := some final }.add (.rule token tokens)) from rfl)
  refine ⟨.rule token tokens, some final, ?_, ?_⟩
  · rw [Node.ofItem_rule]
    refine ⟨contents, each, ?_⟩
    rw [cleaned, String.ofList_toList]
  · rw [Node.lines, List.append_assoc, linesText_append, linesText_append, List.append_assoc margin]
    have first : selector.toList ++ [' ', '\x7b'] ++ '\n' :: (linesText body ++ closing) =
        selector.toList ++ ' ' :: '\x7b' :: '\n' :: (linesText body ++ closing) := by
      simp
    rw [finish_line spacing (by rw [first, opening, opened]), inside]
    exact finish_line spacing closed

/-- The line of a declaration in an at-rule adds it to what has been read. -/
theorem finish_inAtRule (length : Nat) {margin : List Char}
    (spacing : ∀ c ∈ margin, isSpacing c = true) (ready : reading.IsReady)
    (inside : reading.openBlocks ≠ []) {content : Declaration} (printable : content.IsPrintable)
    (rest : List Char) : ∃ item last, Node.ofItem item = .ok (.declaration content) ∧
      reading.finish length (linesText ((Node.declaration content).lines [] margin) ++ rest) =
        finish length ({ reading with stage := .between, last := last }.add item) rest := by
  have outside := ready.outside
  have stage : reading.stage = .between := by
    rcases ready.stage with same | ⟨-, none⟩
    · exact same
    · exact absurd none inside
  obtain ⟨items, blocks, stage', last⟩ := reading
  obtain rfl : stage' = .between := stage
  rcases blocks with _ | ⟨⟨selector, declarations⟩ | ⟨keyword, params, inner⟩, outer⟩
  · exact absurd rfl inside
  · simp [Block.isAtRule] at outside
  · let reading : Reading := ⟨items, .atRule keyword params inner :: outer, .between, last⟩
    obtain ⟨token, kind, found, read⟩ := finish_declaration length printable
      (show ∃ after, reading.stage.sought = .declaration :: after from ⟨_, rfl⟩)
      ('\n' :: rest)
    have taken := read ⟨items, .atRule keyword params (inner ++ [.declaration token]) :: outer,
      .between, some token⟩ (by unfold take?; rw [kind]; rfl)
    refine ⟨.declaration token, some (markToken length .semicolon ';' ('\n' :: rest)), ?_, ?_⟩
    · exact Node.ofItem_declaration.2 ⟨content, found, rfl⟩
    · rw [Node.lines, List.append_assoc]
      refine finish_line spacing ?_
      rw [List.append_assoc]
      exact taken.trans (finish_mark (show (';', Terminal.semicolon) ∈ marks by decide)
        (show Terminal.semicolon ∈ Stage.between.sought by decide) rfl)

/-- The line of an at-rule without a block adds it to what has been read. -/
theorem finish_bare (length : Nat) {margin : List Char} (spacing : ∀ c ∈ margin, isSpacing c = true)
    (ready : reading.IsReady) {name params : String} (named : IsName name.toList)
    (tidy : params ≠ "" → IsTidyPrelude params.toList) (rest : List Char) :
    ∃ item last, Node.ofItem item = .ok (.atRule name params false []) ∧
      reading.finish length (linesText [margin ++ (atRuleHead name params ++ [';'])] ++ rest) =
        finish length ({ reading with stage := .between, last := last }.add item) rest := by
  have ⟨keyword, «prelude», stage, last, spelled, cleaned, head, read⟩ :=
    finish_head length ready named tidy (.inl rfl) (.inr rfl) ('\n' :: rest)
  have ⟨last', ended⟩ := finish_statement length
    (show ({ reading with stage := stage, last := last } : Reading).stage.head? = _ from head)
    ('\n' :: rest)
  refine ⟨.atRule keyword «prelude» none, last', ?_, ?_⟩
  · rw [Node.ofItem_statement, spelled, cleaned, List.drop_one, List.tail_cons, String.ofList_toList]
  · refine finish_line spacing ?_
    rw [List.append_nil] at read
    rw [List.append_assoc]
    exact read.trans ended

/-- The first line of an at-rule with a block opens it. -/
theorem finish_opening (length : Nat) {margin : List Char} (spacing : ∀ c ∈ margin, isSpacing c = true)
    (ready : reading.IsReady) {name params : String} (named : IsName name.toList)
    (tidy : params ≠ "" → IsTidyPrelude params.toList) (rest : List Char) :
    ∃ keyword prelude last, keyword.text = '@' :: name.toList ∧ Node.paramsOf prelude = params ∧
      reading.finish length
          (linesText [margin ++ (atRuleHead name params ++ [' ', '\x7b'])] ++ rest) =
        finish length { reading with
          stage := .between, last := last
          openBlocks := .atRule keyword prelude [] :: reading.openBlocks } rest := by
  have ⟨keyword, «prelude», stage, last, spelled, cleaned, head, read⟩ :=
    finish_head length ready named tidy (.inr rfl) (.inl rfl) ('\n' :: rest)
  have ⟨last', opened⟩ := finish_openAtRule length
    (show ({ reading with stage := stage, last := last } : Reading).stage.head? = _ from head)
    ('\n' :: rest)
  refine ⟨keyword, «prelude», last', spelled, cleaned, finish_line spacing ?_⟩
  have whole : atRuleHead name params ++ [' ', '\x7b'] ++ '\n' :: rest =
      atRuleHead name params ++ [' '] ++ '\x7b' :: '\n' :: rest := by simp
  rw [whole]
  exact read.trans opened

mutual

/-- The lines of a node add an item to what has been read that gives the node back. -/
theorem finish_node (length : Nat) {indent : List Char} (indented : ∀ c ∈ indent, isSpacing c = true) :
    ∀ (node : Node) {reading : Reading} {margin : List Char},
      (∀ c ∈ margin, isSpacing c = true) → node.IsPrintable → reading.IsReady →
      (reading.openBlocks = [] → ∀ content, node ≠ .declaration content) → ∀ rest : List Char,
      ∃ item last, Node.ofItem item = .ok node ∧
        reading.finish length (linesText (node.lines indent margin) ++ rest) =
          finish length ({ reading with stage := .between, last := last }.add item) rest
  | .declaration content, reading, margin, spacing, printable, ready, inside, rest => by
    rw [Node.IsPrintable] at printable
    exact finish_inAtRule length spacing ready (fun none => inside none content rfl) printable rest
  | .rule selector contents, reading, margin, spacing, printable, ready, inside, rest => by
    rw [Node.IsPrintable] at printable
    exact finish_rule length indented spacing ready printable.1 printable.2 rest
  | .atRule name params false children, reading, margin, spacing, printable, ready, inside, rest => by
    rw [Node.IsPrintable] at printable
    have ⟨named, tidy, childless, _⟩ := printable
    rw [childless rfl, Node.lines, if_neg (by simp), List.append_assoc]
    exact finish_bare length spacing ready named tidy rest
  | .atRule name params true children, reading, margin, spacing, printable, ready, inside, rest => by
    rw [Node.IsPrintable] at printable
    have ⟨named, tidy, _, inner⟩ := printable
    have within : ∀ c ∈ margin ++ indent, isSpacing c = true :=
      List.forall_mem_append.2 ⟨spacing, indented⟩
    let closing := linesText [margin ++ ['\x7d']] ++ rest
    have ⟨keyword, «prelude», last, spelled, cleaned, opened⟩ := finish_opening length spacing ready
      named tidy (linesText (Node.linesAll indent (margin ++ indent) children) ++ closing)
    -- The children are read into the block that was just opened and holds nothing yet.
    have ⟨items, stage, last', nodes, read, ready'⟩ := finish_nodes length indented children within inner
      (show IsReady { reading with
        stage := .between, last := last
        openBlocks := .atRule keyword «prelude» [] :: reading.openBlocks } from
        ⟨.inl rfl, by simp [Block.isAtRule]⟩) nofun closing
    rw [addAll_atRule, List.nil_append] at read ready'
    have between : stage = .between := by
      rcases ready'.stage with same | ⟨-, none⟩
      · exact same
      · cases none
    let final := markToken length .closingBrace '\x7d' ('\n' :: rest)
    refine ⟨.atRule keyword «prelude» (some items), some final, ?_, ?_⟩
    · rw [Node.ofItem_block, spelled, cleaned, List.drop_one, List.tail_cons, String.ofList_toList]
      exact ⟨children, nodes, rfl⟩
    · rw [Node.lines, if_pos rfl, List.append_assoc, linesText_append, linesText_append,
        List.append_assoc margin, opened, read, between]
      exact finish_line spacing (finish_mark (show ('\x7d', Terminal.closingBrace) ∈ marks by decide)
        (show Terminal.closingBrace ∈ Stage.between.sought by decide) rfl)

/-- Printable trees are read back from their lines, as items that are added to those read so far. -/
theorem finish_nodes (length : Nat) {indent : List Char} (indented : ∀ c ∈ indent, isSpacing c = true) :
    ∀ (nodes : List Node) {reading : Reading} {margin : List Char},
      (∀ c ∈ margin, isSpacing c = true) → Node.ArePrintable nodes → reading.IsReady →
      (reading.openBlocks = [] → ∀ node ∈ nodes, ∀ content, node ≠ .declaration content) →
      ∀ rest : List Char, ∃ items stage last, Node.ofItems items = .ok nodes ∧
        reading.finish length (linesText (Node.linesAll indent margin nodes) ++ rest) =
          finish length ({ reading with stage := stage, last := last }.addAll items) rest ∧
        ({ reading with stage := stage, last := last }.addAll items).IsReady
  | [], reading, margin, spacing, printable, ready, inside, rest =>
    ⟨[], reading.stage, reading.last, Node.ofItems_nil.2 rfl, rfl, ready⟩
  | node :: nodes, reading, margin, spacing, printable, ready, inside, rest => by
    rw [Node.ArePrintable] at printable
    have ⟨item, last, first, read⟩ := finish_node length indented node spacing printable.1 ready
      (fun none => (List.forall_mem_cons.1 (inside none)).1)
      (linesText (Node.linesAll indent margin nodes) ++ rest)
    have ⟨items, stage, last', others, following, ready'⟩ := finish_nodes length indented nodes spacing
      printable.2 (IsReady.add ready.outside item last)
      (fun none => (List.forall_mem_cons.1
        (inside (openBlocks_add { reading with stage := .between, last := last } none))).2) rest
    rw [add_again] at following ready'
    refine ⟨item :: items, stage, last', Node.ofItems_cons.2 ⟨node, nodes, first, others, rfl⟩, ?_,
      ready'⟩
    rw [Node.linesAll, linesText_append, read, following]
    rfl

end

/-! ### Stylesheets -/

/-- Lines between line breaks, with one more behind them, are lines that end with line breaks. -/
theorem intercalate_append {lines : List (List Char)} (nonempty : lines ≠ []) (rest : List Char) :
    ['\n'].intercalate lines ++ '\n' :: rest = linesText lines ++ rest := by
  induction lines with
  | nil => exact absurd rfl nonempty
  | cons line lines ih =>
    cases lines with
    | nil => simp [linesText]
    | cons next lines =>
      have := ih (by simp)
      have whole := linesText_append [line] (next :: lines) rest
      rw [List.singleton_append] at whole
      rw [List.intercalate_cons_cons, List.append_assoc, List.append_assoc, this, whole]
      simp [linesText]

theorem lines_ne_nil (indent margin : List Char) (node : Node) : node.lines indent margin ≠ [] := by
  cases node with
  | declaration content => simp [Node.lines]
  | rule selector contents => simp [Node.lines]
  | atRule name params hasBlock children =>
    cases hasBlock with
    | false => simp [Node.lines]
    | true => simp [Node.lines]

/-- The nodes of a stylesheet are read one after the other, over the blank lines between them. -/
theorem finish_print (length : Nat) {indent : List Char} (indented : ∀ c ∈ indent, isSpacing c = true) :
    ∀ {sheet : Stylesheet} {reading : Reading}, sheet ≠ [] → sheet.IsPrintable → reading.IsReady →
      ∃ items stage last, Node.ofItems items = .ok sheet ∧
        reading.finish length (['\n', '\n'].intercalate (sheet.map (Node.print indent)) ++ ['\n']) =
          finish length ({ reading with stage := stage, last := last }.addAll items) [] ∧
        ({ reading with stage := stage, last := last }.addAll items).IsReady := by
  intro sheet
  induction sheet with
  | nil => exact fun nonempty => absurd rfl nonempty
  | cons node nodes ih =>
    intro reading _ printable ready
    have ⟨every, top⟩ := printable
    rw [Node.ArePrintable] at every
    have ⟨here, below⟩ := List.forall_mem_cons.1 top
    have one : ∀ rest, ∃ item last, Node.ofItem item = .ok node ∧
        reading.finish length (node.print indent ++ '\n' :: rest) =
          finish length ({ reading with stage := .between, last := last }.add item) rest := by
      intro rest
      have := finish_node length indented node (List.forall_mem_nil _) every.1 ready (fun _ => here) rest
      rw [← intercalate_append (lines_ne_nil indent [] node)] at this
      exact this
    cases nodes with
    | nil =>
      have ⟨item, last, first, read⟩ := one []
      refine ⟨[item], .between, last, Node.ofItems_cons.2 ⟨node, [], first, Node.ofItems_nil.2 rfl, rfl⟩,
        ?_, IsReady.add ready.outside item last⟩
      rw [List.map_singleton, List.intercalate_singleton, read]
      rfl
    | cons next others =>
      let text := ['\n', '\n'].intercalate ((next :: others).map (Node.print indent)) ++ ['\n']
      have ⟨item, last, first, read⟩ := one ('\n' :: text)
      have ⟨items, stage, last', rest, following, ready'⟩ := ih (List.cons_ne_nil next others)
        ⟨every.2, below⟩ (IsReady.add ready.outside item last)
      rw [add_again] at following ready'
      refine ⟨item :: items, stage, last', Node.ofItems_cons.2 ⟨node, _, first, rest, rfl⟩, ?_, ready'⟩
      have whole : ['\n', '\n'].intercalate ((node :: next :: others).map (Node.print indent)) ++ ['\n'] =
          node.print indent ++ '\n' :: '\n' :: text := by
        rw [List.map_cons, List.map_cons, List.intercalate_cons_cons, List.append_assoc,
          List.append_assoc]
        rfl
      rw [whole, read]
      exact (finish_spacing (show ∀ c ∈ ['\n'], isSpacing c = true by decide)).trans following

/-- Where a whole item may follow at the top level, the text may end. -/
theorem finish_end (length : Nat) (ready : reading.IsReady) (top : reading.openBlocks = []) :
    reading.finish length [] = .ok reading.items := by
  have none : ∀ allowed offset, Token.next? allowed offset [] = none := by
    intro allowed offset
    unfold Token.next?
    rw [List.findSome?_eq_none_iff]
    intro terminal mem
    cases terminal <;> rfl
  have nothing : skipIgnored [] = [] := by rw [skipIgnored]; rfl
  have accepted : reading.accepted.contains .endOfText = true := by
    unfold accepted
    rcases ready.stage with same | ⟨same, -⟩ <;> rw [same, top] <;> rfl
  rw [finish]
  split
  · rename_i token rest found
    rw [nothing, none] at found
    cases found
  · rw [nothing, accepted]
    rfl

end Reading

/-- A stylesheet that can be printed is read back from its text. -/
theorem Stylesheet.read_write {sheet : Stylesheet} (printable : sheet.IsPrintable) {indent : String}
    (spacing : ∀ c ∈ indent.toList, isSpacing c = true) : read (sheet.write indent) = .ok sheet := by
  rw [read_eq_ok_iff, write, String.toList_ofList]
  have ready : ({} : Reading).IsReady := ⟨.inr ⟨rfl, rfl⟩, by simp⟩
  unfold print outline
  by_cases none : sheet = []
  · refine ⟨[], ?_, Node.ofItems_nil.2 none⟩
    rw [if_pos none]
    exact Reading.finish_end _ ready rfl
  · rw [if_neg none]
    have ⟨items, stage, last, nodes, finished, ready'⟩ := Reading.finish_print
      (['\n', '\n'].intercalate (sheet.map (Node.print indent.toList)) ++ ['\n']).length spacing none
      printable ready
    refine ⟨items, ?_, nodes⟩
    rw [Reading.addAll_top] at finished ready'
    rw [finished, Reading.finish_end _ ready' rfl]
    rfl

end ViewportScaling.Css
