import Mathlib.Data.List.Forall2
import ViewportScaling.Css.Reader

/-!
# What an outline is made of

A reading goes on token by token. What one token can do to it is said once, as a relation with a case for
each kind of step; what a whole text does to it then follows by one induction. The first facts obtained so
are that a rule is never open around another block, that the top level holds rules and at-rules only, and
that every token of an outline was split off some end of the source as a token of the kind that its place
in the outline asks for.
-/

namespace ViewportScaling.Css

/-! ### Tokens come from the source -/

/-- A token was split off an end of the source as a token of a given kind. -/
def Token.ReadFrom (source : List Char) (terminal : Terminal) (token : Token) : Prop :=
  ∃ input rest, input <:+ source ∧ terminal.match? input = some (token.segments, rest)

/-- A token is of an allowed kind, that kind matches the input, and its text is what is taken away. -/
theorem Token.next?_eq_some {allowed : List Terminal} {offset : Nat} {input rest : List Char}
    {token : Token} (found : next? allowed offset input = some (token, rest)) :
    token.terminal ∈ allowed ∧ token.terminal.match? input = some (token.segments, rest) ∧
      token.text ++ rest = input := by
  have whole := (append_of_next? found).1
  obtain ⟨terminal, mem, split⟩ := List.exists_of_findSome?_eq_some found
  obtain ⟨⟨segments, after⟩, matched, same⟩ := Option.map_eq_some_iff.1 split
  cases same
  exact ⟨mem, matched, whole⟩

/-- A single character is split off as such. -/
theorem text_of_single? {mark : Char} {input rest : List Char} {found : List Segment}
    (split : single? mark input = some (found, rest)) : Segment.textAll found = [mark] := by
  unfold single? at split
  split at split
  · cases split
  · split at split
    · cases split
      rename_i same
      rw [same]
      rfl
    · cases split

/-- What is behind blanks and comments is an end of the input. -/
theorem skipIgnored_suffix (input : List Char) : skipIgnored input <:+ input := by
  fun_induction skipIgnored input with
  | case1 input text rest found ih =>
    rw [← append_of_comment? found]
    exact ih.trans (List.suffix_append text rest)
  | case2 => exact List.suffix_refl _
  | case3 c rest _ spacing ih => exact ih.trans (List.suffix_cons c rest)
  | case4 c rest _ other => exact List.suffix_refl _

/-! ### Properties of all tokens -/

mutual

/-- A property holds of each token of an item, in the role that the token has there. -/
def Item.Every (holds : Terminal → Token → Prop) : Item → Prop
  | .declaration token => holds .declaration token
  | .rule selector declarations =>
    holds .selector selector ∧ ∀ token ∈ declarations, holds .declaration token
  | .atRule keyword prelude body =>
    holds .atKeyword keyword ∧ (∀ token ∈ prelude, holds .prelude token) ∧
      match body with
      | none => True
      | some items => Item.EveryOf holds items

/-- A property holds of each token of each item. -/
def Item.EveryOf (holds : Terminal → Token → Prop) : List Item → Prop
  | [] => True
  | item :: items => item.Every holds ∧ Item.EveryOf holds items

end

/-- A property holds of the tokens of two rows if it holds of those of both. -/
theorem Item.everyOf_append {holds : Terminal → Token → Prop} {first second : List Item} :
    EveryOf holds (first ++ second) ↔ EveryOf holds first ∧ EveryOf holds second := by
  induction first with
  | nil => simp [EveryOf]
  | cons item items ih => simp [EveryOf, ih, and_assoc]

/-- It holds of a row of one item if it holds of the item. -/
theorem Item.everyOf_singleton {holds : Terminal → Token → Prop} {item : Item} :
    EveryOf holds [item] ↔ item.Every holds := by
  simp [EveryOf]

mutual

/-- It can be checked whether a property that can be checked holds of each token of an item. -/
def Item.decideEvery (holds : Terminal → Token → Prop)
    [∀ terminal token, Decidable (holds terminal token)] : ∀ item : Item, Decidable (item.Every holds)
  | .declaration token => decidable_of_iff (holds .declaration token) (by rw [Item.Every])
  | .rule selector declarations =>
    decidable_of_iff (holds .selector selector ∧ ∀ token ∈ declarations, holds .declaration token)
      (by rw [Item.Every])
  | .atRule keyword prelude none =>
    decidable_of_iff (holds .atKeyword keyword ∧ ∀ token ∈ prelude, holds .prelude token)
      (by simp [Item.Every])
  | .atRule keyword prelude (some items) =>
    have := Item.decideEveryOf holds items
    decidable_of_iff (holds .atKeyword keyword ∧ (∀ token ∈ prelude, holds .prelude token) ∧
      Item.EveryOf holds items) (by rw [Item.Every])

/-- It can be checked whether a property that can be checked holds of each token of each item. -/
def Item.decideEveryOf (holds : Terminal → Token → Prop)
    [∀ terminal token, Decidable (holds terminal token)] :
    ∀ items : List Item, Decidable (Item.EveryOf holds items)
  | [] => isTrue trivial
  | item :: items =>
    have := item.decideEvery holds
    have := Item.decideEveryOf holds items
    decidable_of_iff (item.Every holds ∧ Item.EveryOf holds items) (by rw [Item.EveryOf])

end

/-- A property holds of each token of the outline of a text. -/
def EveryToken (holds : Terminal → Token → Prop) (source : List Char) : Prop :=
  ∀ items, outline source = .ok items → Item.EveryOf holds items

instance {holds : Terminal → Token → Prop} [∀ terminal token, Decidable (holds terminal token)]
    (source : List Char) : Decidable (EveryToken holds source) :=
  match found : outline source with
  | .error _ => isTrue fun _ other => nomatch found.symm.trans other
  | .ok items =>
    have := Item.decideEveryOf holds items
    decidable_of_iff (Item.EveryOf holds items) (by
      unfold EveryToken
      rw [found]
      simp)

mutual

/-- What follows from two properties of every token holds of every token. -/
theorem Item.Every.combine {first second third : Terminal → Token → Prop}
    (combined : ∀ terminal token, first terminal token → second terminal token → third terminal token) :
    ∀ {item : Item}, item.Every first → item.Every second → item.Every third
  | .declaration token, one, two => by
    rw [Item.Every] at one two ⊢
    exact combined _ _ one two
  | .rule selector declarations, one, two => by
    rw [Item.Every] at one two ⊢
    exact ⟨combined _ _ one.1 two.1, fun token mem => combined _ _ (one.2 token mem) (two.2 token mem)⟩
  | .atRule keyword prelude none, one, two => by
    rw [Item.Every] at one two ⊢
    exact ⟨combined _ _ one.1 two.1,
      fun token mem => combined _ _ (one.2.1 token mem) (two.2.1 token mem), trivial⟩
  | .atRule keyword prelude (some items), one, two => by
    rw [Item.Every] at one two ⊢
    exact ⟨combined _ _ one.1 two.1,
      fun token mem => combined _ _ (one.2.1 token mem) (two.2.1 token mem),
      Item.EveryOf.combine combined one.2.2 two.2.2⟩

/-- Two properties of tokens together give what they imply. -/
theorem Item.EveryOf.combine {first second third : Terminal → Token → Prop}
    (combined : ∀ terminal token, first terminal token → second terminal token → third terminal token) :
    ∀ {items : List Item}, Item.EveryOf first items → Item.EveryOf second items →
      Item.EveryOf third items
  | [], _, _ => trivial
  | item :: items, one, two => by
    rw [Item.EveryOf] at one two ⊢
    exact ⟨one.1.combine combined two.1, one.2.combine combined two.2⟩

end

/-- A property holds of each token of an open block. -/
def Block.Every (holds : Terminal → Token → Prop) : Block → Prop
  | .rule selector declarations =>
    holds .selector selector ∧ ∀ token ∈ declarations, holds .declaration token
  | .atRule keyword prelude items =>
    holds .atKeyword keyword ∧ (∀ token ∈ prelude, holds .prelude token) ∧
      Item.EveryOf holds items

/-- Whether a block belongs to an at-rule. -/
def Block.isAtRule : Block → Bool
  | .rule _ _ => false
  | .atRule _ _ _ => true

namespace Stage

/-- The name of an at-rule and its prelude, if these were read last. -/
def head? : Stage → Option (Token × Option Token)
  | .keyword name => some (name, none)
  | .prelude name params => some (name, some params)
  | _ => none

/-- Whether nothing is left over that a block or a semicolon must follow. -/
def isFree : Stage → Bool
  | .start | .inRule | .between => true
  | _ => false

/-- A property holds of each token left over. -/
def Every (holds : Terminal → Token → Prop) : Stage → Prop
  | .keyword name => holds .atKeyword name
  | .prelude name params => holds .atKeyword name ∧ holds .prelude params
  | .selector token => holds .selector token
  | _ => True

end Stage

namespace Reading

/-! ### Steps -/

/-- What a token can do to a reading. -/
inductive Takes (reading : Reading) (token : Token) : Reading → Prop where
  /-- A prelude follows the name of an at-rule. -/
  | prelude {keyword : Token} (stage : reading.stage = .keyword keyword)
      (kind : token.terminal = .prelude) :
      Takes reading token { reading with last := some token, stage := .prelude keyword token }
  /-- The block of an at-rule opens. -/
  | openAtRule {keyword : Token} {prelude : Option Token}
      (stage : reading.stage.head? = some (keyword, prelude)) (kind : token.terminal = .openingBrace) :
      Takes reading token { reading with
        last := some token, stage := .between
        openBlocks := .atRule keyword prelude [] :: reading.openBlocks }
  /-- An at-rule without a block ends. -/
  | statement {keyword : Token} {prelude : Option Token}
      (stage : reading.stage.head? = some (keyword, prelude)) (kind : token.terminal = .semicolon) :
      Takes reading token
        ({ reading with last := some token, stage := .between }.add (.atRule keyword prelude none))
  /-- The block of a rule opens. -/
  | openRule {selector : Token} (stage : reading.stage = .selector selector)
      (kind : token.terminal = .openingBrace) :
      Takes reading token { reading with
        last := some token, stage := .inRule, openBlocks := .rule selector [] :: reading.openBlocks }
  /-- The name of an at-rule stands outside rules. -/
  | keyword (free : reading.stage.isFree = true) (kind : token.terminal = .atKeyword)
      (outside : ∀ block ∈ reading.openBlocks.head?, block.isAtRule = true) :
      Takes reading token { reading with last := some token, stage := .keyword token }
  /-- A selector stands outside rules. -/
  | selector (free : reading.stage.isFree = true) (kind : token.terminal = .selector)
      (outside : ∀ block ∈ reading.openBlocks.head?, block.isAtRule = true) :
      Takes reading token { reading with last := some token, stage := .selector token }
  /-- A declaration stands in a rule. -/
  | inRule {selector : Token} {declarations : List Token} {outer : List Block}
      (free : reading.stage.isFree = true) (kind : token.terminal = .declaration)
      (blocks : reading.openBlocks = .rule selector declarations :: outer) :
      Takes reading token { reading with
        last := some token, stage := .between
        openBlocks := .rule selector (declarations ++ [token]) :: outer }
  /-- A declaration stands in the block of an at-rule. -/
  | inAtRule {keyword : Token} {prelude : Option Token} {items : List Item} {outer : List Block}
      (free : reading.stage.isFree = true) (kind : token.terminal = .declaration)
      (blocks : reading.openBlocks = .atRule keyword prelude items :: outer) :
      Takes reading token
        ({ reading with last := some token, stage := .between }.add (.declaration token))
  /-- The block of a rule closes. -/
  | closeRule {selector : Token} {declarations : List Token} {outer : List Block}
      (free : reading.stage.isFree = true) (kind : token.terminal = .closingBrace)
      (blocks : reading.openBlocks = .rule selector declarations :: outer) :
      Takes reading token
        ({ reading with last := some token, stage := .between, openBlocks := outer }.add
          (.rule selector declarations))
  /-- The block of an at-rule closes. -/
  | closeAtRule {keyword : Token} {prelude : Option Token} {items : List Item} {outer : List Block}
      (free : reading.stage.isFree = true) (kind : token.terminal = .closingBrace)
      (blocks : reading.openBlocks = .atRule keyword prelude items :: outer) :
      Takes reading token
        ({ reading with last := some token, stage := .between, openBlocks := outer }.add
          (.atRule keyword prelude (some items)))
  /-- A semicolon in a block changes nothing but what is looked for. -/
  | semicolon {stage : Stage} (free : reading.stage.isFree = true)
      (kind : token.terminal = .semicolon) (next : stage = .inRule ∨ stage = .between) :
      Takes reading token { reading with last := some token, stage := stage }

/-- Where nothing is left over, it does not matter what was read last. -/
theorem take?_eq_of_isFree {reading : Reading} (token : Token) (free : reading.stage.isFree = true) :
    reading.take? token = { reading with stage := .start }.take? token := by
  obtain ⟨items, openBlocks, stage, last⟩ := reading
  cases stage with
  | start | inRule | between =>
    unfold take?
    cases token.terminal <;> rfl
  | keyword | «prelude» | selector => cases free

/-- A token that is taken in where nothing is left over does what some step says. -/
theorem takes_of_isFree {reading further : Reading} {token : Token} (free : reading.stage.isFree = true)
    (taken : reading.take? token = some further) : reading.Takes token further := by
  rw [take?_eq_of_isFree token free] at taken
  obtain ⟨items, blocks, stage, last⟩ := reading
  unfold take? at taken
  rcases blocks with _ | ⟨⟨selector, declarations⟩ | ⟨keyword, prelude, inner⟩, outer⟩ <;>
    cases kind : token.terminal <;> simp only [kind] at taken <;> cases taken
  · exact .keyword free kind (by simp)
  · exact .selector free kind (by simp)
  · exact .inRule free kind rfl
  · exact .closeRule free kind rfl
  · exact .semicolon free kind (.inl rfl)
  · exact .keyword free kind (by simp [Block.isAtRule])
  · exact .inAtRule free kind rfl
  · exact .closeAtRule free kind rfl
  · exact .selector free kind (by simp [Block.isAtRule])
  · exact .semicolon free kind (.inr rfl)

/-- A token that is taken in does what some step says. -/
theorem takes_of_take? {reading further : Reading} {token : Token}
    (taken : reading.take? token = some further) : reading.Takes token further := by
  cases stage : reading.stage with
  | keyword keyword =>
    unfold take? at taken
    have head : reading.stage.head? = some (keyword, none) := by rw [stage]; rfl
    cases kind : token.terminal <;> rw [stage, kind] at taken <;> cases taken
    · exact .openAtRule head kind
    · exact .prelude stage kind
    · exact .statement head kind
  | «prelude» keyword prelude =>
    unfold take? at taken
    have head : reading.stage.head? = some (keyword, some prelude) := by rw [stage]; rfl
    cases kind : token.terminal <;> rw [stage, kind] at taken <;> cases taken
    · exact .openAtRule head kind
    · exact .statement head kind
  | selector selector =>
    unfold take? at taken
    cases kind : token.terminal <;> rw [stage, kind] at taken <;> cases taken
    exact .openRule stage kind
  | start | inRule | between => exact takes_of_isFree (by rw [stage]; rfl) taken

/-! ### What a run keeps -/

/-- What each step keeps holds at the end of a text that has an outline. -/
theorem exists_of_finish {holds : Reading → List Char → Prop}
    (step : ∀ {reading further : Reading} {input rest : List Char} {token : Token},
      holds reading input → token.terminal.match? (skipIgnored input) = some (token.segments, rest) →
      token.text ++ rest = skipIgnored input → reading.Takes token further → holds further rest)
    {length : Nat} {reading : Reading} {input : List Char} {items : List Item}
    (start : holds reading input) (finished : reading.finish length input = .ok items) :
    ∃ reading' input', holds reading' input' ∧ skipIgnored input' = [] ∧
      reading'.accepted.contains .endOfText = true ∧ reading'.items = items := by
  fun_induction finish length reading input with
  | case1 reading input start' offset token rest found further taken ih =>
    obtain ⟨-, matched, whole⟩ := Token.next?_eq_some found
    exact ih (step start matched whole (takes_of_take? taken)) finished
  | case2 => cases finished
  | case3 reading input start' offset none empty final =>
    rw [Except.ok.injEq] at finished
    exact ⟨reading, input, start, List.isEmpty_iff.1 empty, final, finished⟩
  | case4 => cases finished
  | case5 => cases finished
  | case6 => cases finished

/-- Putting an item into the innermost block of an at-rule, or at the top level where no block is open. -/
theorem add_cases {reading : Reading} (item : Item)
    (outside : ∀ block ∈ reading.openBlocks.head?, block.isAtRule = true) :
    (reading.openBlocks = [] ∧ reading.add item = { reading with items := reading.items ++ [item] }) ∨
      ∃ keyword prelude items outer,
        reading.openBlocks = .atRule keyword prelude items :: outer ∧
        reading.add item =
          { reading with openBlocks := .atRule keyword prelude (items ++ [item]) :: outer } := by
  obtain ⟨items, blocks, stage, last⟩ := reading
  rcases blocks with _ | ⟨⟨selector, declarations⟩ | ⟨keyword, prelude, inner⟩, outer⟩
  · exact .inl ⟨rfl, rfl⟩
  · simp [Block.isAtRule] at outside
  · exact .inr ⟨keyword, prelude, inner, outer, rfl, rfl⟩

/-- No rule is open around another block or under something left over, and no declaration stands at the
top level. -/
structure Proper (reading : Reading) : Prop where
  /-- The open blocks but the innermost one belong to at-rules. -/
  outer : ∀ block ∈ reading.openBlocks.tail, block.isAtRule = true
  /-- If something is left over, the innermost open block belongs to an at-rule, too. -/
  pending : reading.stage.isFree = false → ∀ block ∈ reading.openBlocks, block.isAtRule = true
  /-- The items at the top level are rules and at-rules. -/
  top : ∀ item ∈ reading.items, ∀ token, item ≠ .declaration token

theorem proper_empty : ({} : Reading).Proper :=
  ⟨by simp, by simp, by simp⟩

/-- A reading stays in order if an item is added, and no declaration comes to stand at the top. -/
theorem Proper.add {reading : Reading} (blocks : ∀ block ∈ reading.openBlocks, block.isAtRule = true)
    (top : ∀ item ∈ reading.items, ∀ token, item ≠ .declaration token) {item : Item}
    (inside : reading.openBlocks = [] → ∀ token, item ≠ .declaration token) :
    (reading.add item).Proper := by
  have outside : ∀ block ∈ reading.openBlocks.head?, block.isAtRule = true := fun block mem =>
    blocks block (List.mem_of_mem_head? mem)
  obtain ⟨none, added⟩ | ⟨keyword, prelude, items, outer, some, added⟩ := add_cases item outside
  · rw [added]
    refine ⟨by simp [none], by simp [none], fun other mem => ?_⟩
    rw [List.mem_append, List.mem_singleton] at mem
    rcases mem with mem | rfl
    · exact top other mem
    · exact inside none
  · rw [added]
    rw [some] at blocks
    have below : ∀ block ∈ outer, block.isAtRule = true := fun block mem =>
      blocks block (List.mem_cons_of_mem _ mem)
    refine ⟨below, fun _ block mem => ?_, top⟩
    rcases List.mem_cons.1 mem with rfl | mem
    · rfl
    · exact below block mem

/-- The open blocks belong to at-rules if the innermost one does. -/
theorem Proper.blocks {reading : Reading} (proper : reading.Proper)
    (outside : ∀ block ∈ reading.openBlocks.head?, block.isAtRule = true) :
    ∀ block ∈ reading.openBlocks, block.isAtRule = true := by
  intro block mem
  have outer := proper.outer
  cases blocks : reading.openBlocks with
  | nil => simp [blocks] at mem
  | cons first others =>
    rw [blocks] at outside outer mem
    rcases List.mem_cons.1 mem with rfl | mem
    · exact outside block rfl
    · exact outer block mem

/-- Under the name of an at-rule all open blocks belong to at-rules. -/
theorem Proper.blocks_of_head? {reading : Reading} (proper : reading.Proper) {keyword : Token}
    {prelude : Option Token} (stage : reading.stage.head? = some (keyword, prelude)) :
    ∀ block ∈ reading.openBlocks, block.isAtRule = true := by
  refine proper.pending ?_
  cases read : reading.stage <;> rw [read] at stage <;> first | rfl | cases stage

/-- It stays in order with every token that it takes. -/
theorem Proper.takes {reading further : Reading} {token : Token} (proper : reading.Proper)
    (taken : reading.Takes token further) : further.Proper := by
  cases taken with
  | «prelude» stage kind =>
    exact ⟨proper.outer, fun _ => proper.pending (by rw [stage]; rfl), proper.top⟩
  | openAtRule stage kind =>
    have blocks := proper.blocks_of_head? stage
    exact ⟨blocks, nofun, proper.top⟩
  | statement stage kind =>
    have blocks := proper.blocks_of_head? stage
    refine Proper.add ?_ ?_ ?_
    · exact blocks
    · exact proper.top
    · exact fun _ _ => nofun
  | openRule stage kind =>
    have blocks := proper.pending (by rw [stage]; rfl)
    exact ⟨blocks, nofun, proper.top⟩
  | keyword free kind outside => exact ⟨proper.outer, fun _ => proper.blocks outside, proper.top⟩
  | selector free kind outside => exact ⟨proper.outer, fun _ => proper.blocks outside, proper.top⟩
  | inRule free kind blocks =>
    have outer := proper.outer
    rw [blocks] at outer
    exact ⟨outer, nofun, proper.top⟩
  | inAtRule free kind blocks =>
    have outside := proper.blocks (by simp [blocks, Block.isAtRule])
    refine Proper.add ?_ ?_ ?_
    · exact outside
    · exact proper.top
    · intro none
      rw [blocks] at none
      cases none
  | closeRule free kind blocks =>
    have outer := proper.outer
    rw [blocks] at outer
    refine Proper.add ?_ ?_ ?_
    · exact outer
    · exact proper.top
    · exact fun _ _ => nofun
  | closeAtRule free kind blocks =>
    have outer := proper.outer
    rw [blocks] at outer
    refine Proper.add ?_ ?_ ?_
    · exact outer
    · exact proper.top
    · exact fun _ _ => nofun
  | semicolon free kind next =>
    refine ⟨proper.outer, fun waits => ?_, proper.top⟩
    rcases next with rfl | rfl <;> cases waits

/-- A property holds of each token of a reading. -/
structure Every (holds : Terminal → Token → Prop) (reading : Reading) : Prop where
  /-- The tokens of the items at the top level. -/
  items : Item.EveryOf holds reading.items
  /-- The tokens of the open blocks. -/
  blocks : ∀ block ∈ reading.openBlocks, block.Every holds
  /-- The tokens left over. -/
  stage : reading.stage.Every holds

section

variable {holds : Terminal → Token → Prop} {reading : Reading}

theorem every_empty : ({} : Reading).Every holds :=
  ⟨trivial, by simp, trivial⟩

/-- What holds of every token holds after an item is added if it holds of the tokens of the item. -/
theorem Every.add (every : reading.Every holds) {item : Item} (one : item.Every holds) :
    (reading.add item).Every holds := by
  obtain ⟨items, blocks, stage, last⟩ := reading
  have atTop : Item.EveryOf holds (items ++ [item]) :=
    Item.everyOf_append.2 ⟨every.items, Item.everyOf_singleton.2 one⟩
  rcases blocks with _ | ⟨⟨selector, declarations⟩ | ⟨keyword, prelude, inner⟩, outer⟩
  · exact ⟨atTop, every.blocks, every.stage⟩
  · exact ⟨atTop, every.blocks, every.stage⟩
  · obtain ⟨⟨name, params, within⟩, others⟩ := List.forall_mem_cons.1 every.blocks
    have grown : Item.EveryOf holds (inner ++ [item]) :=
      Item.everyOf_append.2 ⟨within, Item.everyOf_singleton.2 one⟩
    exact ⟨every.items, List.forall_mem_cons.2 ⟨⟨name, params, grown⟩, others⟩, every.stage⟩

/-- What holds of the tokens of a reading and of the next token holds of the tokens behind the step. -/
theorem Every.takes {further : Reading} {token : Token} (every : reading.Every holds)
    (one : holds token.terminal token) (taken : reading.Takes token further) :
    further.Every holds := by
  have head : ∀ {keyword : Token} {prelude : Option Token},
      reading.stage.head? = some (keyword, prelude) →
      holds .atKeyword keyword ∧ ∀ token ∈ prelude, holds .prelude token := by
    intro keyword prelude found
    have stage := every.stage
    cases read : reading.stage <;> rw [read] at found stage <;> cases found
    · exact ⟨stage, by simp⟩
    · exact ⟨stage.1, by simpa using stage.2⟩
  cases taken with
  | «prelude» stage kind =>
    have name := every.stage
    rw [stage] at name
    exact ⟨every.items, every.blocks, name, kind ▸ one⟩
  | openAtRule stage kind =>
    obtain ⟨name, params⟩ := head stage
    exact ⟨every.items, List.forall_mem_cons.2 ⟨⟨name, params, trivial⟩, every.blocks⟩, trivial⟩
  | statement stage kind =>
    obtain ⟨name, params⟩ := head stage
    refine Every.add ?_ ?_
    · exact ⟨every.items, every.blocks, trivial⟩
    · rw [Item.Every]
      exact ⟨name, params, trivial⟩
  | openRule stage kind =>
    have selector := every.stage
    rw [stage] at selector
    exact ⟨every.items, List.forall_mem_cons.2 ⟨⟨selector, by simp⟩, every.blocks⟩, trivial⟩
  | keyword free kind outside =>
    rw [kind] at one
    exact ⟨every.items, every.blocks, one⟩
  | selector free kind outside =>
    rw [kind] at one
    exact ⟨every.items, every.blocks, one⟩
  | inRule free kind blocks =>
    have all := every.blocks
    rw [blocks] at all
    obtain ⟨⟨selector, declarations⟩, others⟩ := List.forall_mem_cons.1 all
    refine ⟨every.items, List.forall_mem_cons.2 ⟨⟨selector, ?_⟩, others⟩, trivial⟩
    exact List.forall_mem_append.2 ⟨declarations, by simpa using kind ▸ one⟩
  | inAtRule free kind blocks =>
    refine Every.add ?_ ?_
    · exact ⟨every.items, every.blocks, trivial⟩
    · rw [Item.Every]
      exact kind ▸ one
  | closeRule free kind blocks =>
    have all := every.blocks
    rw [blocks] at all
    obtain ⟨rule, others⟩ := List.forall_mem_cons.1 all
    refine Every.add ?_ ?_
    · exact ⟨every.items, others, trivial⟩
    · rw [Item.Every]
      exact rule
  | closeAtRule free kind blocks =>
    have all := every.blocks
    rw [blocks] at all
    obtain ⟨atRule, others⟩ := List.forall_mem_cons.1 all
    refine Every.add ?_ ?_
    · exact ⟨every.items, others, trivial⟩
    · rw [Item.Every]
      exact atRule
  | semicolon free kind next =>
    refine ⟨every.items, every.blocks, ?_⟩
    rcases next with rfl | rfl <;> trivial

end

end Reading

/-- The tokens of an outline were read from the source as what they stand for, and the items at the top
level are rules and at-rules. -/
theorem every_outline {source : List Char} {items : List Item} (found : outline source = .ok items) :
    Item.EveryOf (Token.ReadFrom source) items ∧ ∀ item ∈ items, ∀ token, item ≠ .declaration token := by
  let holds := fun (reading : Reading) input =>
    input <:+ source ∧ reading.Proper ∧ reading.Every (Token.ReadFrom source)
  have start : holds {} source := ⟨List.suffix_refl _, Reading.proper_empty, Reading.every_empty⟩
  have step : ∀ {reading further : Reading} {input rest : List Char} {token : Token},
      holds reading input → token.terminal.match? (skipIgnored input) = some (token.segments, rest) →
      token.text ++ rest = skipIgnored input → reading.Takes token further → holds further rest := by
    intro reading further input rest token ⟨inside, proper, every⟩ matched whole taken
    have begun := (skipIgnored_suffix input).trans inside
    refine ⟨?_, proper.takes taken, every.takes ⟨_, rest, begun, matched⟩ taken⟩
    rw [← whole] at begun
    exact (List.suffix_append token.text rest).trans begun
  obtain ⟨reading, input, ⟨-, proper, every⟩, -, -, rfl⟩ := Reading.exists_of_finish step start found
  exact ⟨every.items, proper.top⟩

/-! ### Nodes of items -/

/-- A result under a function comes of a result without it. -/
theorem map_eq_ok_iff {ε α β : Type} {f : α → β} {value : Except ε α} {result : β} :
    f <$> value = .ok result ↔ ∃ inner, value = .ok inner ∧ f inner = result := by
  cases value with
  | error error => exact ⟨nofun, nofun⟩
  | ok inner => simp

/-- A list is mapped without error exactly if each of its members is. -/
theorem mapM_eq_ok_iff {ε α β : Type} {f : α → Except ε β} {items : List α} {results : List β} :
    items.mapM f = .ok results ↔ List.Forall₂ (fun item result => f item = .ok result) items results := by
  induction items generalizing results with
  | nil =>
    rw [List.mapM_nil, List.forall₂_nil_left_iff]
    exact ⟨fun same => (Except.ok.inj same).symm, fun same => same ▸ rfl⟩
  | cons item items ih =>
    rw [List.mapM_cons, List.forall₂_cons_left_iff]
    cases first : f item with
    | error error => exact ⟨nofun, fun ⟨_, _, found, _⟩ => nomatch found⟩
    | ok result =>
      cases others : items.mapM f with
      | error error =>
        refine ⟨nofun, fun ⟨_, _, _, rest, _⟩ => ?_⟩
        rw [← ih, others] at rest
        cases rest
      | ok rest =>
        have spelled : List.Forall₂ (fun item result => f item = .ok result) items rest := ih.1 others
        constructor
        · intro same
          cases same
          exact ⟨result, rest, rfl, spelled, rfl⟩
        · rintro ⟨result', rest', found, rest_spelled, rfl⟩
          cases found
          rw [← ih, others] at rest_spelled
          cases rest_spelled
          rfl

namespace Node

/-- A declaration is made of a token that holds one. -/
theorem ofItem_declaration {token : Token} {node : Node} :
    ofItem (.declaration token) = .ok node ↔
      ∃ content, Declaration.ofToken token = .ok content ∧ .declaration content = node := by
  rw [ofItem, map_eq_ok_iff]

/-- A rule is made of its cleaned selector and of the declarations that its tokens hold. -/
theorem ofItem_rule {selector : Token} {declarations : List Token} {node : Node} :
    ofItem (.rule selector declarations) = .ok node ↔ ∃ contents,
      List.Forall₂ (fun token content => Declaration.ofToken token = .ok content) declarations contents ∧
        .rule selector.cleaned contents = node := by
  rw [ofItem, map_eq_ok_iff]
  simp only [mapM_eq_ok_iff]

/-- The parameters of an at-rule with a given prelude. -/
def paramsOf (prelude : Option Token) : String := (prelude.map Token.cleaned).getD ""

/-- An at-rule without a block is made of its name and parameters. -/
theorem ofItem_statement {keyword : Token} {prelude : Option Token} {node : Node} :
    ofItem (.atRule keyword prelude none) = .ok node ↔
      .atRule (String.ofList (keyword.text.drop 1)) (paramsOf prelude) false [] = node := by
  rw [ofItem, Except.ok.injEq]
  rfl

/-- An at-rule with a block is made of these and of the nodes in its block. -/
theorem ofItem_block {keyword : Token} {prelude : Option Token} {items : List Item} {node : Node} :
    ofItem (.atRule keyword prelude (some items)) = .ok node ↔ ∃ nodes, ofItems items = .ok nodes ∧
      .atRule (String.ofList (keyword.text.drop 1)) (paramsOf prelude) true nodes = node := by
  rw [ofItem, map_eq_ok_iff]
  rfl

theorem ofItems_nil {nodes : List Node} : ofItems [] = .ok nodes ↔ nodes = [] := by
  rw [ofItems, Except.ok.injEq, eq_comm]

/-- Nodes are made of items one by one, and all of them or none. -/
theorem ofItems_cons {item : Item} {items : List Item} {nodes : List Node} :
    ofItems (item :: items) = .ok nodes ↔ ∃ node others, ofItem item = .ok node ∧
      ofItems items = .ok others ∧ nodes = node :: others := by
  rw [ofItems]
  cases ofItem item with
  | error error => exact ⟨nofun, fun ⟨_, _, found, _⟩ => nomatch found⟩
  | ok node =>
    cases ofItems items with
    | error error => exact ⟨nofun, fun ⟨_, _, _, found, _⟩ => nomatch found⟩
    | ok others =>
      refine ⟨fun same => ⟨node, others, rfl, rfl, (Except.ok.inj same).symm⟩, ?_⟩
      rintro ⟨node', others', found, rest, rfl⟩
      cases found
      cases rest
      rfl

end Node

/-- A stylesheet is read exactly if its text has an outline with nodes. -/
theorem Stylesheet.read_eq_ok_iff {source : String} {sheet : Stylesheet} :
    read source = .ok sheet ↔ ∃ items, outline source.toList = .ok items ∧
      Node.ofItems items = .ok sheet := by
  unfold read
  cases outline source.toList with
  | error error => exact ⟨nofun, fun ⟨_, found, _⟩ => nomatch found⟩
  | ok items =>
    change (Node.ofItems items).mapError _ = _ ↔ _
    cases nodes : Node.ofItems items with
    | error fault =>
      refine ⟨nofun, ?_⟩
      rintro ⟨items', found, rest⟩
      cases found
      rw [nodes] at rest
      cases rest
    | ok others =>
      constructor
      · intro same
        cases same
        exact ⟨items, rfl, nodes⟩
      · rintro ⟨items', found, rest⟩
        cases found
        rw [nodes] at rest
        cases rest
        rfl

end ViewportScaling.Css
