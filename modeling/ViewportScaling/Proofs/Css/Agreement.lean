import ViewportScaling.Proofs.Css.Printable

/-!
# Readings that agree

Two texts may have the same nodes although their tokens stand at different places or are spelled in
different ways. What matters of a token is what it says in its role: the declaration that it gives, its
cleaned text or the name in it. Two readings agree if what they hold says the same, apart from nodes that
the second one had before. Tokens that say the same lead from agreeing readings to agreeing readings, so
that agreement at some point carries over to the end of a text.
-/

namespace ViewportScaling.Css

/-! ### Texts that are read to their end -/

/-- A reading goes on over a text to its end, and has items then. -/
inductive Reading.Completes (length : Nat) : Reading → List Char → List Item → Prop where
  /-- Nothing is left but spacing and comments. -/
  | stop {reading : Reading} {input : List Char} (nothing : skipIgnored input = [])
      (final : reading.accepted.contains .endOfText = true) :
      Completes length reading input reading.items
  /-- A token is taken in. -/
  | step {reading further : Reading} {input rest : List Char} {token : Token} {items : List Item}
      (found : Token.next? reading.stage.sought (length - (skipIgnored input).length)
        (skipIgnored input) = some (token, rest))
      (taken : reading.take? token = some further) (onward : Completes length further rest items) :
      Completes length reading input items

theorem Token.next?_nil (allowed : List Terminal) (offset : Nat) : next? allowed offset [] = none := by
  unfold next?
  rw [List.findSome?_eq_none_iff]
  intro terminal mem
  cases terminal <;> rfl

namespace Reading

variable {length : Nat} {reading further : Reading} {input rest : List Char} {items : List Item}

/-- A text is read without an error exactly if it is read to its end. -/
theorem finish_eq_ok_iff : reading.finish length input = .ok items ↔
    reading.Completes length input items := by
  constructor
  · intro finished
    fun_induction finish length reading input with
    | case1 reading input start offset token rest found further taken ih =>
      exact .step found taken (ih finished)
    | case2 => cases finished
    | case3 reading input start offset none empty final =>
      rw [← Except.ok.inj finished]
      exact .stop (List.isEmpty_iff.1 empty) final
    | case4 => cases finished
    | case5 => cases finished
    | case6 => cases finished
  · intro completes
    induction completes with
    | stop nothing final =>
      rw [finish]
      split
      · rename_i found
        rw [nothing, Token.next?_nil] at found
        cases found
      · rw [nothing]
        simp only [List.isEmpty_nil, if_true, final]
    | step found taken onward ih =>
      rw [finish]
      split
      · rename_i found'
        rw [found] at found'
        cases found'
        rw [taken]
        exact ih
      · rename_i none
        rw [found] at none
        cases none

/-- Where the text may end, no block is open and nothing is left over. -/
theorem isFree_of_accepted (final : reading.accepted.contains .endOfText = true) :
    reading.openBlocks = [] ∧ reading.stage.isFree = true := by
  obtain ⟨items, blocks, stage, last⟩ := reading
  unfold accepted at final
  cases stage <;> rcases blocks with _ | ⟨⟨selector, declarations⟩ | ⟨keyword, prelude, inner⟩, outer⟩ <;>
    first | exact ⟨rfl, rfl⟩ | cases final

/-- What holds of each token behind an item that was put in held before, and of the item. -/
theorem Every.of_add {holds : Terminal → Token → Prop} {item : Item}
    (every : (reading.add item).Every holds) : reading.Every holds ∧ item.Every holds := by
  obtain ⟨items, blocks, stage, last⟩ := reading
  obtain ⟨atTop, inside, pending⟩ := every
  rcases blocks with _ | ⟨⟨selector, declarations⟩ | ⟨keyword, params, inner⟩, outer⟩
  · obtain ⟨old, new⟩ := Item.everyOf_append.1 atTop
    exact ⟨⟨old, inside, pending⟩, Item.everyOf_singleton.1 new⟩
  · obtain ⟨old, new⟩ := Item.everyOf_append.1 atTop
    exact ⟨⟨old, inside, pending⟩, Item.everyOf_singleton.1 new⟩
  · obtain ⟨⟨name, «prelude», within⟩, others⟩ := List.forall_mem_cons.1 inside
    obtain ⟨old, new⟩ := Item.everyOf_append.1 within
    exact ⟨⟨atTop, List.forall_mem_cons.2 ⟨⟨name, «prelude», old⟩, others⟩, pending⟩,
      Item.everyOf_singleton.1 new⟩

/-- What holds of each token behind a step held before it, and of the token if it is a text. -/
theorem Every.of_takes {holds : Terminal → Token → Prop} {token : Token}
    (taken : reading.Takes token further) (every : further.Every holds) :
    reading.Every holds ∧ (token.terminal.isText = true → holds token.terminal token) := by
  have head : ∀ {keyword : Token} {params : Option Token},
      reading.stage.head? = some (keyword, params) → holds .atKeyword keyword →
      (∀ token ∈ params, holds .prelude token) → reading.stage.Every holds := by
    intro keyword params found name «prelude»
    cases stage : reading.stage <;> rw [stage] at found <;> cases found
    · exact name
    · exact ⟨name, «prelude» _ rfl⟩
  have free : reading.stage.isFree = true → reading.stage.Every holds := by
    intro free
    cases stage : reading.stage <;> rw [stage] at free <;> trivial
  have silent : ∀ {terminal : Terminal}, token.terminal = terminal → terminal.isText = false →
      token.terminal.isText = true → holds token.terminal token := by
    intro terminal kind quiet text
    rw [kind, quiet] at text
    cases text
  cases taken with
  | «prelude» stage kind =>
    obtain ⟨name, params⟩ := every.stage
    exact ⟨⟨every.items, every.blocks, by rw [stage]; exact name⟩, fun _ => kind ▸ params⟩
  | openAtRule stage kind =>
    obtain ⟨⟨name, params, -⟩, others⟩ := List.forall_mem_cons.1 every.blocks
    exact ⟨⟨every.items, others, head stage name params⟩, silent kind rfl⟩
  | statement stage kind =>
    obtain ⟨old, one⟩ := every.of_add
    rw [Item.Every] at one
    exact ⟨⟨old.items, old.blocks, head stage one.1 one.2.1⟩, silent kind rfl⟩
  | openRule stage kind =>
    obtain ⟨⟨selector, -⟩, others⟩ := List.forall_mem_cons.1 every.blocks
    exact ⟨⟨every.items, others, by rw [stage]; exact selector⟩, silent kind rfl⟩
  | keyword free' kind outside =>
    exact ⟨⟨every.items, every.blocks, free free'⟩, silent kind rfl⟩
  | selector free' kind outside =>
    exact ⟨⟨every.items, every.blocks, free free'⟩, fun _ => kind ▸ every.stage⟩
  | inRule free' kind blocks =>
    obtain ⟨⟨selector, declarations⟩, others⟩ := List.forall_mem_cons.1 every.blocks
    obtain ⟨old, new⟩ := List.forall_mem_append.1 declarations
    refine ⟨⟨every.items, ?_, free free'⟩, fun _ => kind ▸ new token (List.mem_singleton_self _)⟩
    rw [blocks]
    exact List.forall_mem_cons.2 ⟨⟨selector, old⟩, others⟩
  | inAtRule free' kind blocks =>
    obtain ⟨old, one⟩ := every.of_add
    rw [Item.Every] at one
    exact ⟨⟨old.items, old.blocks, free free'⟩, fun _ => kind ▸ one⟩
  | closeRule free' kind blocks =>
    obtain ⟨old, one⟩ := every.of_add
    rw [Item.Every] at one
    refine ⟨⟨old.items, ?_, free free'⟩, silent kind rfl⟩
    rw [blocks]
    exact List.forall_mem_cons.2 ⟨one, old.blocks⟩
  | closeAtRule free' kind blocks =>
    obtain ⟨old, one⟩ := every.of_add
    rw [Item.Every] at one
    refine ⟨⟨old.items, ?_, free free'⟩, silent kind rfl⟩
    rw [blocks]
    exact List.forall_mem_cons.2 ⟨one, old.blocks⟩
  | semicolon free' kind next =>
    exact ⟨⟨every.items, every.blocks, free free'⟩, silent kind rfl⟩

/-- What holds of each token at the end of a text holds of each token on the way. -/
theorem Completes.every {holds : Terminal → Token → Prop}
    (completes : reading.Completes length input items) (every : Item.EveryOf holds items) :
    reading.Every holds := by
  induction completes with
  | stop nothing final =>
    obtain ⟨none, free⟩ := isFree_of_accepted final
    refine ⟨every, by simp [none], ?_⟩
    cases stage : Reading.stage _ <;> rw [stage] at free <;> trivial
  | step found taken onward ih => exact (Every.of_takes (takes_of_take? taken) (ih every)).1

end Reading

/-! ### Tokens -/

/-- In a given role the second token says what the first one says. -/
def Token.Agrees (role : Terminal) (first second : Token) : Prop :=
  match role with
  | .declaration => ∀ content, Declaration.ofToken first = .ok content →
    Declaration.ofToken second = .ok content
  | .selector | .prelude => second.cleaned = first.cleaned
  | _ => second.text = first.text

/-- A declaration is given by the text of its token without comments. -/
theorem Declaration.ofToken_congr {first second : Token} {content : Declaration}
    (same : uncommented second.text = uncommented first.text) (found : ofToken first = .ok content) :
    ofToken second = .ok content := by
  unfold ofToken at found ⊢
  rw [same]
  simp only at found ⊢
  split at found
  · cases found
  · split at found
    · cases found
    · rename_i named
      rw [if_neg named]
      exact found

/-- Where a token stands and how it was cut does not matter to what it says. -/
theorem Token.Agrees.of_text {first second : Token} (same : second.text = first.text)
    (role : Terminal) : first.Agrees role second := by
  have cleaned : second.cleaned = first.cleaned := by rw [cleaned, cleaned, same]
  have content : ∀ content, Declaration.ofToken first = .ok content →
      Declaration.ofToken second = .ok content :=
    fun _ => Declaration.ofToken_congr (by rw [same])
  cases role <;> first | exact content | exact cleaned | exact same

/-- A token is found with whatever number of characters before it. -/
theorem Token.next?_offset {allowed : List Terminal} {offset : Nat} {input rest : List Char}
    {token : Token} (found : next? allowed offset input = some (token, rest)) (offset' : Nat) :
    next? allowed offset' input = some ({ token with offset := offset' }, rest) := by
  induction allowed with
  | nil => cases found
  | cons terminal allowed ih =>
    unfold next? at found ih ⊢
    rw [List.findSome?_cons] at found ⊢
    cases matched : terminal.match? input with
    | none =>
      rw [matched] at found
      exact ih found
    | some split =>
      rw [matched] at found
      cases found
      rfl

/-! ### Items, blocks and readings -/

/-- The nodes of the first items are nodes of the second ones, behind given nodes. -/
def Item.AgreeBehind (before : List Node) (first second : List Item) : Prop :=
  ∀ nodes, Node.ofItems first = .ok nodes → Node.ofItems second = .ok (before ++ nodes)

/-- Two rows of items give the nodes of the first row and those of the second. -/
theorem Node.ofItems_append {first second : List Item} {nodes : List Node} :
    ofItems (first ++ second) = .ok nodes ↔ ∃ front back, ofItems first = .ok front ∧
      ofItems second = .ok back ∧ nodes = front ++ back := by
  induction first generalizing nodes with
  | nil =>
    rw [List.nil_append]
    constructor
    · exact fun found => ⟨[], nodes, ofItems_nil.2 rfl, found, rfl⟩
    · rintro ⟨front, back, none, found, rfl⟩
      rwa [ofItems_nil.1 none]
  | cons item first ih =>
    rw [List.cons_append, ofItems_cons]
    constructor
    · rintro ⟨node, others, found, rest, rfl⟩
      obtain ⟨front, back, early, late, rfl⟩ := ih.1 rest
      exact ⟨node :: front, back, ofItems_cons.2 ⟨node, front, found, early, rfl⟩, late, rfl⟩
    · rintro ⟨front, back, early, late, rfl⟩
      obtain ⟨node, others, found, rest, rfl⟩ := ofItems_cons.1 early
      exact ⟨node, others ++ back, found, ih.2 ⟨others, back, rest, late, rfl⟩, rfl⟩

/-- Items still agree if one more is added to each, and the added ones agree. -/
theorem Item.AgreeBehind.append {before : List Node} {first second : List Item} {item item' : Item}
    (agree : AgreeBehind before first second)
    (one : ∀ node, Node.ofItem item = .ok node → Node.ofItem item' = .ok node) :
    AgreeBehind before (first ++ [item]) (second ++ [item']) := by
  intro nodes found
  obtain ⟨front, back, early, late, rfl⟩ := Node.ofItems_append.1 found
  obtain ⟨node, others, last, none, rfl⟩ := Node.ofItems_cons.1 late
  refine Node.ofItems_append.2 ⟨before ++ front, node :: others, agree front early, ?_, by simp⟩
  exact Node.ofItems_cons.2 ⟨node, others, one node last, none, rfl⟩

/-- The second block holds what the first one holds. -/
inductive Block.Agrees : Block → Block → Prop where
  /-- Blocks of rules. -/
  | rule {selector selector' : Token} {declarations declarations' : List Token}
      (head : selector.Agrees .selector selector')
      (inner : List.Forall₂ (Token.Agrees .declaration) declarations declarations') :
      Agrees (.rule selector declarations) (.rule selector' declarations')
  /-- Blocks of at-rules. -/
  | atRule {keyword keyword' : Token} {params params' : Option Token} {items items' : List Item}
      (head : keyword.Agrees .atKeyword keyword') (prelude : Node.paramsOf params' = Node.paramsOf params)
      (inner : Item.AgreeBehind [] items items') :
      Agrees (.atRule keyword params items) (.atRule keyword' params' items')

/-- What is left over says the same, and the same is looked for. -/
inductive Stage.Agrees : Stage → Stage → Prop where
  /-- Nothing was read. -/
  | start : Agrees .start .start
  /-- The name of an at-rule was read. -/
  | keyword {keyword keyword' : Token} (head : keyword.Agrees .atKeyword keyword') :
      Agrees (.keyword keyword) (.keyword keyword')
  /-- The name and the prelude of an at-rule were read. -/
  | prelude {keyword keyword' params params' : Token} (head : keyword.Agrees .atKeyword keyword')
      (prelude : params.Agrees .prelude params') :
      Agrees (.prelude keyword params) (.prelude keyword' params')
  /-- A selector was read. -/
  | selector {selector selector' : Token} (head : selector.Agrees .selector selector') :
      Agrees (.selector selector) (.selector selector')
  /-- The block of a rule was opened, or a semicolon was read in it. -/
  | inRule : Agrees .inRule .inRule
  /-- An item was read, or the block of an at-rule was opened. -/
  | between : Agrees .between .between

/-- The second reading holds what the first one holds, behind given nodes. -/
structure Reading.Agrees (before : List Node) (first second : Reading) : Prop where
  /-- The items at the top level. -/
  items : Item.AgreeBehind before first.items second.items
  /-- The open blocks. -/
  blocks : List.Forall₂ Block.Agrees first.openBlocks second.openBlocks
  /-- What is left over. -/
  stage : first.stage.Agrees second.stage

/-- Stages that agree look for the same kinds of token. -/
theorem Stage.Agrees.sought {first second : Stage} (agrees : first.Agrees second) :
    second.sought = first.sought := by
  cases agrees <;> rfl

namespace Reading.Agrees

variable {before : List Node} {first second : Reading}

/-- So readings that agree accept the same kinds of token. -/
theorem accepted (agrees : first.Agrees before second) : second.accepted = first.accepted := by
  obtain ⟨items, blocks, stage, last⟩ := first
  obtain ⟨items', blocks', stage', last'⟩ := second
  obtain ⟨-, blocks, stage⟩ := agrees
  unfold Reading.accepted
  cases stage <;> cases blocks with
  | nil => rfl
  | cons one others => cases one <;> rfl

/-- A whole item goes into the innermost open blocks or to the top level of both. -/
theorem add (agrees : first.Agrees before second) {item item' : Item}
    (one : ∀ node, Node.ofItem item = .ok node → Node.ofItem item' = .ok node) :
    (first.add item).Agrees before (second.add item') := by
  obtain ⟨items, blocks, stage, last⟩ := first
  obtain ⟨items', blocks', stage', last'⟩ := second
  obtain ⟨items, blocks, stage⟩ := agrees
  cases blocks with
  | nil => exact ⟨items.append one, .nil, stage⟩
  | cons head others =>
    cases head with
    | rule head inner => exact ⟨items.append one, .cons (.rule head inner) others, stage⟩
    | atRule head «prelude» inner =>
      exact ⟨items, .cons (.atRule head «prelude» (inner.append one)) others, stage⟩

end Reading.Agrees

/-! ### Items of agreeing tokens -/

namespace Item

/-- Tokens that agree as declarations give the same declaration. -/
theorem agrees_declaration {token token' : Token} (same : token.Agrees .declaration token') {node : Node}
    (found : Node.ofItem (.declaration token) = .ok node) :
    Node.ofItem (.declaration token') = .ok node := by
  obtain ⟨content, of_token, rfl⟩ := Node.ofItem_declaration.1 found
  exact Node.ofItem_declaration.2 ⟨content, same content of_token, rfl⟩

/-- Rules whose selectors and declarations agree are the same node. -/
theorem agrees_rule {selector selector' : Token} {declarations declarations' : List Token}
    (head : selector.Agrees .selector selector')
    (inner : List.Forall₂ (Token.Agrees .declaration) declarations declarations') {node : Node}
    (found : Node.ofItem (.rule selector declarations) = .ok node) :
    Node.ofItem (.rule selector' declarations') = .ok node := by
  obtain ⟨contents, each, rfl⟩ := Node.ofItem_rule.1 found
  refine Node.ofItem_rule.2 ⟨contents, ?_, by rw [show selector'.cleaned = selector.cleaned from head]⟩
  clear found
  induction inner generalizing contents with
  | nil =>
    cases each
    exact .nil
  | cons same others ih =>
    cases each with
    | cons first rest => exact .cons (same _ first) (ih _ rest)

/-- At-rules whose keywords, parameters and items agree are the same node. -/
theorem agrees_atRule {keyword keyword' : Token} {params params' : Option Token}
    (head : keyword.Agrees .atKeyword keyword') (prelude : Node.paramsOf params' = Node.paramsOf params)
    {body body' : Option (List Item)} (inner : Option.Rel (AgreeBehind []) body body') {node : Node}
    (found : Node.ofItem (.atRule keyword params body) = .ok node) :
    Node.ofItem (.atRule keyword' params' body') = .ok node := by
  have name : keyword'.text = keyword.text := head
  cases inner with
  | none =>
    rw [Node.ofItem_statement] at found ⊢
    rw [name, «prelude», found]
  | some inner =>
    obtain ⟨nodes, of_items, same⟩ := Node.ofItem_block.1 found
    refine Node.ofItem_block.2 ⟨nodes, inner nodes of_items, ?_⟩
    rw [name, «prelude», same]

end Item

/-! ### Steps -/

namespace Reading.Agrees

variable {before : List Node} {first second further : Reading} {token token' : Token}

/-- Behind a step it does not matter what was read last. -/
theorem behind (agrees : first.Agrees before second) {stage stage' : Stage}
    (same : stage.Agrees stage') (last last' : Option Token) :
    Agrees before { first with stage, last } { second with stage := stage', last := last' } :=
  ⟨agrees.items, agrees.blocks, same⟩

/-- Where nothing is left over, tokens that say the same lead to readings that agree. -/
theorem take?_of_start (agrees : first.Agrees before second) (start : first.stage = .start)
    (kind : token'.terminal = token.terminal) (same : token.Agrees token.terminal token')
    (taken : first.take? token = some further) :
    ∃ further', second.take? token' = some further' ∧ further.Agrees before further' := by
  obtain ⟨items, blocks, stage, last⟩ := first
  obtain ⟨items', blocks', stage', last'⟩ := second
  obtain ⟨items, blocks, stage⟩ := agrees
  subst start
  cases stage
  unfold take? at taken ⊢
  rw [kind]
  cases blocks with
  | nil =>
    cases terminal : token.terminal <;> rw [terminal] at same taken <;> cases taken
    · exact ⟨_, rfl, items, .nil, .keyword same⟩
    · exact ⟨_, rfl, items, .nil, .selector same⟩
  | cons head others =>
    cases head with
    | rule head inner =>
      cases terminal : token.terminal <;> rw [terminal] at same taken <;> cases taken
      · exact ⟨_, rfl, items, .cons (.rule head (List.rel_append inner (.cons same .nil))) others, .between⟩
      · refine ⟨_, rfl, add ?_ fun node found => Item.agrees_rule head inner found⟩
        exact ⟨items, others, .between⟩
      · exact ⟨_, rfl, items, .cons (.rule head inner) others, .inRule⟩
    | atRule head «prelude» inner =>
      cases terminal : token.terminal <;> rw [terminal] at same taken <;> cases taken
      · exact ⟨_, rfl, items, .cons (.atRule head «prelude» inner) others, .keyword same⟩
      · refine ⟨_, rfl, add ?_ fun node found => Item.agrees_declaration same found⟩
        exact ⟨items, .cons (.atRule head «prelude» inner) others, .between⟩
      · refine ⟨_, rfl, add ?_ fun node found => ?_⟩
        · exact ⟨items, others, .between⟩
        · exact Item.agrees_atRule head «prelude» (.some inner) found
      · exact ⟨_, rfl, items, .cons (.atRule head «prelude» inner) others, .selector same⟩
      · exact ⟨_, rfl, items, .cons (.atRule head «prelude» inner) others, .between⟩

/-- Tokens that say the same lead from readings that agree to readings that agree. -/
theorem take? (agrees : first.Agrees before second) (kind : token'.terminal = token.terminal)
    (same : token.Agrees token.terminal token') (taken : first.take? token = some further) :
    ∃ further', second.take? token' = some further' ∧ further.Agrees before further' := by
  have free : first.stage.isFree = true → second.stage.isFree = true →
      ∃ further', second.take? token' = some further' ∧ further.Agrees before further' := by
    intro free free'
    rw [take?_eq_of_isFree token free] at taken
    rw [take?_eq_of_isFree token' free']
    exact take?_of_start (agrees.behind .start first.last second.last) rfl kind same taken
  obtain ⟨items, blocks, stage, last⟩ := first
  obtain ⟨items', blocks', stage', last'⟩ := second
  cases agrees.stage with
  | start => exact free rfl rfl
  | inRule => exact free rfl rfl
  | between => exact free rfl rfl
  | keyword head =>
    unfold Reading.take? at taken ⊢
    rw [kind]
    cases terminal : token.terminal <;> rw [terminal] at same taken <;> cases taken
    · exact ⟨_, rfl, agrees.items, .cons (.atRule head rfl fun _ found => found) agrees.blocks, .between⟩
    · exact ⟨_, rfl, agrees.behind (.prelude head same) _ _⟩
    · refine ⟨_, rfl, (agrees.behind .between _ _).add fun node found => ?_⟩
      exact Item.agrees_atRule head rfl .none found
  | «prelude» head «prelude» =>
    rename_i params params'
    have params : Node.paramsOf (some params') = Node.paramsOf (some params) := «prelude»
    unfold Reading.take? at taken ⊢
    rw [kind]
    cases terminal : token.terminal <;> rw [terminal] at same taken <;> cases taken
    · exact ⟨_, rfl, agrees.items, .cons (.atRule head params fun _ found => found) agrees.blocks,
        .between⟩
    · refine ⟨_, rfl, (agrees.behind .between _ _).add fun node found => ?_⟩
      exact Item.agrees_atRule head params .none found
  | selector head =>
    unfold Reading.take? at taken ⊢
    rw [kind]
    cases terminal : token.terminal <;> rw [terminal] at same taken <;> cases taken
    exact ⟨_, rfl, agrees.items, .cons (.rule head .nil) agrees.blocks, .inRule⟩

end Reading.Agrees

/-- A reading that agrees with one that is read to the end of a text is read to its end, too. -/
theorem Reading.Completes.of_agrees {length : Nat} {first second : Reading} {input : List Char}
    {items : List Item} (completes : first.Completes length input items) {before : List Node}
    (agrees : first.Agrees before second) (length' : Nat) :
    ∃ items', second.Completes length' input items' ∧ Item.AgreeBehind before items items' := by
  induction completes generalizing second with
  | stop nothing final =>
    rw [← agrees.accepted] at final
    exact ⟨second.items, .stop nothing final, agrees.items⟩
  | @step reading further input rest token items found taken onward ih =>
    have found' := Token.next?_offset found (length' - (skipIgnored input).length)
    rw [← agrees.stage.sought] at found'
    let token' := { token with offset := length' - (skipIgnored input).length }
    have kind : token'.terminal = token.terminal := rfl
    have text : token'.text = token.text := rfl
    obtain ⟨further', taken', agrees'⟩ := agrees.take? kind (.of_text text _) taken
    obtain ⟨items', completes', same⟩ := ih agrees'
    exact ⟨items', .step found' taken' completes', same⟩

end ViewportScaling.Css
