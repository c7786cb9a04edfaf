import ViewportScaling.Proofs.Css.Declarations
import ViewportScaling.Proofs.Css.Outline

/-!
# Trees that can be printed

Not every tree is read back from its text: a selector might hold a brace, or an at-rule without a block
might have nodes. A tree can be printed if each of its texts is split off whole and kept by cleaning.
Where the tokens of a source are plain, the tree that is read from it can be printed.
-/

namespace ViewportScaling.Css

open Unicode Text

/-- Whether a character may stand in the name of an at-rule. -/
def isNameChar (c : Char) : Bool := isWord c || c = '-'

/-- A text is the name of an at-rule. -/
structure IsName (name : List Char) : Prop where
  /-- The first character and the rest. -/
  spelled : ∃ c rest, name = c :: rest ∧ startsKeyword c = true ∧ ∀ d ∈ rest, isNameChar d = true

/-- What is split off as the name of an at-rule is a name behind its sign. -/
theorem exists_name_of_atKeyword? {input rest : List Char} {found : List Segment}
    (split : atKeyword? input = some (found, rest)) :
    ∃ name, Segment.textAll found = '@' :: name ∧ IsName name := by
  unfold atKeyword? at split
  split at split
  · rename_i c tail
    simp only at split
    split at split
    · rename_i starts
      rw [Option.some.injEq, Prod.mk.injEq] at split
      refine ⟨_, ?_, c, tail.takeWhile isNameChar, rfl, starts, fun d mem => List.mem_takeWhile_imp mem⟩
      rw [← split.1, Segment.textAll_map_plain]
      rfl
    · cases split
  · cases split

mutual

/-- A node is read back from its lines. -/
def Node.IsPrintable : Node → Prop
  | .declaration content => content.IsPrintable
  | .rule selector declarations =>
    IsTidySelector selector.toList ∧ ∀ content ∈ declarations, content.IsPrintable
  | .atRule name params hasBlock children =>
    IsName name.toList ∧ (params ≠ "" → IsTidyPrelude params.toList) ∧
      (hasBlock = false → children = []) ∧ Node.ArePrintable children

/-- Each node of a list is read back from its lines. -/
def Node.ArePrintable : List Node → Prop
  | [] => True
  | node :: nodes => node.IsPrintable ∧ Node.ArePrintable nodes

end

/-- Trees are printable just if each of them is. -/
theorem Node.arePrintable_iff {nodes : List Node} :
    ArePrintable nodes ↔ ∀ node ∈ nodes, node.IsPrintable := by
  induction nodes with
  | nil => simp [ArePrintable]
  | cons node nodes ih => simp [ArePrintable, ih]

/-- A stylesheet is read back from its text. -/
structure Stylesheet.IsPrintable (sheet : Stylesheet) : Prop where
  /-- Each node is. -/
  nodes : Node.ArePrintable sheet
  /-- No declaration stands at the top level. -/
  top : ∀ node ∈ sheet, ∀ content, node ≠ .declaration content

/-! ### Plain sources -/

instance (text : List Char) : Decidable (NoComment text) :=
  inferInstanceAs (Decidable ¬['/', '*'] <:+: text)

instance (token : Token) : Decidable token.IsPlain :=
  decidable_of_iff (NoComment (token.segments.flatMap Segment.masked) ∧ ClosesAddresses token.text)
    ⟨fun plain => ⟨plain.1, plain.2⟩, fun plain => ⟨plain.uncommented, plain.closed⟩⟩

/-- The kinds of token whose text goes into the tree beside the names of at-rules. -/
def Terminal.isText (terminal : Terminal) : Bool :=
  terminal = .selector || terminal = .prelude || terminal = .declaration

/-- In each selector, prelude and declaration of a source there is no comment mark outside strings, and
each opening of an address is followed by its end or by a quote. -/
def IsPlainSource (source : List Char) : Prop :=
  EveryToken (fun terminal token => terminal.isText = true → token.IsPlain) source

instance (source : List Char) : Decidable (IsPlainSource source) :=
  inferInstanceAs (Decidable (EveryToken _ source))

/-- A token was split off as what it stands for, and is plain if it is a text. -/
def Token.IsRead (terminal : Terminal) (token : Token) : Prop :=
  (∃ input rest, terminal.match? input = some (token.segments, rest)) ∧
    (terminal.isText = true → token.IsPlain)

namespace Token.IsRead

variable {token : Token}

/-- A selector that was read is tidy once it is cleaned. -/
theorem isTidySelector (read : token.IsRead .selector) : IsTidySelector token.cleaned.toList := by
  obtain ⟨⟨input, rest, found⟩, plain⟩ := read
  rw [cleaned, String.toList_ofList]
  exact ((plain rfl).of_selector? found).clean

/-- So is a prelude. -/
theorem isTidyPrelude (read : token.IsRead .prelude) : IsTidyPrelude token.cleaned.toList := by
  obtain ⟨⟨input, rest, found⟩, plain⟩ := read
  rw [cleaned, String.toList_ofList]
  exact ((plain rfl).of_prelude? found).clean

/-- A declaration that was read is printable. -/
theorem isPrintable (read : token.IsRead .declaration) {content : Declaration}
    (found : Declaration.ofToken token = .ok content) : content.IsPrintable := by
  obtain ⟨⟨input, rest, split⟩, plain⟩ := read
  exact Declaration.isPrintable_of_ofToken ((plain rfl).of_declaration? split) found

/-- So are all declarations of a rule. -/
theorem arePrintable {tokens : List Token} {contents : List Declaration}
    (each : List.Forall₂ (fun token content => Declaration.ofToken token = .ok content) tokens contents)
    (read : ∀ token ∈ tokens, token.IsRead .declaration) : ∀ content ∈ contents, content.IsPrintable := by
  induction each with
  | nil => simp
  | cons found rest ih =>
    obtain ⟨first, others⟩ := List.forall_mem_cons.1 read
    exact List.forall_mem_cons.2 ⟨first.isPrintable found, ih others⟩

/-- What was read behind the sign of an at-rule is a name. -/
theorem isName (read : token.IsRead .atKeyword) : IsName (token.text.drop 1) := by
  obtain ⟨⟨input, rest, found⟩, -⟩ := read
  obtain ⟨name, spelled, named⟩ := exists_name_of_atKeyword? found
  rw [Token.text, spelled]
  exact named

/-- The parameters of an at-rule are tidy if there are any. -/
theorem isTidyPrelude_paramsOf {prelude : Option Token} (read : ∀ token ∈ prelude, token.IsRead .prelude) :
    Node.paramsOf prelude ≠ "" → IsTidyPrelude (Node.paramsOf prelude).toList := by
  intro some
  cases prelude with
  | none => exact absurd rfl some
  | some token => exact (read token rfl).isTidyPrelude

end Token.IsRead

mutual

/-- The node of an item whose tokens were read can be printed. -/
theorem Node.isPrintable_of_ofItem : ∀ {item : Item} {node : Node},
    item.Every (fun terminal token => token.IsRead terminal) → Node.ofItem item = .ok node →
      node.IsPrintable
  | .declaration token, node, every, found => by
    rw [Item.Every] at every
    obtain ⟨content, of_token, rfl⟩ := Node.ofItem_declaration.1 found
    rw [Node.IsPrintable]
    exact every.isPrintable of_token
  | .rule selector declarations, node, every, found => by
    rw [Item.Every] at every
    obtain ⟨contents, each, rfl⟩ := Node.ofItem_rule.1 found
    rw [Node.IsPrintable]
    exact ⟨every.1.isTidySelector, Token.IsRead.arePrintable each every.2⟩
  | .atRule keyword prelude none, node, every, found => by
    rw [Item.Every] at every
    rw [← Node.ofItem_statement.1 found, Node.IsPrintable, String.toList_ofList]
    exact ⟨every.1.isName, Token.IsRead.isTidyPrelude_paramsOf every.2.1, fun _ => rfl, trivial⟩
  | .atRule keyword prelude (some items), node, every, found => by
    rw [Item.Every] at every
    obtain ⟨nodes, inner, rfl⟩ := Node.ofItem_block.1 found
    rw [Node.IsPrintable, String.toList_ofList]
    exact ⟨every.1.isName, Token.IsRead.isTidyPrelude_paramsOf every.2.1, nofun,
      Node.arePrintable_of_ofItems every.2.2 inner⟩

/-- Trees that are made of tokens as they were read are printable. -/
theorem Node.arePrintable_of_ofItems : ∀ {items : List Item} {nodes : List Node},
    Item.EveryOf (fun terminal token => token.IsRead terminal) items →
      Node.ofItems items = .ok nodes → Node.ArePrintable nodes
  | [], nodes, _, found => by
    rw [Node.ofItems_nil.1 found]
    trivial
  | item :: items, nodes, every, found => by
    rw [Item.EveryOf] at every
    obtain ⟨node, others, first, rest, same⟩ := Node.ofItems_cons.1 found
    rw [same, Node.ArePrintable]
    exact ⟨Node.isPrintable_of_ofItem every.1 first, Node.arePrintable_of_ofItems every.2 rest⟩

end

/-- Only declarations become declarations. -/
theorem Node.ofItem_ne_declaration {item : Item} {node : Node} (found : ofItem item = .ok node)
    (other : ∀ token, item ≠ .declaration token) : ∀ content, node ≠ .declaration content := by
  rintro content rfl
  cases item with
  | declaration token => exact other token rfl
  | rule selector declarations =>
    obtain ⟨contents, -, same⟩ := ofItem_rule.1 found
    cases same
  | atRule keyword «prelude» body =>
    cases body with
    | none => cases ofItem_statement.1 found
    | some items =>
      obtain ⟨nodes, -, same⟩ := ofItem_block.1 found
      cases same

/-- Items that are no declarations give no declarations. -/
theorem Node.ofItems_ne_declaration {items : List Item} {nodes : List Node}
    (found : ofItems items = .ok nodes) (other : ∀ item ∈ items, ∀ token, item ≠ .declaration token) :
    ∀ node ∈ nodes, ∀ content, node ≠ .declaration content := by
  induction items generalizing nodes with
  | nil =>
    rw [ofItems_nil.1 found]
    simp
  | cons item items ih =>
    obtain ⟨node, others, first, rest, rfl⟩ := ofItems_cons.1 found
    obtain ⟨one, all⟩ := List.forall_mem_cons.1 other
    exact List.forall_mem_cons.2 ⟨ofItem_ne_declaration first one, ih rest all⟩

/-- A stylesheet that is read from a plain source can be printed. -/
theorem Stylesheet.isPrintable_of_read {source : String} {sheet : Stylesheet}
    (found : read source = .ok sheet) (plain : IsPlainSource source.toList) : sheet.IsPrintable := by
  obtain ⟨items, spelled, nodes⟩ := read_eq_ok_iff.1 found
  obtain ⟨every, top⟩ := every_outline spelled
  refine ⟨Node.arePrintable_of_ofItems (every.combine ?_ (plain items spelled)) nodes,
    Node.ofItems_ne_declaration nodes top⟩
  rintro terminal token ⟨input, rest, -, matched⟩ text
  exact ⟨⟨input, rest, matched⟩, text⟩

end ViewportScaling.Css
