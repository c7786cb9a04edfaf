import ViewportScaling.Proofs.Css.Agreement

/-!
# The fault that is reported

A text is refused for its outline, wherever that fails. If it has one, its declarations are looked at in the
order in which they are nested, which is the order of their tokens in the text. So the fault that is reported
is the one of the first token without a property, at whatever depth the token stands, and the position in the
report is the place of its first character.
-/

namespace ViewportScaling.Text

open Unicode

/-- Nothing is left of a text that is trimmed exactly if it is blank. -/
theorem trim_eq_nil_iff {text : List Char} : trim text = [] ↔ ∀ c ∈ text, isBlank c = true := by
  constructor
  · intro none
    obtain ⟨front, back, left, right, whole⟩ := exists_trim text
    rw [none, List.append_nil] at whole
    rw [whole]
    exact List.forall_mem_append.2 ⟨left, right⟩
  · intro blank
    have nothing := trim_blanks_append blank []
    rwa [List.append_nil] at nothing

/-- The place behind a text: one line more than it has line feeds, and one column more than it has characters
behind the last of them. -/
theorem Position.after_eq (text : List Char) :
    after text = ⟨text.count '\n' + 1, (text.reverse.takeWhile (!· = '\n')).length + 1⟩ := by
  induction text using List.reverseRecOn with
  | nil => rfl
  | append_singleton text c ih =>
    rw [after_append_singleton, ih, List.count_append, List.reverse_append, List.reverse_singleton,
      List.singleton_append, advance]
    by_cases feed : c = '\n'
    · simp [feed]
    · simp [feed]

end ViewportScaling.Text

namespace ViewportScaling.Css

open Unicode Text

/-! ### Tokens without a property -/

/-- Whether a declaration without its comments has no colon, or nothing but blanks before its first one. -/
def Token.lacksProperty (token : Token) : Bool :=
  let text := (pieces token.text).flatMap Piece.uncommented
  !text.contains ':' || (text.takeWhile (!· = ':')).all isBlank

/-- Whether a token is a declaration that cannot be read. -/
def Token.isMalformed (token : Token) : Bool := token.terminal == .declaration && token.lacksProperty

/-- The fault of a token without a property. -/
def Token.fault (token : Token) : SyntaxFault := .noProperty token (uncommented token.text)

/-- The error of a result that is none. -/
def faultOf? {ε α : Type} : Except ε α → Option ε
  | .ok _ => none
  | .error fault => some fault

/-- A function on results changes no error. -/
theorem faultOf?_map {ε α β : Type} (f : α → β) (result : Except ε α) :
    faultOf? (f <$> result) = faultOf? result := by
  cases result <;> rfl

/-- The results of a list stop at the first error among them. -/
theorem faultOf?_mapM {ε α β : Type} (f : α → Except ε β) (items : List α) :
    faultOf? (items.mapM f) = items.findSome? fun item => faultOf? (f item) := by
  induction items with
  | nil => rfl
  | cons item items ih =>
    rw [List.mapM_cons, List.findSome?_cons, ← ih]
    cases f item with
    | error fault => rfl
    | ok result => exact faultOf?_map (result :: ·) _

/-- Blanks at the ends of a text do not matter to what stands before its first colon. -/
theorem trim_takeWhile_eq_nil_iff {text : List Char} (colon : ':' ∈ trim text) :
    trim ((trim text).takeWhile (!· = ':')) = [] ↔ ∀ c ∈ text.takeWhile (!· = ':'), isBlank c = true := by
  obtain ⟨front, back, left, -, whole⟩ := exists_trim text
  obtain ⟨behind, split⟩ : ∃ behind, trim text = (trim text).takeWhile (!· = ':') ++ ':' :: behind := by
    cases rest : (trim text).dropWhile (!· = ':') with
    | nil => exact absurd (List.dropWhile_eq_nil_iff.1 rest ':' colon) (by decide)
    | cons first behind => exact ⟨behind, (split_of_dropWhile rest).1⟩
  have passes : ∀ c ∈ front ++ (trim text).takeWhile (!· = ':'), (!decide (c = ':')) = true := by
    intro c mem
    rcases List.mem_append.1 mem with mem | mem
    · rw [Bool.not_eq_true', decide_eq_false_iff_not]
      rintro rfl
      exact absurd (left ':' mem) (by decide)
    · simpa using List.mem_takeWhile_imp mem
  have taken : text.takeWhile (!· = ':') = front ++ (trim text).takeWhile (!· = ':') := by
    have parted : text = (front ++ (trim text).takeWhile (!· = ':')) ++ ':' :: (behind ++ back) := by
      rw [List.append_assoc, ← List.cons_append, ← List.append_assoc _ (':' :: behind), ← split,
        ← List.append_assoc]
      exact whole
    conv_lhs => rw [parted]
    rw [List.takeWhile_append_of_pos passes, List.takeWhile_cons_of_neg (by decide), List.append_nil]
  rw [trim_eq_nil_iff, taken, List.forall_mem_append]
  exact (and_iff_right left).symm

/-- A declaration is read unless it lacks a property. -/
theorem faultOf?_ofToken (token : Token) :
    faultOf? (Declaration.ofToken token) = if token.lacksProperty then some token.fault else none := by
  let raw := (pieces token.text).flatMap Piece.uncommented
  have colon : ':' ∈ raw ↔ ':' ∈ uncommented token.text := by
    obtain ⟨front, back, left, right, whole⟩ := exists_trim raw
    have solid : ∀ {blanks : List Char}, (∀ c ∈ blanks, isBlank c = true) → ':' ∉ blanks := by
      intro blanks all mem
      exact absurd (all ':' mem) (by decide)
    rw [whole, List.mem_append, List.mem_append, or_iff_left (solid right), or_iff_right (solid left)]
    rfl
  have lacks : token.lacksProperty = true ↔
      ':' ∉ raw ∨ ∀ c ∈ raw.takeWhile (!· = ':'), isBlank c = true := by
    rw [Token.lacksProperty, Bool.or_eq_true, List.all_eq_true, Bool.not_eq_true', List.contains_eq_mem,
      decide_eq_false_iff_not]
  unfold Declaration.ofToken
  dsimp only
  split
  · rename_i none
    have absent : ':' ∉ uncommented token.text := fun mem =>
      absurd (List.dropWhile_eq_nil_iff.1 none ':' mem) (by decide)
    rw [if_pos (lacks.2 (.inl fun mem => absent (colon.1 mem)))]
    rfl
  · rename_i first behind found
    have mem : ':' ∈ uncommented token.text := by
      rw [(split_of_dropWhile found).1]
      simp
    have named := trim_takeWhile_eq_nil_iff mem
    by_cases unnamed : trim ((uncommented token.text).takeWhile (!· = ':')) = []
    · rw [if_pos unnamed, if_pos (lacks.2 (.inr (named.1 unnamed)))]
      rfl
    · rw [if_neg unnamed, if_neg]
      · rfl
      · intro lacking
        rcases lacks.1 lacking with absent | blank
        · exact absent (colon.2 mem)
        · exact unnamed (named.2 blank)

/-! ### The declarations of an outline -/

mutual

/-- The tokens of the declarations of an item, in order. -/
def Item.declarations : Item → List Token
  | .declaration token => [token]
  | .rule _ declarations => declarations
  | .atRule _ _ none => []
  | .atRule _ _ (some items) => Item.allDeclarations items

/-- The tokens of the declarations of items, one item after the other. -/
def Item.allDeclarations : List Item → List Token
  | [] => []
  | item :: items => item.declarations ++ Item.allDeclarations items

end

/-- The declarations of two rows of items are those of the first and those of the second. -/
theorem Item.allDeclarations_append (first second : List Item) :
    allDeclarations (first ++ second) = allDeclarations first ++ allDeclarations second := by
  induction first with
  | nil => rfl
  | cons item items ih => rw [List.cons_append, allDeclarations, ih, allDeclarations, List.append_assoc]

/-- The first fault of tokens of declarations. -/
def firstFault? (tokens : List Token) : Option SyntaxFault :=
  (tokens.find? Token.lacksProperty).map Token.fault

/-- The first fault of two rows of tokens is one of the first row, if it has one. -/
theorem firstFault?_append (first second : List Token) :
    firstFault? (first ++ second) = (firstFault? first).or (firstFault? second) := by
  rw [firstFault?, List.find?_append, Option.map_or]
  rfl

/-- Declarations are read up to the first one that lacks a property. -/
theorem faultOf?_mapM_ofToken (tokens : List Token) :
    faultOf? (tokens.mapM Declaration.ofToken) = firstFault? tokens := by
  rw [faultOf?_mapM, firstFault?]
  induction tokens with
  | nil => rfl
  | cons token tokens ih =>
    rw [List.findSome?_cons, List.find?_cons, faultOf?_ofToken]
    cases token.lacksProperty with
    | true => rfl
    | false => exact ih

mutual

/-- An item gives no node exactly if one of its declarations lacks a property, and the first one that does is
at fault. -/
theorem faultOf?_ofItem : ∀ item : Item, faultOf? (Node.ofItem item) = firstFault? item.declarations
  | .declaration token => by
    rw [Node.ofItem, faultOf?_map, faultOf?_ofToken, Item.declarations, firstFault?, List.find?_singleton]
    cases token.lacksProperty <;> rfl
  | .rule selector declarations => by
    rw [Node.ofItem, faultOf?_map, faultOf?_mapM_ofToken, Item.declarations]
  | .atRule keyword prelude none => by
    rw [Node.ofItem, Item.declarations]
    rfl
  | .atRule keyword prelude (some items) => by
    rw [Node.ofItem, Item.declarations, ← faultOf?_ofItems items]
    exact faultOf?_map _ _

/-- Making nodes of items stops at the first fault of their declarations. -/
theorem faultOf?_ofItems : ∀ items : List Item,
    faultOf? (Node.ofItems items) = firstFault? (Item.allDeclarations items)
  | [] => rfl
  | item :: items => by
    rw [Item.allDeclarations, firstFault?_append, ← faultOf?_ofItem item, ← faultOf?_ofItems items,
      Node.ofItems]
    cases Node.ofItem item with
    | error fault => rfl
    | ok node => cases Node.ofItems items <;> rfl

end

/-! ### The tokens of a text -/

/-- The tokens that a reading takes in on the way through a text, in order. -/
def Reading.tokens (length : Nat) (reading : Reading) (input : List Char) : List Token :=
  let start := skipIgnored input
  match _found : Token.next? reading.stage.sought (length - start.length) start with
  | none => []
  | some (token, rest) =>
    match reading.take? token with
    | none => []
    | some further => token :: further.tokens length rest
termination_by input.length
decreasing_by
  have : rest.length < (skipIgnored input).length := Token.length_lt_of_next? ‹_›
  have := length_skipIgnored_le input
  omega

/-- The tokens of a text. -/
def tokensOf (source : List Char) : List Token := Reading.tokens source.length {} source

/-- Tokens stand in a text at their places, one behind the other. -/
structure LaidOut (source : List Char) (tokens : List Token) : Prop where
  /-- Each stands where it says. -/
  stands : ∀ token ∈ tokens, ∃ before behind,
    source = before ++ token.text ++ behind ∧ token.offset = before.length
  /-- Each ends before the later ones start. -/
  ordered : tokens.Pairwise fun token later => token.offset + token.text.length ≤ later.offset

/-- A token is told where it starts. -/
theorem Token.offset_of_next? {allowed : List Terminal} {offset : Nat} {input rest : List Char}
    {token : Token} (found : next? allowed offset input = some (token, rest)) : token.offset = offset := by
  obtain ⟨terminal, -, split⟩ := List.exists_of_findSome?_eq_some found
  obtain ⟨⟨segments, after⟩, -, same⟩ := Option.map_eq_some_iff.1 split
  cases same
  rfl

/-- The tokens of the declarations of an open block. -/
def Block.declarations : Block → List Token
  | .rule _ declarations => declarations
  | .atRule _ _ items => Item.allDeclarations items

namespace Reading

variable {length : Nat} {reading further : Reading} {source input rest : List Char} {token : Token}

/-- A token that is found and taken comes before those of the rest. -/
theorem tokens_of_next? {token : Token}
    (found : Token.next? reading.stage.sought (length - (skipIgnored input).length) (skipIgnored input) =
      some (token, rest)) (taken : reading.take? token = some further) :
    reading.tokens length input = token :: further.tokens length rest := by
  rw [tokens]
  split
  · rename_i none
    rw [found] at none
    cases none
  · rename_i found'
    rw [found] at found'
    cases found'
    rw [taken]

/-- No tokens are left if only blanks and comments are. -/
theorem tokens_of_nothing (nothing : skipIgnored input = []) : reading.tokens length input = [] := by
  rw [tokens]
  split
  · rfl
  · rename_i found
    rw [nothing, Token.next?_nil] at found
    cases found

/-- The tokens of the rest of a text are laid out in the text, behind what has been read. -/
theorem laidOut_tokens (inside : input <:+ source) :
    LaidOut source (reading.tokens source.length input) ∧
      ∀ token ∈ reading.tokens source.length input, source.length - input.length ≤ token.offset := by
  fun_induction tokens source.length reading input with
  | case1 => exact ⟨⟨List.forall_mem_nil _, .nil⟩, List.forall_mem_nil _⟩
  | case2 => exact ⟨⟨List.forall_mem_nil _, .nil⟩, List.forall_mem_nil _⟩
  | case3 reading input start token rest found further taken ih =>
    obtain ⟨-, -, whole⟩ := Token.next?_eq_some found
    obtain ⟨before, split⟩ : start <:+ source := (skipIgnored_suffix input).trans inside
    have shorter : start.length ≤ input.length := length_skipIgnored_le input
    have lengths : source.length = before.length + start.length := by rw [← split, List.length_append]
    have size : start.length = token.text.length + rest.length := by rw [← whole, List.length_append]
    have place : token.offset = before.length := by
      rw [Token.offset_of_next? found]
      omega
    obtain ⟨⟨stands, ordered⟩, behind⟩ := ih ⟨before ++ token.text, by rw [List.append_assoc, whole, split]⟩
    refine ⟨⟨List.forall_mem_cons.2 ⟨⟨before, rest, ?_, place⟩, stands⟩, List.pairwise_cons.2 ⟨?_, ordered⟩⟩,
      List.forall_mem_cons.2 ⟨?_, ?_⟩⟩
    · rw [List.append_assoc, whole, split]
    · intro later mem
      have := behind later mem
      omega
    · omega
    · intro later mem
      have := behind later mem
      omega

/-- The tokens of the declarations of a reading. -/
def declarations (reading : Reading) : List Token :=
  Item.allDeclarations reading.items ++ reading.openBlocks.reverse.flatMap Block.declarations

/-- An added item has its declarations behind those read before. -/
theorem declarations_add (item : Item) (outside : ∀ block ∈ reading.openBlocks.head?, block.isAtRule = true) :
    (reading.add item).declarations = reading.declarations ++ item.declarations := by
  obtain ⟨none, added⟩ | ⟨keyword, prelude, items, outer, some, added⟩ := add_cases item outside
  · rw [added]
    simp [declarations, none, Item.allDeclarations_append, Item.allDeclarations]
  · rw [added]
    simp [declarations, some, Block.declarations, Item.allDeclarations_append, Item.allDeclarations]

/-- A step puts the token of a declaration behind the others, and nothing else. -/
theorem declarations_takes (proper : reading.Proper) (taken : reading.Takes token further) :
    further.declarations = reading.declarations ++ [token].filter (·.terminal = .declaration) := by
  cases taken with
  | «prelude» stage kind => simp [kind, declarations]
  | openAtRule stage kind => simp [kind, declarations, Block.declarations, Item.allDeclarations]
  | statement stage kind =>
    have outside := proper.blocks_of_head? stage
    rw [declarations_add]
    · simp [kind, declarations, Item.declarations]
    · exact fun block mem => outside block (List.mem_of_mem_head? mem)
  | openRule stage kind => simp [kind, declarations, Block.declarations]
  | keyword free kind outside => simp [kind, declarations]
  | selector free kind outside => simp [kind, declarations]
  | inRule free kind blocks => simp [kind, declarations, blocks, Block.declarations]
  | inAtRule free kind blocks =>
    rw [declarations_add _ (by simp [blocks, Block.isAtRule])]
    simp [kind, declarations, Item.declarations]
  | closeRule free kind blocks =>
    have outer := proper.outer
    rw [blocks] at outer
    rw [declarations_add _ fun block mem => outer block (List.mem_of_mem_head? mem)]
    simp [kind, declarations, blocks, Item.declarations, Block.declarations]
  | closeAtRule free kind blocks =>
    have outer := proper.outer
    rw [blocks] at outer
    rw [declarations_add _ fun block mem => outer block (List.mem_of_mem_head? mem)]
    simp [kind, declarations, blocks, Item.declarations, Block.declarations]
  | semicolon free kind next => simp [kind, declarations]

/-- At the end of a text the declarations are those of the reading and then the tokens of declarations that
were taken in. -/
theorem Completes.allDeclarations_eq {items : List Item} (completes : reading.Completes length input items)
    (proper : reading.Proper) : Item.allDeclarations items =
      reading.declarations ++ (reading.tokens length input).filter (·.terminal = .declaration) := by
  induction completes with
  | stop nothing final =>
    rw [tokens_of_nothing nothing, declarations, (isFree_of_accepted final).1]
    simp
  | @step reading further input rest token items found taken onward ih =>
    have takes := takes_of_take? taken
    rw [ih (proper.takes takes), declarations_takes proper takes, tokens_of_next? found taken,
      List.append_assoc, ← List.filter_append, List.singleton_append]

end Reading

/-- The first fault among the declarations of an outline is that of the first malformed token. -/
theorem firstFault?_outline {source : List Char} {items : List Item} (found : outline source = .ok items) :
    faultOf? (Node.ofItems items) = ((tokensOf source).find? Token.isMalformed).map Token.fault := by
  have completes := Reading.finish_eq_ok_iff.1 found
  rw [faultOf?_ofItems, completes.allDeclarations_eq Reading.proper_empty, Reading.declarations]
  change firstFault? ((tokensOf source).filter _) = _
  have same : (fun token : Token => decide (decide (token.terminal = .declaration) = true ∧
      token.lacksProperty = true)) = Token.isMalformed := by
    funext token
    rw [Token.isMalformed, Bool.decide_and, Bool.decide_eq_true, Bool.decide_eq_true]
    rfl
  rw [firstFault?, List.find?_filter, same]

/-- A text with an outline is refused for its first malformed token, if it has one. -/
theorem Stylesheet.read_eq_error_iff {source : String} {items : List Item}
    (outlined : outline source.toList = .ok items) {error : SyntaxError} :
    read source = .error error ↔ error.source = source.toList ∧
      ∃ token, (tokensOf source.toList).find? Token.isMalformed = some token ∧
        token.fault = error.fault := by
  rw [← Option.map_eq_some_iff, ← firstFault?_outline outlined, read, outlined]
  change (Node.ofItems items).mapError _ = _ ↔ _
  cases Node.ofItems items with
  | ok nodes => exact ⟨nofun, fun both => nomatch both.2⟩
  | error fault =>
    obtain ⟨text, other⟩ := error
    constructor
    · intro same
      cases same
      exact ⟨rfl, rfl⟩
    · rintro ⟨rfl, same⟩
      cases same
      rfl

/-- The position of a fault of a token is the place of its first character. -/
theorem SyntaxError.position_of_fault {error : SyntaxError} {token : Token} {before behind : List Char}
    (fault : error.fault = token.fault) (split : error.source = before ++ behind)
    (place : token.offset = before.length) : error.position =
      ⟨before.count '\n' + 1, (before.reverse.takeWhile (!· = '\n')).length + 1⟩ := by
  rw [position, fault, Token.fault]
  dsimp only
  rw [Position.ofOffset, split, place, List.take_left, Position.after_eq]

/-- A text that has no outline is refused for that, even if a malformed declaration stands before the place
where the outline fails. A text that has one is refused exactly if some token of a declaration is malformed.
The fault is then that of the first such token, and the position in the report is that of the first character
of the token: its line is one more than there are line feeds before it, and its column one more than there
are characters on its line before it. -/
theorem read_reports_first (source : String) :
    (∀ cause, outline source.toList = .error cause →
      Stylesheet.read source = .error ⟨source.toList, .outline cause⟩) ∧
    ∀ items, outline source.toList = .ok items →
      let tokens := tokensOf source.toList
      LaidOut source.toList tokens ∧
      ((∃ error, Stylesheet.read source = .error error) ↔ ∃ token ∈ tokens, token.isMalformed = true) ∧
      ∀ error, Stylesheet.read source = .error error →
        ∃ earlier token later before behind, tokens = earlier ++ token :: later ∧
          token.isMalformed = true ∧ (∀ other ∈ earlier, other.isMalformed = false) ∧
          source.toList = before ++ token.text ++ behind ∧ token.offset = before.length ∧
          error.fault = token.fault ∧
          error.position =
            ⟨before.count '\n' + 1, (before.reverse.takeWhile (!· = '\n')).length + 1⟩ := by
  constructor
  · intro cause failed
    rw [Stylesheet.read, failed]
    rfl
  · intro items outlined tokens
    have laid : LaidOut source.toList tokens := (Reading.laidOut_tokens (List.suffix_refl _)).1
    refine ⟨laid, ⟨?_, ?_⟩, ?_⟩
    · rintro ⟨error, refused⟩
      obtain ⟨-, token, first, -⟩ := (Stylesheet.read_eq_error_iff outlined).1 refused
      exact ⟨token, List.mem_of_find?_eq_some first, List.find?_some first⟩
    · rintro ⟨token, mem, malformed⟩
      obtain ⟨first, found⟩ := Option.isSome_iff_exists.1 (List.find?_isSome.2 ⟨token, mem, malformed⟩)
      exact ⟨⟨source.toList, first.fault⟩,
        (Stylesheet.read_eq_error_iff outlined).2 ⟨rfl, first, found, rfl⟩⟩
    · intro error refused
      obtain ⟨whole, token, first, fault⟩ := (Stylesheet.read_eq_error_iff outlined).1 refused
      obtain ⟨malformed, earlier, later, split, sound⟩ := List.find?_eq_some_iff_append.1 first
      obtain ⟨before, behind, parted, place⟩ := laid.stands token (List.mem_of_find?_eq_some first)
      have position := SyntaxError.position_of_fault fault.symm
        (whole.trans (parted.trans (List.append_assoc _ _ _))) place
      refine ⟨earlier, token, later, before, behind, split, malformed, fun other mem => ?_, parted, place,
        fault.symm, position⟩
      simpa using sound other mem

/-- A text with two malformed declarations, the first of them in a nested block behind one that is sound, with
a colon in a comment only. -/
theorem read_reports_first_nested :
    let source := "@media x \x7b\n  a \x7b b: c; d/*:*/e \x7d\n\x7d f \x7b : g \x7d"
    (∃ items, outline source.toList = .ok items) ∧
      ∃ error, Stylesheet.read source = .error error ∧ error.position = ⟨2, 13⟩ ∧
        ∃ token ∈ tokensOf source.toList, token.isMalformed = true ∧ error.fault = token.fault ∧
          token.text = "d/*:*/e ".toList := by
  intro source
  let bad : Token := ⟨.declaration, "d/*:*/e ".toList.map .plain, 23⟩
  have refused : Stylesheet.read source = .error ⟨source.toList, .noProperty bad "de".toList⟩ := by
    decide +kernel
  obtain ⟨items, outlined⟩ : ∃ items, outline source.toList = .ok items := by
    cases outlined : outline source.toList with
    | ok items => exact ⟨items, rfl⟩
    | error cause =>
      have other := (read_reports_first source).1 cause outlined
      rw [refused] at other
      cases other
  obtain ⟨-, -, reports⟩ := (read_reports_first source).2 items outlined
  obtain ⟨earlier, token, later, -, -, split, malformed, -, -, -, fault, -⟩ := reports _ refused
  refine ⟨⟨items, outlined⟩, _, refused, by decide +kernel, token, ?_, malformed, fault, ?_⟩
  · rw [split]
    exact List.mem_append_right _ List.mem_cons_self
  · rw [← (SyntaxFault.noProperty.inj fault).1]
    rfl

end ViewportScaling.Css
