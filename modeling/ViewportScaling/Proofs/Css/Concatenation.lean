import ViewportScaling.Proofs.Css.Stability

/-!
# Stylesheets one behind the other

Where a token of a plain source ends is decided by the token and the next character, which is part of
the source as well. So the tokens of a plain source are the same whatever is put behind it, and what is
put behind it is read from where the source ends. There is one difference to reading it from the start:
behind an item a declaration is looked for first, at the top level, too, where none may stand. It is found
if a selector leaves an address open that swallows the braces, and then the two sources together are no
stylesheet.
-/

namespace ViewportScaling.Css

open Unicode Text

/-- Where a token may end, it may still end if the text goes on, unless a keyword had nothing behind it. -/
theorem Terminal.MayEnd.append {rest : List Char} {terminal : Terminal} (ends : terminal.MayEnd rest)
    (nonempty : terminal = .atKeyword → rest ≠ []) (more : List Char) :
    terminal.MayEnd (rest ++ more) := by
  cases rest with
  | cons c rest => exact ends.congr rfl
  | nil =>
    cases terminal with
    | selector => cases ends
    | declaration =>
      obtain ⟨c, head, -⟩ := ends
      cases head
    | «prelude» =>
      obtain ⟨c, head, -⟩ := ends
      cases head
    | atKeyword => exact absurd rfl (nonempty rfl)
    | _ => trivial

/-- A token is found as well if kinds of which none matches are tried before, or others behind. -/
theorem Token.next?_among {before allowed after : List Terminal} {offset : Nat}
    {input rest : List Char} {token : Token} (others : ∀ other ∈ before, other.match? input = none)
    (found : next? allowed offset input = some (token, rest)) :
    next? (before ++ (allowed ++ after)) offset input = some (token, rest) := by
  unfold next? at found ⊢
  rw [List.findSome?_append, List.findSome?_eq_none_iff.2 ?_, Option.none_or, List.findSome?_append, found]
  · rfl
  · intro other mem
    rw [others other mem]
    rfl

namespace Reading

variable {reading further : Reading} {token : Token}

/-- Adding a whole item leaves what is left over. -/
theorem stage_add (reading : Reading) (item : Item) : (reading.add item).stage = reading.stage := by
  unfold add
  split <;> rfl

/-- Outside all blocks a semicolon is taken in behind the head of an at-rule only. -/
theorem take?_semicolon (free : reading.stage.isFree = true) (none : reading.openBlocks = [])
    (kind : token.terminal = .semicolon) : reading.take? token = .none := by
  rw [take?_eq_of_isFree token free]
  unfold take?
  rw [kind, none]

/-- A step after which the text may end leads behind an item. -/
theorem stage_of_take? (taken : reading.take? token = some further) (none : further.openBlocks = [])
    (free : further.stage.isFree = true) : further.stage = .between := by
  cases takes_of_take? taken with
  | «prelude» stage kind => cases free
  | openAtRule stage kind => cases none
  | statement stage kind => rw [stage_add]
  | openRule stage kind => cases none
  | keyword free' kind outside => cases free
  | selector free' kind outside => cases free
  | inRule free' kind blocks => rfl
  | inAtRule free' kind blocks => rw [stage_add]
  | closeRule free' kind blocks => rw [stage_add]
  | closeAtRule free' kind blocks => rw [stage_add]
  | semicolon free' kind next =>
    rw [take?_semicolon free' none kind] at taken
    cases taken

/-- A reading that takes in a last token stands behind an item. -/
theorem stage_of_last {length : Nat} {rest : List Char} {items : List Item}
    (taken : reading.take? token = some further) (onward : further.Completes length rest items)
    (nothing : skipIgnored rest = []) : further.stage = .between := by
  cases onward with
  | stop _ final =>
    obtain ⟨none, free⟩ := isFree_of_accepted final
    exact stage_of_take? taken none free
  | step found _ _ =>
    rw [nothing, Token.next?_nil] at found
    cases found

/-- Over a plain text in front of another a reading comes to where the other text starts. If it has read a
token by then, it stands behind an item. -/
theorem finish_append {length : Nat} {input : List Char} {items : List Item}
    (completes : reading.Completes length input items)
    (plain : Item.EveryOf (fun terminal token => terminal.isText = true → token.IsPlain) items)
    {before : List Node} {reading' : Reading} (agrees : reading.Agrees before reading')
    (length' : Nat) (more : List Char) :
    ∃ last, reading'.finish length' (input ++ more) = last.finish length' more ∧
      last.openBlocks = [] ∧ Item.AgreeBehind before items last.items ∧
      (skipIgnored input = [] ∧ last = reading' ∨ skipIgnored input ≠ [] ∧ last.stage = .between) := by
  induction completes generalizing reading' with
  | @stop reading input nothing final =>
    have blocks := agrees.blocks
    rw [(isFree_of_accepted final).1] at blocks
    refine ⟨reading', finish_congr ?_, List.forall₂_nil_left_iff.1 blocks, agrees.items,
      .inl ⟨nothing, rfl⟩⟩
    rw [skipIgnored_append, nothing, List.nil_append]
  | @step reading further input rest token items found taken onward ih =>
    have whole := (Token.next?_eq_some found).2.2
    have some : skipIgnored input ≠ [] := by
      intro nothing
      rw [nothing, Token.next?_nil] at found
      cases found
    have here := (Every.of_takes (takes_of_take? taken) (onward.every plain)).2
    obtain ⟨ends, nonempty⟩ := onward.mayEnd found taken
    obtain ⟨starts, token', found', kind, text⟩ := Token.foundAs_again found (fun text => here text text)
      (ends.append nonempty more) (length' - (token.text ++ (rest ++ more)).length)
    rw [← agrees.stage.sought] at found'
    obtain ⟨further', taken', agrees'⟩ := agrees.take? kind (.of_text text _) taken
    obtain ⟨last, onward', blocks, same, stage⟩ := ih plain agrees'
    refine ⟨last, ?_, blocks, same, .inr ⟨some, ?_⟩⟩
    · rw [← onward', ← finish_of_next? starts found' taken']
      refine finish_congr ?_
      rw [skipIgnored_append, ← whole, List.append_assoc]
    · rcases stage with ⟨nothing, rfl⟩ | ⟨-, stage⟩
      · have final := stage_of_last taken onward nothing
        have pair := agrees'.stage
        rw [final] at pair
        generalize last.stage = stage at pair ⊢
        cases pair
        rfl
      · exact stage

/-- Behind an item at the top level no text is read to its end that starts as a declaration does. -/
theorem declaration?_of_completes {length : Nat} {input : List Char} {items : List Item}
    (blocks : reading.openBlocks = []) (stage : reading.stage = .between)
    (completes : reading.Completes length input items) : declaration? (skipIgnored input) = none := by
  have free : reading.stage.isFree = true := by rw [stage]; rfl
  cases completes with
  | stop nothing final =>
    rw [nothing]
    rfl
  | step found taken onward =>
    by_contra some
    obtain ⟨⟨segments, rest⟩, split⟩ := Option.ne_none_iff_exists'.1 some
    have split : Terminal.declaration.match? (skipIgnored input) = _ := split
    have first : Token.next? Stage.between.sought (length - (skipIgnored input).length)
        (skipIgnored input) = _ := @Token.next?_of_match? [] _ .declaration _ _ _ (by simp) split _
    rw [stage] at found
    cases found.symm.trans first
    rw [take?_eq_of_isFree _ free] at taken
    unfold take? at taken
    rw [blocks] at taken
    cases taken

/-- Behind an item at the top level a text is read as from the start, if no declaration is found there. -/
theorem Completes.behind {length : Nat} {input : List Char} {items : List Item}
    (completes : Completes length {} input items) (none : declaration? (skipIgnored input) = none)
    {before : List Node} {last : Reading} (blocks : last.openBlocks = []) (stage : last.stage = .between)
    (nodes : Node.ofItems last.items = .ok before) (length' : Nat) :
    ∃ items', last.Completes length' input items' ∧ Item.AgreeBehind before items items' := by
  have agrees : Agrees before {} { last with stage := .start } := by
    refine ⟨fun others found => ?_, by rw [blocks]; exact .nil, .start⟩
    rw [Node.ofItems_nil.1 found, List.append_nil]
    exact nodes
  have free : last.stage.isFree = true := by rw [stage]; rfl
  cases completes with
  | stop nothing final =>
    refine ⟨last.items, .stop nothing ?_, agrees.items⟩
    unfold accepted
    rw [stage, blocks]
    rfl
  | @step _ further _ rest token _ found taken onward =>
    let token' := { token with offset := length' - (skipIgnored input).length }
    have kind : token'.terminal = token.terminal := rfl
    have text : token'.text = token.text := rfl
    obtain ⟨further', taken', agrees'⟩ := agrees.take? kind (.of_text text _) taken
    rw [← take?_eq_of_isFree token' free] at taken'
    obtain ⟨items', completes', same⟩ := onward.of_agrees agrees' length'
    refine ⟨items', .step ?_ taken' completes', same⟩
    -- The token is found behind the item as well: only declarations are looked for before it there.
    rw [stage]
    have others : ∀ other ∈ [Terminal.declaration], other.match? (skipIgnored input) = .none := by
      intro other mem
      rw [List.mem_singleton.1 mem]
      exact none
    exact @Token.next?_among _ _ [.closingBrace, .semicolon] _ _ _ _ others (Token.next?_offset found _)

end Reading

/-- A plain stylesheet and another one behind it are read as the nodes of both, if and only if the other
one does not start as a declaration does, or there is no token in the first one. -/
theorem Stylesheet.read_append {first second : String} {front back : Stylesheet}
    (plain : IsPlainSource first.toList) (one : read first = .ok front) (two : read second = .ok back) :
    read (first ++ second) = .ok (front ++ back) ↔
      skipIgnored first.toList = [] ∨ declaration? (skipIgnored second.toList) = none := by
  obtain ⟨items, early, nodes⟩ := read_eq_ok_iff.1 one
  obtain ⟨others, late, nodes'⟩ := read_eq_ok_iff.1 two
  have completes := Reading.finish_eq_ok_iff.1 early
  have completes' := Reading.finish_eq_ok_iff.1 late
  have refl : Reading.Agrees [] {} {} := ⟨fun _ found => found, .nil, .start⟩
  let length := (first ++ second).toList.length
  obtain ⟨last, finished, blocks, same, stage⟩ :=
    Reading.finish_append completes (plain items early) refl length second.toList
  have before : Node.ofItems last.items = .ok front := same front nodes
  have joined : outline (first ++ second).toList = last.finish length second.toList := by
    rw [← finished]
    exact congrArg (Reading.finish length {}) String.toList_append
  have read_iff : read (first ++ second) = .ok (front ++ back) ↔ ∃ items',
      last.Completes length second.toList items' ∧ Item.AgreeBehind front others items' := by
    rw [read_eq_ok_iff, joined]
    constructor
    · rintro ⟨items', read', found⟩
      refine ⟨items', Reading.finish_eq_ok_iff.1 read', fun nodes'' found' => ?_⟩
      rw [nodes'] at found'
      cases found'
      exact found
    · rintro ⟨items', read', agree⟩
      exact ⟨items', Reading.finish_eq_ok_iff.2 read', agree back nodes'⟩
  rw [read_iff]
  rcases stage with ⟨nothing, rfl⟩ | ⟨some, stage⟩
  · refine ⟨fun _ => .inl nothing, fun _ => completes'.of_agrees ⟨fun others found => ?_, .nil, .start⟩ _⟩
    rw [Node.ofItems_nil.1 found, List.append_nil]
    exact before
  · rw [or_iff_right some]
    exact ⟨fun ⟨_, read', _⟩ => Reading.declaration?_of_completes blocks stage read',
      fun none => completes'.behind none blocks stage before _⟩

/-- Rules behind a rule, with a string and an address. -/
theorem Stylesheet.read_append_rules :
    let first := "a \x7b b: url(;) \x7d"
    let second := "@media x \x7b c \x7b d: \"\x7d\" \x7d \x7d"
    let front := [Node.rule "a" [⟨"b", "url(;)", false⟩]]
    let back := [Node.atRule "media" "x" true [.rule "c" [⟨"d", "\"\x7d\"", false⟩]]]
    IsPlainSource first.toList ∧ read first = .ok front ∧ read second = .ok back ∧
      read (first ++ second) = .ok (front ++ back) := by
  have plain : IsPlainSource "a \x7b b: url(;) \x7d".toList := by decide +kernel
  have one : read "a \x7b b: url(;) \x7d" = .ok [.rule "a" [⟨"b", "url(;)", false⟩]] := by decide +kernel
  have two : read "@media x \x7b c \x7b d: \"\x7d\" \x7d \x7d" =
      .ok [.atRule "media" "x" true [.rule "c" [⟨"d", "\"\x7d\"", false⟩]]] := by decide +kernel
  exact ⟨plain, one, two, (read_append plain one two).2 (.inr (by decide +kernel))⟩

/-- A selector that opens an address over its brace is read at the start of a text, but not behind a
rule. -/
theorem Stylesheet.read_append_open :
    IsPlainSource "b \x7b\x7d ".toList ∧ read "b \x7b\x7d " = .ok [.rule "b" []] ∧
      read "a url(\x7bx:y);\x7d" = .ok [.rule "a url(" [⟨"x", "y)", false⟩]] ∧
      ∀ sheet, read ("b \x7b\x7d " ++ "a url(\x7bx:y);\x7d") ≠ .ok sheet := by
  refine ⟨by decide +kernel, by decide +kernel, by decide +kernel, fun sheet found => ?_⟩
  have fails : (read ("b \x7b\x7d " ++ "a url(\x7bx:y);\x7d")).toOption = none := by decide +kernel
  rw [found] at fails
  cases fails

end ViewportScaling.Css
