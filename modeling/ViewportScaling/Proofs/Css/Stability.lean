import ViewportScaling.Proofs.Css.Agreement
import ViewportScaling.Proofs.Css.Rereading

/-!
# Tokens that do not depend on what follows

Where a plain token ends is decided by the token and the next character: a selector ends in front of an
opening brace, a declaration in front of its end, a prelude in front of either, and the name of an at-rule
in front of anything that may not stand in it. So a text may be changed behind that character, and the
token is found as before. In a text that is read to its end there is always such a character.
-/

namespace ViewportScaling.Css

open Unicode Text

/-! ### What is skipped -/

/-- A comment is split off whatever follows. -/
theorem commentEnd?_append {input text rest : List Char} (found : commentEnd? input = some (text, rest))
    (more : List Char) : commentEnd? (input ++ more) = some (text, rest ++ more) := by
  fun_induction commentEnd? input generalizing text rest with
  | case1 => cases found
  | case2 tail =>
    cases found
    rfl
  | case3 c tail other ih =>
    obtain ⟨⟨inner, after⟩, split, same⟩ := Option.map_eq_some_iff.1 found
    cases same
    have goesOn : ∀ rest', ¬(c = '*' ∧ tail ++ more = '/' :: rest') := by
      rintro rest' ⟨rfl, same⟩
      cases tail with
      | nil => cases split
      | cons d tail =>
        cases same
        exact other _ rfl rfl
    rw [List.cons_append, commentEnd?, ih split]
    · rfl
    · exact fun rest' star slash => goesOn rest' ⟨star, slash⟩

/-- A comment that ends is the same whatever is put behind. -/
theorem comment?_append_of_some {input text rest : List Char}
    (found : comment? input = some (text, rest)) (more : List Char) :
    comment? (input ++ more) = some (text, rest ++ more) := by
  unfold comment? at found
  split at found
  · obtain ⟨⟨inner, after⟩, split, same⟩ := Option.map_eq_some_iff.1 found
    cases same
    simp [comment?, commentEnd?_append split more]
  · cases found

/-- A comment in front is skipped. -/
theorem skipIgnored_of_comment? {input text rest : List Char}
    (found : comment? input = some (text, rest)) : skipIgnored input = skipIgnored rest := by
  rw [skipIgnored]
  split
  · rename_i found'
    rw [found] at found'
    cases found'
    rfl
  · rename_i none
    rw [found] at none
    cases none

/-- What is skipped of a text is skipped whatever follows. -/
theorem skipIgnored_append (input more : List Char) :
    skipIgnored (input ++ more) = skipIgnored (skipIgnored input ++ more) := by
  fun_induction skipIgnored input with
  | case1 input text rest found ih =>
    rw [skipIgnored_of_comment? (comment?_append_of_some found more), ih]
  | case2 => rfl
  | case3 c rest none spacing ih => rw [List.cons_append, skipIgnored_spacing spacing, ih]
  | case4 c rest none solid => rfl

/-- No delimiter is skipped. -/
theorem skipIgnored_of_isDelimiter {c : Char} (delimiter : isDelimiter c = true) (tail : List Char) :
    skipIgnored (c :: tail) = c :: tail := by
  simp only [isDelimiter, Bool.or_eq_true, decide_eq_true_eq] at delimiter
  rcases delimiter with (((rfl | rfl) | rfl) | rfl) | rfl <;> exact skipIgnored_of_head rfl rfl

/-! ### What stands behind a token -/

/-- What may stand behind a token of a kind, if the token is to end there. -/
def Terminal.MayEnd (rest : List Char) : Terminal → Prop
  | .selector => rest.head? = some '\x7b'
  | .declaration => ∃ c ∈ rest.head?, endsDeclaration c = true
  | .prelude => Stops rest
  | .atKeyword => ∀ c ∈ rest.head?, isNameChar c = false
  | _ => True

/-- Only the first character matters. -/
theorem Terminal.MayEnd.congr {rest rest' : List Char} {terminal : Terminal}
    (ends : terminal.MayEnd rest) (same : rest'.head? = rest.head?) : terminal.MayEnd rest' := by
  cases terminal <;> first | trivial | (simp only [MayEnd, Stops, same] at ends ⊢; exact ends)

/-- Nothing more is split off behind the segments of a text. -/
theorem next?_segments_eq_none (urls : Bool) (input : List Char) :
    Segment.next? urls (segments urls input).2 = none := by
  fun_induction segments urls input with
  | case1 input none => exact none
  | case2 input segment rest found following after split ih =>
    rw [split] at ih
    exact ih

/-- Only delimiters are no segments of their own. -/
theorem isDelimiter_of_next?_eq_none {urls : Bool} {c : Char} {tail : List Char}
    (none : Segment.next? urls (c :: tail) = none) : isDelimiter c = true := by
  unfold Segment.next? at none
  split at none
  · cases none
  · split at none
    · cases none
    · simpa using none

/-- Behind a declaration that ends in an opened address there is what may end one. -/
theorem endsDeclaration_of_reopen? {following found : List Segment} {after rest : List Char}
    (given : reopen? following after = some (found, rest)) :
    ∃ c ∈ rest.head?, endsDeclaration c = true := by
  induction following generalizing found rest with
  | nil => cases given
  | cons segment following ih =>
    simp only [reopen?] at given
    split at given
    · rename_i kept tail inner
      cases given
      exact ih inner
    · split at given
      · obtain ⟨⟨opened, tail⟩, cut, same⟩ := Option.map_eq_some_iff.1 given
        cases same
        simp only [reopenUrl?] at cut
        split at cut
        · rename_i ends
          cases cut
          obtain ⟨c, head, ends⟩ := Option.any_eq_true _ _ |>.1 ends
          refine ⟨c, ?_, ends⟩
          rw [List.append_assoc, List.head?_append, head]
          rfl
        · cases cut
      · cases given

/-- Behind every declaration there is. -/
theorem endsDeclaration_of_declaration? {input rest : List Char} {found : List Segment}
    (split : declaration? input = some (found, rest)) : ∃ c ∈ rest.head?, endsDeclaration c = true := by
  unfold declaration? at split
  split at split
  · cases split
  · simp only at split
    split at split
    · rename_i ends
      cases split
      exact Option.any_eq_true _ _ |>.1 ends
    · obtain ⟨⟨kept, left⟩, given, same⟩ := Option.map_eq_some_iff.1 split
      cases same
      exact endsDeclaration_of_reopen? given

/-- What stands behind a text that was split off lets it end there, if something stands there at all
and, behind a prelude, goes on with a brace or a semicolon. -/
theorem Terminal.mayEnd_of_match? {terminal : Terminal} {input rest : List Char}
    {found : List Segment} (matched : terminal.match? input = some (found, rest))
    (closes : terminal = .prelude → ∃ c ∈ (skipIgnored rest).head?, c = '\x7b' ∨ c = ';') :
    terminal.MayEnd rest := by
  cases terminal with
  | selector =>
    obtain ⟨c, tail, following, -, -, -, head⟩ := exists_of_selector? matched
    exact head
  | declaration => exact endsDeclaration_of_declaration? matched
  | atKeyword =>
    change atKeyword? input = _ at matched
    unfold atKeyword? at matched
    split at matched
    · rename_i first tail
      simp only at matched
      split at matched
      · cases matched
        intro c head
        have stop := List.head?_dropWhile_not isNameChar tail
        rw [show (tail.dropWhile isNameChar).head? = some c from head] at stop
        simpa using stop
      · cases matched
    · cases matched
  | «prelude» =>
    have nothing := next?_segments_eq_none true input
    rw [(exists_of_prelude? matched).1] at nothing
    obtain ⟨c, head, mark⟩ := closes rfl
    cases rest with
    | nil =>
      rw [skipIgnored] at head
      cases head
    | cons d tail =>
      have delimiter := isDelimiter_of_next?_eq_none nothing
      rw [skipIgnored_of_isDelimiter delimiter] at head
      cases head
      refine ⟨c, rfl, delimiter, ?_⟩
      rcases mark with rfl | rfl <;> rfl
  | _ => trivial

namespace Reading.Completes

variable {length offset : Nat} {reading further : Reading} {input rest : List Char} {token : Token}
  {items : List Item}

/-- A text that is read to its end from inside a head goes on with a token. -/
theorem exists_next? (onward : further.Completes length rest items)
    (head : further.stage.isFree = false) : ∃ offset token tail,
      Token.next? further.stage.sought offset (skipIgnored rest) = some (token, tail) := by
  cases onward with
  | stop nothing final =>
    rw [(isFree_of_accepted final).2] at head
    cases head
  | step found taken onward => exact ⟨_, _, _, found⟩

/-- Behind a prelude comes a brace or a semicolon. -/
theorem exists_mark {keyword params : Token} (onward : further.Completes length rest items)
    (stage : further.stage = .prelude keyword params) :
    ∃ c ∈ (skipIgnored rest).head?, c = '\x7b' ∨ c = ';' := by
  obtain ⟨offset, next, tail, found⟩ := onward.exists_next? (by rw [stage]; rfl)
  obtain ⟨mem, matched, whole⟩ := Token.next?_eq_some found
  rw [stage] at mem
  simp only [Stage.sought, List.mem_cons, List.not_mem_nil, or_false] at mem
  rw [← whole, Token.text]
  rcases mem with kind | kind <;> rw [kind] at matched
  · exact ⟨'\x7b', by rw [text_of_single? matched]; rfl, .inl rfl⟩
  · exact ⟨';', by rw [text_of_single? matched]; rfl, .inr rfl⟩

/-- A token that is taken in on the way to the end of a text is followed by something that lets it end, and
the name of an at-rule by something at all. -/
theorem mayEnd (found : Token.next? reading.stage.sought offset input = some (token, rest))
    (taken : reading.take? token = some further) (onward : further.Completes length rest items) :
    token.terminal.MayEnd rest ∧ (token.terminal = .atKeyword → rest ≠ []) := by
  have takes := takes_of_take? taken
  constructor
  · refine Terminal.mayEnd_of_match? (Token.next?_eq_some found).2.1 fun kind => ?_
    have stage : ∃ keyword params, further.stage = .prelude keyword params := by
      cases takes with
      | «prelude» => exact ⟨_, _, rfl⟩
      | _ => simp_all
    obtain ⟨keyword, params, stage⟩ := stage
    exact onward.exists_mark stage
  · rintro kind rfl
    have head : further.stage.isFree = false := by
      cases takes with
      | keyword => rfl
      | _ => simp_all
    obtain ⟨offset, next, tail, found'⟩ := onward.exists_next? head
    have nothing : skipIgnored [] = [] := by rw [skipIgnored]; rfl
    rw [nothing, Token.next?_nil] at found'
    cases found'

end Reading.Completes

/-! ### Tokens that are found again -/

/-- The kinds of token that are tried before a kind where that is looked for. -/
def Terminal.triedBefore : Terminal → List Terminal
  | .selector => [.declaration]
  | .atKeyword => [.declaration, .selector]
  | _ => []

/-- Before a token other than a brace or a semicolon only these kinds are tried. -/
theorem Stage.exists_sought {stage : Stage} {terminal : Terminal} (mem : terminal ∈ stage.sought)
    (kind : terminal.isText = true ∨ terminal = .atKeyword) :
    ∃ before after, stage.sought = before ++ terminal :: after ∧
      ∀ other ∈ before, other ∈ terminal.triedBefore := by
  rcases kind with kind | rfl
  · cases stage <;> cases terminal <;> first
      | exact absurd kind (by decide)
      | exact ⟨[], _, rfl, by simp⟩
      | exact ⟨[_], _, rfl, by simp [Terminal.triedBefore]⟩
      | simp [sought] at mem
  · cases stage <;> first
      | exact ⟨[_], _, rfl, by simp [Terminal.triedBefore]⟩
      | exact ⟨[_, _], _, rfl, by simp [Terminal.triedBefore]⟩
      | simp [sought] at mem

/-- At the front of a text a token of a kind is found that has a given text, and nothing is skipped before
it. -/
structure Token.FoundAs (stage : Stage) (offset : Nat) (terminal : Terminal) (text rest : List Char) :
    Prop where
  /-- Nothing is skipped. -/
  starts : skipIgnored (text ++ rest) = text ++ rest
  /-- The token is found. -/
  found : ∃ token, next? stage.sought offset (text ++ rest) = some (token, rest) ∧
    token.terminal = terminal ∧ token.text = text

/-- A token is found if its text is split off, and not as a token that is tried before. -/
theorem Token.foundAs_of_match? {stage : Stage} {terminal : Terminal} (mem : terminal ∈ stage.sought)
    (kind : terminal.isText = true ∨ terminal = .atKeyword) {text rest : List Char}
    (starts : skipIgnored (text ++ rest) = text ++ rest)
    (others : ∀ other ∈ terminal.triedBefore, other.match? (text ++ rest) = none)
    (matched : ∃ found, terminal.match? (text ++ rest) = some (found, rest) ∧
      Segment.textAll found = text) (offset : Nat) : FoundAs stage offset terminal text rest := by
  obtain ⟨before, after, sought, tried⟩ := Stage.exists_sought mem kind
  obtain ⟨found, split, spelled⟩ := matched
  refine ⟨starts, ⟨terminal, found, offset⟩, ?_, rfl, spelled⟩
  rw [sought]
  exact next?_of_match? (fun other mem => others other (tried other mem)) split offset

/-- A brace or semicolon is found in front of anything. -/
theorem Token.foundAs_mark {stage : Stage} {terminal : Terminal} (mem : terminal ∈ stage.sought)
    {mark : Char} (pair : (mark, terminal) ∈ marks) {token : Token} {input rest : List Char}
    (matched : single? mark input = some (token.segments, rest)) (offset : Nat) (rest' : List Char) :
    FoundAs stage offset terminal token.text rest' := by
  rw [Token.text, text_of_single? matched]
  exact ⟨skipIgnored_mark pair rest', _, next?_mark pair mem offset rest', rfl, rfl⟩

/-- A plain token is found again in front of another text that lets it end. -/
theorem Token.foundAs_again {stage : Stage} {offset : Nat} {input rest : List Char} {token : Token}
    (found : next? stage.sought offset input = some (token, rest))
    (plain : token.terminal.isText = true → token.IsPlain) {rest' : List Char}
    (ends : token.terminal.MayEnd rest') (offset' : Nat) :
    FoundAs stage offset' token.terminal token.text rest' := by
  obtain ⟨mem, matched, -⟩ := next?_eq_some found
  cases kind : token.terminal with
  | endOfText =>
    rw [kind] at matched
    cases matched
  | openingBrace =>
    rw [kind] at matched mem
    exact foundAs_mark mem (by decide) matched offset' rest'
  | closingBrace =>
    rw [kind] at matched mem
    exact foundAs_mark mem (by decide) matched offset' rest'
  | semicolon =>
    rw [kind] at matched mem
    exact foundAs_mark mem (by decide) matched offset' rest'
  | atKeyword =>
    rw [kind] at matched mem ends
    obtain ⟨name, spelled, named⟩ := exists_name_of_atKeyword? matched
    have spelled : token.text = '@' :: name := spelled
    rw [spelled]
    refine foundAs_of_match? mem (.inr rfl) (skipIgnored_of_head rfl rfl) (fun other tried => ?_)
      ⟨_, named.atKeyword? ends, Segment.textAll_map_plain _⟩ offset'
    simp only [Terminal.triedBefore, List.mem_cons, List.not_mem_nil, or_false] at tried
    rcases tried with rfl | rfl <;> rfl
  | selector =>
    rw [kind] at matched mem ends
    have opened := (plain (by rw [kind]; rfl)).of_selector? matched
    obtain ⟨tail, rfl⟩ := List.head?_eq_some_iff.1 ends
    refine foundAs_of_match? mem (.inl rfl) (opened.skipIgnored (by decide) tail) (fun other tried => ?_)
      (opened.selector? tail) offset'
    rw [List.mem_singleton.1 tried]
    exact opened.declaration?_eq_none tail
  | declaration =>
    rw [kind] at matched mem ends
    have opened := (plain (by rw [kind]; rfl)).of_declaration? matched
    obtain ⟨c, head, closes⟩ := ends
    obtain ⟨tail, rfl⟩ := List.head?_eq_some_iff.1 head
    have star : c ≠ '*' := by
      rintro rfl
      cases closes
    exact foundAs_of_match? mem (.inl rfl) (opened.skipIgnored star tail) (by simp [Terminal.triedBefore])
      (opened.declaration? closes tail) offset'
  | «prelude» =>
    rw [kind] at matched mem ends
    have scanned := (plain (by rw [kind]; rfl)).of_prelude? matched
    have split := scanned.prelude? ends
    obtain ⟨c, head, delimiter, -⟩ := ends
    obtain ⟨tail, rfl⟩ := List.head?_eq_some_iff.1 head
    have star : c ≠ '*' := by
      rintro rfl
      cases delimiter
    exact foundAs_of_match? mem (.inl rfl) (scanned.skipIgnored star tail)
      (by simp [Terminal.triedBefore]) split offset'

end ViewportScaling.Css
