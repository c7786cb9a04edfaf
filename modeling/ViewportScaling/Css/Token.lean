import ViewportScaling.Css.Segment
import ViewportScaling.Unicode.Blank
import ViewportScaling.Unicode.Word

/-!
# Tokens of a stylesheet

A run of text before an opening brace is a selector, and a run before a semicolon or a closing brace
is a declaration; behind the name of an at-rule a run is its prelude. Addresses are read whole in
preludes and declarations. A declaration that would end at the wrong place because an address
swallowed its end gives the address up again, the last one first.
-/

namespace ViewportScaling.Css

open Unicode

/-- The kinds of token. -/
inductive Terminal where
  /-- The end of the text. -/
  | endOfText
  /-- The name of an at-rule with its sign. -/
  | atKeyword
  /-- A declaration without its end. -/
  | declaration
  /-- An opening brace. -/
  | openingBrace
  /-- The text between the name of an at-rule and its block or end. -/
  | prelude
  /-- A closing brace. -/
  | closingBrace
  /-- The text before the block of a rule. -/
  | selector
  /-- A semicolon. -/
  | semicolon
deriving DecidableEq, Repr

/-- The name of a kind of token in messages. -/
def Terminal.name : Terminal → String
  | .endOfText => "$END"
  | .atKeyword => "AT_KEYWORD"
  | .declaration => "DECLARATION"
  | .openingBrace => "LBRACE"
  | .prelude => "PRELUDE"
  | .closingBrace => "RBRACE"
  | .selector => "SELECTOR"
  | .semicolon => "_SEMI"

/-- Splits off the segments of a prelude, which does not start with a blank. -/
def prelude? (input : List Char) : Option (List Segment × List Char) :=
  match Segment.next? true input with
  | none => none
  | some (first, rest) =>
    if first.text.all isBlank then none
    else
      let (following, after) := segments true rest
      some (first :: following, after)

/-- Splits off the first character of a selector or declaration. -/
def opening? : List Char → Option (Char × List Char)
  | [] => none
  | c :: rest => if isBlank c || isDelimiter c || c = '@' then none else some (c, rest)

/-- Splits off the segments of a selector, which a brace must follow. -/
def selector? (input : List Char) : Option (List Segment × List Char) :=
  match opening? input with
  | none => none
  | some (c, rest) =>
    let (following, after) := segments false rest
    if after.head? = some '\x7b' then some (.plain c :: following, after) else none

/-- Whether a character may end a declaration. -/
def endsDeclaration (c : Char) : Bool := c = ';' || c = '\x7d'

/-- Reads an address as single characters up to a brace or semicolon inside it. The text ends there if
that character may end a declaration. -/
def reopenUrl? (content : List Char) : Option (List Segment × List Char) :=
  let goesOn := fun c => !(c = '\x7b' || endsDeclaration c)
  let tail := content.dropWhile goesOn
  if tail.head?.any endsDeclaration then
    some (('u' :: 'r' :: 'l' :: '(' :: content.takeWhile goesOn).map .plain, tail)
  else none

/-- Gives up the last address that holds an end for the declaration: the segments up to that end, and
the rest. -/
def reopen? : List Segment → List Char → Option (List Segment × List Char)
  | [], _ => none
  | segment :: following, after =>
    match reopen? following after with
    | some (kept, rest) => some (segment :: kept, rest)
    | none =>
      match segment with
      | .url content =>
        (reopenUrl? content).map fun (opened, tail) =>
          (opened, tail ++ ')' :: Segment.textAll following ++ after)
      | _ => none

/-- Splits off the segments of a declaration, which a semicolon or closing brace must follow. -/
def declaration? (input : List Char) : Option (List Segment × List Char) :=
  match opening? input with
  | none => none
  | some (c, rest) =>
    let (following, after) := segments true rest
    if after.head?.any endsDeclaration then some (.plain c :: following, after)
    else (reopen? following after).map fun (kept, rest) => (.plain c :: kept, rest)

/-- Whether a character may start the name of an at-rule. -/
def startsKeyword (c : Char) : Bool :=
  ('A' ≤ c && c ≤ 'Z') || ('a' ≤ c && c ≤ 'z') || c = '_' || c = '-'

/-- Splits off the name of an at-rule with its sign. -/
def atKeyword? : List Char → Option (List Segment × List Char)
  | '@' :: c :: rest =>
    let inName := fun d => isWord d || d = '-'
    if startsKeyword c then
      some (('@' :: c :: rest.takeWhile inName).map .plain, rest.dropWhile inName)
    else none
  | _ => none

/-- Splits off one given character. -/
def single? (mark : Char) : List Char → Option (List Segment × List Char)
  | [] => none
  | c :: rest => if c = mark then some ([.plain c], rest) else none

/-- Splits a token of one kind off a text. -/
def Terminal.match? : Terminal → List Char → Option (List Segment × List Char)
  | .endOfText => fun _ => none
  | .atKeyword => atKeyword?
  | .declaration => declaration?
  | .openingBrace => single? '\x7b'
  | .prelude => prelude?
  | .closingBrace => single? '\x7d'
  | .selector => selector?
  | .semicolon => single? ';'

/-- A token with its place in the text. -/
structure Token where
  /-- The kind of token. -/
  terminal : Terminal
  /-- The segments it was read in. -/
  segments : List Segment
  /-- The number of characters before it. -/
  offset : Nat
deriving DecidableEq, Repr

/-- The text of a token. -/
def Token.text (token : Token) : List Char := Segment.textAll token.segments

/-- Splits off the first token of the kinds allowed, tried in order. -/
def Token.next? (allowed : List Terminal) (offset : Nat) (input : List Char) :
    Option (Token × List Char) :=
  allowed.findSome? fun terminal =>
    (terminal.match? input).map fun (segments, rest) => (⟨terminal, segments, offset⟩, rest)

/-- Whether a character may stand between tokens. -/
def isSpacing (c : Char) : Bool :=
  c = ' ' || c = '\t' || c = '\x0c' || c = '\r' || c = '\n'

/-- The text from the next character that belongs to no comment and no spacing. -/
def skipIgnored (input : List Char) : List Char :=
  match _found : comment? input with
  | some (_, rest) => skipIgnored rest
  | none =>
    match input with
    | [] => []
    | c :: rest => if isSpacing c then skipIgnored rest else c :: rest
termination_by input.length
decreasing_by
  · exact length_lt_of_comment? ‹_›
  · simp

/-! ### Tokens take text from the front -/

/-- The opening character of a token is the first one of the input. -/
theorem append_of_opening? {input rest : List Char} {c : Char} (h : opening? input = some (c, rest)) :
    c :: rest = input := by
  cases input with
  | nil => simp [opening?] at h
  | cons d tail =>
    simp only [opening?] at h
    split at h
    · simp at h
    · simp at h
      simp [h]

/-- The text of a prelude is not empty and stands at the front of the input. -/
theorem append_of_prelude? {input rest : List Char} {found : List Segment}
    (h : prelude? input = some (found, rest)) :
    Segment.textAll found ++ rest = input ∧ Segment.textAll found ≠ [] := by
  unfold prelude? at h
  split at h
  · simp at h
  · rename_i first tail next
    split at h
    · simp at h
    · cases h
      rw [Segment.textAll_cons, List.append_assoc, append_segments]
      exact ⟨Segment.append_of_next? next, by simp [Segment.text_ne_nil_of_next? next]⟩

theorem append_of_selector? {input rest : List Char} {found : List Segment}
    (h : selector? input = some (found, rest)) :
    Segment.textAll found ++ rest = input ∧ Segment.textAll found ≠ [] := by
  unfold selector? at h
  split at h
  · simp at h
  · rename_i c tail next
    simp only at h
    split at h
    · cases h
      rw [Segment.textAll_cons, List.append_assoc, append_segments]
      exact ⟨append_of_opening? next, by simp⟩
    · simp at h

/-- An address that is opened again to end a declaration in it loses nothing. -/
theorem append_of_reopen? {following found : List Segment} {after rest : List Char}
    (h : reopen? following after = some (found, rest)) :
    Segment.textAll found ++ rest = Segment.textAll following ++ after := by
  induction following generalizing found rest with
  | nil => simp [reopen?] at h
  | cons segment following ih =>
    simp only [reopen?] at h
    split at h
    · rename_i kept tail inner
      cases h
      rw [Segment.textAll_cons, List.append_assoc, ih inner, Segment.textAll_cons,
        List.append_assoc]
    · split at h
      · rename_i content
        obtain ⟨⟨opened, tail⟩, cut, same⟩ := Option.map_eq_some_iff.1 h
        cases same
        simp only [reopenUrl?] at cut
        split at cut
        · cases cut
          rw [Segment.textAll_map_plain, Segment.textAll_cons]
          simp only [Segment.text, List.cons_append, List.append_assoc, List.nil_append]
          rw [← List.append_assoc (List.takeWhile _ _) (List.dropWhile _ _),
            List.takeWhile_append_dropWhile]
        · simp at cut
      · simp at h

/-- The text of a declaration is not empty and stands at the front of the input. -/
theorem append_of_declaration? {input rest : List Char} {found : List Segment}
    (h : declaration? input = some (found, rest)) :
    Segment.textAll found ++ rest = input ∧ Segment.textAll found ≠ [] := by
  unfold declaration? at h
  split at h
  · simp at h
  · rename_i c tail next
    simp only at h
    split at h
    · cases h
      rw [Segment.textAll_cons, List.append_assoc, append_segments]
      exact ⟨append_of_opening? next, by simp⟩
    · obtain ⟨⟨kept, left⟩, cut, same⟩ := Option.map_eq_some_iff.1 h
      cases same
      rw [Segment.textAll_cons, List.append_assoc, append_of_reopen? cut, append_segments]
      exact ⟨append_of_opening? next, by simp⟩

theorem append_of_atKeyword? {input rest : List Char} {found : List Segment}
    (h : atKeyword? input = some (found, rest)) :
    Segment.textAll found ++ rest = input ∧ Segment.textAll found ≠ [] := by
  unfold atKeyword? at h
  split at h
  · simp only at h
    split at h
    · cases h
      rw [Segment.textAll_map_plain]
      simp
    · simp at h
  · simp at h

theorem append_of_single? {mark : Char} {input rest : List Char} {found : List Segment}
    (h : single? mark input = some (found, rest)) :
    Segment.textAll found ++ rest = input ∧ Segment.textAll found ≠ [] := by
  unfold single? at h
  split at h
  · simp at h
  · split at h
    · cases h
      simp
    · simp at h

/-- What a kind of token splits off is a nonempty front of the text. -/
theorem Terminal.append_of_match? {terminal : Terminal} {input rest : List Char}
    {found : List Segment} (h : terminal.match? input = some (found, rest)) :
    Segment.textAll found ++ rest = input ∧ Segment.textAll found ≠ [] := by
  cases terminal with
  | endOfText => simp [match?] at h
  | atKeyword => exact append_of_atKeyword? h
  | declaration => exact append_of_declaration? h
  | openingBrace => exact append_of_single? h
  | prelude => exact append_of_prelude? h
  | closingBrace => exact append_of_single? h
  | selector => exact append_of_selector? h
  | semicolon => exact append_of_single? h

/-- So it is with each token, whatever kinds are allowed. -/
theorem Token.append_of_next? {allowed : List Terminal} {offset : Nat} {input rest : List Char}
    {token : Token} (h : next? allowed offset input = some (token, rest)) :
    token.text ++ rest = input ∧ token.text ≠ [] := by
  obtain ⟨terminal, _, found⟩ := List.exists_of_findSome?_eq_some h
  obtain ⟨⟨segments, after⟩, matched, same⟩ := Option.map_eq_some_iff.1 found
  cases same
  exact Terminal.append_of_match? matched

/-- A token takes at least one character. -/
theorem Token.length_lt_of_next? {allowed : List Terminal} {offset : Nat}
    {input rest : List Char} {token : Token}
    (h : next? allowed offset input = some (token, rest)) : rest.length < input.length := by
  obtain ⟨whole, nonempty⟩ := append_of_next? h
  have := List.length_pos_iff.2 nonempty
  rw [← whole]
  simp
  omega

/-- Skipping what stands between tokens adds nothing. -/
theorem length_skipIgnored_le (input : List Char) :
    (skipIgnored input).length ≤ input.length := by
  fun_induction skipIgnored input with
  | case1 input text rest found ih =>
    have := length_lt_of_comment? found
    omega
  | case2 => simp
  | case3 c rest _ spacing ih =>
    simp
    omega
  | case4 c rest _ other => simp

end ViewportScaling.Css
