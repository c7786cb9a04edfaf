import ViewportScaling.Proofs.Css.InertComments

/-!
# Where a selector and a declaration overlap

A selector ends in front of an opening brace, a declaration in front of a semicolon or a closing brace, and
both pass over strings. But only a declaration passes over addresses. So the two go the same way up to the
first address with a brace or a semicolon in it, where the selector stops and the declaration may go on. If an
opening brace comes first there, both are found at the same place, and which of the two a text starts with
depends on the order in which they are tried. There is no other such case.
-/

namespace ViewportScaling.Css

open Unicode

/-! ### What addresses hide -/

/-- Whether a character ends a selector or a declaration. -/
def endsText (c : Char) : Bool := c = '\x7b' || endsDeclaration c

/-- The first brace or semicolon that an address hides. -/
def Segment.hidden? : Segment → Option Char
  | .url content => content.find? endsText
  | _ => none

/-- The first brace or semicolon that is hidden in segments. -/
def hiddenIn? (segments : List Segment) : Option Char := segments.findSome? Segment.hidden?

/-- What the first segment hides comes first. -/
theorem hiddenIn?_cons (segment : Segment) (following : List Segment) :
    hiddenIn? (segment :: following) = segment.hidden?.or (hiddenIn? following) := by
  rw [hiddenIn?, List.findSome?_cons]
  cases segment.hidden? <;> rfl

theorem hiddenIn?_plain_cons (c : Char) (following : List Segment) :
    hiddenIn? (.plain c :: following) = hiddenIn? following := rfl

theorem hiddenIn?_plain (text : List Char) : hiddenIn? (text.map .plain) = none := by
  rw [hiddenIn?, List.findSome?_eq_none_iff]
  intro segment mem
  obtain ⟨c, -, rfl⟩ := List.mem_map.1 mem
  rfl

/-- A character that ends nothing is no delimiter if it may stand in an address. -/
theorem isDelimiter_of_isAddressChar {c : Char} (inside : isAddressChar c = true)
    (goesOn : endsText c = false) : isDelimiter c = false := by
  simp only [isAddressChar, endsText, endsDeclaration, isDelimiter, Bool.not_eq_true', Bool.or_eq_false_iff,
    decide_eq_false_iff_not] at inside goesOn ⊢
  tauto

/-! ### Texts without addresses -/

/-- Where there is no segment with addresses allowed, there is none without them. -/
theorem next?_false_eq_none {input : List Char} (none : Segment.next? true input = none) :
    Segment.next? false input = Option.none := by
  cases input with
  | nil => rfl
  | cons c tail =>
    have delimiter := isDelimiter_of_next?_eq_none none
    unfold Segment.next? at none ⊢
    split at none
    · cases none
    · simp [delimiter]

/-- Without addresses as segments all characters but delimiters are passed over one by one. -/
theorem segments_false_append {text following rest : List Char} {others : List Segment}
    (open' : ∀ c ∈ text, isDelimiter c = false) (split : segments false following = (others, rest)) :
    segments false (text ++ following) = (text.map .plain ++ others, rest) :=
  segments_plain open' (fun impossible => nomatch impossible) split

/-- Without addresses as segments a text stops at the first brace or semicolon that one hides, and otherwise
where it stops with them. -/
theorem head?_segments (input : List Char) : (segments false input).2.head? =
    (hiddenIn? (segments true input).1).or (segments true input).2.head? := by
  fun_induction segments true input with
  | case1 input none =>
    have stopped : segments false input = ([], input) := by
      rw [segments]
      split
      · rfl
      · rename_i found
        rw [next?_false_eq_none none] at found
        cases found
    rw [stopped]
    rfl
  | case2 input segment rest found following after split ih =>
    rw [split] at ih
    rw [hiddenIn?_cons, Option.or_assoc, ← ih]
    cases Segment.leads_of_next? found with
    | string closed =>
      rw [segments_of_next? (Segment.next?_string false closed) (Prod.eta _).symm]
      rfl
    | plain open' =>
      have single : Segment.next? false (_ :: rest) = some (.plain _, rest) :=
        Segment.next?_plain (Quote.of?_of_not_isDelimiter open')
          (fun impossible => absurd impossible Bool.false_ne_true) open'
      rw [segments_of_next? single (Prod.eta _).symm]
      rfl
    | @address content _ _ all =>
      have opening : ∀ c ∈ addressOpening, isDelimiter c = false := by decide
      cases hides : content.find? endsText with
      | none =>
        -- The whole address is passed over, one character after the other.
        have open' : ∀ c ∈ addressOpening ++ content ++ [')'], isDelimiter c = false := by
          refine List.forall_mem_append.2 ⟨List.forall_mem_append.2 ⟨opening, fun c mem => ?_⟩, by decide⟩
          exact isDelimiter_of_isAddressChar (all c mem)
            (Bool.not_eq_true _ ▸ List.find?_eq_none.1 hides c mem)
        have passed := segments_false_append open' (Prod.eta (segments false rest)).symm
        rw [List.append_assoc, List.append_assoc, List.singleton_append] at passed
        rw [passed, Segment.hidden?, hides, Option.none_or]
      | some c =>
        obtain ⟨ends, front, back, rfl, goesOn⟩ := List.find?_eq_some_iff_append.1 hides
        have open' : ∀ c ∈ addressOpening ++ front, isDelimiter c = false := by
          refine List.forall_mem_append.2 ⟨opening, fun c mem => ?_⟩
          exact isDelimiter_of_isAddressChar (all c (List.mem_append_left _ mem))
            (by simpa using goesOn c mem)
        have stops : Stops (c :: (back ++ ')' :: rest)) := by
          refine stops_of_head ?_ _
          simpa [endsText] using ends
        have passed := segments_false_append open' (segments_stop false stops)
        rw [List.append_assoc, ← List.cons_append, ← List.append_assoc front] at passed
        rw [passed, Segment.hidden?, hides]
        rfl

/-! ### Addresses that are given up -/

/-- A declaration that gives up an address ends at the first brace or semicolon in it, which is no opening
brace; so the first one that was hidden is an opening brace exactly if the first one that still is hidden
is one. -/
theorem hiddenIn?_reopen {following kept : List Segment} {after rest : List Char}
    (given : reopen? following after = some (kept, rest)) :
    hiddenIn? following ≠ none ∧
      (hiddenIn? kept = some '\x7b' ↔ hiddenIn? following = some '\x7b') := by
  induction following generalizing kept rest with
  | nil => cases given
  | cons segment following ih =>
    simp only [reopen?] at given
    split at given
    · rename_i inner tail found
      cases given
      obtain ⟨some, same⟩ := ih found
      rw [hiddenIn?_cons, hiddenIn?_cons]
      cases segment.hidden? with
      | none => exact ⟨some, same⟩
      | some c => exact ⟨Option.some_ne_none c, Iff.rfl⟩
    · split at given
      · rename_i content
        obtain ⟨⟨opened, tail⟩, cut, same⟩ := Option.map_eq_some_iff.1 given
        cases same
        simp only [reopenUrl?] at cut
        split at cut
        · rename_i ends
          cases cut
          obtain ⟨c, head, closes⟩ := Option.any_eq_true _ _ |>.1 ends
          have first : content.find? endsText = some c := by
            rw [List.find?_eq_head?_dropWhile_not]
            exact head
          have brace : c ≠ '\x7b' := by
            rintro rfl
            cases closes
          rw [hiddenIn?_cons, Segment.hidden?, first, hiddenIn?_plain]
          exact ⟨Option.some_ne_none c, fun same => absurd same.symm (Option.some_ne_none _),
            fun same => absurd (Option.some.inj same) brace⟩
        · cases cut
      · cases given

/-! ### Where both are found -/

/-- Whether the first brace or semicolon that is hidden in segments is an opening brace. -/
def hidesBrace (segments : List Segment) : Bool := hiddenIn? segments = some '\x7b'

/-- Where a declaration is found, a selector is found as well exactly if the first brace or semicolon that the
addresses of the declaration hide is an opening brace. -/
theorem selector?_isSome_iff {input rest : List Char} {found : List Segment}
    (split : declaration? input = some (found, rest)) :
    (selector? input).isSome = true ↔ hidesBrace found = true := by
  unfold declaration? at split
  unfold selector? hidesBrace
  cases opening : opening? input with
  | none =>
    rw [opening] at split
    cases split
  | some pair =>
    obtain ⟨c, tail⟩ := pair
    rw [opening] at split
    have selected : (if (segments false tail).2.head? = some '\x7b' then
        some (Segment.plain c :: (segments false tail).1, (segments false tail).2) else none).isSome = true ↔
          (hiddenIn? (segments true tail).1).or (segments true tail).2.head? = some '\x7b' := by
      rw [head?_segments]
      split <;> simp [*]
    dsimp only at split ⊢
    rw [selected, decide_eq_true_iff]
    split at split
    · rename_i ends
      obtain ⟨mark, head, closes⟩ := Option.any_eq_true _ _ |>.1 ends
      have brace : mark ≠ '\x7b' := by
        rintro rfl
        cases closes
      rw [head, ← (Prod.mk.inj (Option.some.inj split)).1, hiddenIn?_plain_cons]
      cases hiddenIn? (segments true tail).1 <;> simp [brace]
    · obtain ⟨⟨kept, left⟩, given, same⟩ := Option.map_eq_some_iff.1 split
      cases same
      obtain ⟨hides, same⟩ := hiddenIn?_reopen given
      obtain ⟨mark, first⟩ := Option.ne_none_iff_exists'.1 hides
      rw [hiddenIn?_plain_cons, same, first]
      rfl

/-- A text at whose front a declaration is found whose addresses hide an opening brace before any other brace or
semicolon. -/
def Overlaps (input : List Char) : Prop :=
  ∃ found rest, Terminal.declaration.match? input = some (found, rest) ∧ hidesBrace found = true

/-- A text overlaps just if it is matched as a selector and as a declaration. -/
theorem overlaps_iff (input : List Char) : Overlaps input ↔
    (Terminal.selector.match? input).isSome = true ∧ (Terminal.declaration.match? input).isSome = true := by
  constructor
  · rintro ⟨found, rest, split, hides⟩
    exact ⟨(selector?_isSome_iff split).2 hides, Option.isSome_iff_exists.2 ⟨_, split⟩⟩
  · rintro ⟨selected, declared⟩
    obtain ⟨⟨found, rest⟩, split⟩ := Option.isSome_iff_exists.1 declared
    exact ⟨found, rest, split, (selector?_isSome_iff split).1 selected⟩

/-- Trying two kinds of token the other way round makes a difference exactly where both are found. -/
theorem Token.next?_swap_iff {first second : Terminal} (differ : first ≠ second) (others : List Terminal)
    (offset : Nat) (input : List Char) :
    next? (first :: second :: others) offset input = next? (second :: first :: others) offset input ↔
      ¬((first.match? input).isSome = true ∧ (second.match? input).isSome = true) := by
  unfold next?
  rw [List.findSome?_cons, List.findSome?_cons, List.findSome?_cons, List.findSome?_cons]
  cases first.match? input with
  | none => cases second.match? input <;> simp
  | some pair =>
    cases second.match? input with
    | none => simp
    | some other => simp [differ]

/-- A selector and a declaration are found at the same place exactly if the first brace or semicolon that the
addresses of the declaration hide is an opening brace. Between the items of a block the token at a place depends
on the order in which the two are tried exactly there. -/
theorem selector_declaration_overlap (input : List Char) :
    ((Terminal.selector.match? input).isSome = true ∧ (Terminal.declaration.match? input).isSome = true ↔
      Overlaps input) ∧
    ∀ offset, Token.next? Stage.between.sought offset input =
        Token.next? [.selector, .declaration, .atKeyword, .closingBrace, .semicolon] offset input ↔
      ¬Overlaps input := by
  refine ⟨(overlaps_iff input).symm, fun offset => ?_⟩
  rw [overlaps_iff, and_comm]
  exact Token.next?_swap_iff (by decide) _ offset input

/-- At the front of this text a selector and a declaration are found, and the order in which they are tried
decides which of the two it is. -/
theorem selector_declaration_overlap_address :
    (Terminal.selector.match? "a url(\x7bx:y);".toList).isSome = true ∧
      (Terminal.declaration.match? "a url(\x7bx:y);".toList).isSome = true ∧
      Token.next? Stage.between.sought 0 "a url(\x7bx:y);".toList ≠
        Token.next? [.selector, .declaration, .atKeyword, .closingBrace, .semicolon] 0
          "a url(\x7bx:y);".toList := by
  decide +kernel

end ViewportScaling.Css
