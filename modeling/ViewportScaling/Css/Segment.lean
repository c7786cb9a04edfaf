/-!
# Segments of stylesheet text

Outside comments, text is read in segments: a quoted string and an address in `url(...)` are one
segment each, so that braces and semicolons inside them are not seen, and every other character is a
segment of its own. This file splits one segment off a text, and one comment.
-/

namespace ViewportScaling.Css

/-- Splits a text after the closing quote of a string. A backslash takes the next character with it.
Line ends belong to the string only if `multiline` holds. -/
def closing? (multiline : Bool) (quote : Char) : List Char → Option (List Char × List Char)
  | [] => none
  | '\\' :: c :: rest =>
    if c = '\n' && !multiline then none
    else (closing? multiline quote rest).map fun (text, after) => ('\\' :: c :: text, after)
  | c :: rest =>
    if c = quote then some ([c], rest)
    else if c = '\\' || (c = '\n' && !multiline) then none
    else (closing? multiline quote rest).map fun (text, after) => (c :: text, after)

/-- Splits a quoted string, with both quotes, off the front of a text. -/
def quoted? (multiline : Bool) : List Char → Option (List Char × List Char)
  | [] => none
  | c :: rest =>
    if c = '"' || c = '\'' then
      (closing? multiline c rest).map fun (text, after) => (c :: text, after)
    else none

/-- Whether a character may stand in an unquoted address. -/
def isAddressChar (c : Char) : Bool := !(c = ')' || c = '"' || c = '\'')

/-- Splits an unquoted address off the front of a text: what stands between `url(` and the closing
parenthesis, and the rest. An address holds no quote. -/
def url? : List Char → Option (List Char × List Char)
  | 'u' :: 'r' :: 'l' :: '(' :: rest =>
    match rest.dropWhile isAddressChar with
    | ')' :: after => some (rest.takeWhile isAddressChar, after)
    | _ => none
  | _ => none

/-- Splits a text after the first end mark of a comment. -/
def commentEnd? : List Char → Option (List Char × List Char)
  | [] => none
  | '*' :: '/' :: rest => some (['*', '/'], rest)
  | c :: rest => (commentEnd? rest).map fun (text, after) => (c :: text, after)

/-- Splits a complete comment, with both marks, off the front of a text. -/
def comment? : List Char → Option (List Char × List Char)
  | '/' :: '*' :: rest => (commentEnd? rest).map fun (text, after) => ('/' :: '*' :: text, after)
  | _ => none

/-- A part of a text that is read as one. -/
inductive Segment where
  /-- A single character. -/
  | plain (c : Char)
  /-- A quoted string with its quotes. -/
  | quoted (text : List Char)
  /-- An address, without the parentheses around it. -/
  | url (content : List Char)
deriving DecidableEq, Repr

/-- The text of a segment. -/
def Segment.text : Segment → List Char
  | .plain c => [c]
  | .quoted text => text
  | .url content => 'u' :: 'r' :: 'l' :: '(' :: content ++ [')']

/-- The text of a list of segments. -/
def Segment.textAll (segments : List Segment) : List Char := segments.flatMap Segment.text

@[simp] theorem Segment.textAll_nil : textAll [] = [] := rfl

@[simp] theorem Segment.textAll_cons (segment : Segment) (following : List Segment) :
    textAll (segment :: following) = segment.text ++ textAll following := rfl

@[simp] theorem Segment.text_plain (c : Char) : (plain c).text = [c] := rfl

/-- Single characters spell their own text. -/
@[simp] theorem Segment.textAll_map_plain (text : List Char) : textAll (text.map plain) = text := by
  induction text with
  | nil => rfl
  | cons c rest ih => simp [ih]

/-- Whether a character ends every run of segments: the braces, the semicolon and the quotes. -/
def isDelimiter (c : Char) : Bool :=
  c = '\x7b' || c = '\x7d' || c = ';' || c = '"' || c = '\''

/-- Splits one segment off a text. Addresses are segments only if `urls` holds. -/
def Segment.next? (urls : Bool) (input : List Char) : Option (Segment × List Char) :=
  match quoted? false input with
  | some (text, rest) => some (.quoted text, rest)
  | none =>
    match if urls then url? input else none with
    | some (content, rest) => some (.url content, rest)
    | none =>
      match input with
      | [] => none
      | c :: rest => if isDelimiter c then none else some (.plain c, rest)

/-! ### Nothing is lost or invented -/

/-- What is read up to a closing quote stands at the front of the input, and the rest behind it. -/
theorem append_of_closing? {multiline : Bool} {quote : Char} {input text rest : List Char}
    (h : closing? multiline quote input = some (text, rest)) : text ++ rest = input := by
  fun_induction closing? multiline quote input generalizing text rest with
  | case1 => simp at h
  | case2 c tail broken => simp at h
  | case3 c tail whole ih =>
    obtain ⟨⟨inner, after⟩, found, same⟩ := Option.map_eq_some_iff.1 h
    cases same
    simp [ih found]
  | case4 tail _ => simp at h; simp [← h.1, ← h.2]
  | case5 c tail _ other stop => simp at h
  | case6 c tail _ other go ih =>
    obtain ⟨⟨inner, after⟩, found, same⟩ := Option.map_eq_some_iff.1 h
    cases same
    simp [ih found]

theorem append_of_quoted? {multiline : Bool} {input text rest : List Char}
    (h : quoted? multiline input = some (text, rest)) : text ++ rest = input := by
  cases input with
  | nil => simp [quoted?] at h
  | cons c tail =>
    simp only [quoted?] at h
    split at h
    · obtain ⟨⟨inner, after⟩, found, same⟩ := Option.map_eq_some_iff.1 h
      cases same
      simp [append_of_closing? found]
    · simp at h

/-- A string has at least its quotes. -/
theorem ne_nil_of_quoted? {multiline : Bool} {input text rest : List Char}
    (h : quoted? multiline input = some (text, rest)) : text ≠ [] := by
  cases input with
  | nil => simp [quoted?] at h
  | cons c tail =>
    simp only [quoted?] at h
    split at h
    · obtain ⟨⟨inner, after⟩, found, same⟩ := Option.map_eq_some_iff.1 h
      cases same
      simp
    · simp at h

/-- An address, with its opening and its closing bracket, stands at the front of the input. -/
theorem append_of_url? {input content rest : List Char} (h : url? input = some (content, rest)) :
    (Segment.url content).text ++ rest = input := by
  unfold url? at h
  split at h
  · rename_i tail
    have whole : tail.takeWhile isAddressChar ++ tail.dropWhile isAddressChar = tail :=
      List.takeWhile_append_dropWhile
    split at h
    · rename_i after dropped
      cases h
      rw [dropped] at whole
      simp [Segment.text, whole]
    · simp at h
  · simp at h

/-- So does the rest of a comment. -/
theorem append_of_commentEnd? {input text rest : List Char}
    (h : commentEnd? input = some (text, rest)) : text ++ rest = input := by
  fun_induction commentEnd? input generalizing text rest with
  | case1 => simp at h
  | case2 tail => simp at h; simp [← h.1, ← h.2]
  | case3 c tail _ ih =>
    obtain ⟨⟨inner, after⟩, found, same⟩ := Option.map_eq_some_iff.1 h
    cases same
    simp [ih found]

theorem append_of_comment? {input text rest : List Char}
    (h : comment? input = some (text, rest)) : text ++ rest = input := by
  unfold comment? at h
  split at h
  · obtain ⟨⟨inner, after⟩, found, same⟩ := Option.map_eq_some_iff.1 h
    cases same
    simp [append_of_commentEnd? found]
  · simp at h

/-- A comment takes at least one character. -/
theorem length_lt_of_comment? {input text rest : List Char}
    (h : comment? input = some (text, rest)) : rest.length < input.length := by
  have whole := append_of_comment? h
  unfold comment? at h
  split at h
  · obtain ⟨⟨inner, after⟩, found, same⟩ := Option.map_eq_some_iff.1 h
    cases same
    rw [← whole]
    simp
    omega
  · simp at h

namespace Segment

/-- The segment split off and the rest are the text. -/
theorem append_of_next? {urls : Bool} {input rest : List Char} {segment : Segment}
    (h : next? urls input = some (segment, rest)) : segment.text ++ rest = input := by
  unfold next? at h
  split at h
  · rename_i found
    cases h
    exact append_of_quoted? found
  · split at h
    · rename_i found
      cases h
      cases urls with
      | true => exact append_of_url? (by simpa using found)
      | false => simp at found
    · split at h
      · simp at h
      · split at h
        · simp at h
        · cases h
          rfl

/-- A segment holds at least one character. -/
theorem text_ne_nil_of_next? {urls : Bool} {input rest : List Char} {segment : Segment}
    (h : next? urls input = some (segment, rest)) : segment.text ≠ [] := by
  unfold next? at h
  split at h
  · rename_i found
    cases h
    exact ne_nil_of_quoted? found
  · split at h
    · cases h
      simp [text]
    · split at h
      · simp at h
      · split at h
        · simp at h
        · cases h
          simp [text]

/-- A segment takes at least one character. -/
theorem length_lt_of_next? {urls : Bool} {input rest : List Char} {segment : Segment}
    (h : next? urls input = some (segment, rest)) : rest.length < input.length := by
  have whole := append_of_next? h
  have := List.length_pos_iff.2 (text_ne_nil_of_next? h)
  rw [← whole]
  simp
  omega

end Segment

/-- Splits off as many segments as there are, and the rest. -/
def segments (urls : Bool) (input : List Char) : List Segment × List Char :=
  match _found : Segment.next? urls input with
  | none => ([], input)
  | some (segment, rest) =>
    let (following, after) := segments urls rest
    (segment :: following, after)
termination_by input.length
decreasing_by exact Segment.length_lt_of_next? ‹_›

/-- Splitting a text into segments loses nothing: they and the rest make up the text. -/
theorem append_segments (urls : Bool) (input : List Char) :
    Segment.textAll (segments urls input).1 ++ (segments urls input).2 = input := by
  fun_induction segments urls input with
  | case1 => rfl
  | case2 input segment rest found following after split ih =>
    rw [split] at ih
    rw [Segment.textAll_cons, List.append_assoc, ih]
    exact Segment.append_of_next? found

end ViewportScaling.Css
