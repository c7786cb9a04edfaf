import ViewportScaling.Css.Segment
import ViewportScaling.Proofs.Css.Scanning

/-!
# Single segments

A segment at the front of a text is a string, an address or a single character. Each of the three is
split off exactly where the text starts with it, so that a proof about a segment that was split off can
go by these cases, and one that needs a segment to be split off can give the text.
-/

namespace ViewportScaling.Css

/-! ### Quotes -/

/-- Behind a quote the string is split off up to the next one. -/
theorem quoted?_mark (multiline : Bool) (quote : Quote) (tail : List Char) :
    quoted? multiline (quote.mark :: tail) =
      (closing? multiline quote.mark tail).map fun (text, after) => (quote.mark :: text, after) := by
  rw [quoted?, if_pos (by cases quote <;> decide)]

/-- No string starts with another character. -/
theorem quoted?_other (multiline : Bool) {c : Char} (other : Quote.of? c = none) (tail : List Char) :
    quoted? multiline (c :: tail) = none := by
  rw [Quote.of?_eq_none_iff] at other
  simp [quoted?, other]

/-- A string that is split off starts with a quote and goes on up to the next one. -/
theorem exists_of_quoted? {multiline : Bool} {input text rest : List Char}
    (found : quoted? multiline input = some (text, rest)) :
    ∃ (quote : Quote) (tail body : List Char), input = quote.mark :: tail ∧
      text = quote.mark :: body ∧ closing? multiline quote.mark tail = some (body, rest) := by
  cases input with
  | nil => cases found
  | cons c tail =>
    cases isQuote : Quote.of? c with
    | none =>
      rw [quoted?_other multiline isQuote] at found
      cases found
    | some quote =>
      obtain rfl := Quote.of?_eq_some_iff.1 isQuote
      rw [quoted?_mark] at found
      obtain ⟨⟨body, after⟩, closed, same⟩ := Option.map_eq_some_iff.1 found
      cases same
      exact ⟨quote, tail, body, rfl, rfl, closed⟩

/-! ### Addresses -/

/-- An address goes up to the first bracket or quote, and is one if that is the closing bracket. -/
theorem url?_opening (text : List Char) : url? (addressOpening ++ text) =
    match text.dropWhile isAddressChar with
    | ')' :: after => some (text.takeWhile isAddressChar, after)
    | _ => none := rfl

/-- Only a text that starts with the opening has an address at its front. -/
theorem eq_of_url? {text content after : List Char} (found : url? text = some (content, after)) :
    text = addressOpening ++ (content ++ ')' :: after) ∧ ∀ c ∈ content, isAddressChar c = true := by
  have whole := append_of_url? found
  refine ⟨by simpa [Segment.text, addressOpening] using whole.symm, ?_⟩
  unfold url? at found
  split at found
  · split at found
    · cases found
      exact fun c mem => List.mem_takeWhile_imp mem
    · cases found
  · cases found

/-- So what is closed by its bracket is an address. -/
theorem url?_closed {content after : List Char} (all : ∀ c ∈ content, isAddressChar c = true) :
    url? (addressOpening ++ (content ++ ')' :: after)) = some (content, after) := by
  have stop : isAddressChar ')' = false := by decide
  rw [url?_opening, List.dropWhile_append_of_pos all, List.takeWhile_append_of_pos all,
    List.dropWhile_cons_of_neg (by simp [stop]), List.takeWhile_cons_of_neg (by simp [stop])]
  simp

/-- What comes to a quote first is none. -/
theorem url?_quoted {content after : List Char} {c : Char}
    (all : ∀ d ∈ content, isAddressChar d = true) (quote : Quote.of? c ≠ none) :
    url? (addressOpening ++ (content ++ c :: after)) = none := by
  obtain ⟨mark, isQuote⟩ := Option.ne_none_iff_exists'.1 quote
  obtain rfl := Quote.of?_eq_some_iff.1 isQuote
  have stop : isAddressChar mark.mark = false := by cases mark <;> decide
  rw [url?_opening, List.dropWhile_append_of_pos all, List.dropWhile_cons_of_neg (by simp [stop])]
  cases mark <;> rfl

/-- A text that is no address behind an opening has none at its front. -/
theorem url?_of_opening {text : List Char} (none : url? (addressOpening ++ text) = none) :
    url? text = Option.none := by
  by_contra some
  obtain ⟨⟨content, after⟩, found⟩ := Option.ne_none_iff_exists'.1 some
  obtain ⟨rfl, all⟩ := eq_of_url? found
  have opening : ∀ c ∈ addressOpening, isAddressChar c = true := by decide
  rw [← List.append_assoc addressOpening content,
    url?_closed (List.forall_mem_append.2 ⟨opening, all⟩)] at none
  cases none

/-- What an address might hold does not matter to whether it is closed. -/
theorem url?_cons_opening {c : Char} (inside : isAddressChar c = true) {text : List Char}
    (none : url? (addressOpening ++ c :: text) = none) : url? (addressOpening ++ text) = Option.none := by
  by_contra some
  obtain ⟨⟨content, after⟩, found⟩ := Option.ne_none_iff_exists'.1 some
  obtain ⟨same, all⟩ := eq_of_url? found
  rw [List.append_cancel_left same, ← List.cons_append,
    url?_closed (List.forall_mem_cons.2 ⟨inside, all⟩)] at none
  cases none

namespace Segment

/-! ### What is split off -/

/-- The texts that start with a segment, by the kinds of segment. -/
inductive Leads (urls : Bool) : List Char → Segment → List Char → Prop where
  /-- A text starts with a string. -/
  | string {quote : Quote} {tail body rest : List Char}
      (closed : closing? false quote.mark tail = some (body, rest)) :
      Leads urls (quote.mark :: tail) (.quoted (quote.mark :: body)) rest
  /-- A text starts with an address, and these are segments. -/
  | address {content rest : List Char} (allowed : urls = true)
      (all : ∀ c ∈ content, isAddressChar c = true) :
      Leads urls (addressOpening ++ (content ++ ')' :: rest)) (.url content) rest
  /-- A text starts with any other character. -/
  | plain {c : Char} {rest : List Char} (open' : isDelimiter c = false) :
      Leads urls (c :: rest) (.plain c) rest

/-- A text starts with the segment that is split off. -/
theorem leads_of_next? {urls : Bool} {input rest : List Char} {segment : Segment}
    (found : next? urls input = some (segment, rest)) : Leads urls input segment rest := by
  unfold next? at found
  split at found
  · rename_i string
    cases found
    obtain ⟨quote, tail, body, rfl, rfl, closed⟩ := exists_of_quoted? string
    exact .string closed
  · split at found
    · rename_i address
      cases found
      cases urls with
      | false => cases address
      | true =>
        obtain ⟨rfl, all⟩ := eq_of_url? address
        exact .address rfl all
    · split at found
      · cases found
      · split at found
        · cases found
        · rename_i open'
          cases found
          exact .plain (by simpa using open')

theorem next?_string (urls : Bool) {quote : Quote} {tail body after : List Char}
    (closed : closing? false quote.mark tail = some (body, after)) :
    next? urls (quote.mark :: tail) = some (.quoted (quote.mark :: body), after) := by
  have found : quoted? false (quote.mark :: tail) = some (quote.mark :: body, after) := by
    rw [quoted?_mark, closed]
    rfl
  rw [next?, found]

theorem next?_address {input content after : List Char} (found : url? input = some (content, after)) :
    next? true input = some (.url content, after) := by
  obtain ⟨rfl, -⟩ := eq_of_url? found
  have noString : quoted? false (addressOpening ++ (content ++ ')' :: after)) = none := rfl
  simp only [next?, noString, if_true, found]

theorem next?_plain {urls : Bool} {c : Char} {tail : List Char} (quote : Quote.of? c = none)
    (address : urls = true → url? (c :: tail) = none) (open' : isDelimiter c = false) :
    next? urls (c :: tail) = some (.plain c, tail) := by
  have noString := quoted?_other false quote tail
  cases urls with
  | false => simp [next?, noString, open']
  | true => simp [next?, noString, address rfl, open']

end Segment

end ViewportScaling.Css
