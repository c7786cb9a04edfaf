import ViewportScaling.Proofs.Css.Stability

/-!
# Comments inside tokens

A comment inside a token is part of its text until the text is cleaned. It is inert if it holds no brace,
no semicolon, no quote and no opening of an address. Put between two segments, an inert comment leaves the
text split off whole: it may close what looked like an address before it and was none, because a quote
came first, but that does not move the end. Cleaning finds the comment where it was put, and drops it.
-/

namespace ViewportScaling.Css

open Unicode Text

/-- A complete comment without delimiters and openings of addresses. -/
structure IsInert (comment : List Char) : Prop where
  /-- The text is one comment. -/
  complete : comment? comment = some (comment, [])
  /-- There is no delimiter in it. -/
  open' : ∀ c ∈ comment, isDelimiter c = false
  /-- There is no opening of an address in it. -/
  noAddress : ¬addressOpening <:+: comment

/-! ### The shape of a comment -/

/-- The rest of a comment ends with the mark that closes it. -/
theorem suffix_of_commentEnd? {input text rest : List Char}
    (found : commentEnd? input = some (text, rest)) : ['*', '/'] <:+ text := by
  fun_induction commentEnd? input generalizing text rest with
  | case1 => cases found
  | case2 tail =>
    cases found
    exact List.suffix_refl _
  | case3 c tail other ih =>
    obtain ⟨⟨inner, after⟩, split, same⟩ := Option.map_eq_some_iff.1 found
    cases same
    exact (ih split).trans (List.suffix_cons c inner)

/-- A comment ends with its end mark. -/
theorem suffix_of_comment? {comment : List Char} (complete : comment? comment = some (comment, [])) :
    ['*', '/'] <:+ comment := by
  unfold comment? at complete
  split at complete
  · obtain ⟨⟨inner, after⟩, split, same⟩ := Option.map_eq_some_iff.1 complete
    rw [Prod.mk.injEq] at same
    rw [← same.1]
    exact (suffix_of_commentEnd? split).trans (List.suffix_append ['/', '*'] inner)
  · cases complete

/-- A comment starts and ends with a slash. -/
theorem exists_of_comment? {comment : List Char} (complete : comment? comment = some (comment, [])) :
    (∃ tail, comment = '/' :: tail) ∧ ∃ front, comment = front ++ ['/'] := by
  obtain ⟨body, ends⟩ := suffix_of_comment? complete
  refine ⟨?_, body ++ ['*'], by rw [← ends, List.append_assoc]; rfl⟩
  unfold comment? at complete
  split at complete
  · exact ⟨_, rfl⟩
  · cases complete

/-- No opening of an address starts in an inert comment. -/
theorem IsInert.not_start {comment : List Char} (inert : IsInert comment) {part : List Char}
    (behind : part <:+ comment) (nonempty : part ≠ []) (rest : List Char) :
    ¬addressOpening <+: part ++ rest := by
  rintro ⟨after, same⟩
  obtain ⟨-, front, whole⟩ := exists_of_comment? inert.complete
  have slash : '/' ∈ part := by
    obtain ⟨last, ends⟩ := Option.ne_none_iff_exists'.1 (mt List.getLast?_eq_none_iff.1 nonempty)
    obtain ⟨before, rfl⟩ := List.getLast?_eq_some_iff.1 ends
    obtain ⟨early, split⟩ := behind
    rw [whole, ← List.append_assoc] at split
    have : last = '/' := by simpa using (List.append_inj_right' split rfl)
    simp [this]
  rcases List.append_eq_append_iff.1 same with ⟨back, part_eq, -⟩ | ⟨back, opening_eq, -⟩
  · refine inert.noAddress (List.IsInfix.trans ?_ behind.isInfix)
    rw [part_eq]
    exact (List.prefix_append _ _).isInfix
  · have inside : '/' ∈ addressOpening := by
      rw [opening_eq]
      exact List.mem_append_left _ slash
    revert inside
    decide

/-- No address opens in an inert comment. -/
theorem IsInert.url?_eq_none {comment : List Char} (inert : IsInert comment) {part : List Char}
    (behind : part <:+ comment) (nonempty : part ≠ []) (rest : List Char) :
    url? (part ++ rest) = none := by
  by_contra some
  obtain ⟨⟨content, after⟩, found⟩ := Option.ne_none_iff_exists'.1 some
  obtain ⟨same, -⟩ := eq_of_url? found
  exact inert.not_start behind nonempty rest ⟨_, same.symm⟩

/-! ### Segments around a comment -/

/-- A string is split off whatever follows it. -/
theorem closing?_swap {quote : Quote} {input text after : List Char}
    (found : closing? false quote.mark input = some (text, after)) (multiline : Bool)
    (other : List Char) : closing? multiline quote.mark (text ++ other) = some (text, other) := by
  fun_induction closing? false quote.mark input generalizing text after with
  | case1 => cases found
  | case2 => cases found
  | case3 c tail whole ih =>
    obtain ⟨⟨inner, behind⟩, split, same⟩ := Option.map_eq_some_iff.1 found
    cases same
    have sameLine : c ≠ '\n' := by simpa using whole
    rw [List.cons_append, List.cons_append, Scan.closing?_escape multiline quote sameLine, ih split]
    rfl
  | case4 tail _ =>
    cases found
    exact Scan.closing?_mark multiline quote other
  | case5 => cases found
  | case6 c tail _ different go ih =>
    obtain ⟨⟨inner, behind⟩, split, same⟩ := Option.map_eq_some_iff.1 found
    cases same
    simp only [Bool.not_false, Bool.and_true, Bool.or_eq_true, decide_eq_true_eq, not_or] at go
    rw [List.cons_append, Scan.closing?_other multiline different go.1 go.2, ih split]
    rfl

/-- Characters that start no string and no address are segments of their own. -/
theorem segments_plain {urls : Bool} {text following rest : List Char} {others : List Segment}
    (open' : ∀ c ∈ text, isDelimiter c = false)
    (never : urls = true → ∀ part, part <:+ text → part ≠ [] → url? (part ++ following) = none)
    (split : segments urls following = (others, rest)) :
    segments urls (text ++ following) = (text.map .plain ++ others, rest) := by
  induction text with
  | nil => exact split
  | cons c text ih =>
    obtain ⟨first, further⟩ := List.forall_mem_cons.1 open'
    have noQuote := Quote.of?_of_not_isDelimiter first
    refine segments_of_next? (Segment.next?_plain noQuote ?_ first) (ih further ?_)
    · exact fun urls => never urls (c :: text) (List.suffix_refl _) (by simp)
    · exact fun urls part behind => never urls part (behind.trans (List.suffix_cons c text))

/-- Each character of an inert comment is a segment of its own. -/
theorem IsInert.segments_append {comment : List Char} (inert : IsInert comment) {part : List Char}
    (behind : part <:+ comment) {urls : Bool} {following rest : List Char} {others : List Segment}
    (split : segments urls following = (others, rest)) :
    segments urls (part ++ following) = (part.map .plain ++ others, rest) :=
  segments_plain (fun c mem => inert.open' c (behind.subset mem))
    (fun _ _ inner nonempty => inert.url?_eq_none (inner.trans behind) nonempty following) split

/-- An opening of an address in front of an inert comment does not reach into it. -/
theorem IsInert.exists_of_opening {comment : List Char} (inert : IsInert comment)
    {front rest : List Char} (opened : addressOpening <+: front ++ (comment ++ rest)) :
    ∃ inner, front = addressOpening ++ inner := by
  obtain ⟨after, same⟩ := opened
  obtain ⟨⟨tail, rfl⟩, -⟩ := exists_of_comment? inert.complete
  rcases List.append_eq_append_iff.1 same with ⟨inner, whole, -⟩ | ⟨inner, whole, split⟩
  · exact ⟨inner, whole⟩
  · cases inner with
    | nil => exact ⟨[], by rw [whole]; simp⟩
    | cons c inner =>
      have slash := (List.cons.inj split).1
      have inside : '/' ∈ addressOpening := by
        rw [whole, ← slash]
        simp
      exact absurd inside (by decide)

/-- A comment that makes an address of what was none closes it. -/
theorem IsInert.exists_rest {comment : List Char} (inert : IsInert comment)
    {front back content after : List Char} (none : url? (front ++ back) = .none)
    (some : url? (front ++ (comment ++ back)) = .some (content, after)) :
    ∃ part, part <:+ comment ∧ after = part ++ back := by
  obtain ⟨same, all⟩ := eq_of_url? some
  have close : addressOpening ++ (content ++ ')' :: after) =
      (addressOpening ++ content ++ [')']) ++ after := by simp
  rw [close] at same
  rcases List.append_eq_append_iff.1 same with ⟨inner, whole, split⟩ | ⟨inner, whole, -⟩
  · rcases List.append_eq_append_iff.1 split with ⟨further, longer, behind⟩ | ⟨part, longer, behind⟩
    · -- If the address went on behind the comment, it would be one without the comment, too.
      cases further using List.reverseRecOn with
      | nil => exact ⟨[], List.nil_suffix, behind.symm⟩
      | append_singleton further last _ =>
        have opened : addressOpening <+: front ++ (comment ++ (further ++ [last])) := by
          rw [← longer, ← whole, List.append_assoc]
          exact List.prefix_append _ _
        obtain ⟨inner', rfl⟩ := inert.exists_of_opening opened
        have split : content ++ [')'] = (inner' ++ comment ++ further) ++ [last] := by
          rw [longer, List.append_assoc, List.append_assoc] at whole
          simpa using List.append_cancel_left whole
        obtain ⟨inside, final⟩ := List.append_inj' split rfl
        have inside' : ∀ c ∈ inner' ++ further, isAddressChar c = true := by
          intro c mem
          refine all c ?_
          rw [inside]
          rcases List.mem_append.1 mem with mem | mem <;> simp [mem]
        have shorter : addressOpening ++ inner' ++ back =
            addressOpening ++ ((inner' ++ further) ++ ')' :: after) := by
          rw [behind, ← List.cons.inj final |>.1]
          simp
        rw [shorter, url?_closed inside'] at none
        cases none
    · exact ⟨part, ⟨inner, longer.symm⟩, behind⟩
  · -- The address lies before the comment.
    rw [whole, List.append_assoc, List.append_assoc, List.append_assoc, List.singleton_append,
      url?_closed all] at none
    cases none

/-- The text of two rows of segments is that of the first and that of the second. -/
theorem textAll_append (first second : List Segment) :
    Segment.textAll (first ++ second) = Segment.textAll first ++ Segment.textAll second :=
  List.flatMap_append

/-- The text that is split in segments is their text and the rest. -/
theorem eq_of_segments {urls : Bool} {input rest : List Char} {found : List Segment}
    (split : segments urls input = (found, rest)) : input = Segment.textAll found ++ rest := by
  have whole := append_segments urls input
  rw [split] at whole
  exact whole.symm

/-- A segment in front of an inert comment is split off as before, or it becomes an address that ends in
the comment. -/
theorem IsInert.next?_insert {comment : List Char} (inert : IsInert comment) {urls : Bool}
    {front back : List Char} {segment : Segment}
    (next : Segment.next? urls (segment.text ++ (front ++ back)) = some (segment, front ++ back)) :
    Segment.next? urls (segment.text ++ (front ++ (comment ++ back))) =
        some (segment, front ++ (comment ++ back)) ∨
      ∃ content part, part <:+ comment ∧
        Segment.next? urls (segment.text ++ (front ++ (comment ++ back))) =
          some (.url content, part ++ back) := by
  generalize whole : segment.text ++ (front ++ back) = input at next
  generalize left : front ++ back = after at next
  cases Segment.leads_of_next? next with
  | string closed =>
    left
    exact Segment.next?_string urls (closing?_swap closed false _)
  | address allowed all =>
    subst allowed
    left
    refine Segment.next?_address ?_
    have := @url?_closed _ (front ++ (comment ++ back)) all
    simpa [Segment.text, addressOpening] using this
  | plain open' =>
    rename_i c
    subst left
    have noQuote := Quote.of?_of_not_isDelimiter open'
    by_cases address : urls = true ∧ ∃ split, url? (c :: front ++ (comment ++ back)) = some split
    · obtain ⟨rfl, ⟨content, rest⟩, found⟩ := address
      have none : url? (c :: front ++ back) = .none := by
        by_contra some
        obtain ⟨⟨content, rest⟩, found⟩ := Option.ne_none_iff_exists'.1 some
        have := Segment.next?_address found
        rw [List.cons_append, next] at this
        cases this
      obtain ⟨part, behind, rfl⟩ := inert.exists_rest none found
      exact .inr ⟨content, part, behind, Segment.next?_address found⟩
    · refine .inl (Segment.next?_plain noQuote (fun holds => ?_) open')
      by_contra some
      exact address ⟨holds, Option.ne_none_iff_exists'.1 some⟩

/-- Behind some of the segments of a text the others are split off. -/
theorem segments_behind {urls : Bool} {first second : List Segment} {input rest : List Char}
    (split : segments urls input = (first ++ second, rest)) :
    segments urls (Segment.textAll second ++ rest) = (second, rest) := by
  induction first generalizing input with
  | nil =>
    have whole := eq_of_segments split
    rw [List.nil_append] at whole split
    rw [← whole]
    exact split
  | cons segment first ih =>
    obtain ⟨tail, -, others⟩ := next?_of_segments split
    exact ih others

/-- An inert comment between two segments leaves a text split off whole. -/
theorem IsInert.segments_insert {comment : List Char} (inert : IsInert comment) {urls : Bool}
    {first second : List Segment} {input rest : List Char}
    (split : segments urls input = (first ++ second, rest)) :
    ∃ found,
      segments urls (Segment.textAll first ++ (comment ++ (Segment.textAll second ++ rest))) =
        (found, rest) ∧
      Segment.textAll found = Segment.textAll first ++ (comment ++ Segment.textAll second) := by
  have behind := segments_behind split
  induction first generalizing input with
  | nil =>
    rw [Segment.textAll_nil, List.nil_append, List.nil_append]
    refine ⟨comment.map .plain ++ second, inert.segments_append (List.suffix_refl _) behind, ?_⟩
    rw [textAll_append, Segment.textAll_map_plain]
  | cons segment first ih =>
    obtain ⟨tail, next, others⟩ := next?_of_segments split
    have others : segments urls tail = (first ++ second, rest) := others
    obtain ⟨found, further, spelled⟩ := ih others
    have whole := eq_of_segments others
    rw [textAll_append, List.append_assoc] at whole
    rw [← Segment.append_of_next? next, whole] at next
    rw [Segment.textAll_cons, List.append_assoc]
    rcases inert.next?_insert next with same | ⟨content, part, inside, address⟩
    · refine ⟨segment :: found, segments_of_next? same further, ?_⟩
      rw [Segment.textAll_cons, spelled, List.append_assoc]
    · -- Behind the address the rest of the comment is read, and then what followed it.
      refine ⟨.url content :: (part.map .plain ++ second),
        segments_of_next? address (inert.segments_append inside behind), ?_⟩
      have parts := Segment.append_of_next? address
      rw [Segment.textAll_cons, textAll_append, Segment.textAll_map_plain]
      refine (List.append_left_inj rest).1 ?_
      simpa using parts

/-! ### Addresses around a comment -/

/-- What closes its addresses does so from any place on. -/
theorem ClosesAddresses.of_suffix {text back : List Char} (closes : ClosesAddresses text)
    (behind : back <:+ text) : ClosesAddresses back :=
  fun rest mem => closes rest ((List.mem_tails _ _).2 (((List.mem_tails _ _).1 mem).trans behind))

/-- An inert comment leaves no address open. -/
theorem IsInert.closesAddresses {comment : List Char} (inert : IsInert comment)
    {front back : List Char} (closes : ClosesAddresses (front ++ back)) :
    ClosesAddresses (front ++ (comment ++ back)) := by
  intro rest mem opened
  have inside := (List.mem_tails _ _).1 mem
  rcases List.suffix_or_suffix_of_suffix inside (List.suffix_append front (comment ++ back)) with
    late | ⟨part, rfl⟩
  · rcases List.suffix_or_suffix_of_suffix late (List.suffix_append comment back) with
      later | ⟨part, rfl⟩
    · exact closes rest ((List.mem_tails _ _).2 (later.trans (List.suffix_append front back))) opened
    · obtain ⟨before, same⟩ := late
      rw [← List.append_assoc] at same
      have behind : part <:+ comment := ⟨before, List.append_cancel_right same⟩
      cases part with
      | nil => exact closes back ((List.mem_tails _ _).2 (List.suffix_append front back)) opened
      | cons c part => exact absurd opened (inert.not_start behind (by simp) back)
  · obtain ⟨inner, rfl⟩ := inert.exists_of_opening opened
    obtain ⟨before, same⟩ := inside
    rw [← List.append_assoc] at same
    have behind : addressOpening ++ inner ++ back <:+ front ++ back :=
      ⟨before, by rw [← List.append_cancel_right same, List.append_assoc before]⟩
    obtain ⟨c, mem, closed⟩ := closes _ ((List.mem_tails _ _).2 behind)
      (by rw [List.append_assoc]; exact List.prefix_append _ _)
    refine ⟨c, ?_, closed⟩
    simp only [List.mem_append] at mem ⊢
    rcases mem with mem | mem
    · exact .inl mem
    · exact .inr (.inr mem)

/-- A text that starts with a brace or semicolon has no segments in front of it. -/
theorem segments_stop (urls : Bool) {rest : List Char} (stops : Stops rest) :
    segments urls rest = ([], rest) := by
  rw [segments]
  split
  · rfl
  · rename_i found
    rw [Segment.next?_stop urls stops] at found
    cases found

/-- Where addresses are no segments, characters that are no quotes are segments of their own. -/
theorem segments_false {text more rest : List Char} {found : List Segment}
    (split : segments false (text ++ more) = (found, rest))
    (noQuote : ∀ c ∈ text, Quote.of? c = none)
    (inside : text.length ≤ (Segment.textAll found).length) :
    (∀ c ∈ text, isDelimiter c = false) ∧
      ∃ others, found = text.map .plain ++ others ∧ segments false more = (others, rest) := by
  induction text generalizing found with
  | nil => exact ⟨by simp, found, rfl, split⟩
  | cons c text ih =>
    obtain ⟨first, further⟩ := List.forall_mem_cons.1 noQuote
    cases found with
    | nil => simp at inside
    | cons segment found =>
      obtain ⟨tail, next, others⟩ := next?_of_segments split
      generalize whole : c :: text ++ more = input at next
      cases Segment.leads_of_next? next with
      | string closed =>
        rename_i quote body rest'
        rw [(List.cons.inj whole).1, Quote.of?_mark] at first
        cases first
      | address allowed all => cases allowed
      | plain open' =>
        obtain ⟨rfl, rfl⟩ := List.cons.inj whole
        have inside : text.length ≤ (Segment.textAll found).length := by
          rw [Segment.textAll_cons] at inside
          simpa using inside
        obtain ⟨delimiters, others', same, behind⟩ := ih others further inside
        exact ⟨List.forall_mem_cons.2 ⟨open', delimiters⟩, others', by rw [same]; rfl, behind⟩

/-- An address that is found where all addresses of a text are closed is part of the text. -/
theorem ClosesAddresses.length_le {text rest content after : List Char} (closes : ClosesAddresses text)
    (stops : Stops rest) (all : ∀ c ∈ content, isAddressChar c = true)
    (whole : text ++ rest = addressOpening ++ (content ++ ')' :: after)) :
    (addressOpening ++ content ++ [')']).length ≤ text.length := by
  by_contra shorter
  obtain ⟨inner, rfl⟩ := exists_opening stops whole
  obtain ⟨c, mem, closed⟩ := closes _ ((List.mem_tails _ _).2 (List.suffix_refl _))
    (List.prefix_append _ _)
  have front : addressOpening ++ inner <+: addressOpening ++ content := by
    refine List.prefix_of_prefix_length_le ⟨rest, whole⟩ ⟨')' :: after, by simp⟩ ?_
    simp only [List.length_append, List.length_singleton] at shorter ⊢
    omega
  have opening : ∀ c ∈ addressOpening, isAddressChar c = true := by decide
  rw [List.forall_mem_append.2 ⟨opening, all⟩ c (front.subset mem)] at closed
  cases closed

/-- There is no quote in an address. -/
theorem of?_of_mem_address {content : List Char} (all : ∀ c ∈ content, isAddressChar c = true) :
    ∀ c ∈ addressOpening ++ content ++ [')'], Quote.of? c = none := by
  have opening : ∀ c ∈ addressOpening, Quote.of? c = none := by decide
  intro c mem
  rcases List.mem_append.1 mem with mem | mem
  · rcases List.mem_append.1 mem with mem | mem
    · exact opening c mem
    · have inside := all c mem
      simp only [isAddressChar, Bool.not_eq_true', Bool.or_eq_false_iff, decide_eq_false_iff_not] at inside
      exact Quote.of?_eq_none_iff.2 ⟨inside.1.2, inside.2⟩
  · rw [List.mem_singleton.1 mem]
    rfl

/-- If all addresses in a text are closed, then the text is split off whole with addresses as segments
where it is without, and no address holds a delimiter. -/
theorem exists_segments_true {found : List Segment} {input rest : List Char}
    (split : segments false input = (found, rest)) (closes : ClosesAddresses (Segment.textAll found))
    (stops : Stops rest) : ∃ found', segments true input = (found', rest) ∧ AddressesOpen found' := by
  -- An address is one segment that was several, so the induction is on their number.
  induction number : found.length using Nat.strong_induction_on generalizing found input with
  | _ length ih =>
  cases found with
  | nil =>
    rw [eq_of_segments split]
    exact ⟨[], segments_stop true stops, by simp [AddressesOpen]⟩
  | cons segment following =>
    obtain ⟨tail, next, others⟩ := next?_of_segments split
    -- What remains behind any first segment is shorter, and its addresses are closed, too.
    have single : ∀ {segment' : Segment} {tail' : List Char} (before : List Segment)
        {later : List Segment}, Segment.next? true input = some (segment', tail') → AddressesOpen [segment'] →
        segment :: following = before ++ later → before ≠ [] → segments false tail' = (later, rest) →
        ∃ found', segments true input = (found', rest) ∧ AddressesOpen found' := by
      intro segment' tail' before later next' first same nonempty others'
      have shorter : later.length < length := by
        rw [← number, same, List.length_append]
        have := List.length_pos_iff.2 nonempty
        omega
      have behind := textAll_append before later
      rw [← same] at behind
      obtain ⟨found', split', open'⟩ := ih _ shorter others' (closes.of_suffix ⟨_, behind.symm⟩) rfl
      exact ⟨segment' :: found', segments_of_next? next' split', first.cons open'⟩
    have spelled := eq_of_segments split
    cases Segment.leads_of_next? next with
    | string closed =>
      exact single [_] (Segment.next?_string true closed) (by simp [AddressesOpen]) rfl
        (by simp) others
    | address allowed all => cases allowed
    | plain open' =>
      rename_i c
      have noQuote := Quote.of?_of_not_isDelimiter open'
      cases address : url? (c :: tail) with
      | none =>
        exact single [_] (Segment.next?_plain noQuote (fun _ => address) open')
          (by simp [AddressesOpen]) rfl (by simp) others
      | some found =>
        obtain ⟨content, after⟩ := found
        obtain ⟨whole, all⟩ := eq_of_url? address
        have inside := closes.length_le stops all (spelled.symm.trans whole)
        have cut : c :: tail = addressOpening ++ content ++ [')'] ++ after := by simp [whole]
        rw [cut] at split
        obtain ⟨delimiters, others', same, behind⟩ := segments_false split (of?_of_mem_address all) inside
        refine single _ (Segment.next?_address address) ?_ same (by simp [addressOpening]) behind
        intro content' mem
        cases List.mem_singleton.1 mem
        exact fun d mem => delimiters d (by simp [mem])

end ViewportScaling.Css
