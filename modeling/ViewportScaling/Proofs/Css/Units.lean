import ViewportScaling.Proofs.Css.Declarations

/-!
# Strings and addresses in declarations

The strings and addresses of a declaration are the units in which its token was read. Dropping comments
goes by other pieces, so what it takes for a comment may lie in an address, or reach into a string. The
units of which it takes nothing, and which stand behind the colon that ends the property, are found in the
value again, whole and in order: neither the blanks nor the mark of importance that are cut off around the
value can be part of one.
-/

namespace ViewportScaling.Css

open Unicode Text

/-! ### Texts in order -/

/-- Texts occur in a text, one behind the other. -/
inductive InOrder : List (List Char) → List Char → Prop where
  /-- Nothing has to occur. -/
  | nil (text : List Char) : InOrder [] text
  /-- The first text occurs behind a gap, and the others behind it. -/
  | cons (gap unit : List Char) {units : List (List Char)} {rest : List Char}
      (later : InOrder units rest) : InOrder (unit :: units) (gap ++ (unit ++ rest))

/-- A unit starts as a string or an address does, and ends as one does. -/
structure IsFramed (unit : List Char) : Prop where
  /-- The first and the last character. -/
  framed : ∃ c middle d, unit = c :: (middle ++ [d]) ∧ c ∈ ['u', '"', '\''] ∧ isAddressChar d = false

namespace InOrder

variable {units : List (List Char)} {text : List Char}

/-- Texts that occur in a text occur behind anything. -/
theorem behind (occur : InOrder units text) (front : List Char) : InOrder units (front ++ text) := by
  cases occur with
  | nil => exact .nil _
  | cons gap unit later =>
    rw [← List.append_assoc]
    exact .cons (front ++ gap) unit later

/-- Blanks in front are part of no unit. -/
theorem of_blanks_append {gap : List Char} (blank : ∀ c ∈ gap, isBlank c = true)
    (framed : ∀ unit ∈ units, IsFramed unit) (occur : InOrder units (gap ++ text)) :
    InOrder units text := by
  generalize whole : gap ++ text = input at occur
  cases occur with
  | nil => exact .nil _
  | cons gap' unit later =>
    rcases List.append_eq_append_iff.1 whole with ⟨part, -, rest⟩ | ⟨part, before, rest⟩
    · rw [rest]
      exact .cons part unit later
    · obtain ⟨c, middle, d, rfl, first, -⟩ := (framed unit List.mem_cons_self).framed
      cases part with
      | nil =>
        rw [List.nil_append] at rest
        rw [← rest]
        exact .cons [] _ later
      | cons e part =>
        have same := (List.cons.inj rest).1
        have solid : ∀ c ∈ ['u', '"', '\''], isBlank c = false := by decide
        have loose := blank e (by rw [before]; simp)
        rw [← same, solid c first] at loose
        cases loose

/-- What closes neither a string nor an address and stands behind all that does is part of no unit. -/
theorem of_append {rest : List Char} (plain : ∀ c ∈ rest, isAddressChar c = true)
    (framed : ∀ unit ∈ units, IsFramed unit) (occur : InOrder units (text ++ rest)) :
    InOrder units text := by
  generalize whole : text ++ rest = input at occur
  induction occur generalizing text with
  | nil => exact .nil _
  | @cons gap unit units rest' later ih =>
    obtain ⟨first, others⟩ := List.forall_mem_cons.1 framed
    obtain ⟨c, middle, d, rfl, -, closes⟩ := first.framed
    rw [← List.append_assoc] at whole
    rcases List.append_eq_append_iff.1 whole with ⟨part, before, behind⟩ | ⟨part, before, behind⟩
    · cases part using List.reverseRecOn with
      | nil =>
        rw [List.append_nil] at before
        rw [← before]
        have later : InOrder units [] := ih others behind
        have occurs := InOrder.cons gap (c :: (middle ++ [d])) later
        rwa [List.append_nil] at occurs
      | append_singleton part last _ =>
        have ends : gap ++ c :: middle ++ [d] = text ++ part ++ [last] := by
          rw [List.append_assoc text, ← before]
          simp
        have same : d = last := by simpa using (List.append_inj' ends rfl).2
        have inside := plain last (by rw [behind]; simp)
        rw [← same, closes] at inside
        cases inside
    · rw [before, List.append_assoc]
      exact .cons gap _ (ih others behind.symm)

end InOrder

/-! ### The units of a declaration -/

/-- Whether a segment is a string or an address. -/
def Segment.isUnit : Segment → Bool
  | .plain _ => false
  | _ => true

/-- A text that is split after a closing quote ends in the quote. -/
theorem exists_of_closing? {multiline : Bool} {quote : Char} {input text rest : List Char}
    (found : closing? multiline quote input = some (text, rest)) : ∃ inner, text = inner ++ [quote] := by
  fun_induction closing? multiline quote input generalizing text rest with
  | case1 => cases found
  | case2 => cases found
  | case3 c tail whole ih =>
    obtain ⟨⟨inner, after⟩, split, same⟩ := Option.map_eq_some_iff.1 found
    cases same
    obtain ⟨front, rfl⟩ := ih split
    exact ⟨'\\' :: c :: front, rfl⟩
  | case4 tail _ =>
    cases found
    exact ⟨[], rfl⟩
  | case5 => cases found
  | case6 c tail _ other go ih =>
    obtain ⟨⟨inner, after⟩, split, same⟩ := Option.map_eq_some_iff.1 found
    cases same
    obtain ⟨front, rfl⟩ := ih split
    exact ⟨c :: front, rfl⟩

/-- A string or an address starts and ends as one does. -/
theorem Segment.isFramed_of_next? {urls : Bool} {input rest : List Char} {segment : Segment}
    (next : next? urls input = some (segment, rest)) (unit : segment.isUnit = true) :
    IsFramed segment.text := by
  cases leads_of_next? next with
  | string closed =>
    rename_i quote tail body
    obtain ⟨inner, rfl⟩ := exists_of_closing? closed
    exact ⟨quote.mark, inner, quote.mark, rfl, by cases quote <;> decide, by cases quote <;> decide⟩
  | address allowed all =>
    rename_i content
    exact ⟨'u', 'r' :: 'l' :: '(' :: content, ')', rfl, by decide, by decide⟩
  | plain open' => cases unit

/-- So does each one that a text is split in. -/
theorem isFramed_of_mem_segments {urls : Bool} {input : List Char} {segment : Segment}
    (mem : segment ∈ (segments urls input).1) (unit : segment.isUnit = true) : IsFramed segment.text := by
  fun_induction segments urls input with
  | case1 => cases mem
  | case2 input first rest found following after split ih =>
    rw [split] at ih
    rcases List.mem_cons.1 mem with rfl | mem
    · exact Segment.isFramed_of_next? found unit
    · exact ih mem

/-- Giving up an address adds no unit. -/
theorem mem_of_reopen? {following found : List Segment} {after rest : List Char} {segment : Segment}
    (given : reopen? following after = some (found, rest)) (mem : segment ∈ found)
    (unit : segment.isUnit = true) : segment ∈ following := by
  induction following generalizing found rest with
  | nil => cases given
  | cons first following ih =>
    simp only [reopen?] at given
    split at given
    · rename_i kept tail inner
      cases given
      rcases List.mem_cons.1 mem with rfl | mem
      · exact List.mem_cons_self
      · exact List.mem_cons_of_mem _ (ih inner mem)
    · split at given
      · obtain ⟨⟨opened, tail⟩, cut, same⟩ := Option.map_eq_some_iff.1 given
        cases same
        simp only [reopenUrl?] at cut
        split at cut
        · cases cut
          obtain ⟨c, -, rfl⟩ := List.mem_map.1 mem
          cases unit
        · cases cut
      · cases given

/-- The units of a declaration start and end as strings and addresses do. -/
theorem isFramed_of_declaration? {input rest : List Char} {found : List Segment} {segment : Segment}
    (split : declaration? input = some (found, rest)) (mem : segment ∈ found)
    (unit : segment.isUnit = true) : IsFramed segment.text := by
  unfold declaration? at split
  split at split
  · cases split
  · rename_i c tail first
    simp only at split
    split at split
    · cases split
      rcases List.mem_cons.1 mem with rfl | mem
      · cases unit
      · exact isFramed_of_mem_segments mem unit
    · obtain ⟨⟨kept, left⟩, given, same⟩ := Option.map_eq_some_iff.1 split
      cases same
      rcases List.mem_cons.1 mem with rfl | mem
      · cases unit
      · exact isFramed_of_mem_segments (mem_of_reopen? given mem unit) unit

/-! ### What dropping comments keeps -/

/-- The characters of a text that are marked. -/
def keep : List Char → List Bool → List Char
  | c :: text, true :: marks => c :: keep text marks
  | _ :: text, false :: marks => keep text marks
  | _, _ => []

/-- For each character of a text, whether it is kept when comments are dropped. -/
def keptMarks (text : List Char) : List Bool :=
  (pieces text).flatMap fun piece => List.replicate piece.text.length !piece.isComment

theorem keep_append {first second : List Char} {marks marks' : List Bool}
    (same : marks.length = first.length) :
    keep (first ++ second) (marks ++ marks') = keep first marks ++ keep second marks' := by
  induction first generalizing marks with
  | nil =>
    rw [List.length_eq_zero_iff.1 same]
    rfl
  | cons c first ih =>
    cases marks with
    | nil => cases same
    | cons mark marks =>
      have others := ih (Nat.succ.inj same)
      cases mark with
      | false => exact others
      | true => exact congrArg (c :: ·) others

/-- What is marked throughout is kept whole. -/
theorem keep_eq_self {text : List Char} {marks : List Bool} (same : marks.length = text.length)
    (all : marks.all id = true) : keep text marks = text := by
  induction text generalizing marks with
  | nil =>
    rw [List.length_eq_zero_iff.1 same]
    rfl
  | cons c text ih =>
    cases marks with
    | nil => cases same
    | cons mark marks =>
      rw [List.all_cons, Bool.and_eq_true] at all
      obtain ⟨first, others⟩ := all
      have first : mark = true := first
      rw [first]
      exact congrArg (c :: ·) (ih (Nat.succ.inj same) others)

/-- A text is kept if all of it is marked, and dropped if none is. -/
theorem keep_replicate (text : List Char) (mark : Bool) :
    keep text (List.replicate text.length mark) = if mark then text else [] := by
  induction text with
  | nil => cases mark <;> rfl
  | cons c text ih =>
    cases mark with
    | false => exact ih
    | true => exact congrArg (c :: ·) ih

/-- Keeping what is marked in the pieces of a text is dropping its comments. -/
theorem keep_keptMarks (text : List Char) :
    keep text (keptMarks text) = (pieces text).flatMap Piece.uncommented := by
  have each : ∀ parts : List Piece, keep (parts.flatMap Piece.text)
      (parts.flatMap fun piece => List.replicate piece.text.length !piece.isComment) =
        parts.flatMap Piece.uncommented := by
    intro parts
    induction parts with
    | nil => rfl
    | cons piece parts ih =>
      rw [List.flatMap_cons, List.flatMap_cons, keep_append (List.length_replicate ..), ih,
        keep_replicate, List.flatMap_cons]
      congr 1
      cases piece <;> rfl
  have whole := each (pieces text)
  rw [flatMap_pieces] at whole
  exact whole

/-- There is a mark for each character. -/
theorem length_keptMarks (text : List Char) : (keptMarks text).length = text.length := by
  have whole := congrArg List.length (flatMap_pieces text)
  rw [List.length_flatMap] at whole
  rw [keptMarks, List.length_flatMap, ← whole]
  simp

/-- Each segment with the marks of its characters. -/
def markedSegments : List Segment → List Bool → List (Segment × List Bool)
  | [], _ => []
  | segment :: following, marks =>
    (segment, marks.take segment.text.length) ::
      markedSegments following (marks.drop segment.text.length)

/-- What is kept of segments with marks. -/
def keptText (marked : List (Segment × List Bool)) : List Char :=
  marked.flatMap fun part => keep part.1.text part.2

/-- The strings and addresses among segments that are kept whole. -/
def wholeUnits (marked : List (Segment × List Bool)) : List (List Char) :=
  (marked.filter fun part => part.1.isUnit && part.2.all id).map fun part => part.1.text

/-- The strings and addresses of a declaration of which dropping comments takes nothing, behind the
segment with the first colon that it keeps. -/
def Token.keptUnits (token : Token) : List (List Char) :=
  let marked := markedSegments token.segments (keptMarks token.text)
  wholeUnits ((marked.dropWhile fun part => !(keep part.1.text part.2).contains ':').drop 1)

/-- What is kept of the text of segments is what is kept of the segments. -/
theorem keep_textAll {found : List Segment} {marks : List Bool}
    (same : marks.length = (Segment.textAll found).length) :
    keep (Segment.textAll found) marks = keptText (markedSegments found marks) := by
  induction found generalizing marks with
  | nil =>
    rw [List.length_eq_zero_iff.1 same]
    rfl
  | cons segment found ih =>
    rw [Segment.textAll_cons, List.length_append] at same
    have front : (marks.take segment.text.length).length = segment.text.length := by
      rw [List.length_take]
      omega
    have back : (marks.drop segment.text.length).length = (Segment.textAll found).length := by
      rw [List.length_drop]
      omega
    conv_lhs => rw [← List.take_append_drop segment.text.length marks]
    rw [Segment.textAll_cons, keep_append front, ih back]
    rfl

/-- Each segment has a mark for each of its characters. -/
theorem of_mem_markedSegments {found : List Segment} {marks : List Bool}
    (same : marks.length = (Segment.textAll found).length) {part : Segment × List Bool}
    (mem : part ∈ markedSegments found marks) :
    part.1 ∈ found ∧ part.2.length = part.1.text.length := by
  induction found generalizing marks with
  | nil => cases mem
  | cons segment found ih =>
    rw [Segment.textAll_cons, List.length_append] at same
    rcases List.mem_cons.1 mem with rfl | mem
    · refine ⟨List.mem_cons_self, ?_⟩
      dsimp only
      rw [List.length_take]
      omega
    · have back : (marks.drop segment.text.length).length = (Segment.textAll found).length := by
        rw [List.length_drop]
        omega
      obtain ⟨inside, length⟩ := ih back mem
      exact ⟨List.mem_cons_of_mem _ inside, length⟩

/-- What is kept whole occurs in what is kept. -/
theorem inOrder_wholeUnits {marked : List (Segment × List Bool)}
    (same : ∀ part ∈ marked, part.2.length = part.1.text.length) :
    InOrder (wholeUnits marked) (keptText marked) := by
  induction marked with
  | nil => exact .nil []
  | cons part marked ih =>
    obtain ⟨segment, marks⟩ := part
    obtain ⟨first, others⟩ := List.forall_mem_cons.1 same
    have later := ih others
    have text : keptText ((segment, marks) :: marked) = keep segment.text marks ++ keptText marked := rfl
    rw [text, wholeUnits, List.filter_cons]
    split
    · rename_i whole
      rw [Bool.and_eq_true] at whole
      rw [keep_eq_self first whole.2]
      exact InOrder.cons [] segment.text later
    · exact later.behind _

/-- Strings and addresses that are kept whole start and end as such. -/
theorem isFramed_of_mem_wholeUnits {marked : List (Segment × List Bool)}
    (framed : ∀ part ∈ marked, part.1.isUnit = true → IsFramed part.1.text) {unit : List Char}
    (mem : unit ∈ wholeUnits marked) : IsFramed unit := by
  obtain ⟨part, inside, rfl⟩ := List.mem_map.1 mem
  obtain ⟨inside, whole⟩ := List.mem_filter.1 inside
  rw [Bool.and_eq_true] at whole
  exact framed part inside whole.1

/-- Without comments all of a text is kept. -/
theorem keptMarks_of_noComment {text : List Char} (none : ∀ piece ∈ pieces text, piece.isComment = false) :
    keptMarks text = List.replicate text.length true := by
  refine List.eq_replicate_iff.2 ⟨length_keptMarks text, fun mark mem => ?_⟩
  obtain ⟨piece, inside, mem⟩ := List.mem_flatMap.1 mem
  rw [List.eq_of_mem_replicate mem, none piece inside]
  rfl

/-- If every character is marked, each segment is marked throughout. -/
theorem markedSegments_replicate (found : List Segment) :
    markedSegments found (List.replicate (Segment.textAll found).length true) =
      found.map fun segment => (segment, List.replicate segment.text.length true) := by
  induction found with
  | nil => rfl
  | cons segment found ih =>
    rw [Segment.textAll_cons, List.length_append, markedSegments, List.take_replicate,
      List.drop_replicate, Nat.add_sub_cancel_left, ih, Nat.min_eq_left (Nat.le_add_right _ _)]
    rfl

/-- In a token without comments, these are all the strings and addresses behind the segment with the first
colon. -/
theorem Token.keptUnits_of_noComment {token : Token}
    (none : ∀ piece ∈ pieces token.text, piece.isComment = false) :
    token.keptUnits =
      ((((token.segments.dropWhile fun segment => !segment.text.contains ':').drop 1).filter
        Segment.isUnit).map Segment.text) := by
  have whole : markedSegments token.segments (keptMarks token.text) = _ :=
    (congrArg _ (keptMarks_of_noComment none)).trans (markedSegments_replicate token.segments)
  have kept : ∀ segment : Segment,
      keep segment.text (List.replicate segment.text.length true) = segment.text :=
    fun segment => keep_replicate segment.text true
  unfold keptUnits wholeUnits
  dsimp only
  rw [whole, List.dropWhile_map, ← List.map_drop, List.filter_map, List.map_map]
  simp [Function.comp_def, kept]

/-- What stands behind the first character of a kind is given by the text. -/
theorem behind_first {mark : Char} {first second back back' : List Char} (absent : mark ∉ first)
    (absent' : mark ∉ second) (same : first ++ mark :: back = second ++ mark :: back') :
    back = back' := by
  have dropped : ∀ {front rest : List Char}, mark ∉ front →
      (front ++ mark :: rest).dropWhile (!· = mark) = mark :: rest := by
    intro front rest none
    have all : ∀ c ∈ front, (!c = mark) = true := by
      intro c mem
      simpa using fun same : c = mark => none (same ▸ mem)
    rw [List.dropWhile_append_of_pos all, List.dropWhile_cons_of_neg (by simp)]
  have both := congrArg (List.dropWhile (!· = mark)) same
  rw [dropped absent, dropped absent'] at both
  exact (List.cons.inj both).2

/-- The first colon that is kept stands in the first segment with one that is kept. -/
theorem exists_behind_colon {marked : List (Segment × List Bool)} (some : ':' ∈ keptText marked) :
    ∃ before between, ':' ∉ before ∧ keptText marked = before ++ ':' :: (between ++
      keptText ((marked.dropWhile fun part => !(keep part.1.text part.2).contains ':').drop 1)) := by
  induction marked with
  | nil => cases some
  | cons part marked ih =>
    have text : keptText (part :: marked) = keep part.1.text part.2 ++ keptText marked := rfl
    by_cases here : ':' ∈ keep part.1.text part.2
    · obtain ⟨before, between, split, absent⟩ := List.eq_append_cons_of_mem here
      refine ⟨before, between, absent, ?_⟩
      rw [List.dropWhile_cons_of_neg (by simpa using here), text, split]
      simp
    · rw [text, List.mem_append] at some
      obtain ⟨before, between, absent, split⟩ := ih (some.resolve_left here)
      refine ⟨keep part.1.text part.2 ++ before, between, ?_, ?_⟩
      · exact fun mem => (List.mem_append.1 mem).elim here absent
      · rw [List.dropWhile_cons_of_pos (by simpa using here), text, split, List.append_assoc]

/-! ### The value of a declaration -/

/-- A declaration is read from its text without comments, which is split at the first colon. -/
theorem exists_of_ofToken {token : Token} {content : Declaration}
    (found : Declaration.ofToken token = .ok content) : ∃ before behind important,
      uncommented token.text = before ++ ':' :: behind ∧ ':' ∉ before ∧
        splitImportance (trim behind) = (content.value.toList, important) := by
  unfold Declaration.ofToken at found
  simp only at found
  split at found
  · cases found
  · rename_i first behind rest
    obtain ⟨whole, absent⟩ := split_of_dropWhile rest
    split at found
    · cases found
    · cases found
      exact ⟨_, behind, _, whole, absent, by rw [String.toList_ofList]⟩

/-- Where what is kept is split at its first colon, up to blanks, there it goes on with what is kept behind
the segment with this colon. -/
theorem exists_keptText_behind {marked : List (Segment × List Bool)} {before behind : List Char}
    (absent : ':' ∉ before) (split : trim (keptText marked) = before ++ ':' :: behind) :
    ∃ between back, (∀ c ∈ back, isBlank c = true) ∧ behind ++ back = between ++
      keptText ((marked.dropWhile fun part => !(keep part.1.text part.2).contains ':').drop 1) := by
  obtain ⟨front, back, left, right, whole⟩ := exists_trim (keptText marked)
  rw [split] at whole
  have colon : ':' ∈ keptText marked := by simp [whole]
  obtain ⟨before', between, absent', whole'⟩ := exists_behind_colon colon
  have absent : ':' ∉ front ++ before := by
    intro mem
    rcases List.mem_append.1 mem with mem | mem
    · exact absurd (left ':' mem) (by decide)
    · exact absent mem
  refine ⟨between, back, right, behind_first absent absent' ?_⟩
  rw [← whole', whole]
  simp

/-- The units of a declaration that are kept whole occur in its value. -/
theorem inOrder_keptUnits {token : Token} {content : Declaration}
    (framed : ∀ segment ∈ token.segments, segment.isUnit = true → IsFramed segment.text)
    (found : Declaration.ofToken token = .ok content) :
    InOrder token.keptUnits content.value.toList ∧ ∀ unit ∈ token.keptUnits, IsFramed unit := by
  have same : (keptMarks token.text).length = (Segment.textAll token.segments).length :=
    length_keptMarks token.text
  obtain ⟨before, behind, important, text, absent, split⟩ := exists_of_ofToken found
  unfold Token.keptUnits
  generalize marked_eq : markedSegments token.segments (keptMarks token.text) = marked
  have kept : uncommented token.text = trim (keptText marked) := by
    rw [uncommented, ← keep_keptMarks, ← marked_eq]
    exact congrArg trim (keep_textAll same)
  obtain ⟨between, back, right, following⟩ := exists_keptText_behind absent (kept.symm.trans text)
  have parts : ∀ part ∈ (marked.dropWhile fun part => !(keep part.1.text part.2).contains ':').drop 1,
      part.1 ∈ token.segments ∧ part.2.length = part.1.text.length := by
    intro part mem
    have inside := (List.dropWhile_sublist _).subset (List.mem_of_mem_drop mem)
    rw [← marked_eq] at inside
    exact of_mem_markedSegments same inside
  have framedUnits := fun (unit : List Char) mem => @isFramed_of_mem_wholeUnits _
    (fun part mem => framed part.1 (parts part mem).1) unit mem
  -- Around the value blanks and the mark of importance were cut off, and neither is part of a unit.
  have occur := (inOrder_wholeUnits fun part mem => (parts part mem).2).behind between
  rw [← following] at occur
  have occur := occur.of_append (fun c mem => isAddressChar_of_isBlank (right c mem)) framedUnits
  obtain ⟨gap, rest, cut, blank, closes, -, -⟩ := exists_value split
  rw [cut] at occur
  exact ⟨(occur.of_append closes framedUnits).of_blanks_append blank framedUnits, framedUnits⟩

end ViewportScaling.Css
