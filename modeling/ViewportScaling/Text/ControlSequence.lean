/-!
# Control sequences

A control sequence tells a terminal how to show the text behind it: an escape character, an opening
bracket, parameters, intermediate characters and a final character, each of the three from a range of its
own. Where text is not shown by a terminal the control sequences are left out. What remains is not looked
at again, and an escape character that starts no complete sequence is kept.
-/

namespace ViewportScaling.Text

/-- Whether a character is a parameter of a control sequence: a digit, a colon, a semicolon or one of the
four characters that follow them. -/
def isParameter (c : Char) : Bool := '0' ≤ c && c ≤ '?'

/-- Whether a character may stand between the parameters and the end of a control sequence: a space or one
of the marks before the digits. -/
def isIntermediate (c : Char) : Bool := ' ' ≤ c && c ≤ '/'

/-- Whether a character ends a control sequence: a letter or a mark beside the letters. -/
def isFinal (c : Char) : Bool := '@' ≤ c && c ≤ '~'

/-- The text behind a control sequence that it starts with. -/
def afterSequence? : List Char → Option (List Char)
  | '\x1b' :: '[' :: rest =>
    match (rest.dropWhile isParameter).dropWhile isIntermediate with
    | last :: behind => if isFinal last then some behind else none
    | [] => none
  | _ => none

/-- A control sequence takes at least one character. -/
theorem length_lt_of_afterSequence? {text rest : List Char} (h : afterSequence? text = some rest) :
    rest.length < text.length := by
  unfold afterSequence? at h
  split at h
  · rename_i behind
    have shorter := ((List.dropWhile_sublist (l := behind.dropWhile isParameter)
      isIntermediate).trans (List.dropWhile_sublist (l := behind) isParameter)).length_le
    split at h
    · rename_i last after dropped
      split at h
      · cases h
        rw [dropped, List.length_cons] at shorter
        rw [List.length_cons, List.length_cons]
        omega
      · simp at h
    · simp at h
  · simp at h

/-- A control sequence starts with an escape character. -/
theorem head_of_afterSequence? {text rest : List Char} (h : afterSequence? text = some rest) :
    text.head? = some '\x1b' := by
  unfold afterSequence? at h
  split at h
  · rfl
  · simp at h

/-- The text without its control sequences. -/
def withoutSequences (text : List Char) : List Char :=
  match _found : afterSequence? text with
  | some rest => withoutSequences rest
  | none =>
    match text with
    | [] => []
    | c :: rest => c :: withoutSequences rest
termination_by text.length
decreasing_by
  · exact length_lt_of_afterSequence? ‹_›
  · exact Nat.lt_succ_self _

/-- A text without escape characters is kept as it is. -/
theorem withoutSequences_of_notMem {text : List Char} (h : '\x1b' ∉ text) :
    withoutSequences text = text := by
  fun_induction withoutSequences text with
  | case1 text rest found ih =>
    exact absurd (List.mem_of_mem_head? (head_of_afterSequence? found)) h
  | case2 => rfl
  | case3 c rest _ ih => rw [ih fun inside => h (List.mem_cons_of_mem c inside)]

/-- Text as it is printed where no terminal shows it. -/
def printed (text : String) : String := String.ofList (withoutSequences text.toList)

example : printed "\x1b[0;1ma\x1b[38:5:1m\x1b[;" = "a\x1b[;" := by cbv

end ViewportScaling.Text
