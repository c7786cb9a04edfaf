import ViewportScaling.Proofs.Css.CommentedTokens

/-!
# Comments put into a source

A comment between two tokens is skipped, whatever it holds. A comment inside a selector, prelude or
declaration becomes part of the token, and the nodes stay as they are if it is inert and, outside
declarations, does not part a run of blanks. Other comments do change what is read: a semicolon in a
comment ends the declaration around it, and of a run of blanks that a comment parts two spaces are left.
-/

namespace ViewportScaling.Css

open Unicode Text

/-! ### Places for a comment -/

namespace Reading

/-- The token that is found next in a text, and what stands behind it. -/
def Finds (length : Nat) (reading : Reading) (input : List Char) (token : Token) (rest : List Char) :
    Prop :=
  Token.next? reading.stage.sought (length - (skipIgnored input).length) (skipIgnored input) =
    some (token, rest)

/-- A place in a text that is read on, by what stands before it and behind it, where a comment may
stand. -/
inductive Place (length : Nat) (comment : List Char) : Reading → List Char → List Char → Prop where
  /-- Between two tokens, among spacing and comments, any complete comment may stand. -/
  | between {reading : Reading} {front back : List Char} (skipped : skipIgnored front = [])
      (complete : comment? comment = some (comment, [])) : Place length comment reading front back
  /-- Between two segments of a plain selector, prelude or declaration an inert comment may stand, if it
  does not part a run of blanks where runs of blanks count as one space. -/
  | within {reading : Reading} {gap rest : List Char} {token : Token} {first second : List Segment}
      (skipped : skipIgnored gap = [])
      (found : reading.Finds length (gap ++ (token.text ++ rest)) token rest)
      (text : token.terminal.isText = true) (plain : token.IsPlain)
      (cut : token.segments = first ++ second) (nonempty : first ≠ []) (inert : IsInert comment)
      (apart : token.terminal ≠ .declaration → ∀ last ∈ (Segment.textAll first).getLast?,
        ∀ c ∈ (Segment.textAll second).head?, ¬(isBlank last = true ∧ isBlank c = true)) :
      Place length comment reading (gap ++ Segment.textAll first) (Segment.textAll second ++ rest)
  /-- The place is behind the next token, if that is plain, and behind a selector, prelude or declaration
  not directly. -/
  | behind {reading further : Reading} {gap front back : List Char} {token : Token}
      (skipped : skipIgnored gap = [])
      (found : reading.Finds length (gap ++ (token.text ++ (front ++ back))) token (front ++ back))
      (plain : token.terminal.isText = true → token.IsPlain ∧ front ≠ [])
      (taken : reading.take? token = some further) (onward : Place length comment further front back) :
      Place length comment reading (gap ++ (token.text ++ front)) back

/-- Only what stands behind blanks and comments counts for a reading that is completed. -/
theorem Completes.congr {length : Nat} {reading : Reading} {input input' : List Char}
    {items : List Item} (completes : reading.Completes length input items)
    (same : skipIgnored input' = skipIgnored input) : reading.Completes length input' items := by
  rw [← finish_eq_ok_iff, finish_congr same, finish_eq_ok_iff]
  exact completes

/-- A complete comment is skipped. -/
theorem skipIgnored_complete {comment : List Char} (complete : comment? comment = some (comment, []))
    (rest : List Char) : skipIgnored (comment ++ rest) = skipIgnored rest := by
  rw [skipIgnored_of_comment? (comment?_append_of_some complete rest)]
  rfl

/-- What is skipped altogether makes no difference to what is skipped behind it. -/
theorem skipIgnored_skipped {gap : List Char} (skipped : skipIgnored gap = []) (rest : List Char) :
    skipIgnored (gap ++ rest) = skipIgnored rest := by
  rw [skipIgnored_append, skipped, List.nil_append]

/-- What is found is what the text is read on with. -/
theorem Completes.of_finds {length : Nat} {reading : Reading} {input rest : List Char} {token : Token}
    {items : List Item} (completes : reading.Completes length input items)
    (found : reading.Finds length input token rest) :
    ∃ further, reading.take? token = some further ∧ further.Completes length rest items := by
  unfold Finds at found
  cases completes with
  | stop nothing final =>
    rw [nothing, Token.next?_nil] at found
    cases found
  | step found' taken onward =>
    rw [found] at found'
    cases found'
    exact ⟨_, taken, onward⟩

/-- A reading that takes a token is completed if it is completed on the rest. -/
theorem Completes.of_token {length : Nat} {reading further : Reading} {gap input rest : List Char}
    {token : Token} {items : List Item} (skipped : skipIgnored gap = [])
    (starts : skipIgnored input = input)
    (found : Token.next? reading.stage.sought (length - input.length) input = some (token, rest))
    (taken : reading.take? token = some further) (onward : further.Completes length rest items) :
    reading.Completes length (gap ++ input) items := by
  refine .step ?_ taken onward
  rw [skipIgnored_skipped skipped, starts]
  exact found

/-- At each such place the comment is complete. -/
theorem Place.complete {length : Nat} {comment front back : List Char} {reading : Reading}
    (place : Place length comment reading front back) : comment? comment = some (comment, []) := by
  induction place with
  | between skipped complete => exact complete
  | within skipped found text plain cut nonempty inert apart => exact inert.complete
  | behind skipped found plain taken onward ih => exact ih

/-- What lets a token end in front of a place lets it end in front of a comment there. -/
theorem mayEnd_insert {terminal : Terminal} {comment front back : List Char}
    (complete : comment? comment = some (comment, [])) (ends : terminal.MayEnd (front ++ back))
    (nonempty : terminal.isText = true → front ≠ []) :
    terminal.MayEnd (front ++ (comment ++ back)) := by
  cases front with
  | cons c front => exact ends.congr rfl
  | nil =>
    obtain ⟨⟨tail, rfl⟩, -⟩ := exists_of_comment? complete
    cases terminal with
    | atKeyword =>
      intro c head
      cases head
      decide +kernel
    | selector => exact absurd rfl (nonempty rfl)
    | declaration => exact absurd rfl (nonempty rfl)
    | «prelude» => exact absurd rfl (nonempty rfl)
    | _ => trivial

/-- A text that is read to its end is read to its end with a comment at a place for it, and the items have
the same nodes. -/
theorem Completes.insert {length : Nat} {comment front back : List Char} {reading : Reading}
    (place : Place length comment reading front back) {items : List Item}
    (completes : reading.Completes length (front ++ back) items) {before : List Node}
    {reading' : Reading} (agrees : reading.Agrees before reading') (length' : Nat) :
    ∃ items', reading'.Completes length' (front ++ (comment ++ back)) items' ∧
      Item.AgreeBehind before items items' := by
  induction place generalizing reading' with
  | between skipped complete =>
    obtain ⟨items', completes', same⟩ := completes.of_agrees agrees length'
    refine ⟨items', completes'.congr ?_, same⟩
    rw [skipIgnored_skipped skipped, skipIgnored_complete complete, skipIgnored_skipped skipped]
  | @within reading gap rest token first second skipped found text plain cut nonempty inert apart =>
    have spelled : token.text = Segment.textAll first ++ Segment.textAll second := by
      rw [Token.text, cut, textAll_append]
    rw [List.append_assoc, ← List.append_assoc (Segment.textAll first), ← spelled] at completes
    obtain ⟨further, taken, onward⟩ := completes.of_finds found
    obtain ⟨parted, starts, token', found', kind, text'⟩ :=
      Token.foundAs_insert found text plain cut nonempty inert
        (length' - (Segment.textAll first ++ (comment ++ Segment.textAll second) ++ rest).length)
    obtain ⟨further', taken', agrees'⟩ :=
      agrees.take? kind (parted.agrees inert.complete spelled text' text apart) taken
    obtain ⟨items', completes', same⟩ := onward.of_agrees agrees' length'
    rw [← agrees.stage.sought] at found'
    refine ⟨items', ?_, same⟩
    have whole : gap ++ Segment.textAll first ++ (comment ++ (Segment.textAll second ++ rest)) =
        gap ++ (Segment.textAll first ++ (comment ++ Segment.textAll second) ++ rest) := by simp
    rw [whole]
    exact .of_token skipped starts found' taken' completes'
  | @behind reading further gap front back token skipped found plain taken place ih =>
    rw [List.append_assoc, List.append_assoc] at completes
    obtain ⟨further₁, taken₁, onward⟩ := completes.of_finds found
    cases taken.symm.trans taken₁
    have ends := mayEnd_insert place.complete (onward.mayEnd found taken).1 fun text => (plain text).2
    obtain ⟨starts, token', found', kind, text⟩ := Token.foundAs_again found (fun text => (plain text).1)
      ends (length' - (token.text ++ (front ++ (comment ++ back))).length)
    obtain ⟨further', taken', agrees'⟩ := agrees.take? kind (.of_text text _) taken
    obtain ⟨items', completes', same⟩ := ih onward agrees'
    rw [← agrees.stage.sought] at found'
    rw [List.append_assoc, List.append_assoc]
    exact ⟨items', .of_token skipped starts found' taken' completes', same⟩

end Reading

/-- A stylesheet is read as the same nodes with a comment at a place for it. -/
theorem Stylesheet.read_insert {left comment right : String} {sheet : Stylesheet}
    (place : Reading.Place (left ++ right).toList.length comment.toList {} left.toList right.toList)
    (found : read (left ++ right) = .ok sheet) : read (left ++ comment ++ right) = .ok sheet := by
  obtain ⟨items, outlined, nodes⟩ := read_eq_ok_iff.1 found
  let length := (left ++ right).toList.length
  have completes : Reading.Completes length {} (left.toList ++ right.toList) items := by
    rw [← String.toList_append]
    exact Reading.finish_eq_ok_iff.1 outlined
  have refl : Reading.Agrees [] {} {} := ⟨fun _ found => found, .nil, .start⟩
  let source := (left ++ comment ++ right).toList
  have spelled : source = left.toList ++ (comment.toList ++ right.toList) := by simp [source]
  obtain ⟨items', completes', same⟩ := completes.insert place refl source.length
  rw [← spelled] at completes'
  exact read_eq_ok_iff.2 ⟨items', Reading.finish_eq_ok_iff.2 completes', same sheet nodes⟩

instance (comment : List Char) : Decidable (IsInert comment) :=
  decidable_of_iff (comment? comment = some (comment, []) ∧ (∀ c ∈ comment, isDelimiter c = false) ∧
      ¬addressOpening <:+: comment)
    ⟨fun ⟨complete, open', noAddress⟩ => ⟨complete, open', noAddress⟩,
      fun inert => ⟨inert.complete, inert.open', inert.noAddress⟩⟩

/-- A comment between two words of a prelude. -/
theorem Stylesheet.read_insert_prelude :
    Reading.Place ("@x y" ++ " z;").toList.length "/* n */".toList {} "@x y".toList " z;".toList ∧
      read ("@x y" ++ " z;") = .ok [.atRule "x" "y z" false []] ∧
      read ("@x y" ++ "/* n */" ++ " z;") = .ok [.atRule "x" "y z" false []] := by
  have found : read ("@x y" ++ " z;") = .ok [.atRule "x" "y z" false []] := by decide +kernel
  have place : Reading.Place ("@x y" ++ " z;").toList.length "/* n */".toList {} "@x y".toList
      " z;".toList := by
    let keyword : Token := ⟨.atKeyword, [.plain '@', .plain 'x'], 0⟩
    let params : Token := ⟨.prelude, [.plain 'y', .plain ' ', .plain 'z'], 3⟩
    have onward : Reading.Place ("@x y" ++ " z;").toList.length "/* n */".toList
        { stage := .keyword keyword, last := some keyword } ([' '] ++ ['y']) ([' ', 'z'] ++ [';']) :=
      @Reading.Place.within _ _ _ [' '] [';'] params [.plain 'y'] [.plain ' ', .plain 'z']
        (by decide +kernel) (by unfold Reading.Finds; decide +kernel) rfl (by decide +kernel) rfl
        (by simp) (by decide +kernel) (by decide +kernel)
    exact @Reading.Place.behind _ _ _ _ [] _ _ keyword (by decide +kernel)
      (by unfold Reading.Finds; decide +kernel) (by decide +kernel) rfl onward
  exact ⟨place, found, read_insert place found⟩

/-- A semicolon in a comment ends the declaration around it, and of a run of blanks in a selector that a
comment parts two spaces are left. -/
theorem Stylesheet.read_insert_lively :
    (comment? "/* ; */".toList = some ("/* ; */".toList, []) ∧
      read ("a \x7b b: c " ++ "\x7d") = .ok [.rule "a" [⟨"b", "c", false⟩]] ∧
      ∀ sheet, read ("a \x7b b: c " ++ "/* ; */" ++ "\x7d") ≠ .ok sheet) ∧
    comment? "/**/".toList = some ("/**/".toList, []) ∧
      read ("a " ++ " b \x7b\x7d") = .ok [.rule "a b" []] ∧
      read ("a " ++ "/**/" ++ " b \x7b\x7d") = .ok [.rule "a  b" []] := by
  refine ⟨⟨by decide +kernel, by decide +kernel, fun sheet found => ?_⟩, by decide +kernel,
    by decide +kernel, by decide +kernel⟩
  have fails : (read ("a \x7b b: c " ++ "/* ; */" ++ "\x7d")).toOption = none := by decide +kernel
  rw [found] at fails
  cases fails

end ViewportScaling.Css
