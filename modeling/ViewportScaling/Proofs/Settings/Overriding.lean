import Mathlib.Data.List.Induction
import ViewportScaling.Entries
import ViewportScaling.Media.Pass
import ViewportScaling.Proofs.Settings.Validation

/-!
# Overriding settings

Options are merged onto settings field by field: a field takes the value of the last option that denotes it
by either of its names, and else keeps its value. The outcome is the validation of the merged values, so it
depends on nothing else, and an option that denotes no field does no more than cause a warning. Overriding
twice comes to overriding once with all the options in order, entered under the names of their fields.
-/

namespace ViewportScaling.Settings

open Json Css Media

/-! ### Names of fields -/

/-- A name denotes a field: it is the name of the field, or the alternative spelling of that. -/
def Field.Denoted (field : Field) (name : String) : Prop := name = field.name ∨ name = field.otherName

instance (field : Field) (name : String) : Decidable (field.Denoted name) :=
  inferInstanceAs (Decidable (_ ∨ _))

/-- An option is that of a field just if its name denotes the field. -/
theorem Field.ofOption?_eq_some_iff {name : String} {field : Field} :
    Field.ofOption? name = some field ↔ field.Denoted name := by
  constructor
  · intro found
    have same := List.find?_some found
    simp only [Bool.or_eq_true, beq_iff_eq] at same
    exact same.imp Eq.symm Eq.symm
  · rintro (rfl | rfl)
    · exact ofOption?_name field
    · exact ofOption?_otherName field

/-- A name denotes some field. -/
def IsKnown (name : String) : Prop := ∃ field : Field, field.Denoted name

/-- It is the option of some field just if its name is known. -/
theorem isSome_ofOption?_iff {name : String} : (Field.ofOption? name).isSome = true ↔ IsKnown name := by
  rw [Option.isSome_iff_exists]
  exact exists_congr fun field => Field.ofOption?_eq_some_iff

instance (name : String) : Decidable (IsKnown name) := decidable_of_iff _ isSome_ofOption?_iff

/-- A name denotes one field at most. -/
theorem Field.Denoted.unique {field other : Field} {name : String} (h : field.Denoted name)
    (k : other.Denoted name) : field = other := by
  rw [← ofOption?_eq_some_iff] at h k
  exact Option.some.inj (h.symm.trans k)

/-! ### Merged values -/

/-- The value of the last option for a field, if there is one. -/
def lastFor? (options : Options) (field : Field) : Option Value :=
  ((options.filter fun option => field.Denoted option.1).getLast?).map Prod.snd

/-- The values of settings with those of options merged onto them. -/
def merged (base : Settings) (options : Options) : Draft :=
  fun field => (lastFor? options field).getD (base.draft field)

/-- The last value for a field is one of the later options, if they have one for it. -/
theorem lastFor?_append (earlier later : Options) (field : Field) :
    lastFor? (earlier ++ later) field = (lastFor? later field).or (lastFor? earlier field) := by
  unfold lastFor?
  rw [List.filter_append, List.getLast?_append]
  cases (later.filter fun option => field.Denoted option.1).getLast? <;> rfl

/-- A single option has a value for the field that its name denotes. -/
theorem lastFor?_singleton (option : String × Value) (field : Field) :
    lastFor? [option] field = if field.Denoted option.1 then some option.2 else none := by
  unfold lastFor?
  by_cases denoted : field.Denoted option.1 <;> simp [denoted]

/-- An update with one option after another leaves each field the value of the last one for it. -/
theorem Draft.update_apply (draft : Draft) (options : Options) (field : Field) :
    draft.update options field = (lastFor? options field).getD (draft field) := by
  induction options using List.reverseRecOn with
  | nil => rfl
  | append_singleton options option ih =>
    rw [Draft.update_append, lastFor?_append, lastFor?_singleton]
    have step : (draft.update options).update [option] field =
        if field.Denoted option.1 then option.2 else draft.update options field := by
      rw [Draft.update, List.foldl_cons, List.foldl_nil]
      cases found : Field.ofOption? option.1 with
      | none =>
        have unknown : ¬field.Denoted option.1 := by
          rw [← Field.ofOption?_eq_some_iff, found]
          exact (Option.some_ne_none field).symm
        rw [if_neg unknown]
      | some other =>
        have denoted := Field.ofOption?_eq_some_iff.1 found
        dsimp only
        by_cases same : field = other
        · subst same
          rw [Draft.set_self, if_pos denoted]
        · rw [Draft.set_of_ne _ _ same, if_neg fun here => same (here.unique denoted)]
    rw [step, ih]
    split <;> rfl

/-- Updating a draft with options is merging them into it. -/
theorem draft_update (base : Settings) (options : Options) :
    base.draft.update options = base.merged options :=
  funext fun field => base.draft.update_apply options field

/-- Valid settings are overridden by validating the merged values, even where there are no options and
nothing is validated. -/
theorem IsValid.override_eq {base : Settings} (valid : base.IsValid) (options : Options) :
    base.override options = (base.merged options).validate := by
  unfold Settings.override
  split
  · rename_i none
    rw [List.isEmpty_iff.1 none]
    exact valid.symm
  · rw [draft_update]

/-- Options that denote no field leave the merged values as they are. -/
theorem merged_filter (base : Settings) (options : Options) :
    base.merged (options.filter fun option => IsKnown option.1) = base.merged options := by
  funext field
  unfold merged lastFor?
  rw [List.filter_filter]
  congr 3
  refine List.filter_congr fun option _ => ?_
  by_cases denoted : field.Denoted option.1
  · have known : IsKnown option.1 := ⟨field, denoted⟩
    simp [denoted, known]
  · simp [denoted]

/-! ### One list of options for two -/

/-- The name of the field that a name denotes. A name that denotes no field stands for itself. -/
def fieldName (name : String) : String := ((Field.ofOption? name).map Field.name).getD name

/-- A name and the name of its field denote the same field. -/
theorem denoted_fieldName_iff {field : Field} {name : String} :
    field.Denoted (fieldName name) ↔ field.Denoted name := by
  unfold fieldName
  cases found : Field.ofOption? name with
  | none => rfl
  | some other =>
    have denoted := Field.ofOption?_eq_some_iff.1 found
    constructor
    · intro here
      rw [here.unique (.inl rfl : other.Denoted other.name)]
      exact denoted
    · intro here
      rw [here.unique denoted]
      exact .inl rfl

/-- The names that stand for themselves: those of fields, without the alternative spellings, and those
that denote no field. -/
def IsProper (name : String) : Prop := ∀ field : Field, field.Denoted name → name = field.name

/-- The name of a field stands for itself. -/
theorem isProper_fieldName (name : String) : IsProper (fieldName name) := by
  intro field denoted
  rw [denoted_fieldName_iff, ← Field.ofOption?_eq_some_iff] at denoted
  rw [fieldName, denoted]
  rfl

/-- The options entered in order under the names of their fields: a name that comes again keeps its place
and takes its last value. -/
def entered (options : Options) : Options :=
  entriesOf (options.map fun option => (fieldName option.1, option.2))

/-- Where all that denotes a field goes by one name, replacing what has the name leaves the new value as the
last one for the field. -/
theorem lastFor?_replace {entries : Options} {name : String} {field : Field}
    (only : ∀ entry ∈ entries, field.Denoted entry.1 → entry.1 = name) (denoted : field.Denoted name)
    (known : ∃ entry ∈ entries, entry.1 = name) (value : Value) :
    lastFor? (entries.map fun entry => if entry.1 == name then (name, value) else entry) field =
      some value := by
  unfold lastFor?
  cases last : ((entries.map fun entry => if entry.1 == name then (name, value) else entry).filter
      fun option => field.Denoted option.1).getLast? with
  | none =>
    obtain ⟨entry, among, same⟩ := known
    have present : (name, value) ∈ (entries.map fun entry =>
        if entry.1 == name then (name, value) else entry).filter fun option =>
          field.Denoted option.1 := by
      refine List.mem_filter.2 ⟨List.mem_map.2 ⟨entry, among, if_pos (beq_iff_eq.2 same)⟩, ?_⟩
      rw [decide_eq_true_eq]
      exact denoted
    rw [List.getLast?_eq_none_iff.1 last] at present
    cases present
  | some option =>
    obtain ⟨mem, here⟩ := List.mem_filter.1 (List.mem_of_getLast? last)
    obtain ⟨entry, among, rfl⟩ := List.mem_map.1 mem
    by_cases same : entry.1 = name
    · rw [if_pos (beq_iff_eq.2 same)]
      rfl
    · rw [if_neg (by simpa using same)] at here
      exact absurd (only entry among (of_decide_eq_true here)) same

/-- Replacing what has a name leaves the last option for every other field as it is. -/
theorem lastFor?_replace_of_not_denoted {name : String} {field : Field} (others : ¬field.Denoted name)
    (entries : Options) (value : Value) :
    lastFor? (entries.map fun entry => if entry.1 == name then (name, value) else entry) field =
      lastFor? entries field := by
  unfold lastFor?
  rw [List.filter_map, List.getLast?_map, Option.map_map]
  have kept : ((fun option : String × Value => decide (field.Denoted option.1)) ∘ fun entry =>
      if entry.1 == name then (name, value) else entry) =
        fun entry : String × Value => decide (field.Denoted entry.1) := by
    funext entry
    by_cases same : entry.1 = name <;> simp [same, others]
  rw [kept]
  cases last : (entries.filter fun option => field.Denoted option.1).getLast? with
  | none => rfl
  | some option =>
    have here := of_decide_eq_true (List.mem_filter.1 (List.mem_of_getLast? last)).2
    have apart : option.1 ≠ name := by
      rintro rfl
      exact others here
    simp [apart]

/-- Entering a value for a field makes it the last one for the field, as long as the field goes by one
name. -/
theorem lastFor?_enter {entries : Options} (proper : ∀ entry ∈ entries, IsProper entry.1) {name : String}
    (isProper : IsProper name) (value : Value) (field : Field) :
    lastFor? (enter entries name value) field =
      if field.Denoted name then some value else lastFor? entries field := by
  unfold enter
  by_cases known : (entries.any (·.1 == name)) = true
  · rw [if_pos known]
    by_cases denoted : field.Denoted name
    · rw [if_pos denoted]
      refine lastFor?_replace (fun entry among here => ?_) denoted ?_ value
      · exact (proper entry among field here).trans (isProper field denoted).symm
      · simpa using known
    · rw [if_neg denoted, lastFor?_replace_of_not_denoted denoted]
  · rw [if_neg known, lastFor?_append, lastFor?_singleton]
    split <;> rfl

/-- Entering a value under a name that stands for itself leaves only such names. -/
theorem isProper_of_mem_enter {entries : Options} (proper : ∀ entry ∈ entries, IsProper entry.1)
    {name : String} (isProper : IsProper name) (value : Value) :
    ∀ entry ∈ enter entries name value, IsProper entry.1 := by
  intro entry mem
  have key : entry.1 ∈ (enter entries name value).map Prod.fst := List.mem_map_of_mem mem
  rw [map_fst_enter] at key
  have either : entry.1 ∈ entries.map Prod.fst ∨ entry.1 = name := by
    split at key
    · exact .inl key
    · exact (List.mem_append.1 key).imp id List.mem_singleton.1
  rcases either with old | new
  · obtain ⟨other, among, same⟩ := List.mem_map.1 old
    rw [← same]
    exact proper other among
  · rw [new]
    exact isProper

/-- Entering options one after another keeps the last one for each field. -/
theorem lastFor?_entered (options : Options) (field : Field) :
    lastFor? (entered options) field = lastFor? options field := by
  have both : (∀ entry ∈ entered options, IsProper entry.1) ∧
      lastFor? (entered options) field = lastFor? options field := by
    induction options using List.reverseRecOn with
    | nil => exact ⟨nofun, rfl⟩
    | append_singleton options option ih =>
      have step : entered (options ++ [option]) =
          enter (entered options) (fieldName option.1) option.2 := by
        simp [entered, entriesOf]
      rw [step]
      refine ⟨isProper_of_mem_enter ih.1 (isProper_fieldName _) _, ?_⟩
      rw [lastFor?_enter ih.1 (isProper_fieldName _), lastFor?_append, lastFor?_singleton, ih.2]
      simp only [denoted_fieldName_iff]
      split <;> rfl
  exact both.2

/-- Merging twice is merging once with all the options. -/
theorem merged_merged {base middle : Settings} {earlier : Options}
    (values : middle.draft = base.merged earlier) (later : Options) :
    middle.merged later = base.merged (entered (earlier ++ later)) := by
  funext field
  rw [merged, merged, lastFor?_entered, lastFor?_append, values, merged]
  cases lastFor? later field <;> rfl

/-! ### What overriding does -/

/-- The value of the break point: the one that is given for it, or else that of the desktop width. -/
def Draft.threshold (draft : Draft) : Value :=
  match draft .yAxisBreakPoint with
  | .null => draft .desktopWidth
  | given => given

/-- The break point is the threshold of the draft of the settings. -/
theorem number_breakPoint (settings : Settings) :
    Value.number settings.breakPoint = settings.draft.threshold := by
  unfold breakPoint Draft.threshold Settings.draft
  cases settings.yAxisBreakPoint <;> rfl

/-- An option is reported just if its name is not known. -/
theorem unknownOptions_eq (options : Options) : unknownOptions options =
    (options.filter fun option => ¬IsKnown option.1).map fun option => .unknownOption option.1 := by
  unfold unknownOptions
  congr 1
  refine List.filter_congr fun option _ => ?_
  rw [← Option.not_isSome, decide_not]
  congr 1
  rw [Bool.eq_iff_iff, isSome_ofOption?_iff, decide_eq_true_eq]

/-- Options in force over settings leave what the settings that come of overriding leave, behind the
reports of the options. -/
theorem convert_override {source : String} {sheet : Stylesheet} (read : Stylesheet.read source = .ok sheet)
    {base result : Settings} {options : Options} (overridden : base.override options = .ok result) :
    convert source base options =
      ((convert source result []).1, unknownOptions options ++ (convert source result []).2) := by
  unfold convert
  rw [read]
  dsimp only
  rw [overridden, override_nil]
  rfl

/-- A stylesheet is not converted if the options are not valid. -/
theorem convert_error {source : String} {sheet : Stylesheet} (read : Stylesheet.read source = .ok sheet)
    {base : Settings} {options : Options} {error : SettingsError}
    (stopped : base.override options = .error error) :
    convert source base options = (.error (.settings error), unknownOptions options) := by
  unfold convert
  rw [read]
  dsimp only
  rw [stopped]

/-- What becomes of settings that options override. -/
structure Merges (base : Settings) (options : Options) : Prop where
  /-- The outcome, be it settings or an error, is that of validating the merged values. -/
  outcome : base.override options = (base.merged options).validate
  /-- Settings come of it exactly if they hold the merged values and these are valid. -/
  values (result : Settings) : base.override options = .ok result ↔
    result.draft = base.merged options ∧ (∀ n ∈ result.numbers, n.isAtMostZero = false) ∧
      result.rootClass ≠ ""
  /-- Their break point is the merged one, or the merged desktop width if that is absent. -/
  breakPoint (result : Settings) : base.override options = .ok result →
    .number result.breakPoint = (base.merged options).threshold
  /-- The options that denote no field do not matter. -/
  unknown : base.override options = base.override (options.filter fun option => IsKnown option.1)
  /-- There is a report of each of them, in order. -/
  reports : unknownOptions options =
    (options.filter fun option => ¬IsKnown option.1).map fun option => .unknownOption option.1
  /-- The reports are made whether or not settings come of it, ahead of those of a pass. -/
  reported (source : String) (sheet : Stylesheet) : Stylesheet.read source = .ok sheet →
    convert source base options = match base.override options with
      | .error error => (.error (.settings error), unknownOptions options)
      | .ok result => ((convert source result []).1,
          unknownOptions options ++ (convert source result []).2)

/-- Options are merged onto valid settings field by field, the last one for a field wins, and what becomes
of the merged values depends on nothing else. So the settings that come of it are overridden again as the
given ones are by all the options, entered in order under the names of their fields. -/
theorem override_merges {base : Settings} (valid : base.IsValid) (options : Options) :
    Merges base options ∧ ∀ middle, base.override options = .ok middle → ∀ later,
      middle.override later = base.override (entered (options ++ later)) := by
  have holds (result : Settings) (overridden : base.override options = .ok result) :
      result.draft = base.merged options := by
    rw [valid.override_eq] at overridden
    exact draft_of_validate overridden
  refine ⟨⟨valid.override_eq options, fun result => ?_, fun result overridden => ?_, ?_,
    unknownOptions_eq options, fun source sheet read => ?_⟩, fun middle overridden later => ?_⟩
  · rw [valid.override_eq, Draft.validate_eq_ok_iff]
  · rw [number_breakPoint, holds result overridden]
  · rw [valid.override_eq, valid.override_eq, merged_filter]
  · cases overridden : base.override options with
    | error error => exact convert_error read overridden
    | ok result => exact convert_override read overridden
  · rw [(valid.override overridden).override_eq, valid.override_eq,
      merged_merged (holds middle overridden)]

/-- Both spellings of a width, an unknown name and an absent break point on top of settings with a break
point, and then a width that is not valid. -/
theorem override_merges_spellings :
    let base : Settings := { yAxisBreakPoint := some (.whole 700) }
    let options : Options := [("desktopWidth", .number (.whole 500)), ("border_width", .null),
      ("yAxisBreakPoint", .null), ("desktop_width", .number (.whole 640))]
    let middle : Settings := { desktopWidth := .whole 640 }
    base.IsValid ∧ Merges base options ∧ base.override options = .ok middle ∧
      middle.breakPoint = .whole 640 ∧
      middle.override [("desktopWidth", .flag true)] = base.override [("desktop_width", .flag true),
        ("border_width", .null), ("y_axis_break_point", .null)] := by
  intro base options middle
  have valid : base.IsValid := Draft.validate_eq_ok_iff.2 ⟨rfl, by decide, by decide⟩
  obtain ⟨merges, again⟩ := override_merges valid options
  have overridden : base.override options = .ok middle :=
    (merges.values middle).2 ⟨funext fun field => by cases field <;> rfl, by decide, by decide⟩
  exact ⟨valid, merges, overridden, rfl, again middle overridden _⟩

end ViewportScaling.Settings
