import ViewportScaling.CommandLine.Program
import ViewportScaling.Proofs.Css.Outline
import ViewportScaling.Proofs.Settings.Overriding

/-!
# Parameters of the command that converts

The arguments of the command give each parameter the value of the last option for it. When they are checked,
the values are taken over in the order of the options; the settings that they override do not depend on that
order, and are those that the parameters override in the order in which they are declared.
-/

namespace ViewportScaling

namespace CommandLine

open Css

/-! ### Options that are read -/

section

variable {Valued Switch : Type} {vocabulary : Vocabulary Valued Switch}

/-- An option with a value is one of the vocabulary. -/
def Given.IsKnown (vocabulary : Vocabulary Valued Switch) : Given Valued Switch → Prop
  | .value option _ => ∃ name, vocabulary.valued? name = some option
  | .switch _ => True

namespace Vocabulary

/-- The options of a word are known, and so is the one that takes the next word. -/
def AreKnown (vocabulary : Vocabulary Valued Switch) (options : WordOptions Valued Switch) : Prop :=
  (∀ given ∈ options.1, given.IsKnown vocabulary) ∧
    ∀ waiting ∈ options.2, vocabulary.valued? waiting.1 = some waiting.2

/-- The options of a cluster of letters are known. -/
theorem areKnown_of_readCluster {letters : List Char} {options : WordOptions Valued Switch}
    (read : vocabulary.readCluster letters = .ok options) : vocabulary.AreKnown options := by
  induction letters generalizing options with
  | nil =>
    cases read
    exact ⟨nofun, nofun⟩
  | cons letter rest ih =>
    rw [readCluster] at read
    split at read
    · rename_i switch found
      cases later : vocabulary.readCluster rest with
      | error error =>
        rw [later] at read
        cases read
      | ok following =>
        rw [later] at read
        cases read
        exact ⟨List.forall_mem_cons.2 ⟨trivial, (ih later).1⟩, (ih later).2⟩
    · rename_i option none found
      split at read
      · cases read
        refine ⟨nofun, fun waiting mem => ?_⟩
        cases mem
        exact found
      · cases read
        exact ⟨List.forall_mem_cons.2 ⟨⟨_, found⟩, nofun⟩, nofun⟩
    · cases read

/-- So is an option that is written out. -/
theorem areKnown_of_readLong {name : String} {value? : Option String} {options : WordOptions Valued Switch}
    (read : vocabulary.readLong name value? = .ok options) : vocabulary.AreKnown options := by
  unfold readLong at read
  split at read
  · cases read
    exact ⟨List.forall_mem_cons.2 ⟨trivial, nofun⟩, nofun⟩
  · cases read
  · rename_i option none found
    cases read
    refine ⟨nofun, fun waiting mem => ?_⟩
    cases mem
    exact found
  · rename_i option value none found
    cases read
    exact ⟨List.forall_mem_cons.2 ⟨⟨name, found⟩, nofun⟩, nofun⟩
  · cases read

/-- So are the options of each word. -/
theorem areKnown_of_readWord? {word : String} {options : WordOptions Valued Switch}
    (read : vocabulary.readWord? word = some (.ok options)) : vocabulary.AreKnown options := by
  unfold readWord? at read
  split at read
  · dsimp only at read
    split at read
    · exact areKnown_of_readLong (Option.some.inj read)
    · exact areKnown_of_readLong (Option.some.inj read)
  · exact areKnown_of_readCluster (Option.some.inj read)
  · cases read

/-- All options that are read are known. -/
theorem isKnown_of_read {words : List String} {arguments : Arguments Valued Switch}
    (read : vocabulary.read words = .ok arguments) :
    ∀ given ∈ arguments.options, given.IsKnown vocabulary := by
  fun_induction vocabulary.read words generalizing arguments with
  | case1 =>
    cases read
    nofun
  | case2 rest =>
    cases read
    nofun
  | case3 word rest _ _ _ ih =>
    obtain ⟨later, following, rfl⟩ := map_eq_ok_iff.1 read
    have known := ih following
    exact known
  | case4 word rest =>
    cases read
    nofun
  | case5 => cases read
  | case6 word rest _ given found ih =>
    obtain ⟨later, following, rfl⟩ := map_eq_ok_iff.1 read
    exact List.forall_mem_append.2 ⟨(areKnown_of_readWord? found).1, ih following⟩
  | case7 => cases read
  | case8 word _ given name option found text rest ih =>
    obtain ⟨later, following, rfl⟩ := map_eq_ok_iff.1 read
    obtain ⟨known, waiting⟩ := areKnown_of_readWord? found
    exact List.forall_mem_append.2 ⟨known, List.forall_mem_cons.2 ⟨⟨name, waiting _ rfl⟩, ih following⟩⟩

end Vocabulary

end

end CommandLine

/-! ### Entries -/

/-- What is entered was among the pairs. -/
theorem mem_of_mem_entriesOf {α β : Type} [BEq α] [LawfulBEq α] {pairs : List (α × β)} {entry : α × β}
    (mem : entry ∈ entriesOf pairs) : entry ∈ pairs := by
  induction pairs using List.reverseRecOn with
  | nil => exact mem
  | append_singleton pairs pair ih =>
    rw [entriesOf, List.foldl_append, List.foldl_cons, List.foldl_nil, ← entriesOf, enter] at mem
    rw [List.mem_append, List.mem_singleton]
    split at mem
    · obtain ⟨other, among, same⟩ := List.mem_map.1 mem
      split at same
      · exact .inr same.symm
      · exact .inl (ih (same ▸ among))
    · rcases List.mem_append.1 mem with old | new
      · exact .inl (ih old)
      · exact .inr (List.mem_singleton.1 new)

/-- A key that no entry has is not found. -/
theorem lookup_eq_none_of_notMem {α β : Type} [BEq α] [LawfulBEq α] {entries : List (α × β)} {key : α}
    (absent : key ∉ entries.map Prod.fst) : entries.lookup key = none := by
  rw [List.lookup_eq_none_iff]
  intro entry mem
  rw [bne_iff_ne]
  rintro rfl
  exact absent (List.mem_map_of_mem mem)

namespace CommandLine.Convert

open Settings Numeric Json

/-! ### Settings that are given -/

/-- The parameter that a setting is the value of, if it is no flag. -/
def keyOf (field : Field) : Valued := if field = .rootClass then .text field else .number field

/-- The setting that a parameter is about. -/
def Valued.field? : Valued → Option Field
  | .number field | .text field => some field
  | .output | .config => none

/-- The value that a text is for a parameter. -/
def Valued.value? : Valued → String → Option Value
  | .number _, word => (Double.read? word).map fun d => .number (.double d)
  | .text _, word => some (.text word)
  | .output, _ | .config, _ => none

/-- The option that a given value comes to. -/
def optionOf? (entry : Valued × String) : Option (String × Value) :=
  entry.1.field?.bind fun field => (entry.1.value? entry.2).map (field.name, ·)

/-- The value that is given for a setting. -/
def given? (arguments : Arguments Valued Switch) (field : Field) : Option Value :=
  (arguments.values.lookup (keyOf field)).bind (keyOf field).value?

/-- The settings that have values. -/
def valuedFields : List Field := Convert.numbers ++ [.rootClass]

/-- The settings that arguments override: the numbers, the class of the root container and the flags. -/
def overrides (arguments : Arguments Valued Switch) : Options :=
  valuedFields.filterMap (fun field => (given? arguments field).map (field.name, ·)) ++
    Request.turnedOn arguments.switches

/-- An option with the name of a field is for that field. -/
theorem lastFor?_toList (value : Option Value) (field other : Field) :
    lastFor? (value.map (field.name, ·)).toList other = if field = other then value else none := by
  cases value with
  | none => exact (ite_self none).symm
  | some value =>
    have denoted : field.Denoted field.name := Or.inl rfl
    refine (lastFor?_singleton _ _).trans ?_
    dsimp only
    by_cases same : field = other
    · subst same
      rw [if_pos rfl, if_pos denoted]
    · rw [if_neg same, if_neg fun other' => same (denoted.unique other')]

/-- Of options that are named by distinct fields, the one for a field is its last. -/
theorem lastFor?_filterMap {fields : List Field} (nodup : fields.Nodup) (value? : Field → Option Value)
    (field : Field) : lastFor? (fields.filterMap fun field => (value? field).map (field.name, ·)) field =
      if field ∈ fields then value? field else none := by
  induction fields with
  | nil => rfl
  | cons first fields ih =>
    obtain ⟨absent, nodup⟩ := List.nodup_cons.1 nodup
    have cons : (first :: fields).filterMap (fun field => (value? field).map (field.name, ·)) =
        ((value? first).map (first.name, ·)).toList ++
          fields.filterMap (fun field => (value? field).map (field.name, ·)) := by
      cases found : value? first <;> simp [found]
    rw [cons, lastFor?_append, ih nodup, lastFor?_toList]
    by_cases same : first = field
    · subst same
      simp [absent]
    · simp [same, Ne.symm same]

/-- Entries for distinct parameters come to the value that the parameter of a setting has. -/
theorem lastFor?_filterMap_optionOf? {values : List (Valued × String)}
    (nodup : (values.map Prod.fst).Nodup)
    (proper : ∀ entry ∈ values, ∀ field, entry.1.field? = some field → entry.1 = keyOf field)
    (field : Field) : lastFor? (values.filterMap optionOf?) field =
      (values.lookup (keyOf field)).bind (keyOf field).value? := by
  induction values with
  | nil => rfl
  | cons first values ih =>
    obtain ⟨key, word⟩ := first
    obtain ⟨absent, nodup⟩ := List.nodup_cons.1 nodup
    obtain ⟨here, proper⟩ := List.forall_mem_cons.1 proper
    have cons : ((key, word) :: values).filterMap optionOf? =
        (optionOf? (key, word)).toList ++ values.filterMap optionOf? := by
      cases found : optionOf? (key, word) <;> simp [found]
    rw [cons, lastFor?_append, ih nodup proper]
    by_cases same : keyOf field = key
    · have field? : key.field? = some field := by
        rw [← same, keyOf]
        split <;> rfl
      rw [same, lookup_eq_none_of_notMem absent, List.lookup_cons_self, Option.bind_none, Option.none_or,
        optionOf?, field?, Option.bind_some, Option.bind_some, lastFor?_toList, if_pos rfl]
    · have other : lastFor? (optionOf? (key, word)).toList field = none := by
        rw [optionOf?]
        cases found : key.field? with
        | none => rfl
        | some field' =>
          have apart : field' ≠ field := by
            rintro rfl
            exact same (here field' found).symm
          rw [Option.bind_some, lastFor?_toList, if_neg apart]
      have passed : (keyOf field == key) = false := beq_false_of_ne same
      rw [other, Option.or_none, List.lookup_cons, passed]

/-! ### Parameters that are checked -/

/-- What a request has taken over from values, behind what it held. -/
structure Takes (tree : FileTree) (start : Request) (values : List (Valued × String)) (request : Request) :
    Prop where
  /-- The path of the result is that which is given last. -/
  output : request.output = match values.lookup .output with
    | some path => if path = "" then none else some path
    | none => start.output
  /-- The file of options is the one at the path that is given last. -/
  config : match values.lookup .config with
    | some path => ∃ bytes, tree.find path = .ok (.file bytes) ∧ request.config = some (path, bytes)
    | none => request.config = start.config
  /-- The settings that override are in the order in which they are given. -/
  options : request.options = start.options ++ values.filterMap optionOf?

/-- A parameter that is to name a file is accepted just if there is a file. -/
theorem FileTree.fileOf_eq_ok_iff {tree : FileTree} {parameter path : String} {bytes : List UInt8} :
    tree.fileOf parameter path = .ok bytes ↔ tree.find path = .ok (.file bytes) := by
  unfold FileTree.fileOf
  split
  · rename_i found
    rw [found]
    simp
  · rename_i found
    rw [found]
    simp
  · rename_i error found
    rw [found]
    simp

/-- A value that is accepted is taken over. -/
theorem Request.takes_singleton {tree : FileTree} {start request : Request} {entry : Valued × String}
    (taken : Request.take tree start entry = .ok request) : Takes tree start [entry] request := by
  obtain ⟨key, word⟩ := entry
  cases key with
  | output =>
    rw [take] at taken
    split at taken
    · cases taken
    · cases taken
      exact ⟨rfl, rfl, (List.append_nil _).symm⟩
  | config =>
    obtain ⟨bytes, found, rfl⟩ := Css.map_eq_ok_iff.1 taken
    exact ⟨rfl, ⟨bytes, FileTree.fileOf_eq_ok_iff.1 found, rfl⟩, (List.append_nil _).symm⟩
  | number field =>
    rw [take] at taken
    split at taken
    · cases taken
    · rename_i d read
      cases taken
      have value : optionOf? (.number field, word) = some (field.name, .number (.double d)) := by
        rw [optionOf?, Valued.field?, Valued.value?, read]
        rfl
      exact ⟨rfl, rfl, by rw [List.filterMap_cons_some value, List.filterMap_nil]⟩
  | text field =>
    cases taken
    exact ⟨rfl, rfl, rfl⟩

/-- What values take over behind one for another parameter is what they take over together. -/
theorem Takes.cons {tree : FileTree} {start next request : Request} {entry : Valued × String}
    {values : List (Valued × String)} (absent : entry.1 ∉ values.map Prod.fst)
    (first : Takes tree start [entry] next) (later : Takes tree next values request) :
    Takes tree start (entry :: values) request := by
  have found (key : Valued) :
      (entry :: values).lookup key = (values.lookup key).or ([entry].lookup key) := by
    by_cases same : key = entry.1
    · rw [same, lookup_eq_none_of_notMem absent, List.lookup_cons_self, List.lookup_cons_self,
        Option.none_or]
    · rw [List.lookup_cons, List.lookup_cons, beq_false_of_ne same]
      exact (Option.or_none).symm
  refine ⟨?_, ?_, ?_⟩
  · rw [later.output, found]
    cases values.lookup .output with
    | none => exact first.output
    | some path => rfl
  · have kept := later.config
    rw [found]
    cases given : values.lookup .config with
    | none =>
      rw [given] at kept
      rw [Option.none_or, kept]
      exact first.config
    | some path =>
      rw [given] at kept
      exact kept
  · rw [later.options, first.options, List.append_assoc, ← List.filterMap_append, List.singleton_append]

/-- Values of distinct parameters are taken over. -/
theorem Request.takes {tree : FileTree} {start request : Request} {values : List (Valued × String)}
    (nodup : (values.map Prod.fst).Nodup) (taken : values.foldlM (Request.take tree) start = .ok request) :
    Takes tree start values request := by
  induction values generalizing start with
  | nil =>
    cases taken
    exact ⟨rfl, rfl, (List.append_nil _).symm⟩
  | cons entry values ih =>
    obtain ⟨absent, nodup⟩ := List.nodup_cons.1 nodup
    rw [List.foldlM_cons] at taken
    obtain ⟨next, step, rest⟩ := bind_eq_ok_iff.1 taken
    exact (Request.takes_singleton step).cons absent (ih nodup rest)

/-- The settings that a value is given for are those that have values. -/
theorem eq_keyOf_of_valued? {name : String} {key : Valued} (known : vocabulary.valued? name = some key)
    {field : Field} (about : key.field? = some field) : key = keyOf field ∧ field ∈ valuedFields := by
  have among {fields : List Field} {field : Field} (found : settingOf? fields name = some field) :
      field ∈ fields := List.mem_of_find?_eq_some found
  have numeric : ∀ field ∈ Convert.numbers, .number field = keyOf field := by decide
  rw [vocabulary] at known
  dsimp only at known
  split at known
  · cases known
    cases about
  · split at known
    · cases known
      cases about
    · rcases Option.or_eq_some_iff.1 known with number | ⟨-, text⟩
      · obtain ⟨field', found, rfl⟩ := Option.map_eq_some_iff.1 number
        cases about
        exact ⟨numeric field (among found), List.mem_append_left _ (among found)⟩
      · obtain ⟨field', found, rfl⟩ := Option.map_eq_some_iff.1 text
        cases about
        rw [List.mem_singleton.1 (among found)]
        exact ⟨rfl, by decide⟩

/-- No parameter has two values. -/
theorem nodup_values (arguments : Arguments Valued Switch) : (arguments.values.map Prod.fst).Nodup :=
  nodup_keys_entriesOf _

/-- Each value that is read is for the parameter of a setting that has values, or for no setting. -/
theorem eq_keyOf_of_mem_values {words : List String} {arguments : Arguments Valued Switch}
    (read : vocabulary.read words = .ok arguments) {entry : Valued × String} (mem : entry ∈ arguments.values)
    {field : Field} (about : entry.1.field? = some field) : entry.1 = keyOf field ∧ field ∈ valuedFields := by
  obtain ⟨given, among, same⟩ := List.mem_filterMap.1 (mem_of_mem_entriesOf mem)
  have known := Vocabulary.isKnown_of_read read given among
  cases given with
  | switch option => cases same
  | value option text =>
    cases same
    obtain ⟨name, found⟩ := known
    exact eq_keyOf_of_valued? found about

/-- The values that are read come to those that are given for the settings. -/
theorem lastFor?_values {words : List String} {arguments : Arguments Valued Switch}
    (read : vocabulary.read words = .ok arguments) (field : Field) :
    lastFor? (arguments.values.filterMap optionOf?) field =
      if field ∈ valuedFields then given? arguments field else none := by
  rw [lastFor?_filterMap_optionOf? (nodup_values arguments)
    fun entry mem field about => (eq_keyOf_of_mem_values read mem about).1]
  split
  · rfl
  · rename_i flag
    -- No parameter has a value for a flag.
    have absent : keyOf field ∉ arguments.values.map Prod.fst := by
      intro mem
      obtain ⟨entry, among, same⟩ := List.mem_map.1 mem
      refine flag (eq_keyOf_of_mem_values read among ?_).2
      rw [same, keyOf]
      split <;> rfl
    rw [lookup_eq_none_of_notMem absent]
    rfl

/-- What a checked request holds. -/
structure Holds (tree : FileTree) (arguments : Arguments Valued Switch) (request : Request) : Prop where
  /-- The source is the file at the only plain word. -/
  source : ∃ path bytes, arguments.words = [path] ∧ tree.find path = .ok (.file bytes) ∧
    request.source = (path, bytes)
  /-- The path of the result is that which is given last, unless it is empty. -/
  output : request.output = (arguments.values.lookup .output).filter (· ≠ "")
  /-- The file of options is the one at the path that is given last. -/
  config : match arguments.values.lookup .config with
    | some path => ∃ bytes, tree.find path = .ok (.file bytes) ∧ request.config = some (path, bytes)
    | none => request.config = none
  /-- The settings that override come to those that are given, whatever their order. -/
  merged : ∀ base : Settings, base.merged request.options = base.merged (overrides arguments)

/-- What is read and checked holds what is given. -/
theorem Request.holds {tree : FileTree} {words : List String} {arguments : Arguments Valued Switch}
    (read : vocabulary.read words = .ok arguments) {request : Request}
    (accepted : Request.ofArguments tree arguments = .ok request) : Holds tree arguments request := by
  unfold Request.ofArguments at accepted
  obtain ⟨taken, values, accepted⟩ := bind_eq_ok_iff.1 accepted
  obtain ⟨source, located, accepted⟩ := bind_eq_ok_iff.1 accepted
  obtain ⟨_, single, accepted⟩ := bind_eq_ok_iff.1 accepted
  cases accepted
  have takes := Request.takes (nodup_values arguments) values
  refine ⟨?_, ?_, takes.config, fun base => ?_⟩
  · cases named : arguments.words with
    | nil =>
      rw [named] at located
      cases located
    | cons path more =>
      rw [named] at located single
      obtain ⟨bytes, found, rfl⟩ := Css.map_eq_ok_iff.1 located
      have none : more = [] := by
        unfold onlyOneWord at single
        split at single
        · rename_i none
          exact List.isEmpty_iff.1 none
        · cases single
      exact ⟨path, bytes, by rw [none], FileTree.fileOf_eq_ok_iff.1 found, rfl⟩
  · rw [takes.output]
    cases arguments.values.lookup .output with
    | none => rfl
    | some path => by_cases empty : path = "" <;> simp [Option.filter_some, empty]
  · funext field
    have distinct : valuedFields.Nodup := by decide
    rw [merged, merged, overrides, lastFor?_append, lastFor?_append, takes.options, List.nil_append,
      lastFor?_values read, lastFor?_filterMap distinct]

end CommandLine.Convert

end ViewportScaling
