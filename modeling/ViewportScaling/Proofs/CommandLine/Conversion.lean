import ViewportScaling.Proofs.CommandLine.Parameters
import ViewportScaling.Proofs.Media.RoundTrip
import ViewportScaling.Proofs.Settings.Construction

/-!
# All or nothing

A run of the command that converts is one conversion with the settings of the file of options, or the default
ones, and the settings that the arguments override. If each stage of it succeeds, the result is in the file
that the arguments name or is printed, and no other file changes. Otherwise the run fails, prints nothing but
diagnostics and changes no file. What is printed is the result without control sequences, so the two ways to
get it differ where a stylesheet holds one.
-/

namespace ViewportScaling.CommandLine.Convert

open Settings Media Css Text

/-! ### The stages -/

/-- The path that the result is written to, if it is not printed. -/
def outputOf (arguments : Arguments Valued Switch) : Option String :=
  (arguments.values.lookup .output).filter (· ≠ "")

/-- The settings that are overridden are the default ones or those of the file of options. -/
def IsBase (tree : FileTree) (arguments : Arguments Valued Switch) (base : Settings) : Prop :=
  match arguments.values.lookup .config with
  | none => base = {}
  | some path => ∃ bytes, tree.find path = .ok (.file bytes) ∧ (ofFile (plainPath path) bytes).1 = .ok base

/-- A text is that of the stylesheet. -/
def IsSource (tree : FileTree) (arguments : Arguments Valued Switch) (text : String) : Prop :=
  ∃ path bytes, arguments.words = [path] ∧ tree.find path = .ok (.file bytes) ∧ decodeFile bytes = .ok text

/-- Each stage succeeds: there are settings to override, a text, a stylesheet and settings in force, a pass is
not stopped, and the result can be written where it belongs. -/
structure Succeeds (tree : FileTree) (arguments : Arguments Valued Switch) (base : Settings) (text : String) :
    Prop where
  /-- The settings that are overridden are loaded. -/
  loads : IsBase tree arguments base
  /-- The stylesheet is decoded. -/
  decodes : IsSource tree arguments text
  /-- It is read, the overriding settings are valid, and the pass is not stopped. -/
  pass : ∃ sheet settings result, Stylesheet.read text = .ok sheet ∧
    base.override (overrides arguments) = .ok settings ∧ (transform [settings] sheet).1 = .ok result
  /-- The result can be written. -/
  place : ∀ path ∈ outputOf arguments, ∃ location, tree.place (plainPath path) = .ok location

/-! ### The outcome -/

/-- A run has given its result, to the file at a path or else to be printed. -/
structure Delivers (tree : FileTree) (output : Option String) (css : String) (outcome : Outcome) : Prop where
  /-- The exit code tells of success. -/
  exitCode : outcome.exitCode = 0
  /-- Without a path the result is printed without control sequences, and no file changes. -/
  printed : output = none → outcome.output = Text.printed css ∧ outcome.after tree = tree
  /-- A result without escape characters is printed as it is. -/
  verbatim : output = none → '\x1b' ∉ css.toList → outcome.output = css
  /-- With a path there is just the result in its file, and no other file changes. -/
  written : ∀ path ∈ output, outcome.output = "" ∧ ∃ location, tree.place (plainPath path) = .ok location ∧
    outcome.after tree location = some (.file css.toUTF8.toList) ∧
    ∀ other, other ≠ location → outcome.after tree other = tree other

/-- A run has failed without a trace in output or files. -/
structure Fails (tree : FileTree) (outcome : Outcome) : Prop where
  /-- The exit code tells of failure. -/
  exitCode : outcome.exitCode ≠ 0
  /-- Nothing is printed but diagnostics. -/
  output : outcome.output = ""
  /-- No file changes. -/
  after : outcome.after tree = tree

/-- Text without escape characters is printed as it is. -/
theorem printed_of_notMem {text : String} (plain : '\x1b' ∉ text.toList) : Text.printed text = text := by
  rw [Text.printed, withoutSequences_of_notMem plain, String.ofList_toList]

/-- A run that tells of failure, prints nothing but diagnostics and writes nothing has failed without a
trace. -/
theorem fails_of_written {tree : FileTree} {outcome : Outcome} (exitCode : outcome.exitCode ≠ 0)
    (output : outcome.output = "") (written : outcome.written = none) : Fails tree outcome :=
  ⟨exitCode, output, by rw [Outcome.after, written]⟩

/-- So has every run that there is no result for. -/
theorem Failure.fails (failure : Failure) (tree : FileTree) (name diagnostics : String) :
    Fails tree (failure.outcome name diagnostics) := by
  unfold Failure.outcome
  split <;> exact fails_of_written Nat.one_ne_zero rfl rfl

/-! ### The run -/

section

variable {tree : FileTree} {arguments : Arguments Valued Switch} {request : Request} {base : Settings}
  {text : String}

/-- The request is based on the settings that are overridden. -/
theorem Holds.base_eq_ok_iff (holds : Holds tree arguments request) :
    request.base.1 = .ok base ↔ IsBase tree arguments base := by
  have config := holds.config
  unfold IsBase Request.base
  cases given : arguments.values.lookup .config with
  | none =>
    rw [given] at config
    dsimp only at config ⊢
    rw [config]
    exact ⟨fun same => (Except.ok.inj same).symm, fun same => by rw [same]⟩
  | some path =>
    rw [given] at config
    obtain ⟨bytes, found, same⟩ := config
    dsimp only
    rw [same]
    constructor
    · exact fun loaded => ⟨bytes, found, loaded⟩
    · rintro ⟨bytes', found', loaded⟩
      rw [found] at found'
      cases found'
      exact loaded

/-- The request holds the bytes of the stylesheet. -/
theorem Holds.source_eq_ok_iff (holds : Holds tree arguments request) :
    decodeFile request.source.2 = .ok text ↔ IsSource tree arguments text := by
  obtain ⟨path, bytes, named, found, same⟩ := holds.source
  rw [same]
  constructor
  · exact fun decoded => ⟨path, bytes, named, found, decoded⟩
  · rintro ⟨path', bytes', named', found', decoded⟩
    rw [named] at named'
    cases named'
    rw [found] at found'
    cases found'
    exact decoded

/-- Settings to override are valid. -/
theorem IsBase.isValid (is : IsBase tree arguments base) : base.IsValid := by
  unfold IsBase at is
  split at is
  · rw [is]
    exact isValid_default
  · obtain ⟨bytes, -, loaded⟩ := is
    exact isValid_of_ofFile loaded

/-- The request overrides as the arguments do. -/
theorem Holds.override_eq (holds : Holds tree arguments request) (is : IsBase tree arguments base) :
    base.override request.options = base.override (overrides arguments) := by
  rw [is.isValid.override_eq, is.isValid.override_eq, holds.merged]

/-- A conversion succeeds exactly if its stages do. -/
theorem convert_eq_ok_iff {source css : String} {options : Options} :
    (convert source base options).1 = .ok css ↔ ∃ sheet settings result, Stylesheet.read source = .ok sheet ∧
      base.override options = .ok settings ∧ (transform [settings] sheet).1 = .ok result ∧
      result.write standardIndent = css := by
  unfold convert
  cases Stylesheet.read source with
  | error error =>
    constructor
    · nofun
    · rintro ⟨_, _, _, read, -⟩
      cases read
  | ok sheet =>
    dsimp only
    cases base.override options with
    | error error =>
      constructor
      · nofun
      · rintro ⟨_, _, _, -, overridden, -⟩
        cases overridden
    | ok settings =>
      dsimp only
      rw [mapError_eq_ok_iff]
      constructor
      · intro found
        obtain ⟨result, passed, same⟩ := map_eq_ok_iff.1 found
        exact ⟨sheet, settings, result, rfl, rfl, passed, same⟩
      · rintro ⟨sheet', settings', result, ⟨⟩, ⟨⟩, passed, same⟩
        exact map_eq_ok_iff.2 ⟨result, passed, same⟩

/-- A request is prepared exactly if there are settings and a text. -/
theorem Request.prepared_eq_ok_iff {settings : Settings} : request.prepared = .ok (settings, text) ↔
    ∃ base, request.base.1 = .ok base ∧ base.override request.options = .ok settings ∧
      decodeFile request.source.2 = .ok text := by
  unfold Request.prepared
  constructor
  · intro prepared
    obtain ⟨base, loaded, prepared⟩ := bind_eq_ok_iff.1 prepared
    obtain ⟨settings', overridden, prepared⟩ := bind_eq_ok_iff.1 prepared
    obtain ⟨text', decoded, same⟩ := bind_eq_ok_iff.1 prepared
    cases same
    exact ⟨base, mapError_eq_ok_iff.1 loaded, mapError_eq_ok_iff.1 overridden, mapError_eq_ok_iff.1 decoded⟩
  · rintro ⟨base, loaded, overridden, decoded⟩
    rw [loaded, decoded]
    change (base.override request.options).mapError Failure.options >>= _ = _
    rw [overridden]
    rfl

/-- A request is parsed exactly if there are settings and a text, and the text is that of a stylesheet. -/
theorem Request.parsed_eq_ok_iff {settings : Settings} {sheet : Stylesheet} :
    request.parsed = .ok (settings, sheet) ↔
      ∃ text, request.prepared = .ok (settings, text) ∧ Stylesheet.read text = .ok sheet := by
  unfold Request.parsed
  constructor
  · intro parsed
    obtain ⟨⟨settings', text⟩, prepared, parsed⟩ := bind_eq_ok_iff.1 parsed
    obtain ⟨sheet', read, same⟩ := bind_eq_ok_iff.1 parsed
    cases same
    exact ⟨text, prepared, mapError_eq_ok_iff.1 read⟩
  · rintro ⟨text, prepared, read⟩
    rw [prepared]
    change (Stylesheet.read text).mapError Failure.malformed >>= _ = _
    rw [read]
    rfl

/-- A request has a result exactly if it is parsed and the pass is not stopped. -/
theorem Request.result_eq_ok_iff {css : String} : request.result.1 = .ok css ↔
    ∃ settings sheet result, request.parsed = .ok (settings, sheet) ∧
      (applyTransforms settings [] sheet).1 = .ok result ∧ result.write standardIndent = css := by
  unfold Request.result
  cases request.parsed with
  | error failure =>
    constructor
    · nofun
    · rintro ⟨_, _, _, parsed, -⟩
      cases parsed
  | ok parsed =>
    obtain ⟨settings, sheet⟩ := parsed
    dsimp only
    rw [mapError_eq_ok_iff]
    constructor
    · intro found
      obtain ⟨result, passed, same⟩ := map_eq_ok_iff.1 found
      exact ⟨settings, sheet, result, rfl, passed, same⟩
    · rintro ⟨settings', sheet', result, ⟨⟩, passed, same⟩
      exact map_eq_ok_iff.2 ⟨result, passed, same⟩

/-- The stages of a request give what a conversion gives with its settings to override. -/
theorem Holds.result_eq_ok_iff (holds : Holds tree arguments request) {css : String} :
    request.result.1 = .ok css ↔ ∃ base text, IsBase tree arguments base ∧ IsSource tree arguments text ∧
      (convert text base (overrides arguments)).1 = .ok css := by
  rw [Request.result_eq_ok_iff]
  constructor
  · rintro ⟨settings, sheet, result, parsed, passed, written⟩
    obtain ⟨text, prepared, read⟩ := Request.parsed_eq_ok_iff.1 parsed
    obtain ⟨base, loaded, overridden, decoded⟩ := Request.prepared_eq_ok_iff.1 prepared
    have is := holds.base_eq_ok_iff.1 loaded
    rw [holds.override_eq is] at overridden
    exact ⟨base, text, is, holds.source_eq_ok_iff.1 decoded,
      convert_eq_ok_iff.2 ⟨sheet, settings, result, read, overridden, passed, written⟩⟩
  · rintro ⟨base, text, is, decoded, converted⟩
    obtain ⟨sheet, settings, result, read, overridden, passed, written⟩ := convert_eq_ok_iff.1 converted
    rw [← holds.override_eq is] at overridden
    have prepared := Request.prepared_eq_ok_iff.2
      ⟨base, holds.base_eq_ok_iff.2 is, overridden, holds.source_eq_ok_iff.2 decoded⟩
    exact ⟨settings, sheet, result, Request.parsed_eq_ok_iff.2 ⟨text, prepared, read⟩, passed, written⟩

/-- A request without a result fails. -/
theorem Request.fails_of_error {failure : Failure} (stopped : request.result.1 = .error failure) :
    Fails tree (request.run tree) := by
  unfold Request.run
  rcases same : request.result with ⟨found, notices⟩
  rw [same] at stopped
  cases stopped
  exact failure.fails tree _ _

/-- A request with a result fails if it cannot be written. -/
theorem Request.fails_of_place {css path : String} (converted : request.result.1 = .ok css)
    (named : request.output = some path) {problem : PathProblem}
    (stopped : tree.place (plainPath path) = .error problem) : Fails tree (request.run tree) := by
  unfold Request.run
  rcases same : request.result with ⟨found, notices⟩
  rw [same] at converted
  cases converted
  rw [named]
  dsimp only
  rw [stopped]
  exact fails_of_written Nat.one_ne_zero rfl rfl

/-- A request with a result delivers it if it can be written. -/
theorem Request.delivers_of_ok {css : String} (converted : request.result.1 = .ok css)
    (place : ∀ path ∈ request.output, ∃ location, tree.place (plainPath path) = .ok location) :
    Delivers tree request.output css (request.run tree) := by
  unfold Request.run
  rcases same : request.result with ⟨found, notices⟩
  rw [same] at converted
  cases converted
  cases named : request.output with
  | none => exact ⟨rfl, fun _ => ⟨rfl, rfl⟩, fun _ plain => printed_of_notMem plain, nofun⟩
  | some path =>
    obtain ⟨location, placed⟩ := place path named
    dsimp only
    rw [placed]
    refine ⟨rfl, nofun, nofun, fun path' mem => ?_⟩
    cases mem
    exact ⟨rfl, location, placed, tree.write_self location _, fun other apart => tree.write_of_ne _ apart⟩

end

/-- A call with parameters that are accepted runs the request that they come to. -/
theorem run_eq {tree : FileTree} {call words : List String}
    (called : afterOptions call = .ok (Command.convert.name :: words)) {arguments : Arguments Valued Switch}
    (read : vocabulary.read words = .ok arguments) (noHelp : .help ∉ arguments.switches) {request : Request}
    (accepted : Request.ofArguments tree arguments = .ok request) : run tree call = request.run tree := by
  have command : Command.run tree .convert words = request.run tree := by
    rw [Command.run]
    dsimp only
    rw [read]
    dsimp only
    rw [if_neg noHelp, accepted]
  unfold run
  simp only [called, bind, Except.bind, Command.ofName?_name, pure, Except.pure]
  exact command

/-- A call of the command that converts, with parameters that are accepted, converts as the arguments say: if
each stage succeeds, it delivers what a conversion with the overriding settings gives, and otherwise it fails
and leaves nothing behind. -/
theorem run_converts {tree : FileTree} {call words : List String}
    (called : afterOptions call = .ok (Command.convert.name :: words)) {arguments : Arguments Valued Switch}
    (read : vocabulary.read words = .ok arguments) (noHelp : .help ∉ arguments.switches) {request : Request}
    (accepted : Request.ofArguments tree arguments = .ok request) :
    (∀ base text, Succeeds tree arguments base text → ∃ css,
      (convert text base (overrides arguments)).1 = .ok css ∧
        Delivers tree (outputOf arguments) css (run tree call)) ∧
      ((∀ base text, ¬Succeeds tree arguments base text) → Fails tree (run tree call)) := by
  have holds := Request.holds read accepted
  have output : request.output = outputOf arguments := holds.output
  rw [run_eq called read noHelp accepted, ← output]
  constructor
  · intro base text succeeds
    obtain ⟨sheet, settings, result, parsed, overridden, passed⟩ := succeeds.pass
    have converted := convert_eq_ok_iff.2 ⟨sheet, settings, result, parsed, overridden, passed, rfl⟩
    have found := holds.result_eq_ok_iff.2 ⟨base, text, succeeds.loads, succeeds.decodes, converted⟩
    exact ⟨_, converted, Request.delivers_of_ok found (by rw [output]; exact succeeds.place)⟩
  · intro stopped
    cases found : request.result.1 with
    | error failure => exact Request.fails_of_error found
    | ok css =>
      obtain ⟨base, text, loads, decodes, converted⟩ := holds.result_eq_ok_iff.1 found
      obtain ⟨sheet, settings, result, parsed, overridden, passed, -⟩ := convert_eq_ok_iff.1 converted
      -- All stages but the last succeed, so the result cannot be written.
      have unplaced : ¬∀ path ∈ outputOf arguments, ∃ location, tree.place (plainPath path) = .ok location :=
        fun place => stopped base text
          ⟨loads, decodes, ⟨sheet, settings, result, parsed, overridden, passed⟩, place⟩
      obtain ⟨path, unplaced⟩ := not_forall.1 unplaced
      obtain ⟨named, nowhere⟩ := Classical.not_imp.1 unplaced
      cases problem : tree.place (plainPath path) with
      | ok location => exact absurd ⟨location, problem⟩ nowhere
      | error problem' => exact Request.fails_of_place found (output.trans named) problem

/-- A tree with one stylesheet. -/
def oneFile (css : String) : FileTree := fun location =>
  if location = ["a.css"] then some (.file css.toUTF8.toList) else none

/-- A stylesheet is converted into another file, with a border around the root container. -/
theorem run_converts_border :
    let tree := oneFile "a \x7b top: 0 \x7d"
    let call := ["convert", "a.css", "--border", "-o", "b.css"]
    let arguments : Arguments Valued Switch :=
      ⟨[.switch (.setting .border), .value .output "b.css"], ["a.css"]⟩
    afterOptions call = .ok (Command.convert.name :: call.tail) ∧ vocabulary.read call.tail = .ok arguments ∧
      .help ∉ arguments.switches ∧ (∃ request, Request.ofArguments tree arguments = .ok request) ∧
      Succeeds tree arguments {} "a \x7b top: 0 \x7d" ∧
      ∃ css, (convert "a \x7b top: 0 \x7d" {} [("border", .flag true)]).1 = .ok css ∧
        Delivers tree (some "b.css") css (run tree call) := by
  intro tree call arguments
  have called : afterOptions call = .ok (Command.convert.name :: call.tail) := by rfl
  have read : vocabulary.read call.tail = .ok arguments := by rfl
  have noHelp : .help ∉ arguments.switches := by decide
  have accepted : ∃ request, Request.ofArguments tree arguments = .ok request := ⟨_, by rfl⟩
  obtain ⟨request, accepted⟩ := accepted
  have succeeds : Succeeds tree arguments {} "a \x7b top: 0 \x7d" := by
    have parsed : Stylesheet.read "a \x7b top: 0 \x7d" = .ok [.rule "a" [⟨"top", "0", false⟩]] := by
      decide +kernel
    refine ⟨rfl, ⟨"a.css", _, rfl, rfl, by decide +kernel⟩, ⟨_, { border := true }, _, parsed, by rfl,
      transform_eq_ok_iff.2 ⟨by decide +kernel, rfl⟩⟩, fun path named => ?_⟩
    cases named
    exact ⟨["b.css"], by rfl⟩
  exact ⟨called, read, noHelp, ⟨request, accepted⟩, succeeds,
    (run_converts called read noHelp accepted).1 _ _ succeeds⟩

/-- A control sequence in a stylesheet is in the result of a conversion, and is not printed. -/
theorem run_drops_sequence :
    let text := "a \x7b content: \"\x1b[0m\" \x7d"
    let tree := oneFile text
    let call := ["convert", "a.css"]
    let arguments : Arguments Valued Switch := ⟨[], ["a.css"]⟩
    let css := "a \x7b\n  content: \"\x1b[0m\";\n\x7d\n"
    afterOptions call = .ok (Command.convert.name :: call.tail) ∧ vocabulary.read call.tail = .ok arguments ∧
      (∃ request, Request.ofArguments tree arguments = .ok request) ∧ Succeeds tree arguments {} text ∧
      (convert text {} (overrides arguments)).1 = .ok css ∧ outputOf arguments = none ∧
      (run tree call).output ≠ css := by
  intro text tree call arguments css
  have called : afterOptions call = .ok (Command.convert.name :: call.tail) := by rfl
  have read : vocabulary.read call.tail = .ok arguments := by rfl
  obtain ⟨request, accepted⟩ : ∃ request, Request.ofArguments tree arguments = .ok request := ⟨_, by rfl⟩
  have parsed : Stylesheet.read text = .ok [.rule "a" [⟨"content", "\"\x1b[0m\"", false⟩]] := by
    decide +kernel
  have passed : (transform [{}] [.rule "a" [⟨"content", "\"\x1b[0m\"", false⟩]]).1 =
      .ok [.rule "a" [⟨"content", "\"\x1b[0m\"", false⟩]] :=
    transform_eq_ok_iff.2 ⟨by decide +kernel, by decide +kernel⟩
  have loads : IsBase tree arguments {} := rfl
  have decodes : IsSource tree arguments text := ⟨"a.css", _, rfl, rfl, by decide +kernel⟩
  have converted : (convert text {} (overrides arguments)).1 = .ok css :=
    convert_eq_ok_iff.2 ⟨_, {}, _, parsed, by rfl, passed, by decide +kernel⟩
  have holds := Request.holds read accepted
  have output : request.output = outputOf arguments := holds.output
  have none : outputOf arguments = .none := rfl
  have place : ∀ path ∈ outputOf arguments, ∃ location, tree.place (plainPath path) = .ok location := by
    rw [none]
    nofun
  have delivers := Request.delivers_of_ok (holds.result_eq_ok_iff.2 ⟨_, _, loads, decodes, converted⟩)
    (output ▸ place)
  have shown : Text.printed css = "a \x7b\n  content: \"\";\n\x7d\n" := by decide +kernel
  refine ⟨called, read, ⟨request, accepted⟩,
    ⟨loads, decodes, ⟨_, {}, _, parsed, by rfl, passed⟩, place⟩, converted, none, ?_⟩
  rw [run_eq called read (by decide) accepted, (delivers.printed (output.trans none)).1, shown]
  decide

end ViewportScaling.CommandLine.Convert
