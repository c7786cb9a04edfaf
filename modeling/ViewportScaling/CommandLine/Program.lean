import ViewportScaling.CommandLine.Convert
import ViewportScaling.CommandLine.Inspect

/-!
# The program

The first plain word of a call names a command, and what follows belongs to it. A word in its place that
names no command is read once more as an option, even after two hyphens.
-/

namespace ViewportScaling.CommandLine

/-- An option of the program itself. -/
inductive ProgramSwitch where
  /-- Tells the version. -/
  | version
  /-- Tells the usage. -/
  | help
deriving DecidableEq, Repr

/-- The options of the program itself. -/
def programVocabulary : Vocabulary Empty ProgramSwitch where
  valued? _ := none
  switch? name :=
    if name = "--version" then some .version
    else if name = "--help" then some .help
    else none
  interspersed := false

/-- What a switch of the program prints. -/
def ProgramSwitch.outcome : ProgramSwitch → Outcome
  | .version => { output := programName ++ ", version " ++ programVersion ++ "\n" }
  | .help => { output := usageLine none }

/-- What is left of a call after the options of the program itself. -/
def afterOptions (words : List String) : Except Outcome (List String) :=
  match programVocabulary.read words with
  | .error error => .error (.ofUsageError none (.option error))
  | .ok arguments =>
    match arguments.switches with
    | [] => .ok arguments.words
    | first :: _ => .error first.outcome

/-- Runs a command on what follows its name. -/
def Command.run (tree : FileTree) (command : Command) (words : List String) : Outcome :=
  let refused := fun error => Outcome.ofUsageError (some command) error
  let told := { output := usageLine (some command) }
  match command with
  | .convert =>
    match Convert.vocabulary.read words with
    | .error error => refused (.option error)
    | .ok arguments =>
      if .help ∈ arguments.switches then told
      else
        match Convert.Request.ofArguments tree arguments with
        | .error error => refused error
        | .ok request => request.run tree
  | .inspect =>
    match Inspect.vocabulary.read words with
    | .error error => refused (.option error)
    | .ok arguments =>
      if () ∈ arguments.switches then told
      else
        match tree.sourceOf arguments.words, onlyOneWord arguments.words with
        | .error error, _ | .ok _, .error error => refused error
        | .ok source, .ok () => Inspect.run source

/-- The outcome of a call of the program. -/
def run (tree : FileTree) (words : List String) : Outcome :=
  let outcome := do
    let words ← afterOptions words
    match words with
    | [] => return Outcome.ofUsageError none .commandMissing
    | name :: rest =>
      match Command.ofName? name with
      | some command => return command.run tree rest
      | none =>
        let _ ← afterOptions words
        return Outcome.ofUsageError none (.unknownCommand name)
  match outcome with
  | .ok outcome => outcome
  | .error outcome => outcome

/-- The paths that a call names. -/
def namedPaths (words : List String) : List String :=
  match afterOptions words with
  | .ok (name :: rest) =>
    match Command.ofName? name, Convert.vocabulary.read rest with
    | some _, .ok arguments =>
      arguments.words.take 1 ++ arguments.values.filterMap fun (option, path) =>
        if option = .output || option = .config then some path else none
    | _, _ => []
  | _ => []

end ViewportScaling.CommandLine
