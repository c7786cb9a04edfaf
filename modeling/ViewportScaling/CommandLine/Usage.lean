import ViewportScaling.CommandLine.Arguments
import ViewportScaling.CommandLine.FileTree
import ViewportScaling.Text.Quotation

/-!
# Usage

How the program and its commands are called, and what is reported when they are called otherwise. The
report of an option that is not well formed is its message alone; any other report tells the usage too.
-/

namespace ViewportScaling.CommandLine

open Text

/-- The name of the program. -/
def programName : String := "pxmedia"

/-- The version of the program. -/
def programVersion : String := "0.1.0"

/-- A command of the program. -/
inductive Command where
  /-- Appends the media blocks to a stylesheet. -/
  | convert
  /-- Shows the structure of a stylesheet. -/
  | inspect
deriving DecidableEq, Repr

namespace Command

/-- The name of a command. -/
def name : Command → String
  | .convert => "convert"
  | .inspect => "inspect"

/-- The command with a given name. -/
def ofName? (name : String) : Option Command :=
  [convert, inspect].find? fun command => command.name == name

/-- A command is found under its name. -/
theorem ofName?_name (command : Command) : ofName? command.name = some command := by
  cases command <;> decide

end Command

/-- The words that call the program or one of its commands. -/
def calling : Option Command → String
  | none => programName
  | some command => programName ++ " " ++ command.name

/-- The line that tells how the program or one of its commands is called. -/
def usageLine (command : Option Command) : String :=
  "Usage: " ++ calling command ++ " [OPTIONS] " ++
    (if command.isNone then "COMMAND [ARGS]..." else "CSSFILE") ++ "\n"

/-- Why a call is not understood. -/
inductive UsageError where
  /-- The options cannot be read. -/
  | option (error : OptionError)
  /-- The name of a command is missing. -/
  | commandMissing
  /-- No command has the name. -/
  | unknownCommand (name : String)
  /-- The path of the stylesheet is missing. -/
  | sourceMissing
  /-- There are words after the last that is expected. -/
  | extraWords (words : List String)
  /-- The value of a parameter is no number. -/
  | notNumber (parameter value : String)
  /-- No file stands where the value of a parameter leads to. -/
  | fileMissing (parameter value : String)
  /-- The value of a parameter leads to a directory. -/
  | notFile (parameter value : String)
deriving DecidableEq, Repr

namespace UsageError

/-- The message about a value of a parameter. -/
def invalidValue (parameter problem : String) : String :=
  "Invalid value for " ++ parameter ++ ": " ++ problem

/-- The message of the error. -/
def message : UsageError → String
  | .option (.unknown name) => "No such option " ++ quotation name ++ "."
  | .option (.valueMissing name) => "Option " ++ quotation name ++ " requires an argument."
  | .option (.valueUnexpected name) => "Option " ++ quotation name ++ " does not take a value."
  | .commandMissing => "Missing command."
  | .unknownCommand name => "No such command " ++ quotation name ++ "."
  | .sourceMissing => "Missing argument 'CSSFILE'."
  | .extraWords words =>
    "Got unexpected extra argument" ++ (if words.length = 1 then "" else "s") ++ " (" ++
      " ".intercalate words ++ ")"
  | .notNumber parameter value =>
    invalidValue parameter (quotation value ++ " is not a valid float.")
  | .fileMissing parameter value =>
    invalidValue parameter ("File " ++ quotation value ++ " does not exist.")
  | .notFile parameter value =>
    invalidValue parameter ("File " ++ quotation value ++ " is a directory.")

/-- Whether the report tells the usage too. -/
def tellsUsage : UsageError → Bool
  | .option (.valueMissing _) | .option (.valueUnexpected _) => false
  | _ => true

/-- The report of the error in a call of the program or one of its commands. -/
def report (command : Option Command) (error : UsageError) : String :=
  (if error.tellsUsage then
    usageLine command ++ "Try '" ++ calling command ++ " --help' for help.\n\n"
  else "") ++ "Error: " ++ error.message ++ "\n"

end UsageError

/-- The bytes of the file that the value of a parameter leads to. -/
def FileTree.fileOf (tree : FileTree) (parameter path : String) :
    Except UsageError (List UInt8) :=
  match tree.find path with
  | .ok (.file bytes) => .ok bytes
  | .ok .directory => .error (.notFile parameter path)
  | .error _ => .error (.fileMissing parameter path)

/-- The file among the plain words of a command that takes one. -/
def FileTree.sourceOf (tree : FileTree) : List String → Except UsageError (String × List UInt8)
  | [] => .error .sourceMissing
  | path :: _ => (tree.fileOf "'CSSFILE'" path).map (path, ·)

/-- Fails if there are words after the first. -/
def onlyOneWord (words : List String) : Except UsageError Unit :=
  if (words.drop 1).isEmpty then .ok () else .error (.extraWords (words.drop 1))

end ViewportScaling.CommandLine
