import ViewportScaling.CommandLine.Usage
import ViewportScaling.Notice
import ViewportScaling.Numeric.Number
import ViewportScaling.Text.ControlSequence
import ViewportScaling.Text.Utf8

/-!
# Outcomes

A run of the program ends with an exit code, has written text and diagnostics, and may have written one
file. A run that was given up leaves no message of its own. Control sequences are left out of all that
is printed except the notices, and kept in the file.
-/

namespace ViewportScaling.CommandLine

open Text Numeric

/-- Why a run was given up. -/
inductive Abandonment where
  /-- The bytes of a file are no text. -/
  | encoding (error : EncodingError)
  /-- A length cannot be scaled. -/
  | arithmetic (error : ArithmeticError)
  /-- The result cannot be written under a path. -/
  | path (problem : PathProblem) (path : String)
deriving DecidableEq, Repr

/-- What a run of the program leaves behind. -/
structure Outcome where
  /-- The exit code. -/
  exitCode : Nat := 0
  /-- The text that was written. -/
  output : String := ""
  /-- The diagnostics that were written. -/
  diagnostics : String := ""
  /-- Why the run was given up, if it was. -/
  abandoned : Option Abandonment := none
  /-- The file that was written, if one was. -/
  written : Option (Location × String) := none
deriving DecidableEq, Repr

namespace Outcome

/-- The outcome of a call that is not understood. -/
def ofUsageError (command : Option Command) (error : UsageError) : Outcome :=
  { exitCode := 2, diagnostics := printed (error.report command) }

/-- The outcome of a run that failed with a message. -/
def failed (diagnostics message : String) : Outcome :=
  { exitCode := 1, diagnostics := diagnostics ++ printed message ++ "\n" }

/-- The outcome of a run that was given up. -/
def givenUp (diagnostics : String) (reason : Abandonment) : Outcome :=
  { exitCode := 1, diagnostics, abandoned := some reason }

/-- The tree of files after the run. -/
def after (outcome : Outcome) (tree : FileTree) : FileTree :=
  match outcome.written with
  | none => tree
  | some (location, text) => tree.write location text.toUTF8.toList

/-- The file that is new or has another content after the run. -/
def changed? (outcome : Outcome) (tree : FileTree) : Option (Location × String) :=
  outcome.written.filter fun (location, text) =>
    tree location != some (.file text.toUTF8.toList)

end Outcome

/-- The lines in which notices are shown: all of them with weight and channel, or only the messages of
the warnings. -/
def shownNotices (verbose : Bool) (notices : List Notice) : String :=
  let lines :=
    if verbose then notices.map Notice.line
    else (notices.filter (·.weight = .warning)).map Notice.message
  String.join (lines.map (· ++ "\n"))

end ViewportScaling.CommandLine
