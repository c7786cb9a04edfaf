import ViewportScaling.Entries

/-!
# Arguments

The words of a command line are options or plain words. A long option starts with two hyphens and may
have its value after an equals sign. A hyphen and letters are a cluster of short options, the last of
which may have its value in the rest of the cluster. Otherwise the value of an option is the next word,
whatever it is. Two hyphens alone end the options. The reading stops at the first option that is not
known or not well formed.
-/

namespace ViewportScaling.CommandLine

/-- The options of a command: those with a value, and switches, which have none. -/
structure Vocabulary (Valued Switch : Type) where
  /-- The option with a value that has a given name. -/
  valued? : String → Option Valued
  /-- The switch that has a given name. -/
  switch? : String → Option Switch
  /-- Whether options may follow a plain word. -/
  interspersed : Bool

/-- An option as it was given. -/
inductive Given (Valued Switch : Type) where
  /-- An option with its value. -/
  | value (option : Valued) (text : String)
  /-- A switch. -/
  | switch (option : Switch)
deriving DecidableEq, Repr

/-- Why options are not well formed. -/
inductive OptionError where
  /-- No option has the name. -/
  | unknown (name : String)
  /-- The value of an option is missing. -/
  | valueMissing (name : String)
  /-- A switch has a value. -/
  | valueUnexpected (name : String)
deriving DecidableEq, Repr

/-- The options and the plain words of a command line. -/
structure Arguments (Valued Switch : Type) where
  /-- The options, in order. -/
  options : List (Given Valued Switch) := []
  /-- The plain words, in order. -/
  words : List String := []
deriving Repr

variable {Valued Switch : Type}

namespace Arguments

/-- The options with a value: a repeated option keeps its first place and takes its last value. -/
def values [BEq Valued] (arguments : Arguments Valued Switch) : List (Valued × String) :=
  entriesOf (arguments.options.filterMap fun given => match given with
    | .value option text => some (option, text)
    | .switch _ => none)

/-- The switches, in order. -/
def switches (arguments : Arguments Valued Switch) : List Switch :=
  arguments.options.filterMap fun given => match given with
    | .value _ _ => none
    | .switch option => some option

end Arguments

/-- The options in one word, and the last of them with its name if its value is the next word. -/
abbrev WordOptions (Valued Switch : Type) := List (Given Valued Switch) × Option (String × Valued)

namespace Vocabulary

/-- Reads a cluster of short options. -/
def readCluster (vocabulary : Vocabulary Valued Switch) :
    List Char → Except OptionError (WordOptions Valued Switch)
  | [] => .ok ([], none)
  | letter :: rest =>
    let name := String.ofList ['-', letter]
    match vocabulary.switch? name, vocabulary.valued? name with
    | some option, _ =>
      (vocabulary.readCluster rest).map fun (given, open?) => (.switch option :: given, open?)
    | none, some option =>
      if rest.isEmpty then .ok ([], some (name, option))
      else .ok ([.value option (String.ofList rest)], none)
    | none, none => .error (.unknown name)

/-- Reads a long option, with the value after the equals sign if there is one. -/
def readLong (vocabulary : Vocabulary Valued Switch) (name : String) (value? : Option String) :
    Except OptionError (WordOptions Valued Switch) :=
  match vocabulary.switch? name, vocabulary.valued? name, value? with
  | some option, _, none => .ok ([.switch option], none)
  | some _, _, some _ => .error (.valueUnexpected name)
  | none, some option, none => .ok ([], some (name, option))
  | none, some option, some value => .ok ([.value option value], none)
  | none, none, _ => .error (.unknown name)

/-- Reads a word as options; it is a plain word if it does not start with a hyphen or is no more than
one. -/
def readWord? (vocabulary : Vocabulary Valued Switch) (word : String) :
    Option (Except OptionError (WordOptions Valued Switch)) :=
  match word.toList with
  | '-' :: '-' :: _ =>
    let name := String.ofList (word.toList.takeWhile (· ≠ '='))
    match word.toList.dropWhile (· ≠ '=') with
    | [] => some (vocabulary.readLong name none)
    | _ :: value => some (vocabulary.readLong name (some (String.ofList value)))
  | '-' :: letter :: letters => some (vocabulary.readCluster (letter :: letters))
  | _ => none

/-- Reads the words of a command line. -/
def read (vocabulary : Vocabulary Valued Switch) :
    List String → Except OptionError (Arguments Valued Switch)
  | [] => .ok {}
  | word :: rest =>
    if word = "--" then .ok { words := rest }
    else
      match vocabulary.readWord? word with
      | none =>
        if vocabulary.interspersed then
          (vocabulary.read rest).map fun later => { later with words := word :: later.words }
        else .ok { words := word :: rest }
      | some (.error error) => .error error
      | some (.ok (given, none)) =>
        (vocabulary.read rest).map fun later => { later with options := given ++ later.options }
      | some (.ok (given, some (name, option))) =>
        match rest with
        | [] => .error (.valueMissing name)
        | text :: rest =>
          (vocabulary.read rest).map fun later =>
            { later with options := given ++ .value option text :: later.options }

end Vocabulary

end ViewportScaling.CommandLine
