import ViewportScaling.CommandLine.Path

/-!
# Trees of files

A tree has at each location nothing, a directory or a file. A path is walked part by part from the
working directory or from the root, and every part but the last has to lead to a directory. The working
directory, the root and all directories above are there in every tree.
-/

namespace ViewportScaling.CommandLine

/-- A place in a tree: the steps from the working directory, or an empty step and the steps from the
root. Steps upward stand in front. -/
abbrev Location := List String

/-- The root. -/
def Location.root : Location := [""]

/-- The directory that holds a location. -/
def Location.above (location : Location) : Location :=
  if location = .root then location
  else if location.all (· == "..") then location ++ [".."]
  else location.dropLast

/-- The location that one part of a path leads to. -/
def Location.next (location : Location) (part : String) : Location :=
  if !isStep part then location else if part = ".." then location.above else location ++ [part]

/-- Where the walk along a path starts. -/
def startOf (path : String) : Location := if isRooted path then .root else []

/-- The locations that a path leads through. -/
def locationsOf (path : String) : List Location :=
  (pathParts path).foldl (fun passed part => passed ++ [(passed.getLast?.getD []).next part])
    [startOf path]

/-- The path of a location. -/
def Location.path (location : Location) : String := "/".intercalate location

/-- What stands at a location. -/
inductive Entry where
  /-- A directory. -/
  | directory
  /-- A file with its bytes. -/
  | file (bytes : List UInt8)
deriving DecidableEq, Repr

/-- Why a path cannot be used. -/
inductive PathProblem where
  /-- Nothing stands there. -/
  | missing
  /-- The path leads through a file. -/
  | notDirectory
  /-- A directory stands there. -/
  | isDirectory
deriving DecidableEq, Repr

/-- What stands at each location. -/
abbrev FileTree := Location → Option Entry

namespace FileTree

/-- What stands at a location; the directories that hold the tree are always there. -/
def entry? (tree : FileTree) (location : Location) : Option Entry :=
  if location = .root || location.all (· == "..") then some .directory else tree location

/-- Walks along parts of a path from a location. -/
def walk (tree : FileTree) (start : Location) : List String → Except PathProblem Location
  | [] => .ok start
  | part :: parts =>
    match tree.entry? start with
    | none => .error .missing
    | some (.file _) => .error .notDirectory
    | some .directory => tree.walk (start.next part) parts

/-- The location that a path leads to. Something need not stand there. -/
def locate (tree : FileTree) (path : String) : Except PathProblem Location :=
  if path = "" then .error .missing else tree.walk (startOf path) (pathParts path)

/-- What stands where a path leads to. -/
def find (tree : FileTree) (path : String) : Except PathProblem Entry :=
  (tree.locate path).bind fun location =>
    match tree.entry? location with
    | some entry => .ok entry
    | none => .error .missing

/-- The location of the file that is written under a path. -/
def place (tree : FileTree) (path : String) : Except PathProblem Location :=
  (tree.locate path).bind fun location =>
    match tree.entry? location with
    | some .directory => .error .isDirectory
    | _ => .ok location

/-- The tree with a file at a location. -/
def write (tree : FileTree) (location : Location) (bytes : List UInt8) : FileTree :=
  fun other => if other = location then some (.file bytes) else tree other

@[simp] theorem write_self (tree : FileTree) (location : Location) (bytes : List UInt8) :
    tree.write location bytes location = some (.file bytes) := by
  simp [write]

theorem write_of_ne (tree : FileTree) {location other : Location} (bytes : List UInt8)
    (h : other ≠ location) : tree.write location bytes other = tree other := by
  simp [write, h]

end FileTree

end ViewportScaling.CommandLine
