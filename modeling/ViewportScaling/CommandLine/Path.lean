/-!
# Paths

A path names a place in a tree of files. Its parts stand between slashes, and a slash in front starts at
the root. Parts that are empty or a single point stay where they are, and a path is shown without them;
only a front of exactly two slashes is kept.
-/

namespace ViewportScaling.CommandLine

/-- The parts of a path between its slashes. -/
def partsOf : List Char → List (List Char)
  | [] => [[]]
  | '/' :: rest => [] :: partsOf rest
  | c :: rest =>
    match partsOf rest with
    | [] => [[c]]
    | part :: parts => (c :: part) :: parts

/-- The parts of a path. -/
def pathParts (path : String) : List String := (partsOf path.toList).map String.ofList

/-- Whether a path starts at the root. -/
def isRooted (path : String) : Bool := path.toList.head? == some '/'

/-- The slashes in front of a path, as it is shown: two are kept, and more count as one. -/
def rootSlashes (path : String) : String :=
  match (path.toList.takeWhile (· = '/')).length with
  | 0 => ""
  | 2 => "//"
  | _ => "/"

/-- Whether a part of a path leads elsewhere. -/
def isStep (part : String) : Bool := part != "" && part != "."

/-- The parts of a path that lead elsewhere. -/
def pathSteps (path : String) : List String := (pathParts path).filter isStep

/-- The last step of a path. -/
def fileName (path : String) : String := (pathSteps path).getLast?.getD ""

/-- The path without the parts that stay where they are. -/
def plainPath (path : String) : String :=
  let shown := rootSlashes path ++ "/".intercalate (pathSteps path)
  if shown = "" then "." else shown

example : plainPath "./a//b/" = "a/b" := by decide +kernel

example : plainPath "//a/." = "//a" ∧ plainPath "///a" = "/a" := by decide +kernel

example : fileName "../a/b.css" = "b.css" := by decide +kernel

end ViewportScaling.CommandLine
