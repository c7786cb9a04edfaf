import ViewportScaling.Text.Quotation

/-!
# Notices

What the library does is reported in notices, in the order in which it happens. A notice has a weight, a
channel and a message; a caller decides which notices are shown.
-/

namespace ViewportScaling

open Text

/-- How much a notice matters. -/
inductive Weight where
  /-- A detail. -/
  | debug
  /-- A result. -/
  | info
  /-- Something that the caller should look at. -/
  | warning
deriving DecidableEq, Repr

/-- The name of a weight. -/
def Weight.name : Weight → String
  | .debug => "DEBUG"
  | .info => "INFO"
  | .warning => "WARNING"

/-- Something that the library reports. -/
inductive Notice where
  /-- An option with an unknown name is ignored. -/
  | unknownOption (name : String)
  /-- A file of options was read. -/
  | optionsRead (count : Nat) (path : String)
  /-- A rule has the selector of the root container. -/
  | rootFound (selector : String)
  /-- A rule has the width pattern with the given name. -/
  | patternFound (selector pattern : String)
  /-- A block with a number of nodes was appended. -/
  | blockAppended (block : String) (size : Nat)
  /-- A pass appended a number of blocks with a number of nodes together. -/
  | passFinished (blocks size : Nat)
deriving DecidableEq, Repr

namespace Notice

/-- How much the notice matters. -/
def weight : Notice → Weight
  | .unknownOption _ => .warning
  | .passFinished _ _ => .info
  | _ => .debug

/-- The part of the program that reports. -/
def channel : Notice → String
  | .unknownOption _ | .optionsRead _ _ => "pxmedia.config"
  | .blockAppended _ _ => "pxmedia.transforms.assembler"
  | _ => "pxmedia.transforms.media_viewport"

/-- The message of the notice. -/
def message : Notice → String
  | .unknownOption name => "Ignoring unknown option " ++ quotation name
  | .optionsRead count path => "Loaded " ++ toString count ++ " option(s) from " ++ path
  | .rootFound selector => "Centring root container " ++ selector
  | .patternFound selector pattern => "Rule " ++ selector ++ " matched " ++ pattern
  | .blockAppended block size =>
    "Appended " ++ block ++ " block with " ++ toString size ++ " rule(s)"
  | .passFinished blocks size =>
    "Media viewport transform appended " ++ toString blocks ++ " block(s) with " ++
      toString size ++ " rule(s)"

/-- The notice on one line, with its weight and channel. -/
def line (notice : Notice) : String :=
  notice.weight.name ++ " " ++ notice.channel ++ ": " ++ notice.message

end Notice

end ViewportScaling
