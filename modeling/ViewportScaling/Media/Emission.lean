import ViewportScaling.Css.Declaration
import ViewportScaling.Notice
import ViewportScaling.Numeric.Number

/-!
# Emissions

A pass builds up to three media blocks: one for desktop viewports, one for phones held sideways, and one
that both share. What a rule contributes to them is a list of emissions, each a rule for one of the
blocks. A contribution may stop with an error after some emissions; then nothing comes after it.
-/

namespace ViewportScaling.Media

open Css Numeric

/-- One of the media blocks. -/
inductive Block where
  /-- The block for desktop viewports. -/
  | desktop
  /-- The block for phones held sideways. -/
  | landscape
  /-- The block for both. -/
  | shared
deriving DecidableEq, Repr

/-- The name of a block in notices. -/
def Block.name : Block → String
  | .desktop => "desktop"
  | .landscape => "landscape"
  | .shared => "shared"

/-- A rule for one of the blocks. -/
structure Emission where
  /-- The block. -/
  block : Block
  /-- The selector of the rule. -/
  selector : String
  /-- The declarations of the rule. -/
  declarations : List Declaration
deriving DecidableEq, Repr

/-- A contribution to the blocks. -/
structure Trace where
  /-- The emissions in order. -/
  emissions : List Emission := []
  /-- What is reported, in order. -/
  notices : List Notice := []
  /-- The error that the contribution stops with, if it does. -/
  error : Option ArithmeticError := none
deriving DecidableEq, Repr

namespace Trace

/-- The contribution of nothing. -/
instance : EmptyCollection Trace where
  emptyCollection := {}

/-- One contribution after another; nothing comes after an error. -/
instance : Append Trace where
  append first second :=
    if first.error.isSome then first
    else
      { emissions := first.emissions ++ second.emissions
        notices := first.notices ++ second.notices
        error := second.error }

/-- A single emission. -/
def emit (block : Block) (selector : String) (declarations : List Declaration) : Trace :=
  { emissions := [⟨block, selector, declarations⟩] }

/-- A single notice. -/
def note (notice : Notice) : Trace := { notices := [notice] }

/-- A contribution that may be stopped before it starts. -/
def ofExcept : Except ArithmeticError Trace → Trace
  | .ok trace => trace
  | .error error => { error := some error }

/-- Contributions one after another. -/
def concat (traces : List Trace) : Trace := traces.foldr (· ++ ·) ∅

/-- What a contribution after another one comes to. -/
theorem append_def (first second : Trace) :
    first ++ second =
      if first.error.isSome then first
      else
        { emissions := first.emissions ++ second.emissions
          notices := first.notices ++ second.notices
          error := second.error } := rfl

@[simp] theorem empty_append (trace : Trace) : (∅ : Trace) ++ trace = trace := by
  rw [append_def]
  rfl

@[simp] theorem append_empty (trace : Trace) : trace ++ (∅ : Trace) = trace := by
  rcases trace with ⟨emissions, notices, error⟩
  cases error <;> simp [append_def, EmptyCollection.emptyCollection]

/-- How contributions are put together makes no difference. -/
theorem append_assoc (a b c : Trace) : a ++ b ++ c = a ++ (b ++ c) := by
  rcases a with ⟨emissions, notices, error⟩
  rcases b with ⟨emissions', notices', error'⟩
  cases error <;> cases error' <;> simp [append_def]

@[simp] theorem concat_nil : concat [] = ∅ := rfl

@[simp] theorem concat_cons (trace : Trace) (traces : List Trace) :
    concat (trace :: traces) = trace ++ concat traces := rfl

end Trace

end ViewportScaling.Media
