import ViewportScaling.Notice
import ViewportScaling.Settings.Basic

/-!
# Options

Options are named values that replace fields of given settings. A later option for the same field
replaces an earlier one, whichever spelling they use. An option with an unknown name is reported and has
no other effect. Without options the given settings are kept as they are.
-/

namespace ViewportScaling.Settings

open Json

/-- Named values in order. -/
abbrev Options := List (String × Value)

/-- The draft with the values of the options that are known. -/
def Draft.update (draft : Draft) (options : Options) : Draft :=
  options.foldl (fun draft option =>
    match Field.ofOption? option.1 with
    | some field => draft.set field option.2
    | none => draft) draft

/-- A report for each option that is unknown. -/
def unknownOptions (options : Options) : List Notice :=
  (options.filter fun option => (Field.ofOption? option.1).isNone).map (.unknownOption ·.1)

/-- The settings with the options in force. -/
def override (base : Settings) (options : Options) : Except SettingsError Settings :=
  if options.isEmpty then .ok base else (base.draft.update options).validate

@[simp] theorem override_nil (base : Settings) : base.override [] = .ok base := rfl

@[simp] theorem Draft.update_nil (draft : Draft) : draft.update [] = draft := rfl

theorem Draft.update_append (draft : Draft) (earlier later : Options) :
    draft.update (earlier ++ later) = (draft.update earlier).update later := by
  simp [Draft.update]

end ViewportScaling.Settings
