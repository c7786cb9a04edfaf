import ViewportScaling.Json.Reader
import ViewportScaling.Settings.Options
import ViewportScaling.Text.Utf8

/-!
# Files of options

A file of options holds one JSON record. It is decoded, read and checked before any option takes effect.
-/

namespace ViewportScaling.Settings

open Json Text

/-- Why a file gives no settings. -/
inductive FileError where
  /-- The bytes are no text. -/
  | encoding (error : EncodingError)
  /-- The text is no JSON text. -/
  | malformed (path : String) (source : List Char) (fault : Fault)
  /-- The value is no record. -/
  | noRecord (path : String)
  /-- The options are not valid. -/
  | settings (error : SettingsError)

/-- The message of the error. -/
def FileError.message : FileError → String
  | .encoding error => error.message
  | .malformed path source fault => "Invalid JSON in " ++ path ++ ": " ++ fault.message source
  | .noRecord path => path ++ " must contain a JSON object"
  | .settings error => error.message

/-- The options in a file with the given bytes. -/
def optionsOf (path : String) (bytes : List UInt8) : Except FileError Options := do
  let text ← (decodeFile bytes).mapError .encoding
  match readAll text.toList with
  | .error fault => .error (.malformed path text.toList fault)
  | .ok (.record entries) => .ok entries
  | .ok _ => .error (.noRecord path)

/-- The settings in a file with the given bytes, and what is reported on the way. -/
def ofFile (path : String) (bytes : List UInt8) : Except FileError Settings × List Notice :=
  match optionsOf path bytes with
  | .error error => (.error error, [])
  | .ok options =>
    ((({} : Settings).override options).mapError .settings,
      .optionsRead options.length path :: unknownOptions options)

end ViewportScaling.Settings
