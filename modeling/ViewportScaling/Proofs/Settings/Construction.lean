import ViewportScaling.CommandLine.Convert
import ViewportScaling.Proofs.Numeric.Denotation
import ViewportScaling.Proofs.Settings.Validation

/-!
# Ways to come by settings

Settings come of a draft, of options over other settings, of a file of options, or of the parameters of the
command that converts. All of these ways validate, so each number of the settings is finite and positive,
unless it is positive infinity or not a number at all: neither of these is at most zero.
-/

namespace ViewportScaling.Settings

open Json Numeric CommandLine.Convert

/-- Settings that there is a way to come by. -/
inductive Constructed : Settings → Prop
  /-- A draft is valid. -/
  | drafted {draft : Draft} {settings : Settings} (valid : draft.validate = .ok settings) :
      Constructed settings
  /-- Options override such settings. -/
  | overridden {base settings : Settings} {options : Options} (earlier : Constructed base)
      (overridden : base.override options = .ok settings) : Constructed settings
  /-- A file of options is read. -/
  | loaded {path : String} {bytes : List UInt8} {settings : Settings}
      (loaded : (ofFile path bytes).1 = .ok settings) : Constructed settings
  /-- The command that converts lays its options over those of a file. -/
  | prepared {request : Request} {settings : Settings} {text : String}
      (prepared : request.prepared = .ok (settings, text)) : Constructed settings

/-- The default settings are valid. -/
theorem isValid_default : ({} : Settings).IsValid :=
  Draft.validate_eq_ok_iff.2 ⟨rfl, by decide, by decide⟩

/-- Settings from a file are valid. -/
theorem isValid_of_ofFile {path : String} {bytes : List UInt8} {settings : Settings}
    (loaded : (ofFile path bytes).1 = .ok settings) : settings.IsValid := by
  unfold ofFile at loaded
  split at loaded
  · cases loaded
  · exact isValid_default.override (mapError_eq_ok_iff.1 loaded)

/-- The settings of a request are valid. -/
theorem isValid_of_prepared {request : Request} {settings : Settings} {text : String}
    (prepared : request.prepared = .ok (settings, text)) : settings.IsValid := by
  unfold Request.prepared at prepared
  obtain ⟨base, based, rest⟩ := bind_eq_ok_iff.1 prepared
  obtain ⟨result, overridden, rest⟩ := bind_eq_ok_iff.1 rest
  obtain ⟨source, -, same⟩ := bind_eq_ok_iff.1 rest
  cases same
  have valid : base.IsValid := by
    have given := mapError_eq_ok_iff.1 based
    unfold Request.base at given
    split at given
    · cases given
      exact isValid_default
    · exact isValid_of_ofFile given
  exact valid.override (mapError_eq_ok_iff.1 overridden)

/-- However one comes by settings, they are valid. -/
theorem Constructed.isValid {settings : Settings} (constructed : Constructed settings) :
    settings.IsValid := by
  induction constructed with
  | drafted valid => exact isValid_of_validate valid
  | overridden _ overridden ih => exact ih.override overridden
  | loaded loaded => exact isValid_of_ofFile loaded
  | prepared prepared => exact isValid_of_prepared prepared

/-- What validation ensures of settings. -/
structure IsSound (settings : Settings) : Prop where
  /-- The widths and the break points are finite and positive, or positive infinity or not a number. -/
  numbers : ∀ n ∈ settings.breakPoint :: settings.numbers,
    n.IsFinitePositive ∨ n = .double (.infinite false) ∨ n = .double .notANumber
  /-- The flags are truth values. -/
  flags : ∀ field ∈ [Field.border, .disableDesktop, .disableLandscape],
    ∃ b, settings.draft field = .flag b
  /-- The class is a text that is not empty. -/
  rootClass : ∃ s, settings.draft .rootClass = .text s ∧ s ≠ ""

/-- Valid settings are sound. -/
theorem IsValid.isSound {settings : Settings} (valid : settings.IsValid) : settings.IsSound where
  numbers := by
    refine List.forall_mem_cons.2 ⟨?_, fun n mem => ?_⟩
    · exact Number.isAtMostZero_eq_false_iff.1 (valid.numbers _ settings.breakPoint_mem_numbers)
    · exact Number.isAtMostZero_eq_false_iff.1 (valid.numbers n mem)
  flags := by
    intro field mem
    simp only [List.mem_cons, List.not_mem_nil, or_false] at mem
    rcases mem with rfl | rfl | rfl
    · exact ⟨settings.border, rfl⟩
    · exact ⟨settings.disableDesktop, rfl⟩
    · exact ⟨settings.disableLandscape, rfl⟩
  rootClass := ⟨settings.rootClass, rfl, (Draft.validate_eq_ok_iff.1 valid).2.2⟩

end ViewportScaling.Settings
