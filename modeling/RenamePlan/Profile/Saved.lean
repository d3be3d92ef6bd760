import RenamePlan.Profile.Basic

/-!
Saved profiles.  A profile that is loaded has all options: those that were not saved get their
defaults.
-/

namespace RenamePlan

/-- The saved form of a profile; a field may be missing. -/
structure SavedProfile where
  version : Option Json
  name : Option Json
  options : Options
deriving Repr

/-- The saved form of a profile. -/
def Profile.saved (profile : Profile) : SavedProfile where
  version := some profile.version
  name := some profile.name
  options := profile.options

namespace SavedProfile

/-- Why a saved profile cannot be read. -/
inductive LoadFault where
  /-- A field is not there. -/
  | missing (field : String)
  /-- The options are not given by key. -/
  | options (fault : Options.GivenFault)
  /-- There are no fields. -/
  | notObject
deriving DecidableEq, Repr

/-- The text of the fault. -/
def LoadFault.message : LoadFault → String
  | missing field => "Missing required field in configuration: '" ++ field ++ "'"
  | options fault => fault.message
  | notObject => "a saved profile has fields"

/-- Reads a saved profile as it stands. -/
def ofJson (data : Json) : Except LoadFault SavedProfile :=
  match data with
  | .object _ =>
    let given := match data.field? "options" with
      | some given => Options.savedPairs given
      | none => .ok []
    match given with
    | .ok pairs => .ok {
        version := data.field? "version"
        name := data.field? "name"
        options := Options.putAll [] pairs }
    | .error fault => .error (.options fault)
  | _ => .error .notObject

/-- The note that a profile has been loaded. -/
def loaded (profile : Profile) : Record where
  level := .debug
  channel := .profile
  message := Text.string (
    "Created configuration from dictionary: ".toList ++ profile.name.shown)

/-- Loads a saved profile.  Options that it does not give have their defaults. -/
def load (saved : SavedProfile) : Except LoadFault (Logged Profile) := do
  let version ← match saved.version with
    | some version => pure version
    | none => throw (.missing "version")
  let name ← match saved.name with
    | some name => pure name
    | none => throw (.missing "name")
  let profile : Profile := { name, version, options := Options.defaults.putAll saved.options }
  pure ⟨profile, [loaded profile]⟩

end SavedProfile

end RenamePlan
