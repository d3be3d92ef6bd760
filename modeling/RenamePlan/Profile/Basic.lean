import RenamePlan.Profile.Options

/-!
Profiles: the options of a planning run, under a name.

A profile may hold anything where an option is expected; `Profile.validate` says whether it can be
used, and reports the first thing that is wrong.  An option that is not given has its default.
-/

namespace RenamePlan

/-- The version of saved profiles. -/
def profileVersion : Text := "1.0".toList

/-- The options of a run, under a name. -/
structure Profile where
  name : Json
  version : Json := .text profileVersion
  options : Options := Options.defaults
deriving Repr

/-- What is wrong with a profile. -/
inductive ProfileFault where
  | version (found : Json)
  | unknownOption (key : Json)
  | notInteger (option : OptionName)
  | wrongType (option : OptionName)
  | negativeIndent
  | logLevel (found : Text)
deriving Repr

/-- The text of the fault. -/
def ProfileFault.message : ProfileFault → String
  | version found => Text.string (
      "Invalid version: ".toList ++ found.shown ++ ". Expected '".toList ++ profileVersion ++
      ['\''])
  | unknownOption key => Text.string (
      "Unknown option '".toList ++ key.shown ++ "' in configuration. Valid options: ".toList ++
      quotedList OptionName.sortedKeys)
  | notInteger option => Text.string (
      "Option '".toList ++ option.key ++ "' must be an integer".toList)
  | wrongType option => Text.string (
      "Option '".toList ++ option.key ++ "' must be of type ".toList ++ option.type.word)
  | negativeIndent => Text.string (
      "Option '".toList ++ OptionName.exportIndent.key ++ "' must be non-negative".toList)
  | logLevel found => Text.string (
      "Invalid log_level: ".toList ++ found ++ ". Expected one of ".toList ++
      quotedList (Level.all.map Level.word))

namespace Profile

/-- The value of a known option: the one given, or the default. -/
def get (profile : Profile) (option : OptionName) : Json :=
  (profile.options.lookup (.text option.key)).getD option.default

/-- The value under a key: the one given, or the default of a known option. -/
def getKey? (profile : Profile) (key : Json) : Option Json :=
  (profile.options.lookup key).orElse fun _ => (OptionName.ofKey? key).map OptionName.default

/-- Whether an option is on. -/
def isOn (profile : Profile) (option : OptionName) : Bool :=
  (profile.get option).isSet

/-- Checks one option: its key has to be known and its value of the kind that it takes.  A truth
value for a number is reported in words of its own. -/
def checkOption (key value : Json) : Except ProfileFault Unit :=
  match OptionName.ofKey? key with
  | none => .error (.unknownOption key)
  | some option =>
    if option.type.admits value then .ok ()
    else match option.type, value with
      | .int, .bool _ => .error (.notInteger option)
      | _, _ => .error (.wrongType option)

/-- Checks the options in order. -/
def checkOptions : Options → Except ProfileFault Unit
  | [] => .ok ()
  | (key, value) :: rest => do
    checkOption key value
    checkOptions rest

/-- Checks the version. -/
def checkVersion : Json → Except ProfileFault Unit
  | .text t => if t = profileVersion then .ok () else .error (.version (.text t))
  | other => .error (.version other)

/-- Checks that the indentation is not negative. -/
def checkIndent : Json → Except ProfileFault Unit
  | .int n => if n < 0 then .error .negativeIndent else .ok ()
  | _ => .ok ()

/-- Checks that the log level is one. -/
def checkLogLevel : Json → Except ProfileFault Unit
  | .text t => if (Level.ofText? t).isSome then .ok () else .error (.logLevel t)
  | _ => .ok ()

/-- Checks a profile: its version, each option given, and then the indentation and the log level in
force. -/
def check (profile : Profile) : Except ProfileFault Unit := do
  checkVersion profile.version
  checkOptions profile.options
  checkIndent (profile.get .exportIndent)
  checkLogLevel (profile.get .logLevel)

/-- The note that a profile is in order. -/
def validated (profile : Profile) : Record where
  level := .debug
  channel := .profile
  message := Text.string (
    "Configuration '".toList ++ profile.name.shown ++ "' validated successfully".toList)

/-- Checks a profile and notes that it is in order. -/
def validate (profile : Profile) : Except ProfileFault (Logged Unit) :=
  profile.check.map fun _ => ⟨(), [profile.validated]⟩

end Profile

end RenamePlan
