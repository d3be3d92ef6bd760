import RenamePlan.Json.Compare
import RenamePlan.Log.Record

/-!
The options of a planning run: their keys, the kinds of values that they take, and their defaults.
-/

namespace RenamePlan

/-- The options of a run. -/
inductive OptionName where
  /-- Whether matches inside string literals are left alone when a request does not say. -/
  | skipLiterals
  /-- Whether comments are left alone. -/
  | stripComments
  /-- How reports are indented. -/
  | exportIndent
  /-- The level at which the run logs. -/
  | logLevel
deriving DecidableEq, Repr

/-- The kinds of values that options take. -/
inductive OptionType where
  | bool
  | int
  | str
deriving DecidableEq, Repr

/-- The word for the kind of value. -/
def OptionType.word : OptionType → Text
  | bool => "bool".toList
  | int => "int".toList
  | str => "str".toList

/-- Whether a value is of the kind. -/
def OptionType.admits : OptionType → Json → Bool
  | bool, .bool _ => true
  | int, .int _ => true
  | str, .text _ => true
  | _, _ => false

namespace OptionName

/-- The options in the order in which a new profile lists them. -/
def all : List OptionName := [skipLiterals, stripComments, exportIndent, logLevel]

/-- The key of the option. -/
def key : OptionName → Text
  | skipLiterals => "skip_string_literals".toList
  | stripComments => "strip_comments".toList
  | exportIndent => "export_indent".toList
  | logLevel => "log_level".toList

/-- The keys in alphabetical order. -/
def sortedKeys : List Text := [exportIndent.key, logLevel.key, skipLiterals.key, stripComments.key]

/-- The option with the given key. -/
def ofKey? (key : Json) : Option OptionName :=
  all.find? fun option => key == .text option.key

theorem ofKey?_key (option : OptionName) : ofKey? (.text option.key) = some option := by
  cases option <;> decide +kernel

/-- The kind of value that the option takes. -/
def type : OptionName → OptionType
  | skipLiterals => .bool
  | stripComments => .bool
  | exportIndent => .int
  | logLevel => .str

/-- The value of an option that is not given. -/
def default : OptionName → Json
  | skipLiterals => .bool false
  | stripComments => .bool true
  | exportIndent => .int 2
  | logLevel => .text Level.info.word

end OptionName

/-- Option values by key, in the order in which the keys were first given. -/
abbrev Options := List (Json × Json)

namespace Options

/-- Gives a key a value.  A key that is there keeps its place. -/
def put : Options → Json → Json → Options
  | [], key, value => [(key, value)]
  | (k, v) :: rest, key, value =>
    if k == key then (k, value) :: rest else (k, v) :: put rest key value

theorem lookup_put_self (options : Options) (key : Text) (value : Json) :
    (options.put (.text key) value).lookup (.text key) = some value := by
  induction options with
  | nil => simp [put]
  | cons pair rest ih =>
    obtain ⟨k, v⟩ := pair
    by_cases h : k == .text key
    · have equal := Json.eq_text_of_beq h
      subst equal
      simp [put, List.lookup_cons]
    · have apart : (Json.text key == k) = false := by
        rw [Json.text_beq_comm]
        simpa using h
      simp [put, h, List.lookup_cons, apart, ih]

theorem lookup_put_of_ne (options : Options) {key other : Text} (value : Json)
    (hne : other ≠ key) :
    (options.put (.text key) value).lookup (.text other) = options.lookup (.text other) := by
  have hkey : (Json.text other == Json.text key) = false := by simp [hne]
  induction options with
  | nil => simp only [put, List.lookup_cons, hkey]
  | cons pair rest ih =>
    obtain ⟨k, v⟩ := pair
    by_cases h : k == .text key
    · have equal := Json.eq_text_of_beq h
      subst equal
      simp only [put, h, if_true, List.lookup_cons, hkey]
    · simp only [put, h, if_false, List.lookup_cons, Bool.false_eq_true]
      cases Json.text other == k with
      | true => rfl
      | false => exact ih

/-- Gives keys values, in turn. -/
def putAll (options : Options) (pairs : List (Json × Json)) : Options :=
  pairs.foldl (fun options (key, value) => put options key value) options

/-- Takes a key away, if it is there.  Where there are no options the key is not looked at. -/
def delete (options : Options) (key : Json) : Except ValueFault Options :=
  if options.isEmpty || key.isKey then .ok (options.filter fun (k, _) => !(k == key))
  else .error .misfit

/-- All options with their defaults. -/
def defaults : Options :=
  OptionName.all.map fun option => (.text option.key, option.default)

/-! ## Options as they are given -/

/-- Why a value gives no options. -/
inductive GivenFault where
  /-- What should be a pair has so few parts. -/
  | tooFew (parts : Nat)
  /-- What should be a pair has more parts. -/
  | tooMany
  /-- What stands at a place of saved options has another length than a pair. -/
  | noPair (place length : Nat)
  | value (fault : ValueFault)
deriving DecidableEq, Repr

/-- The text of the fault. -/
def GivenFault.message : GivenFault → String
  | tooFew parts => Text.string (
      "not enough values to unpack (expected 2, got ".toList ++ decimal parts ++ [')'])
  | tooMany => "too many values to unpack (expected 2)"
  | noPair place length => Text.string (
      "dictionary update sequence element #".toList ++ decimal place ++ " has length ".toList ++
      decimal length ++ "; 2 is required".toList)
  | value fault => fault.message

/-- The key and the value that make up a pair; `fault` says what is wrong with parts that are none.
The key has to be one. -/
def pairOf (fault : List Json → GivenFault) (given : Json) : Except GivenFault (Json × Json) :=
  match given.items? with
  | none => .error (.value .misfit)
  | some [key, value] => if key.isKey then .ok (key, value) else .error (.value .misfit)
  | some other => .error (fault other)

/-- The fault of parts that are no pair. -/
def unequalParts (parts : List Json) : GivenFault :=
  if parts.length < 2 then .tooFew parts.length else .tooMany

/-- The keys and values of a list of pairs. -/
def listed (given : Json) : Except GivenFault (List (Json × Json)) :=
  match given.items? with
  | some items => items.mapM (pairOf unequalParts)
  | none => .error (.value .misfit)

/-- The pairs that stand from a place on. -/
def pairsFrom (place : Nat) : List Json → Except GivenFault (List (Json × Json))
  | [] => .ok []
  | given :: rest => do
    let pair ← pairOf (fun parts => .noPair place parts.length) given
    pure (pair :: (← pairsFrom (place + 1) rest))

/-- The keys and values of saved options: the fields of an object, or a list of pairs. -/
def savedPairs : Json → Except GivenFault (List (Json × Json))
  | .object fields => .ok (fields.map fun (key, value) => (.text key, value))
  | given =>
    match given.items? with
    | some items => pairsFrom 0 items
    | none => .error (.value .misfit)

end Options

end RenamePlan
