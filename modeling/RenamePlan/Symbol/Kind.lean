import RenamePlan.Json.Basic

/-!
The kinds of named things that a project declares.
-/

namespace RenamePlan

/-- What a symbol names. -/
inductive SymbolKind where
  | constant
  | control
  | enum
  | enumValue
  | event
  | field
  | module
  | parameter
  | procedure
  | property
  | type
  | var
deriving DecidableEq, Repr

namespace SymbolKind

/-- The kinds, in alphabetical order of their words. -/
def all : List SymbolKind :=
  [constant, control, enum, enumValue, event, field, module, parameter, procedure, property, type,
    var]

/-- The word for the kind. -/
def word : SymbolKind → Text
  | constant => "constant".toList
  | control => "control".toList
  | enum => "enum".toList
  | enumValue => "enum_value".toList
  | event => "event".toList
  | field => "field".toList
  | module => "module".toList
  | parameter => "parameter".toList
  | procedure => "procedure".toList
  | property => "property".toList
  | type => "type".toList
  | var => "variable".toList

/-- The kind that a word names, in exactly this spelling. -/
def ofText? (t : Text) : Option SymbolKind :=
  all.find? fun kind => kind.word == t

theorem ofText?_word (kind : SymbolKind) : ofText? kind.word = some kind := by
  cases kind <;> decide +kernel

/-- The kind that a value names. -/
def ofJson? : Json → Option SymbolKind
  | .text t => ofText? t
  | _ => none

end SymbolKind

/-- What should name a kind and does not, as a message shows it. -/
structure UnknownKind where
  found : Text
deriving DecidableEq, Repr

/-- The text of the fault. -/
def UnknownKind.message (fault : UnknownKind) : String :=
  Text.string ("Invalid kind: ".toList ++ fault.found ++ ". Must be one of ".toList ++
    quotedList (SymbolKind.all.map SymbolKind.word))

end RenamePlan
