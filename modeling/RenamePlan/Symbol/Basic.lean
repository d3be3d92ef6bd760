import RenamePlan.Symbol.Kind
import RenamePlan.Usage.Registry

/-!
Symbols: the named things of a project, with the name that each should have and its usages.

A declaration holds whatever its maker put there.  A symbol is made of it only if its names are
texts and its kind is one.
-/

namespace RenamePlan

/-- What a declaration says of a symbol. -/
structure Declaration where
  name : Json
  kind : Json
  module : Json
  /-- The routine that declares the symbol, if one does. -/
  procedure : Json := .null
  /-- The name under the naming rules; the name itself if it is null. -/
  conventionalName : Json := .null
  /-- The line of the declaration. -/
  lineNumber : Json := .int 0
deriving Repr

/-- A named thing and its usages. -/
structure Symbol where
  name : Text
  kind : SymbolKind
  module : Text
  /-- The routine as it was declared: a text, or a value that does not count as set. -/
  procedure : Json
  conventionalName : Json
  lineNumber : Json
  usages : UsageRegistry := {}
deriving Repr

/-- What tells symbols apart: the names up to case folding, and the kind. -/
structure SymbolKey where
  module : Text
  procedure : Text
  name : Text
  kind : SymbolKind
deriving DecidableEq, Repr

/-- The key of the symbol with the given names and kind. -/
def SymbolKey.ofNames (module procedure name : Text) (kind : SymbolKind) : SymbolKey :=
  ⟨fold module, fold procedure, fold name, kind⟩

/-- Why a declaration makes no symbol. -/
inductive DeclarationFault where
  | unknownKind (fault : UnknownKind)
  | value (fault : ValueFault)
deriving DecidableEq, Repr

/-- The text of the fault. -/
def DeclarationFault.message : DeclarationFault → String
  | unknownKind fault => fault.message
  | value fault => fault.message

namespace Declaration

/-- The kind that is declared. -/
def symbolKind (d : Declaration) : Except DeclarationFault SymbolKind :=
  if d.kind.isKey then
    match SymbolKind.ofJson? d.kind with
    | some kind => .ok kind
    | none => .error (.unknownKind ⟨d.kind.shown⟩)
  else .error (.value .misfit)

/-- The names that are declared, of the module, the routine and the symbol. -/
def names (d : Declaration) : Except ValueFault (Text × Text × Text) := do
  let module ← d.module.name
  let procedure ← d.procedure.orEmpty.name
  let name ← d.name.name
  pure (module, procedure, name)

/-- The symbol that a declaration makes, so far without usages.  Its kind is looked at first. -/
def toSymbol (d : Declaration) : Except DeclarationFault Symbol := do
  let kind ← d.symbolKind
  match d.names with
  | .error fault => throw (.value fault)
  | .ok (module, _, name) =>
    let conventionalName := match d.conventionalName with
      | .null => .text name
      | conventionalName => conventionalName
    pure {
      name, kind, module, procedure := d.procedure, conventionalName, lineNumber := d.lineNumber }

end Declaration

namespace Symbol

/-- The routine that declares the symbol; empty if none does. -/
def routine (s : Symbol) : Text :=
  match s.procedure with
  | .text t => t
  | _ => []

/-- The key of the symbol. -/
def key (s : Symbol) : SymbolKey :=
  .ofNames s.module s.routine s.name s.kind

/-- Whether the symbol has the name that it should have. -/
def isConventional (s : Symbol) : Bool :=
  .text s.name == s.conventionalName

/-- Whether two symbols are declared alike, whatever their usages. -/
def declaredAlike (s t : Symbol) : Bool :=
  s.name == t.name && s.kind == t.kind && s.module == t.module && s.procedure == t.procedure &&
    s.conventionalName == t.conventionalName && s.lineNumber == t.lineNumber

/-- The symbol as a report shows it, with the given usage records. -/
def toJsonWith (s : Symbol) (sheets : List UsageSheet) : Json :=
  .object [
    ("name".toList, .text s.name),
    ("conventional_name".toList, s.conventionalName),
    ("is_conventional".toList, .bool s.isConventional),
    ("kind".toList, .text s.kind.word),
    ("module".toList, .text s.module),
    ("procedure".toList, .text s.routine),
    ("references".toList, .list (sheets.map UsageSheet.toJson))]

/-- The symbol with its usage records by age. -/
def toJson (s : Symbol) : Json :=
  s.toJsonWith s.usages.sheets

/-- The symbol with its usage records by module and routine. -/
def toSortedJson (s : Symbol) : Except ValueFault Json := do
  pure (s.toJsonWith (← UsageSheet.sorted s.usages.sheets))

end Symbol

end RenamePlan
