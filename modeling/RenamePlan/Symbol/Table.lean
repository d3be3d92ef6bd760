import RenamePlan.Symbol.Basic

/-!
The symbol table of a project.

There is one symbol for each key; the first declaration stays, and a later one for the same key
gives the symbol that is there.
-/

namespace RenamePlan

/-- The symbols of a project, oldest first. -/
structure SymbolTable where
  symbols : List Symbol := []
deriving Repr

namespace SymbolTable

/-- The place of the symbol with the given key. -/
def indexOf? (table : SymbolTable) (key : SymbolKey) : Option Nat :=
  table.symbols.findIdx? (·.key == key)

/-- The place of the declared symbol.  There is none for what is no kind. -/
def find? (table : SymbolTable) (d : Declaration) : Except ValueFault (Option Nat) := do
  let (module, procedure, name) ← d.names
  if d.kind.isKey then
    return (SymbolKind.ofJson? d.kind).bind fun kind =>
      table.indexOf? (.ofNames module procedure name kind)
  throw .misfit

/-- The number of symbols. -/
def size (table : SymbolTable) : Nat :=
  table.symbols.length

/-- The symbols that do not have the name that they should have. -/
def renames (table : SymbolTable) : List Symbol :=
  table.symbols.filter fun s => !s.isConventional

/-- The note that a symbol has been added. -/
def symbolAdded (s : Symbol) : Record where
  level := .debug
  channel := .symbols
  message := Text.string (
    "Added symbol: ".toList ++ s.module ++ '.' :: s.name ++ " (".toList ++ s.kind.word ++
    ')' :: (if s.isConventional then [] else " -> ".toList ++ s.conventionalName.shown))

/-- Adds a symbol unless one has its key, and gives the place of the one with its key. -/
def add (table : SymbolTable) (s : Symbol) : Logged (SymbolTable × Nat) :=
  match table.indexOf? s.key with
  | some i => ⟨(table, i), []⟩
  | none => ⟨(⟨table.symbols ++ [s]⟩, table.size), [symbolAdded s]⟩

/-- Makes the symbol of a declaration and adds it. -/
def declare (table : SymbolTable) (d : Declaration) :
    Except DeclarationFault (Logged (SymbolTable × Nat)) :=
  d.toSymbol.map table.add

/-- The place of the declared symbol, which is made on first use. -/
def getOrDeclare (table : SymbolTable) (d : Declaration) :
    Except DeclarationFault (Logged (SymbolTable × Nat)) :=
  match table.find? d with
  | .error fault => .error (.value fault)
  | .ok (some i) => .ok ⟨(table, i), []⟩
  | .ok none => table.declare d

/-- Records a usage of the symbol at place `i`. -/
def recordUsage (table : SymbolTable) (i : Nat) (module procedure : Json) (place : Place) :
    Outcome SymbolTable ValueFault Unit :=
  match table.symbols[i]? with
  | none => ⟨table, .ok (), []⟩
  | some s =>
    (s.usages.record module procedure place).mapState fun usages =>
      ⟨table.symbols.set i { s with usages }⟩

/-- The table with its symbols as they are written. -/
def toJsonWith (table : SymbolTable) (written : List Json) : Json :=
  .object [
    ("symbol_count".toList, .int table.size),
    ("symbols".toList, .list written)]

/-- The table with usage records by age. -/
def toJson (table : SymbolTable) : Json :=
  table.toJsonWith (table.symbols.map Symbol.toJson)

/-- The table with usage records by module and routine. -/
def toSortedJson (table : SymbolTable) : Except ValueFault Json := do
  pure (table.toJsonWith (← table.symbols.mapM Symbol.toSortedJson))

end SymbolTable

end RenamePlan
