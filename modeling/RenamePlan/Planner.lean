import RenamePlan.Audit.Row
import RenamePlan.Edit.Store
import RenamePlan.Line.Given
import RenamePlan.Profile.Basic
import RenamePlan.Symbol.Table

/-!
The planner: collects usages of symbols and plans the edits that rename them.

There is one store of edits for each module, made when the module is first named and known under
every spelling of that name with the same fold.  For every edit that a rename plans there is a row
of the audit, which says where the edit landed and for which request.
-/

namespace RenamePlan

/-- A request to rename a symbol on one line. -/
structure RenameRequest where
  module : Json
  /-- The whole line. -/
  lineText : Json
  lineNumber : Json
  old : Json
  new : Json
  category : Json
  /-- Which match to replace, counted from one, or all of them if not positive. -/
  occurrence : Json := .int everyOccurrence
  /-- Whether matches inside string literals are left alone; the profile says if it is null. -/
  skipLiterals : Json := .null
  /-- The routine that the line belongs to, for the audit. -/
  procedure : Json := .null
deriving Repr

/-- The state of a planning run. -/
structure Planner where
  profile : Profile
  symbols : SymbolTable := {}
  stores : List EditStore := []
  audit : List AuditRow := []
deriving Repr

namespace Planner

/-- A planner for a profile, which has to be in order, and the symbols of a project. -/
def start (profile : Profile) (symbols : SymbolTable) : Except ProfileFault (Logged Planner) :=
  profile.validate.map fun checked => checked.map fun _ => { profile, symbols }

/-- The profile of a run that names none. -/
def defaultProfile : Profile := { name := .text "default".toList }

/-! ## Stores -/

/-- The place of the store for a module. -/
def storeIndex? (planner : Planner) (module : Text) : Option Nat :=
  planner.stores.findIdx? fun store => sameName store.module module

/-- The note that a store has been made. -/
def storeCreated (module : Text) : Record where
  level := .debug
  channel := .planner
  message := Text.string ("Replacement store created for module ".toList ++ module)

/-- The place of the store for a module, which is made if there is none. -/
def openStore (planner : Planner) (module : Text) : Logged (Planner × Nat) :=
  match planner.storeIndex? module with
  | some i => ⟨(planner, i), []⟩
  | none =>
    ⟨({ planner with stores := planner.stores ++ [{ module }] }, planner.stores.length),
      [storeCreated module]⟩

/-- The store at a place. -/
def storeAt (planner : Planner) (i : Nat) : EditStore :=
  planner.stores.getD i { module := [] }

/-- Works on the store for a module, which is made if there is none and stays if the work fails. -/
def withStore {α : Type} (planner : Planner) (module : Text)
    (work : EditStore → Except ValueFault (Logged (EditStore × α))) :
    Outcome Planner ValueFault α :=
  let ⟨(opened, i), log⟩ := planner.openStore module
  match work (opened.storeAt i) with
  | .error fault => ⟨opened, .error fault, log⟩
  | .ok ⟨(store, result), later⟩ =>
    ⟨{ opened with stores := opened.stores.set i store }, .ok result, log ++ later⟩

/-- Plans an edit as it is given, without a row in the audit. -/
def addEdit (planner : Planner) (module : Text) (e : Edit) : Outcome Planner ValueFault Bool :=
  planner.withStore module (·.add e)

/-- The modules that have a store, as first spelled. -/
def modules (planner : Planner) : List Text :=
  planner.stores.map EditStore.module

/-- The edits planned for a module, oldest first. -/
def editsFor (planner : Planner) (module : Text) : List Edit :=
  ((planner.stores.find? fun store => sameName store.module module).map EditStore.edits).getD []

/-- The edits planned for a module in application order. -/
def orderedEditsFor (planner : Planner) (module : Text) : Except ValueFault (List Edit) :=
  applicationOrder (planner.editsFor module)

/-- The number of edits planned for all modules. -/
def editCount (planner : Planner) : Nat :=
  (planner.stores.flatMap EditStore.edits).length

/-! ## Usages -/

/-- Records a usage of the symbol at place `i` of the symbol table. -/
def recordUsage (planner : Planner) (i : Nat) (module procedure : Json) (place : Place) :
    Outcome Planner ValueFault Unit :=
  (planner.symbols.recordUsage i module procedure place).mapState fun symbols =>
    { planner with symbols }

/-! ## Renames -/

/-- The row of the audit for an edit that the request planned. -/
def RenameRequest.auditRow (request : RenameRequest) (e : Edit) : AuditRow where
  module := request.module
  procedure := request.procedure.orEmpty
  line := e.line
  column := e.start
  occurrence := request.occurrence
  old := e.old
  new := e.new
  category := e.category

/-- Whether a row is for the given position in a module. -/
def isRowFor (module : Text) (position : Position) (row : AuditRow) : Bool :=
  match row.module with
  | .text own => (row.line, row.column) == position && sameName own module
  | _ => false

/-- Adds a row for a module unless one for its position is there. -/
def addRow (module : Text) (rows : List AuditRow) (row : AuditRow) : List AuditRow :=
  if rows.any (isRowFor module (row.line, row.column)) then rows else rows ++ [row]

/-- The text in which the planner looks for matches: the code of the line, or all of it. -/
def searchedText (profile : Profile) (line : Json) : Except ValueFault Json :=
  if profile.isOn .stripComments then codeIn line else .ok line

/-- Whether a request leaves matches inside string literals alone, under the profile. -/
def skipsLiterals (profile : Profile) : Json → Bool
  | .null => profile.isOn .skipLiterals
  | value => value.isSet

/-- What a request asks of the store, under the profile, for matches in the given text. -/
def lineRequest (profile : Profile) (request : RenameRequest) (text : Json) : LineRequest where
  text
  lineNumber := request.lineNumber
  old := request.old
  new := request.new
  category := request.category
  occurrence := request.occurrence
  skipLiterals := skipsLiterals profile request.skipLiterals

/-- The note that a request planned nothing new. -/
def nothingPlanned (s : Symbol) (request : RenameRequest) : Record where
  level := .debug
  channel := .planner
  message := Text.string (
    "No edit planned for ".toList ++ s.kind.word ++ ' ' :: s.name ++ " in ".toList ++
    request.module.shown ++ " line ".toList ++ request.lineNumber.shown)

/-- Notes the edits that a request planned for a module in the audit, or that there are none. -/
def noteEdits (planner : Planner) (s : Symbol) (module : Text) (request : RenameRequest)
    (planned : List Edit) : Logged Planner :=
  let rows := planned.map (RenameRequest.auditRow request)
  ⟨{ planner with audit := rows.foldl (addRow module) planner.audit },
    if planned.isEmpty then [nothingPlanned s request] else []⟩

/-- Plans the edits that rename a symbol on a line, and returns those that are new. -/
def plan (planner : Planner) (s : Symbol) (request : RenameRequest) :
    Outcome Planner ValueFault (List Edit) :=
  let asked : Except ValueFault (Json × Text) := do
    pure (← searchedText planner.profile request.lineText, ← request.module.name)
  match asked with
  | .error fault => ⟨planner, .error fault, []⟩
  | .ok (text, module) =>
    let stored := planner.withStore module (·.addLine (lineRequest planner.profile request text))
    match stored.result with
    | .error fault => ⟨stored.state, .error fault, stored.log⟩
    | .ok planned =>
      let noted := stored.state.noteEdits s module request planned
      ⟨noted.value, .ok planned, stored.log ++ noted.log⟩

end Planner

end RenamePlan
