import RenamePlan.Usage.Basic

/-!
Usage records as they are given and as they are saved.

The values of a given record are looked at only when they are needed (`GivenUsage`).  Loading a
saved record looks at them at once; it also settles the routine and fits the lists to the line
numbers (`UsageSheet.ofJson`).  Fields that a record does not have do not count.
-/

namespace RenamePlan

/-- A usage record as it is given. -/
structure GivenUsage where
  module : Json
  procedure : Json := .text []
  lines : Json := .list []
  occurrences : Json := .list []
  columns : Json := .list []
deriving Repr

namespace GivenUsage

/-- The record of a module, with its other fields from the data.  A routine that is missing is the
empty name, and a list that is missing is empty. -/
def ofFields (module data : Json) : GivenUsage where
  module
  procedure := (data.field? "procedure").getD (.text [])
  lines := (data.field? "line_numbers").getD (.list [])
  occurrences := (data.field? "occurrence_indexes").getD (.list [])
  columns := (data.field? "start_chars").getD (.list [])

/-- Reads a given record.  The module has to be named. -/
def ofJson (data : Json) : Except ValueFault GivenUsage :=
  match data.field? "module" with
  | some module => .ok (ofFields module data)
  | none => .error .misfit

/-- The record as a sheet.  What should be a list has to be one, or to hold values like one. -/
def sheet (given : GivenUsage) : Except ValueFault UsageSheet := do
  let lines ← given.lines.items
  let occurrences ← given.occurrences.items
  let columns ← given.columns.items
  pure { module := given.module, procedure := given.procedure, lines, occurrences, columns }

/-- The records as sheets, by module and then by routine.  All names are looked at before any
list. -/
def sorted (records : List GivenUsage) : Except ValueFault (List UsageSheet) := do
  (← sortByRoutine module procedure records).mapM sheet

end GivenUsage

namespace UsageSheet

/-- Reads a given record as a sheet. -/
def read (data : Json) : Except ValueFault UsageSheet := do
  (← GivenUsage.ofJson data).sheet

/-- Why a saved record cannot be loaded. -/
inductive LoadFault where
  /-- The module is not named. -/
  | noModule
  | value (fault : ValueFault)
deriving DecidableEq, Repr

/-- The text of the fault. -/
def LoadFault.message : LoadFault → String
  | noModule => "Missing required field in reference: 'module'"
  | value fault => fault.message

/-- Loads a saved record.  A routine that does not count as set is the empty name. -/
def ofJson (data : Json) : Except LoadFault UsageSheet :=
  match data, data.field? "module" with
  | .object _, some module =>
    match (GivenUsage.ofFields module data).sheet with
    | .ok sheet => .ok { sheet with procedure := sheet.procedure.orEmpty }.align
    | .error fault => .error (.value fault)
  | .object _, none => .error .noModule
  | _, _ => .error (.value .misfit)

/-- The sheet as a JSON value. -/
def toJson (sheet : UsageSheet) : Json :=
  .object [
    ("module".toList, sheet.module),
    ("procedure".toList, sheet.procedure),
    ("line_numbers".toList, .list sheet.lines),
    ("occurrence_indexes".toList, .list sheet.occurrences),
    ("start_chars".toList, .list sheet.columns)]

end UsageSheet

end RenamePlan
