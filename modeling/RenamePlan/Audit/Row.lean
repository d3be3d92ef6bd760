import RenamePlan.Edit.Basic
import RenamePlan.Text.Fold

/-!
Rows of the audit: for each edit that a rename planned, where it landed and what was asked for.

A row holds the values of the edit and of the request as they are.  Its names have to be texts and
its numbers have to be comparable once the rows are put in order.
-/

namespace RenamePlan

/-- Where a planned edit landed, and for which request. -/
structure AuditRow where
  module : Json
  /-- The routine that the request named; empty if it named none. -/
  procedure : Json
  line : Json
  column : Json
  /-- The occurrence that the request asked for. -/
  occurrence : Json
  old : Json
  new : Json
  category : Json
deriving Repr

namespace AuditRow

/-- What rows are ordered by: the module and the routine, up to case folding, then the line and the
column. -/
def rank (row : AuditRow) : Except ValueFault Json := do
  let module ← row.module.name
  let procedure ← row.procedure.name
  pure (.list [.text (fold module), .text (fold procedure), row.line, row.column])

/-- The rows by module, routine, line and column; rows that agree in these keep their order. -/
def sorted (rows : List AuditRow) : Except ValueFault (List AuditRow) := do
  let ranked ← rows.mapM fun row => return (← row.rank, row)
  return (← sortOn Prod.fst ranked).map Prod.snd

/-- The headings of the fields. -/
def header : List Text :=
  ["Module".toList, "Procedure".toList, "LineNumber".toList, "StartChar".toList,
    "OccurrenceIndex".toList, "OldName".toList, "NewName".toList, "Category".toList]

/-- A value as a field: nothing if it is null. -/
def field : Json → Text
  | .null => []
  | value => value.shown

/-- The fields of a row. -/
def fields (row : AuditRow) : List Text :=
  [row.module, row.procedure, row.line, row.column, row.occurrence, row.old, row.new,
    row.category].map field

end AuditRow

end RenamePlan
