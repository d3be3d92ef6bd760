import RenamePlan.Audit.Row
import RenamePlan.Csv.Writer

/-!
The audit as a table of separated values.
-/

namespace RenamePlan

/-- The table: the headings, and the rows in order. -/
def auditTable (quoting : FieldQuoting) (rows : List AuditRow) : Except ValueFault Text := do
  let sorted ← AuditRow.sorted rows
  pure (writeRow quoting AuditRow.header ++ sorted.flatMap fun row => writeRow quoting row.fields)

end RenamePlan
