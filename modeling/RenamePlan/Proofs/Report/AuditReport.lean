import RenamePlan.Proofs.Csv.RoundTrip
import RenamePlan.Proofs.Json.RoundTrip
import RenamePlan.Proofs.Report.Delivery
import RenamePlan.Proofs.Report.Order

/-!
# The audit can be read back

`readAudit?` reads the rows of an audit from its table.  It finds in the written audit all rows that
were audited, with all that they hold, in a stable order (`readAudit?_auditTable`): no sign in a
text breaks a field or a row, and no number is cut.
-/

namespace RenamePlan

/-- Reads a whole number. -/
def wholeNumber? (t : Text) : Option Int :=
  match Json.parse? t with
  | some (.int n) => some n
  | _ => none

theorem wholeNumber?_decimal (n : Int) : wholeNumber? (decimal n) = some n := by
  have hparse := Json.parse?_render (show Layout.oneLine.IsBlank from trivial)
    (show (Json.int n).isWhole = true from rfl)
  -- a number is written as its decimal digits
  change Json.parse? (decimal n) = _ at hparse
  rw [wholeNumber?, hparse]

namespace PlainRow

/-- The fields of a row: its texts as they are, its numbers in decimal. -/
def fields (r : PlainRow) : List Text :=
  [r.module, r.procedure, decimal r.line, decimal r.column, decimal r.occurrence, r.old, r.new,
    r.category]

/-- Reads a row from its fields. -/
def ofFields? : List Text → Option PlainRow
  | [module, procedure, line, column, occurrence, old, new, category] => do
    let line ← wholeNumber? line
    let column ← wholeNumber? column
    let occurrence ← wholeNumber? occurrence
    some { module, procedure, line, column, occurrence, old, new, category }
  | _ => none

theorem ofFields?_fields (r : PlainRow) : ofFields? r.fields = some r := by
  simp [fields, ofFields?, wholeNumber?_decimal]

end PlainRow

/-- Reads the rows of an audit, under its headings. -/
def readAudit? (t : Text) : Option (List PlainRow) := do
  let table ← readTable t
  if table.head? = some AuditRow.header then table.tail.mapM PlainRow.ofFields? else none

/-- **The audit loses nothing.**  Plain rows can always be written.  The table that is written has
the headings and a row of eight fields for each row of the audit, in the order of a stable sort;
these rows are read from it, and an export that succeeds has delivered it.  This is so whichever
fields the writer puts between quotes besides those that have to be. -/
theorem readAudit?_auditTable (quoting : FieldQuoting) (rows : List PlainRow) :
    ∃ text sorted, auditTable quoting (rows.map PlainRow.row) = .ok text ∧
      IsStableSort PlainRow.cmp rows sorted ∧
      readTable text = some (AuditRow.header :: sorted.map PlainRow.fields) ∧
      readAudit? text = some sorted ∧
      ∀ files here failures path target,
        (exportAudit files here failures path quoting (rows.map PlainRow.row)).result =
            .ok target →
          Delivered files
            (exportAudit files here failures path quoting (rows.map PlainRow.row)).state
            target.parts text := by
  have htable : auditTable quoting (rows.map PlainRow.row) = .ok
      ((AuditRow.header :: (sortBy PlainRow.cmp rows).map PlainRow.fields).flatMap
        (writeRow quoting)) := by
    rw [auditTable, PlainRow.sorted_plain, List.flatMap_cons, List.flatMap_map]
    show Except.ok (_ ++ List.flatMap _ (List.map PlainRow.row _)) = _
    rw [List.flatMap_map]
    rfl
  have hread : readTable ((AuditRow.header ::
        (sortBy PlainRow.cmp rows).map PlainRow.fields).flatMap (writeRow quoting)) =
      some (AuditRow.header :: (sortBy PlainRow.cmp rows).map PlainRow.fields) := by
    refine readTable_writeRows quoting fun row hrow => ?_
    rcases List.mem_cons.1 hrow with rfl | hrow
    · exact List.cons_ne_nil _ _
    · obtain ⟨r, -, rfl⟩ := List.mem_map.1 hrow
      exact List.cons_ne_nil _ _
  refine ⟨_, _, htable, isStableSort_sortBy PlainRow.cmp rows, hread, ?_, ?_⟩
  · rw [readAudit?, hread]
    show ((sortBy PlainRow.cmp rows).map PlainRow.fields).mapM PlainRow.ofFields? = _
    exact mapM_map_eq_pure fun r _ => PlainRow.ofFields?_fields r
  · intro files here failures path target hresult
    obtain ⟨text, -, htext, hdelivered⟩ :=
      delivered_of_exportText (ReportKind.lower_extension_ne_nil (.audit quoting)) hresult
    rw [htable] at htext
    obtain rfl := Except.ok.inj htext
    exact hdelivered

end RenamePlan
