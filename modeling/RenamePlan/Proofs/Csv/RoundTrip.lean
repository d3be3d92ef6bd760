import Mathlib.Data.List.Basic
import RenamePlan.Csv.Writer

/-!
# Written tables can be read

`readTable` reads a table one character at a time.  A field ends at a separator and a row at a line
feed, but only outside quotes; a doubled quote between quotes is one quote.  From what `writeRow`
writes for the rows of a table it reads these rows, whatever their fields hold and whichever fields
the writer puts between quotes without need (`readTable_writeRows`).

* **Fields** — a written field takes the reader to the end of that field, outside quotes
  (`exists_foldlM_writeField`), where both a separator and a line feed end it (`next_separator`,
  `next_lineFeed`).
* **Rows** — so a written row adds itself to the rows (`foldlM_writeRow`), if it has a field.
-/

namespace RenamePlan

/-- Where in a field the reader of a table is. -/
inductive FieldPlace where
  /-- Before its first character. -/
  | start
  /-- In a field without quotes. -/
  | bare
  /-- Between quotes. -/
  | quoted
  /-- Behind a quote that closes the field, or is the first of two. -/
  | closed
deriving DecidableEq, Repr

/-- The state of a reader of tables. -/
structure TableReader where
  /-- The rows that have ended. -/
  rows : List (List Text) := []
  /-- The fields of the next row that have ended. -/
  fields : List Text := []
  /-- What has been read of the next field. -/
  field : Text := []
  place : FieldPlace := .start
deriving DecidableEq, Repr

namespace TableReader

/-- Reads a character outside quotes.  Behind quotes the field has to end. -/
def outside (r : TableReader) (c : Char) : Option TableReader :=
  if c = fieldSeparator then
    some { r with fields := r.fields ++ [r.field], field := [], place := .start }
  else if c = '\n' then some { rows := r.rows ++ [r.fields ++ [r.field]] }
  else if r.place = .closed then none
  else some { r with field := r.field ++ [c], place := .bare }

/-- Reads a character. -/
def next (r : TableReader) (c : Char) : Option TableReader :=
  match r.place with
  | .start => if c = '"' then some { r with place := .quoted } else r.outside c
  | .bare => r.outside c
  | .quoted =>
    if c = '"' then some { r with place := .closed } else some { r with field := r.field ++ [c] }
  | .closed =>
    if c = '"' then some { r with field := r.field ++ [c], place := .quoted } else r.outside c

end TableReader

/-- The rows of a table, which has to end with a line feed outside quotes. -/
def readTable (t : Text) : Option (List (List Text)) := do
  let last ← t.foldlM TableReader.next {}
  if last = { rows := last.rows } then some last.rows else none

namespace TableReader

/-! ## Fields -/

/-- A character other than a quote is read as outside quotes, unless it is between quotes. -/
theorem next_eq_outside {r : TableReader} (hplace : r.place ≠ .quoted) {c : Char} (hc : c ≠ '"') :
    r.next c = r.outside c := by
  unfold next
  cases hr : r.place with
  | start => exact if_neg hc
  | bare => rfl
  | quoted => exact absurd hr hplace
  | closed => exact if_neg hc

theorem next_separator {r : TableReader} (hplace : r.place ≠ .quoted) :
    r.next fieldSeparator = some ⟨r.rows, r.fields ++ [r.field], [], .start⟩ := by
  rw [next_eq_outside hplace (by decide), outside, if_pos rfl]

theorem next_lineFeed {r : TableReader} (hplace : r.place ≠ .quoted) :
    r.next '\n' = some ⟨r.rows ++ [r.fields ++ [r.field]], [], [], .start⟩ := by
  rw [next_eq_outside hplace (by decide), outside, if_neg (by decide), if_pos rfl]

/-- Between quotes a text is read from its characters, with each quote twice. -/
theorem foldlM_doubled (r : TableReader) (hplace : r.place = .quoted) (t : Text) :
    (t.flatMap fun c => if c = '"' then ['"', '"'] else [c]).foldlM next r =
      some { r with field := r.field ++ t } := by
  induction t generalizing r with
  | nil =>
    rw [List.append_nil]
    rfl
  | cons c t ih =>
    have hfirst : (if c = '"' then ['"', '"'] else [c]).foldlM next r =
        some { r with field := r.field ++ [c] } := by
      split
      · rename_i hc
        simp [next, hplace, hc]
      · rename_i hc
        simp [next, hplace, hc]
    rw [List.flatMap_cons, List.foldlM_append, hfirst, Option.bind_eq_bind, Option.bind_some,
      ih { r with field := r.field ++ [c] } hplace, List.append_assoc]
    rfl

theorem needsQuotes_cons {c : Char} {t : Text} : needsQuotes (c :: t) = false ↔
    (c ≠ fieldSeparator ∧ c ≠ '"' ∧ c ≠ '\n') ∧ needsQuotes t = false := by
  simp [needsQuotes, and_assoc]

/-- A text that needs no quotes is read from its characters. -/
theorem foldlM_bare (r : TableReader) (hplace : r.place = .bare) {t : Text}
    (ht : needsQuotes t = false) : t.foldlM next r = some { r with field := r.field ++ t } := by
  induction t generalizing r with
  | nil =>
    rw [List.append_nil]
    rfl
  | cons c t ih =>
    obtain ⟨hc, ht⟩ := needsQuotes_cons.1 ht
    have hfirst : r.next c = some { r with field := r.field ++ [c] } := by
      simp [next, outside, hplace, hc]
    rw [List.foldlM_cons, hfirst, Option.bind_eq_bind, Option.bind_some,
      ih { r with field := r.field ++ [c] } hplace ht, List.append_assoc]
    rfl

variable (quoting : FieldQuoting)

/-- A written field is read to its end, which is outside quotes. -/
theorem exists_foldlM_writeField (rows : List (List Text)) (fields : List Text) (field : Text) :
    ∃ place ≠ .quoted,
      (writeField quoting field).foldlM next ⟨rows, fields, [], .start⟩ =
        some ⟨rows, fields, field, place⟩ := by
  rw [writeField]
  split
  · refine ⟨.closed, by decide, ?_⟩
    rw [List.cons_append, List.foldlM_cons, next, if_pos rfl, Option.bind_eq_bind,
      Option.bind_some, List.foldlM_append, foldlM_doubled _ rfl]
    rfl
  · rename_i hbare
    have hquotes := (Bool.or_eq_false_iff.1 (eq_false_of_ne_true hbare)).1
    cases field with
    | nil => exact ⟨.start, by decide, rfl⟩
    | cons c t =>
      refine ⟨.bare, by decide, ?_⟩
      obtain ⟨hc, ht⟩ := needsQuotes_cons.1 hquotes
      have hfirst : next ⟨rows, fields, [], .start⟩ c = some ⟨rows, fields, [c], .bare⟩ := by
        simp [next, outside, hc]
      rw [List.foldlM_cons, hfirst, Option.bind_eq_bind, Option.bind_some, foldlM_bare _ rfl ht]
      rfl

/-! ## Rows -/

/-- A written row is read, behind fields that have been read before. -/
theorem foldlM_writeRow (rows : List (List Text)) (fields : List Text) {row : List Text}
    (hrow : row ≠ []) :
    (writeRow quoting row).foldlM next ⟨rows, fields, [], .start⟩ =
      some ⟨rows ++ [fields ++ row], [], [], .start⟩ := by
  induction row generalizing fields with
  | nil => exact absurd rfl hrow
  | cons field row ih =>
    obtain ⟨place, hplace, hfield⟩ := exists_foldlM_writeField quoting rows fields field
    cases row with
    | nil =>
      rw [writeRow, List.map_singleton, List.intercalate_singleton, List.foldlM_append, hfield]
      show (next ⟨rows, fields, field, place⟩ '\n').bind pure = _
      rw [next_lineFeed hplace]
      rfl
    | cons other row =>
      have hwritten : writeRow quoting (field :: other :: row) =
          writeField quoting field ++ fieldSeparator :: writeRow quoting (other :: row) := by
        simp [writeRow, List.intercalate_cons_cons]
      rw [hwritten, List.foldlM_append, hfield]
      show (next ⟨rows, fields, field, place⟩ fieldSeparator).bind _ = _
      rw [next_separator hplace, Option.bind_some, ih (fields ++ [field]) (List.cons_ne_nil _ _),
        List.append_assoc]
      rfl

theorem foldlM_writeRows (rows : List (List Text)) {table : List (List Text)}
    (h : ∀ row ∈ table, row ≠ []) :
    (table.flatMap (writeRow quoting)).foldlM next ⟨rows, [], [], .start⟩ =
      some ⟨rows ++ table, [], [], .start⟩ := by
  induction table generalizing rows with
  | nil =>
    rw [List.append_nil]
    rfl
  | cons row table ih =>
    rw [List.flatMap_cons, List.foldlM_append,
      foldlM_writeRow quoting rows [] (h row List.mem_cons_self), Option.bind_eq_bind,
      Option.bind_some, ih _ fun other hother => h other (List.mem_cons_of_mem row hother),
      List.append_assoc]
    rfl

end TableReader

/-- **A table is read from its written rows**, if each of them has a field. -/
theorem readTable_writeRows (quoting : FieldQuoting) {table : List (List Text)}
    (h : ∀ row ∈ table, row ≠ []) :
    readTable (table.flatMap (writeRow quoting)) = some table := by
  rw [readTable, TableReader.foldlM_writeRows quoting [] h]
  exact if_pos rfl

-- A carriage return may stand between quotes or not, and an empty field is nothing.
example : readTable "a\r;\"a\r\";\"b;\"\"\n\";\n;\n".toList =
    some [["a\r".toList, "a\r".toList, "b;\"\n".toList, []], [[], []]] := by
  decide

end RenamePlan
