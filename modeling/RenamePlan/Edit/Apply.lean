import RenamePlan.Edit.Basic
import RenamePlan.Log.Record
import RenamePlan.Text.Fold

/-!
Application of edits to the lines of a module.

An edit is carried out only where the line still holds its old text, up to case folding.  An edit
for a line that does not exist, or for another text, is skipped with a warning.
-/

namespace RenamePlan

/-- The columns of an edit.  Without a stop column they go to the end of the line. -/
structure Columns where
  start : Int
  stop : Option Int
deriving DecidableEq, Repr

namespace Columns

/-- What the line holds in the columns. -/
def found (columns : Columns) (line : Text) : Text :=
  match columns.stop with
  | some stop => Text.slice line columns.start stop
  | none => line.drop (Text.place line.length columns.start)

/-- The line with the new text before what follows the columns.  They count as in `Text.slice`, so
what stands before the start column and what stands from the stop column on is kept even where the
two overlap; without a stop column the whole line is kept behind the new text. -/
def replace (columns : Columns) (line new : Text) : Text :=
  line.take (Text.place line.length columns.start) ++ new ++
    line.drop (columns.stop.elim 0 (Text.place line.length))

end Columns

namespace Edit

/-- The index of the line that the edit is for, if it exists and the edit begins at a column. -/
def index? (e : Edit) (lineCount : Nat) : Except ValueFault (Option Nat) := do
  let first ← e.line.order (.int 1)
  let behind ← e.line.order (.int (lineCount + 1))
  if first = .lt ∨ behind ≠ .lt then return none
  if (← e.start.order (.int 0)) = .lt then return none
  return some ((← e.line.integer) - 1).toNat

/-- The columns of the edit. -/
def columns (e : Edit) : Except ValueFault Columns := do
  let start ← e.start.integer
  match e.stop with
  | .null => pure ⟨start, none⟩
  | stop => pure ⟨start, some (← stop.integer)⟩

/-- What carrying out the edit makes of a line. -/
inductive Effect where
  /-- The line becomes this. -/
  | replaced (line : Text)
  /-- The line holds another text than the edit expects, and stays. -/
  | stale (found : Text)
deriving DecidableEq, Repr

/-- The text of a line, which is cut before it is compared: what cannot be cut is no line at all,
and what can be cut without being a text cannot be compared. -/
def lineText : Json → Except ValueFault Text
  | .text t => .ok t
  | .list _ => .error .notText
  | _ => .error .misfit

/-- Carries out the edit on a line, if it holds the old text up to case folding. -/
def effectOn (e : Edit) (line : Json) : Except ValueFault Effect := do
  let columns ← e.columns
  let line ← lineText line
  if sameName (columns.found line) (← e.old.name) then
    match e.new with
    | .text new => pure (.replaced (columns.replace line new))
    | _ => throw .misfit
  else pure (.stale (columns.found line))

/-- The warning that the edit is for no line. -/
def outOfRange (e : Edit) : Record where
  level := .warning
  channel := .edits
  message := Text.string (
    "Skipping edit ".toList ++ e.old.shownInside ++ " -> ".toList ++ e.new.shownInside ++
    ": line ".toList ++ e.line.shown ++ " col ".toList ++ e.start.shown ++
    " out of range".toList)

/-- The warning that the line holds another text than the edit expects. -/
def staleText (e : Edit) (found : Text) : Record where
  level := .warning
  channel := .edits
  message := Text.string (
    "Skipping edit at line ".toList ++ e.line.shown ++ " col ".toList ++ e.start.shown ++
    ": expected ".toList ++ e.old.shownInside ++ ", found ".toList ++ quoted found)

/-- Carries out one edit, or skips it with a warning. -/
def applyTo (e : Edit) (lines : List Json) : Logged (Except ValueFault (List Json)) :=
  match e.index? lines.length with
  | .error fault => ⟨.error fault, []⟩
  | .ok none => ⟨.ok lines, [e.outOfRange]⟩
  | .ok (some i) =>
    match e.effectOn (lines.getD i .null) with
    | .error fault => ⟨.error fault, []⟩
    | .ok (.replaced line) => ⟨.ok (lines.set i (.text line)), []⟩
    | .ok (.stale found) => ⟨.ok lines, [e.staleText found]⟩

end Edit

/-- Carries out the edits one after the other, up to one that cannot be used. -/
def applyInTurn : List Edit → List Json → Logged (Except ValueFault (List Json))
  | [], lines => ⟨.ok lines, []⟩
  | e :: rest, lines =>
    (e.applyTo lines).andThen fun
      | .ok next => applyInTurn rest next
      | .error fault => ⟨.error fault, []⟩

/-- Carries out the edits in application order. -/
def applyEdits (lines : List Json) (edits : List Edit) : Logged (Except ValueFault (List Json)) :=
  match applicationOrder edits with
  | .ok ordered => applyInTurn ordered lines
  | .error fault => ⟨.error fault, []⟩

end RenamePlan
