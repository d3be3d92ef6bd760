import RenamePlan.Edit.Basic

/-!
Saved edits.

The fields of a saved edit have to be there, but what they hold is not looked at.
-/

namespace RenamePlan.Edit

/-- The fields of a saved edit that have to be there. -/
inductive Field where
  | line
  | start
  | stop
  | old
  | new
deriving DecidableEq, Repr

/-- The key of the field. -/
def Field.key : Field → String
  | line => "line_number"
  | start => "start_char"
  | stop => "end_char"
  | old => "old_text"
  | new => "new_text"

/-- The key of the category, which may be missing. -/
def categoryKey : String := "category"

/-- Why a saved edit cannot be read. -/
inductive LoadFault where
  /-- A field is not there. -/
  | missing (field : Field)
  /-- There are no fields. -/
  | notObject
deriving DecidableEq, Repr

/-- The text of the fault. -/
def LoadFault.message : LoadFault → String
  | missing field => field.key
  | notObject => "a saved edit has fields"

/-- The value of a field that has to be there. -/
def require (data : Json) (field : Field) : Except LoadFault Json :=
  match data.field? field.key with
  | some value => .ok value
  | none => .error (.missing field)

/-- Reads a saved edit.  The fields are looked up in the order in which they are saved, and the
first one that is missing is reported; a category that is missing is empty. -/
def ofJson (data : Json) : Except LoadFault Edit :=
  match data with
  | .object _ => do
    let line ← require data .line
    let start ← require data .start
    let stop ← require data .stop
    let old ← require data .old
    let new ← require data .new
    pure { line, start, stop, old, new, category := (data.field? categoryKey).getD (.text []) }
  | _ => .error .notObject

/-- The edit as a JSON value. -/
def toJson (e : Edit) : Json :=
  .object [
    (Field.line.key.toList, e.line),
    (Field.start.key.toList, e.start),
    (Field.stop.key.toList, e.stop),
    (Field.old.key.toList, e.old),
    (Field.new.key.toList, e.new),
    (categoryKey.toList, e.category)]

/-- Saving an edit loses nothing. -/
@[simp] theorem ofJson_toJson (e : Edit) : ofJson e.toJson = .ok e := by
  rfl

end RenamePlan.Edit
