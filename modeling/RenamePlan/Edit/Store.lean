import RenamePlan.Edit.Request
import RenamePlan.Log.Record

/-!
The edits planned for one module.

The first edit at a position stays; a later one at the same position is ignored, whatever its text.
A store keeps the positions that are taken beside the edits, and looks there whether a position is
free.  Both are written together, so they stay in step (`InStep`).
-/

namespace RenamePlan

/-- The edits planned for a module, oldest first. -/
structure EditStore where
  module : Text
  edits : List Edit := []
  /-- The positions that are taken. -/
  positions : List Position := []
deriving Repr

namespace EditStore

/-- Whether the position is taken. -/
def contains (store : EditStore) (position : Position) : Bool :=
  store.positions.any (· == position)

/-- The number of planned edits. -/
def size (store : EditStore) : Nat :=
  store.edits.length

/-- The planned edits in application order. -/
def ordered (store : EditStore) : Except ValueFault (List Edit) :=
  applicationOrder store.edits

/-- The note that an edit is ignored because its position is taken. -/
def alreadyPlanned (store : EditStore) (e : Edit) : Record where
  level := .debug
  channel := .edits
  message := Text.string (
    store.module ++ ": edit at line ".toList ++ e.line.shown ++ " col ".toList ++
    e.start.shown ++ " already planned, ignoring ".toList ++ e.old.shownInside ++
    " -> ".toList ++ e.new.shownInside)

/-- Plans an edit unless its position is taken; the flag says whether it was planned. -/
def insert (store : EditStore) (e : Edit) : Logged (EditStore × Bool) :=
  if store.contains e.position then ⟨(store, false), [store.alreadyPlanned e]⟩
  else
    let edits := store.edits ++ [e]
    let positions := store.positions ++ [e.position]
    ⟨({ store with edits, positions }, true), []⟩

/-- Plans an edit whose position can be kept. -/
def add (store : EditStore) (e : Edit) : Except ValueFault (Logged (EditStore × Bool)) :=
  if e.line.isKey && e.start.isKey then .ok (store.insert e) else .error .misfit

/-- Plans the edits in turn, and returns those that were planned. -/
def insertAll (store : EditStore) : List Edit → Logged (EditStore × List Edit)
  | [] => ⟨(store, []), []⟩
  | e :: rest =>
    (store.insert e).andThen fun (next, planned) =>
      (next.insertAll rest).map fun (final, later) =>
        (final, if planned then e :: later else later)

/-- Plans the edits that a request asks for, and returns those that were planned.  The edits are on
one line, whose number has to be a key if there are any. -/
def addLine (store : EditStore) (request : LineRequest) :
    Except ValueFault (Logged (EditStore × List Edit)) := do
  let edits ← request.edits
  if edits.isEmpty || request.lineNumber.isKey then pure (store.insertAll edits)
  else throw .misfit

/-! ## Edits and positions -/

/-- Whether the positions that are taken are those of the edits. -/
def InStep (store : EditStore) : Prop :=
  store.positions = store.edits.map Edit.position

theorem inStep_new (module : Text) : InStep { module } :=
  rfl

/-- In a store that is in step, a position is taken iff an edit is planned there. -/
theorem InStep.contains_eq {store : EditStore} (h : store.InStep) (position : Position) :
    store.contains position = store.edits.any (·.position == position) := by
  rw [contains, h, List.any_map]
  rfl

theorem InStep.insert {store : EditStore} (h : store.InStep) (e : Edit) :
    (store.insert e).value.1.InStep := by
  rw [EditStore.insert]
  split
  · exact h
  · show store.positions ++ [e.position] = (store.edits ++ [e]).map Edit.position
    rw [h, List.map_append, List.map_singleton]

theorem InStep.insertAll {store : EditStore} (h : store.InStep) (edits : List Edit) :
    (store.insertAll edits).value.1.InStep := by
  induction edits generalizing store with
  | nil => exact h
  | cons e rest ih => exact ih (h.insert e)

end EditStore

end RenamePlan
