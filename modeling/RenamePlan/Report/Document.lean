import RenamePlan.Edit.Saved
import RenamePlan.Json.Writer
import RenamePlan.Planner

/-!
The documents that a run reports: its edits, and the usages of its symbols.
-/

namespace RenamePlan

/-- The edits of one module, in application order. -/
def moduleEdits (module : Json) (edits : List Edit) : Except ValueFault Json := do
  let ordered ← applicationOrder edits
  pure (.object [
    ("module".toList, module),
    ("replaces".toList, .list (ordered.map Edit.toJson))])

/-- The modules that have a store, in the order of their folds. -/
def sortedModules (planner : Planner) : List Text :=
  planner.modules.mergeSort fun a b => (compare (fold a) (fold b)).isLE

/-- All planned edits, module by module. -/
def editsDocument (planner : Planner) : Except ValueFault Json := do
  let modules ← (sortedModules planner).mapM fun module =>
    moduleEdits (.text module) (planner.editsFor module)
  pure (.object [
    ("replace_count".toList, .int planner.editCount),
    ("modules".toList, .list modules)])

/-- All symbols with their usages. -/
def usagesDocument (symbols : SymbolTable) : Except ValueFault Json :=
  symbols.toSortedJson

/-- A value that does not say how far to indent. -/
inductive IndentFault where
  /-- The number is greater than any width. -/
  | tooWide
  /-- The memory does not hold so many spaces. -/
  | outOfMemory
  /-- The value is neither a number nor a text. -/
  | misfit
deriving DecidableEq, Repr

/-- The text of the fault. -/
def IndentFault.message : IndentFault → String
  | tooWide => "cannot fit 'int' into an index-sized integer"
  | outOfMemory => ""
  | misfit => "the indentation is neither a number nor a text"

/-- The first number that is greater than any width. -/
def widthLimit : Int := 0x8000000000000000

/-- The layout that a value asks for: one line if it is null, a unit of so many spaces if it is a
number, none of them if it is negative, and the unit itself if it is a text.  If there is not memory
for every number of spaces, `room` is the greatest one. -/
def layoutOf (room : Option Nat) : Json → Except IndentFault Layout
  | .null => .ok .oneLine
  | .bool b => .ok (.broken (List.replicate b.toNat ' '))
  | .int n =>
    if n < -widthLimit ∨ widthLimit ≤ n then .error .tooWide
    else if room.any (· < n.toNat) then .error .outOfMemory
    else .ok (.broken (List.replicate n.toNat ' '))
  | .text t => .ok (.broken t)
  | _ => .error .misfit

end RenamePlan
