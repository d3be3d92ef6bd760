import RenamePlan.Json.Compare

/-!
Ranges of columns that come from other tools.
-/

namespace RenamePlan

/-- Whether a column lies in the range from `start` up to, not including, `stop`.  The end is looked
at only if the column does not come before the start. -/
def inRange (column start stop : Json) : Except ValueFault Bool := do
  if (← start.order column) = .gt then return false
  return (← column.order stop) = .lt

/-- Whether a column lies in one of the ranges.  Ranges behind the first one that holds it are not
looked at. -/
def inAnyRange (column : Json) : List (Json × Json) → Except ValueFault Bool
  | [] => .ok false
  | (start, stop) :: rest => do
    if ← inRange column start stop then return true
    inAnyRange column rest

end RenamePlan
