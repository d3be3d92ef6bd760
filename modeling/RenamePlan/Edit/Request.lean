import RenamePlan.Edit.Basic
import RenamePlan.Line.Selection

/-!
What a rename asks of one line, and the edits that carry it out.
-/

namespace RenamePlan

/-- What a rename asks of one line. -/
structure LineRequest where
  /-- The text in which matches are looked for, with the columns of the line. -/
  text : Json
  lineNumber : Json
  old : Json
  new : Json
  category : Json
  /-- Which match to replace, counted from one, or all of them if not positive. -/
  occurrence : Json := .int everyOccurrence
  /-- Whether matches inside string literals are left alone. -/
  skipLiterals : Bool := false
deriving Repr

/-- The matches of a name on a line that a rename may replace.  Where there is no line or no name
there are none. -/
def matchesIn (line name : Json) (skipLiterals : Bool) : Except ValueFault (List Match) :=
  match line, name with
  | .text line, .text name => .ok (eligibleMatches line name skipLiterals)
  | line, name => if line.isSet && name.isSet then .error .misfit else .ok []

/-- The entries that an index asks for, as in `pickOccurrence`.  The index of an entry has to be a
whole number, and where there are no entries it is not looked at. -/
def pickValue {α : Type} (occurrence : Json) (entries : List α) : Except ValueFault (List α) := do
  if entries.isEmpty then return []
  if (← occurrence.order (.int 0)) ≠ .gt then return entries
  if (← occurrence.order (.int entries.length)) = .gt then return []
  return pickOccurrence (← occurrence.integer) entries

/-- A whole number picks what it picks. -/
theorem pickValue_int {α : Type} (n : Int) (entries : List α) :
    pickValue (.int n) entries = .ok (pickOccurrence n entries) := by
  unfold pickValue
  cases entries with
  | nil => simp [pickOccurrence, pure, Except.pure]
  | cons first rest =>
    by_cases positive : 0 < n
    · by_cases within : n ≤ (first :: rest).length
      · have inside : compare n ((first :: rest).length : Int) ≠ .gt := by
          rw [Ne, Int.compare_eq_gt]
          omega
        simp_all [Int.compare_eq_gt.2 positive, bind, Except.bind, pure, Except.pure]
      · have missing : (first :: rest)[n.toNat - 1]? = none :=
          List.getElem?_eq_none (by omega)
        simp [Int.compare_eq_gt.2 positive, pickOccurrence, positive, missing, bind, Except.bind,
          pure, Except.pure]
    · have first : compare n 0 ≠ .gt := by
        rw [Ne, Int.compare_eq_gt]
        exact positive
      simp [first, pickOccurrence, positive, bind, Except.bind, pure, Except.pure]

/-- The matches of `old` that renaming it to `new` replaces. -/
def selectIn (line old new occurrence : Json) (skipLiterals : Bool) :
    Except ValueFault (List Match) := do
  if old == new then return []
  pickValue occurrence (← matchesIn line old skipLiterals)

/-- For texts and a whole number the matches are those of `selectMatches`. -/
theorem selectIn_plain (line old new : Text) (occurrence : Int) (skipLiterals : Bool) :
    selectIn (.text line) (.text old) (.text new) (.int occurrence) skipLiterals =
      .ok (selectMatches line old new occurrence skipLiterals) := by
  by_cases equal : old = new
  · simp [selectIn, selectMatches, equal, pure, Except.pure]
  · simp [selectIn, selectMatches, equal, matchesIn, pickValue_int, bind, Except.bind]

namespace LineRequest

/-- The edit that replaces a match. -/
def editAt (request : LineRequest) (m : Match) : Edit where
  line := request.lineNumber
  start := .int m.start
  stop := .int m.stop
  old := .text m.text
  new := request.new
  category := request.category

/-- The edits that the request asks for, from left to right. -/
def edits (request : LineRequest) : Except ValueFault (List Edit) := do
  let selected ← selectIn request.text request.old request.new request.occurrence
    request.skipLiterals
  pure (selected.map request.editAt)

end LineRequest

end RenamePlan
