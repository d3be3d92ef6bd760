import RenamePlan.Line.Literal
import RenamePlan.Line.Match

/-!
The matches that a rename replaces on a line.
-/

namespace RenamePlan

/-- The index that asks for every occurrence.  So does any other that is not positive. -/
def everyOccurrence : Int := -1

/-- The matches that a rename may replace: all of them, or those that begin outside the closed
string literals. -/
def eligibleMatches (line name : Text) (skipLiterals : Bool) : List Match :=
  if skipLiterals then
    let spans := literalSpans line
    (findMatches line name).filter fun m => !insideAny spans m.start
  else
    findMatches line name

/-- The entry that a positive index names, counted from one, or none if there are too few; all
entries if the index is not positive. -/
def pickOccurrence {α : Type} (occurrence : Int) (entries : List α) : List α :=
  if 0 < occurrence then entries[occurrence.toNat - 1]?.toList else entries

/-- The matches of `old` that renaming it to `new` replaces.  A rename to the very same spelling
replaces nothing. -/
def selectMatches (line old new : Text) (occurrence : Int) (skipLiterals : Bool) : List Match :=
  if old = new then [] else pickOccurrence occurrence (eligibleMatches line old skipLiterals)

end RenamePlan
