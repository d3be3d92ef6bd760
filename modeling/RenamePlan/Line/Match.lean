import RenamePlan.Text.Basic
import RenamePlan.Text.Letter
import RenamePlan.Text.Word

/-!
Whole-word occurrences of a name on a line.

A name occurs at a column when the characters from there on are its letters up to case and a word
begins or ends on both sides of them.  `findMatches` takes the occurrences from left to right,
passing over those that overlap one already taken.
-/

namespace RenamePlan

/-- An occurrence of a name that has been taken: the columns `start ≤ k < stop`, and the text there
as the line spells it. -/
structure Match where
  start : Nat
  stop : Nat
  text : Text
deriving DecidableEq, Repr

/-- Whether a word begins or ends between two neighbours: exactly one of them is a word character.
Outside the line there are none. -/
def isBoundary (left right : Option Char) : Bool :=
  left.any isWord != right.any isWord

/-- Whether `rest` begins with the letters of `name`, up to case. -/
def spells : Text → Text → Bool
  | [], _ => true
  | _ :: _, [] => false
  | a :: name, b :: rest => sameLetter a b && spells name rest

/-- Whether `name` occurs at the front of `rest`, to the left of which stands `before`. -/
def occursAt (name : Text) (before : Option Char) (rest : Text) : Bool :=
  spells name rest && isBoundary before rest.head? &&
    isBoundary rest[name.length - 1]? rest[name.length]?

/-- The columns at which `name` occurs, ascending, counted from `column`. -/
def occurrencesFrom (name : Text) : Option Char → Nat → Text → List Nat
  | _, _, [] => []
  | before, column, c :: rest =>
    if occursAt name before (c :: rest) then
      column :: occurrencesFrom name (some c) (column + 1) rest
    else
      occurrencesFrom name (some c) (column + 1) rest

/-- Of ascending columns, those from `free` on that keep `width` columns apart, each taken as soon
as it is met. -/
def keepApart (width : Nat) : Nat → List Nat → List Nat
  | _, [] => []
  | free, column :: later =>
    if free ≤ column then column :: keepApart width (column + width) later
    else keepApart width free later

/-- The `width` characters of `line` from `column` on, as a match. -/
def Match.ofColumn (line : Text) (width column : Nat) : Match :=
  ⟨column, column + width, (line.drop column).take width⟩

/-- The whole-word matches of `name` on `line`, from left to right.  The empty name has none. -/
def findMatches (line name : Text) : List Match :=
  if name.isEmpty then []
  else (keepApart name.length 0 (occurrencesFrom name none 0 line)).map
    (Match.ofColumn line name.length)

end RenamePlan
