import RenamePlan.Text.Basic

/-!
String literals of a line.

A literal runs from a double quote to the next one that is not doubled: a doubled quote inside a
literal stands for one quote of its text.  A literal that the line does not close has no span.
-/

namespace RenamePlan

/-- The columns `start ≤ k < stop`. -/
structure Span where
  start : Int
  stop : Int
deriving DecidableEq, Repr

/-- Whether `column` lies in the span. -/
def Span.contains (span : Span) (column : Int) : Bool :=
  span.start ≤ column && column < span.stop

/-- Whether `column` lies in one of the spans. -/
def insideAny (spans : List Span) (column : Int) : Bool :=
  spans.any (·.contains column)

/-- The spans of the literals closed in the rest of a line, which begins at `column`; `opened` is
the column of the quote that opened the literal being read, if one is. -/
def literalSpansFrom : Nat → Option Nat → Text → List Span
  | _, _, [] => []
  | column, none, c :: rest =>
    if c = '"' then literalSpansFrom (column + 1) (some column) rest
    else literalSpansFrom (column + 1) none rest
  | column, some opened, '"' :: '"' :: rest => literalSpansFrom (column + 2) (some opened) rest
  | column, some opened, c :: rest =>
    if c = '"' then ⟨opened, column + 1⟩ :: literalSpansFrom (column + 1) none rest
    else literalSpansFrom (column + 1) (some opened) rest

/-- The spans of the closed literals of a line, from left to right, quotes included. -/
def literalSpans (line : Text) : List Span :=
  literalSpansFrom 0 none line

end RenamePlan
