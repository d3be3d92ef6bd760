import RenamePlan.Json.Kind
import RenamePlan.Line.Comment
import RenamePlan.Line.Literal

/-!
Literals and comments of lines that come from other tools.

A line should be a text.  A list is gone through item by item all the same: an item that is a text
of one character counts like that character, and any other item like a blank.  So a list has
literals, but it cannot be cut at a comment.
-/

namespace RenamePlan

/-- The character that an item of a list counts like. -/
def markOf : Json → Char
  | .text [c] => c
  | _ => ' '

/-- The characters of a line, one by one. -/
def outline : Json → Except ValueFault Text
  | .text line => .ok line
  | .list items => .ok (items.map markOf)
  | .object [] => .ok []
  | .object _ => .error (.noField 0)
  | _ => .error .misfit

/-- The spans of the closed literals of a line. -/
def spansIn (line : Json) : Except ValueFault (List Span) :=
  (outline line).map literalSpans

/-- The code and the comment of a line.  What is no text stays as it is, and must not have a
comment. -/
def splitIn : Json → Except ValueFault (Json × Text)
  | .text line =>
    let parts := splitComment line
    .ok (.text parts.code, parts.comment)
  | line => do
    let parts := splitComment (← outline line)
    if parts.comment.isEmpty then return (line, []) else throw .notText

/-- The code of a line. -/
def codeIn (line : Json) : Except ValueFault Json :=
  (splitIn line).map Prod.fst

@[simp] theorem spansIn_text (line : Text) :
    spansIn (.text line) = .ok (literalSpans line) := rfl

@[simp] theorem codeIn_text (line : Text) :
    codeIn (.text line) = .ok (.text (splitComment line).code) := rfl

end RenamePlan
