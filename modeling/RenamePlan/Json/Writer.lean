import RenamePlan.Json.Basic

/-!
JSON text.

A value is written on one line, or with every item and every field on a line of its own, indented by
one unit for each level (`Layout`).  Empty lists and objects are written without a break either way.
Inside a text only the double quote, the backslash and the control characters below the space are
escaped.
-/

namespace RenamePlan

/-- How the parts of a value are laid out. -/
inductive Layout where
  /-- All on one line, with a space behind every comma. -/
  | oneLine
  /-- Each part on a line of its own, with one more `unit` in front for each level. -/
  | broken (unit : Text)
deriving DecidableEq, Repr

namespace Layout

/-- What stands before the first part of a list or object whose parts are at `depth`, and before
every later one behind the comma. -/
def lineStart (layout : Layout) (depth : Nat) : Text :=
  match layout with
  | oneLine => []
  | broken unit => '\n' :: (List.replicate depth unit).flatten

/-- What stands between two parts at `depth`. -/
def separator (layout : Layout) (depth : Nat) : Text :=
  match layout with
  | oneLine => [',', ' ']
  | broken _ => ',' :: layout.lineStart depth

end Layout

namespace Json

/-- How a character of a text is written. -/
def escapeChar (c : Char) : Text :=
  if c = '"' || c = '\\' then ['\\', c]
  else if c = '\n' then ['\\', 'n']
  else if c = '\r' then ['\\', 'r']
  else if c = '\t' then ['\\', 't']
  else if c.toNat = 0x0c then ['\\', 'f']
  else if c.toNat = 0x08 then ['\\', 'b']
  else if c.toNat < 0x20 then '\\' :: 'u' :: hexDigits 4 c.toNat
  else [c]

/-- The text between double quotes. -/
def writeText (t : Text) : Text :=
  '"' :: t.flatMap escapeChar ++ ['"']

mutual

/-- The JSON text of a value whose own parts, if it has any, are at `depth + 1`. -/
def write (layout : Layout) (depth : Nat) : Json → Text
  | null => "null".toList
  | bool true => "true".toList
  | bool false => "false".toList
  | int n => decimal n
  | fraction x => x.text
  | text t => writeText t
  | list [] => ['[', ']']
  | list (x :: rest) =>
    '[' :: layout.lineStart (depth + 1) ++ write layout (depth + 1) x ++
      writeItems layout (depth + 1) rest ++ layout.lineStart depth ++ [']']
  | object [] => ['\x7b', '\x7d']
  | object ((k, x) :: rest) =>
    '\x7b' :: layout.lineStart (depth + 1) ++ writeText k ++ [':', ' '] ++
      write layout (depth + 1) x ++ writeFields layout (depth + 1) rest ++
      layout.lineStart depth ++ ['\x7d']

/-- Items that follow another, each behind a separator. -/
def writeItems (layout : Layout) (depth : Nat) : List Json → Text
  | [] => []
  | x :: rest =>
    layout.separator depth ++ write layout depth x ++ writeItems layout depth rest

/-- Fields that follow another, each behind a separator. -/
def writeFields (layout : Layout) (depth : Nat) : List (Text × Json) → Text
  | [] => []
  | (k, x) :: rest =>
    layout.separator depth ++ writeText k ++ [':', ' '] ++ write layout depth x ++
      writeFields layout depth rest

end

/-- The JSON text of a value. -/
def render (layout : Layout) (value : Json) : Text :=
  value.write layout 0

end Json

end RenamePlan
