import RenamePlan.Text.Decimal
import RenamePlan.Text.Quoted

/-!
JSON values: what profiles, saved usages and saved edits are read from, and what reports are made
of.

The fields of an object keep the order in which they were written.
-/

namespace RenamePlan

/-- A JSON value.  A number that is written with a point or an exponent is a fraction, whatever its
value. -/
inductive Json where
  | null
  | bool (b : Bool)
  | int (n : Int)
  | fraction (x : Decimal)
  | text (t : Text)
  | list (items : List Json)
  | object (fields : List (Text × Json))
deriving Repr, Inhabited

namespace Json

/-- The value of a field of an object. -/
def field? : Json → String → Option Json
  | object fields, key => fields.lookup key.toList
  | _, _ => none

/-- Whether the value counts as set: not null, not false, not zero and not empty. -/
def isSet : Json → Bool
  | null => false
  | bool b => b
  | int n => n ≠ 0
  | fraction x => !x.isZero
  | text t => !t.isEmpty
  | list items => !items.isEmpty
  | object fields => !fields.isEmpty

/-- What the value holds, one by one: the items of a list, the characters of a text, the keys of an
object.  Other values hold nothing that could be listed. -/
def items? : Json → Option (List Json)
  | list items => some items
  | text t => some (t.map fun c => .text [c])
  | object fields => some (fields.map fun (key, _) => .text key)
  | _ => none

mutual

/-- The value as it stands inside a list or an object that a message shows. -/
def shownInside : Json → Text
  | null => "None".toList
  | bool true => "True".toList
  | bool false => "False".toList
  | int n => decimal n
  | fraction x => x.text
  | text t => quoted t
  | list items => '[' :: shownItems items ++ [']']
  | object fields => '\x7b' :: shownFields fields ++ ['\x7d']

/-- The values with a comma and a space between two. -/
def shownItems : List Json → Text
  | [] => []
  | [x] => shownInside x
  | x :: y :: rest => shownInside x ++ [',', ' '] ++ shownItems (y :: rest)

/-- The fields with a comma and a space between two. -/
def shownFields : List (Text × Json) → Text
  | [] => []
  | [(k, x)] => quoted k ++ [':', ' '] ++ shownInside x
  | (k, x) :: y :: rest =>
    quoted k ++ [':', ' '] ++ shownInside x ++ [',', ' '] ++ shownFields (y :: rest)

end

/-- The value as a message shows it: a text as it is, anything else as inside a list. -/
def shown : Json → Text
  | text t => t
  | value => shownInside value

end Json

end RenamePlan
