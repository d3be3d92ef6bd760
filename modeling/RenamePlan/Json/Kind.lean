import RenamePlan.Json.Basic

/-!
What operations ask of values.

Records come from other tools as JSON, and the library keeps their values as they are.  A value is
looked at only when an operation needs it, and only then has to be of a kind that the operation can
use (`ValueFault`).
-/

namespace RenamePlan

/-- Why a value cannot be used. -/
inductive ValueFault where
  /-- A name is needed, and the value is no text. -/
  | notText
  /-- The operation means nothing for a value of this kind. -/
  | misfit
  /-- Fields are found by their keys, and the operation asks for the one at a place. -/
  | noField (place : Nat)
deriving DecidableEq, Repr

/-- The text of the fault. -/
def ValueFault.message : ValueFault → String
  | notText => "a name has to be a text"
  | misfit => "the value is of a kind that cannot be used here"
  | noField place => Text.string (decimal place)

namespace Json

/-- The value as a name. -/
def name : Json → Except ValueFault Text
  | text t => .ok t
  | _ => .error .notText

/-- The value as a whole number; a truth value counts as one or zero. -/
def integer : Json → Except ValueFault Int
  | int n => .ok n
  | bool b => .ok b.toNat
  | _ => .error .misfit

/-- What the value holds, one by one. -/
def items (value : Json) : Except ValueFault (List Json) :=
  match value.items? with
  | some items => .ok items
  | none => .error .misfit

/-- The value, or the empty text if it does not count as set. -/
def orEmpty (value : Json) : Json :=
  if value.isSet then value else text []

/-- Whether entries can be kept under the value: lists and objects are no keys. -/
def isKey : Json → Bool
  | list _ => false
  | object _ => false
  | _ => true

@[simp] theorem name_text (t : Text) : (text t).name = .ok t := rfl

@[simp] theorem integer_int (n : Int) : (int n).integer = .ok n := rfl

@[simp] theorem orEmpty_text (t : Text) : (text t).orEmpty = text t := by
  cases t <;> rfl

end Json

end RenamePlan
