import RenamePlan.Text.Basic

/-!
Tables of separated values.

A row is a line; its fields are separated by semicolons.  A field that holds a semicolon, a double
quote or a line feed stands between double quotes, and each double quote in it is doubled.  A writer
may put other fields between quotes as well (`FieldQuoting`), such as those with a carriage return.
-/

namespace RenamePlan

/-- What separates two fields. -/
def fieldSeparator : Char := ';'

/-- Whether a field has to stand between quotes. -/
def needsQuotes (field : Text) : Bool :=
  field.any fun c => c == fieldSeparator || c == '"' || c == '\n'

/-- Which fields a writer puts between quotes, besides those that have to be. -/
abbrev FieldQuoting := Text → Bool

/-- The field as it is written. -/
def writeField (quoting : FieldQuoting) (field : Text) : Text :=
  if needsQuotes field || quoting field then
    '"' :: field.flatMap (fun c => if c = '"' then ['"', '"'] else [c]) ++ ['"']
  else field

/-- The line of a row. -/
def writeRow (quoting : FieldQuoting) (fields : List Text) : Text :=
  [fieldSeparator].intercalate (fields.map (writeField quoting)) ++ ['\n']

end RenamePlan
