import RenamePlan.Text.Decimal
import RenamePlan.Text.Quoted

/-!
What files can hold.

A file holds its text in an encoding that has no bytes for one half of a surrogate pair.  Characters
of a text may stand for such halves, and whoever puts them there says which they are.  A text with
one of them cannot be written: the fault names the first stretch of them.
-/

namespace RenamePlan

/-- The first stretch of characters in a text that a file cannot hold. -/
structure EncodingFault where
  /-- The first character of the stretch. -/
  char : Char
  /-- The place of the first character. -/
  first : Nat
  /-- The place of the last character. -/
  last : Nat
deriving DecidableEq, Repr

/-- The text of the fault. -/
def EncodingFault.message (fault : EncodingFault) : String :=
  let stretch :=
    if fault.last = fault.first then
      "character ".toList ++ quoted [fault.char] ++ " in position ".toList ++ decimal fault.first
    else "characters in position ".toList ++ decimal fault.first ++ '-' :: decimal fault.last
  Text.string ("'utf-8' codec can't encode ".toList ++ stretch ++
    ": surrogates not allowed".toList)

/-- What keeps a text from being written, if some of its characters stand for halves of pairs. -/
def encodingFault? (halves : List Char) (t : Text) : Option EncodingFault :=
  match t.dropWhile fun c => !halves.contains c with
  | [] => none
  | c :: rest =>
    let first := t.length - (rest.length + 1)
    some { char := c, first, last := first + (rest.takeWhile halves.contains).length }

end RenamePlan
