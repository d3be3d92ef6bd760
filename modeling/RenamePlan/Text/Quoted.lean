import RenamePlan.Text.Printable
import RenamePlan.Text.Basic

/-!
Quoted texts, as messages show them.

A text stands between apostrophes, or between double quotes if it holds an apostrophe and no double
quote.  The enclosing quote and the backslash are escaped, and so is every character that is not
printable: tab, line feed and carriage return by a letter, the others by their code point in two,
four or eight hexadecimal digits.
-/

namespace RenamePlan

/-- The code point in at least `width` hexadecimal digits. -/
def hexDigits (width n : Nat) : Text :=
  let digits := Nat.toDigits 16 n
  List.replicate (width - digits.length) '0' ++ digits

/-- How `c` is written between two `quote`s. -/
def quoteChar (quote c : Char) : Text :=
  if c = quote || c = '\\' then ['\\', c]
  else if c = '\t' then ['\\', 't']
  else if c = '\n' then ['\\', 'n']
  else if c = '\r' then ['\\', 'r']
  else if isPrintable c then [c]
  else if c.toNat ≤ 0xff then '\\' :: 'x' :: hexDigits 2 c.toNat
  else if c.toNat ≤ 0xffff then '\\' :: 'u' :: hexDigits 4 c.toNat
  else '\\' :: 'U' :: hexDigits 8 c.toNat

/-- The quote that encloses `t`. -/
def quoteMark (t : Text) : Char :=
  if t.contains '\'' && !t.contains '"' then '"' else '\''

/-- The text between quotes. -/
def quoted (t : Text) : Text :=
  let mark := quoteMark t
  mark :: t.flatMap (quoteChar mark) ++ [mark]

/-- The quoted texts between square brackets, with a comma and a space between two. -/
def quotedList (ts : List Text) : Text :=
  '[' :: [',', ' '].intercalate (ts.map quoted) ++ [']']

end RenamePlan
