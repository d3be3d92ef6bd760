import RenamePlan.Json.Basic

/-!
Reading JSON text.

Each reader takes a part from the front of a text and returns it with the text behind it, or nothing
if no such part stands there.  `Json.parse?` reads a whole text, which holds one value and blanks
around it.  The fields of an object are kept as they are written.
-/

namespace RenamePlan.Json

/-- The blanks of JSON text. -/
def isSpace (c : Char) : Bool :=
  c == ' ' || c == '\t' || c == '\n' || c == '\r'

/-- The text from the first character that is not a blank. -/
def skipSpace (t : Text) : Text :=
  t.dropWhile isSpace

/-! ## Texts -/

/-- The value of a hexadecimal digit. -/
def hexValue? (c : Char) : Option Nat :=
  if '0' ≤ c ∧ c ≤ '9' then some (c.toNat - '0'.toNat)
  else if 'a' ≤ c ∧ c ≤ 'f' then some (c.toNat - 'a'.toNat + 10)
  else if 'A' ≤ c ∧ c ≤ 'F' then some (c.toNat - 'A'.toNat + 10)
  else none

/-- Reads four hexadecimal digits. -/
def readUnit : Text → Option (Nat × Text)
  | a :: b :: c :: d :: rest => do
    let a ← hexValue? a
    let b ← hexValue? b
    let c ← hexValue? c
    let d ← hexValue? d
    some (((a * 16 + b) * 16 + c) * 16 + d, rest)
  | _ => none

/-- Reads a character that is given by its code, behind the `u` of the escape.  One beyond the first
plane is given by two codes, a high and a low half. -/
def readCode (t : Text) : Option (Char × Text) := do
  let (high, rest) ← readUnit t
  if high < 0xd800 || 0xe000 ≤ high then some (Char.ofNat high, rest)
  else match rest with
    | '\\' :: 'u' :: rest => do
      let (low, rest) ← readUnit rest
      if high < 0xdc00 && 0xdc00 ≤ low && low < 0xe000 then
        some (Char.ofNat (0x10000 + (high - 0xd800) * 0x400 + (low - 0xdc00)), rest)
      else none
    | _ => none

/-- The character that a letter behind a backslash stands for. -/
def unescape? (c : Char) : Option Char :=
  if c = '"' || c = '\\' || c = '/' then some c
  else if c = 'n' then some '\n'
  else if c = 'r' then some '\r'
  else if c = 't' then some '\t'
  else if c = 'f' then some '\x0c'
  else if c = 'b' then some '\x08'
  else none

/-- Reads one character of a text that is not the closing quote. -/
def readChar : Text → Option (Char × Text)
  | '\\' :: 'u' :: rest => readCode rest
  | '\\' :: c :: rest => (unescape? c).map fun c => (c, rest)
  | c :: rest => if c = '\\' || c.toNat < 0x20 then none else some (c, rest)
  | [] => none

/-- Reads a text up to its closing quote.  `fuel` bounds the number of characters. -/
def readText : Nat → Text → Option (Text × Text)
  | 0, _ => none
  | fuel + 1, t =>
    match t with
    | '"' :: rest => some ([], rest)
    | t => do
      let (c, rest) ← readChar t
      let (more, rest) ← readText fuel rest
      some (c :: more, rest)

/-! ## Numbers -/

/-- Reads digits, at least one. -/
def readDigits (t : Text) : Option (Text × Text) :=
  let digits := t.takeWhile Char.isDigit
  if digits.isEmpty then none else some (digits, t.drop digits.length)

/-- The number that digits stand for. -/
def digitsValue (digits : Text) : Nat :=
  digits.foldl (fun value c => value * 10 + (c.toNat - '0'.toNat)) 0

/-- Reads the digits behind a point, if there is one. -/
def readPlaces : Text → Option (Option Text × Text)
  | '.' :: rest => (readDigits rest).map fun (digits, rest) => (some digits, rest)
  | t => some (none, t)

/-- Reads the power of ten behind an `e`, if there is one. -/
def readPower : Text → Option (Option Int × Text)
  | c :: rest =>
    if c = 'e' || c = 'E' then
      let (negative, digits) := match rest with
        | '-' :: more => (true, more)
        | '+' :: more => (false, more)
        | more => (false, more)
      (readDigits digits).map fun (digits, rest) =>
        (some (if negative then -(digitsValue digits : Int) else digitsValue digits), rest)
    else some (none, c :: rest)
  | [] => some (none, [])

/-- Reads a number.  Without a point and an exponent it is an integer. -/
def readNumber (t : Text) : Option (Json × Text) := do
  let (negative, t) := match t with
    | '-' :: rest => (true, rest)
    | t => (false, t)
  let (whole, rest) ← readDigits t
  if whole.head? = some '0' && whole.length ≠ 1 then none
  else
    let (places, rest) ← readPlaces rest
    let (power, rest) ← readPower rest
    if places.isNone && power.isNone then
      let value : Int := digitsValue whole
      some (.int (if negative then -value else value), rest)
    else
      some (.fraction (.ofDigits negative (whole ++ places.getD [])
        (whole.length + power.getD 0)), rest)

/-! ## Values -/

mutual

/-- Reads a value.  `fuel` bounds the steps. -/
def readValue : Nat → Text → Option (Json × Text)
  | 0, _ => none
  | fuel + 1, t =>
    match skipSpace t with
    | '"' :: rest => (readText fuel rest).map fun (t, rest) => (.text t, rest)
    | '[' :: rest =>
      match skipSpace rest with
      | ']' :: rest => some (.list [], rest)
      | rest => (readItems fuel rest).map fun (items, rest) => (.list items, rest)
    | '\x7b' :: rest =>
      match skipSpace rest with
      | '\x7d' :: rest => some (.object [], rest)
      | rest => (readFields fuel rest).map fun (fields, rest) => (.object fields, rest)
    | 'n' :: 'u' :: 'l' :: 'l' :: rest => some (.null, rest)
    | 't' :: 'r' :: 'u' :: 'e' :: rest => some (.bool true, rest)
    | 'f' :: 'a' :: 'l' :: 's' :: 'e' :: rest => some (.bool false, rest)
    | t => readNumber t

/-- Reads items, at least one, up to the closing bracket. -/
def readItems : Nat → Text → Option (List Json × Text)
  | 0, _ => none
  | fuel + 1, t => do
    let (item, rest) ← readValue fuel t
    match skipSpace rest with
    | ',' :: rest =>
      let (items, rest) ← readItems fuel rest
      some (item :: items, rest)
    | ']' :: rest => some ([item], rest)
    | _ => none

/-- Reads fields, at least one, up to the closing brace. -/
def readFields : Nat → Text → Option (List (Text × Json) × Text)
  | 0, _ => none
  | fuel + 1, t =>
    match skipSpace t with
    | '"' :: rest => do
      let (key, rest) ← readText fuel rest
      match skipSpace rest with
      | ':' :: rest =>
        let (value, rest) ← readValue fuel rest
        match skipSpace rest with
        | ',' :: rest =>
          let (fields, rest) ← readFields fuel rest
          some ((key, value) :: fields, rest)
        | '\x7d' :: rest => some ([(key, value)], rest)
        | _ => none
      | _ => none
    | _ => none

end

/-- Reads a text that holds one value.  No value takes more than two steps for each character. -/
def parse? (t : Text) : Option Json := do
  let (value, rest) ← readValue (2 * t.length + 2) t
  if (skipSpace rest).isEmpty then some value else none

end RenamePlan.Json
