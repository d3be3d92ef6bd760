import RenamePlan.Text.Basic

/-!
Decimal writing of numbers.

Integers of any size are written with all their digits (`decimal`).  A number with a point or an
exponent is kept as its significant digits and the place of the point (`Decimal`), and is written
with a point if that takes few zeros and with an exponent otherwise (`Decimal.text`).
-/

namespace RenamePlan

/-- The decimal digits of `n`, after a minus sign if it is negative. -/
def decimal : Int → Text
  | .ofNat n => Nat.toDigits 10 n
  | .negSucc n => '-' :: Nat.toDigits 10 (n + 1)

/-- A decimal number.  Without its sign it is `0.digits` times ten to the power of `point`. -/
structure Decimal where
  /-- Whether a minus sign stands in front; zero may have one too. -/
  negative : Bool
  /-- The significant digits; a single zero for zero. -/
  digits : Text
  /-- How many places the point stands behind the first digit, or before it if negative. -/
  point : Int
deriving DecidableEq, Repr

namespace Decimal

/-- The number with the given digits, of which the first `point` stand before the point.  Zeros in
front and at the end are not kept. -/
def ofDigits (negative : Bool) (digits : Text) (point : Int) : Decimal :=
  let zeros := (digits.takeWhile (· == '0')).length
  let significant := ((digits.drop zeros).reverse.dropWhile (· == '0')).reverse
  if significant.isEmpty then ⟨negative, ['0'], 1⟩ else ⟨negative, significant, point - zeros⟩

/-- Whether the number is zero. -/
def isZero (x : Decimal) : Bool :=
  x.digits == ['0']

/-- So many zeros. -/
def zeros (count : Int) : Text :=
  List.replicate count.toNat '0'

/-- The digits with the point in its place; a digit always stands on either side of it. -/
def positional (x : Decimal) : Text :=
  if x.point ≤ 0 then '0' :: '.' :: zeros (-x.point) ++ x.digits
  else if x.digits.length ≤ x.point then
    x.digits ++ zeros (x.point - x.digits.length) ++ ['.', '0']
  else x.digits.take x.point.toNat ++ '.' :: x.digits.drop x.point.toNat

/-- The point behind the first digit, and the power of ten with its sign and two digits at least. -/
def scientific (x : Decimal) : Text :=
  let behind := x.digits.drop 1
  let power := x.point - 1
  let size := Nat.toDigits 10 power.natAbs
  x.digits.take 1 ++ (if behind.isEmpty then [] else '.' :: behind) ++
    'e' :: (if power < 0 then '-' else '+') :: zeros (2 - size.length) ++ size

/-- The number as text: with the point in its place if at most three zeros follow it before the
first digit and at most sixteen digits precede it, and with an exponent otherwise. -/
def text (x : Decimal) : Text :=
  (if x.negative then ['-'] else []) ++
    if -4 < x.point ∧ x.point ≤ 16 then x.positional else x.scientific

end Decimal

end RenamePlan
