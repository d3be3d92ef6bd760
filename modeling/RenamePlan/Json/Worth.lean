import RenamePlan.Json.Basic

/-!
What numbers are worth.

A whole number is worth itself, whatever its size.  A fraction is worth the nearest number with a
mantissa of 53 bits (`Decimal.scaled`), so two fractions that are written differently may be worth
the same, and a fraction without places may be worth another whole number than the one it spells.
-/

namespace RenamePlan

/-- A number as a whole number times a power of two. -/
structure Scaled where
  mantissa : Int
  exponent : Int
deriving DecidableEq, Repr

namespace Scaled

/-- The mantissa when the exponent is lowered to `exponent`. -/
def lowered (x : Scaled) (exponent : Int) : Int :=
  x.mantissa * Nat.pow 2 (x.exponent - exponent).toNat

/-- Comparison by worth. -/
def compare (x y : Scaled) : Ordering :=
  let exponent := min x.exponent y.exponent
  Ord.compare (x.lowered exponent) (y.lowered exponent)

/-- Whole numbers are compared as they are. -/
@[simp] theorem compare_whole (a b : Int) : compare ⟨a, 0⟩ ⟨b, 0⟩ = Ord.compare a b := by
  simp [compare, lowered]

end Scaled

/-- The whole number nearest to `n / d`, and the even one of two that are equally near. -/
def roundDiv (n d : Nat) : Nat :=
  if 2 * (n % d) < d ∨ 2 * (n % d) = d ∧ n / d % 2 = 0 then n / d else n / d + 1

/-- How many bits a mantissa has. -/
def mantissaBits : Nat := 53

/-- The least exponent of a mantissa. -/
def leastExponent : Int := -1074

/-- Numerator and denominator of `n / d` divided by two to the power of `exponent`. -/
def shifted (n d : Nat) (exponent : Int) : Nat × Nat :=
  (n * Nat.pow 2 (-exponent).toNat, d * Nat.pow 2 exponent.toNat)

/-- The exponent with which `n / d` has a mantissa of the right length, or the least one. -/
def exponentOf (n d : Nat) : Int :=
  let guess : Int := (n.log2 : Int) - d.log2 - mantissaBits
  let (numerator, denominator) := shifted n d guess
  let fits := numerator < Nat.pow 2 mantissaBits * denominator
  max leastExponent (if fits then guess else guess + 1)

/-- The number with a mantissa of the right length that is nearest to `n / d`. -/
def nearest (n d : Nat) : Scaled :=
  let exponent := exponentOf n d
  let (numerator, denominator) := shifted n d exponent
  ⟨roundDiv numerator denominator, exponent⟩

/-- What a decimal number is worth. -/
def Decimal.scaled (x : Decimal) : Scaled :=
  let size := x.digits.foldl (fun n c => n * 10 + (c.toNat - '0'.toNat)) 0
  let power := x.point - x.digits.length
  let found := nearest (size * Nat.pow 10 power.toNat) (Nat.pow 10 (-power).toNat)
  if x.negative then { found with mantissa := -found.mantissa } else found

/-- What a number is worth; truth values count as one and zero. -/
def Json.worth? : Json → Option Scaled
  | bool b => some ⟨b.toNat, 0⟩
  | int n => some ⟨n, 0⟩
  | fraction x => some x.scaled
  | _ => none

end RenamePlan
