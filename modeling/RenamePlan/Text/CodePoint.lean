/-!
Look-up in tables over code points.

A character class is a list of closed ranges in ascending order (`inRanges`).  A map from one code
point to one code point is a list of runs in ascending order of their first member (`Run`,
`mapRuns`): cased letters come in long stretches that all move by the same distance, either side by
side or at every second place.
-/

namespace RenamePlan

/-- Whether `n` lies in one of the ranges.  The ranges ascend, so the search ends at the first one
that begins after `n`. -/
def inRanges : List (Nat × Nat) → Nat → Bool
  | [], _ => false
  | (first, last) :: rest, n => if n < first then false else n ≤ last || inRanges rest n

/-- The code points `first, first + stride, …, last`, carried in order onto `target`,
`target + stride`, and so on. -/
structure Run where
  first : Nat
  last : Nat
  stride : Nat
  target : Nat
deriving DecidableEq, Repr

/-- Whether `n` is one of the code points of the run. -/
def Run.covers (run : Run) (n : Nat) : Bool :=
  run.first ≤ n && n ≤ run.last && (n - run.first) % run.stride == 0

/-- Where the runs carry `n`; a code point that no run covers stays. -/
def mapRuns : List Run → Nat → Nat
  | [], n => n
  | run :: rest, n =>
    if n < run.first then n
    else if run.covers n then run.target + (n - run.first)
    else mapRuns rest n

/-- The characters that a code point expands to: the listed expansion if there is one, and otherwise
the one character that the runs give. -/
def expandWith (expansions : List (Nat × List Nat)) (runs : List Run) (c : Char) : List Char :=
  match expansions.lookup c.toNat with
  | some points => points.map Char.ofNat
  | none => [Char.ofNat (mapRuns runs c.toNat)]

end RenamePlan
