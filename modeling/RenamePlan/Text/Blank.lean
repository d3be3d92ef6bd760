import RenamePlan.Text.Basic
import RenamePlan.Text.CodePoint

/-!
Blank characters, and texts without the blanks at their end.

Blank are the white space characters of any script, the four information separators below the space
among them, but not the zero-width space or the byte order mark.
-/

namespace RenamePlan

/-- The code points of the blank characters. -/
def blankRanges : List (Nat × Nat) := [
  (0x9, 0xd), (0x1c, 0x20), (0x85, 0x85), (0xa0, 0xa0), (0x1680, 0x1680), (0x2000, 0x200a),
  (0x2028, 0x2029), (0x202f, 0x202f), (0x205f, 0x205f), (0x3000, 0x3000)]

/-- Whether `c` is white space. -/
def isBlank (c : Char) : Bool :=
  inRanges blankRanges c.toNat

/-- The text without the blanks that end it. -/
def trimRight (t : Text) : Text :=
  (t.reverse.dropWhile isBlank).reverse

/-- A text is its trimmed part followed by blanks only. -/
theorem exists_trimRight_append (t : Text) :
    ∃ blanks : Text, t = trimRight t ++ blanks ∧ ∀ c ∈ blanks, isBlank c = true := by
  refine ⟨(t.reverse.takeWhile isBlank).reverse, ?_, ?_⟩
  · rw [trimRight, ← List.reverse_append, List.takeWhile_append_dropWhile, List.reverse_reverse]
  · intro c hc
    exact List.all_eq_true.1 List.all_takeWhile c (List.mem_reverse.1 hc)

end RenamePlan
