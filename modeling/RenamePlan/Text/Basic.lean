/-!
Texts: source lines, names, and what reports hold.

A text is the list of its characters, so that a column is a position in the list and counts
characters, whatever the number of bytes they take.
-/

namespace RenamePlan

/-- A line, a name, or the content of a file, as the list of its characters. -/
abbrev Text := List Char

namespace Text

/-- The text as a string, for messages. -/
def string (t : Text) : String :=
  String.ofList t

/-- The place that column `k` stands for in a text of `length` characters: a negative column counts
back from the end, and no column lies outside the text. -/
def place (length : Nat) (k : Int) : Nat :=
  if k < 0 then (length + k).toNat else min k.toNat length

theorem place_le (length : Nat) (k : Int) : place length k ≤ length := by
  unfold place
  split <;> omega

theorem place_of_nonneg {length : Nat} {k : Int} (h : 0 ≤ k) :
    place length k = min k.toNat length := by
  simp [place, Int.not_lt.2 h]

/-- The characters from column `start` up to, not including, column `stop`. -/
def slice (t : Text) (start stop : Int) : Text :=
  (t.take (place t.length stop)).drop (place t.length start)

/-- Between two columns of the text a slice is what it says. -/
theorem slice_of_le (t : Text) {a b : Nat} (hab : a ≤ b) (hb : b ≤ t.length) :
    slice t a b = (t.drop a).take (b - a) := by
  have ha : a ≤ t.length := Nat.le_trans hab hb
  have hpa : place t.length a = a := by simp [place_of_nonneg, Nat.min_eq_left ha]
  have hpb : place t.length b = b := by simp [place_of_nonneg, Nat.min_eq_left hb]
  rw [slice, hpa, hpb, List.drop_take]

end Text

end RenamePlan
