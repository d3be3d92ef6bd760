import RenamePlan.Text.Blank

/-!
The code and the comment of a line.

A comment begins at the first apostrophe that stands outside every string literal.
-/

namespace RenamePlan

/-- The number of characters before the first apostrophe outside a literal; `inside` says whether
the text begins inside one. -/
def codeLength? : Bool → Text → Option Nat
  | _, [] => none
  | false, c :: rest =>
    if c = '\'' then some 0
    else (codeLength? (c = '"') rest).map (· + 1)
  | true, '"' :: '"' :: rest => (codeLength? true rest).map (· + 2)
  | true, c :: rest => (codeLength? (c ≠ '"') rest).map (· + 1)

/-- A line cut at its comment. -/
structure CodeAndComment where
  /-- What stands before the comment, without the blanks that end it. -/
  code : Text
  /-- The comment with its apostrophe, or nothing. -/
  comment : Text
deriving DecidableEq, Repr

/-- Cuts a line at its comment.  A line without one is code as it is, blanks at the end included. -/
def splitComment (line : Text) : CodeAndComment :=
  match codeLength? false line with
  | some k => ⟨trimRight (line.take k), line.drop k⟩
  | none => ⟨line, []⟩

/-- Code and comment make up the line, but for blanks between them. -/
theorem splitComment_eq (line : Text) :
    ∃ blanks : Text, (∀ c ∈ blanks, isBlank c = true) ∧
      line = (splitComment line).code ++ blanks ++ (splitComment line).comment := by
  unfold splitComment
  cases h : codeLength? false line with
  | none => exact ⟨[], by simp, by simp⟩
  | some k =>
    obtain ⟨blanks, hcode, hblank⟩ := exists_trimRight_append (line.take k)
    refine ⟨blanks, hblank, ?_⟩
    show line = trimRight (line.take k) ++ blanks ++ line.drop k
    rw [← hcode, List.take_append_drop]

end RenamePlan
