import RenamePlan.Json.Compare

/-!
Edits: one replaced stretch of one line.

An edit is known by its position, the pair of line number and start column.  Edits are applied from
the last line to the first and, on a line, from right to left, so that the columns of an edit still
hold when its turn comes (`applicationOrder`).

What an edit holds is what its maker put there.  `Edit.plain` makes one of numbers and texts; any
other value is found out by the operation that cannot use it.
-/

namespace RenamePlan

/-- A single replacement on one line: `new` in place of `old`, which stands in the columns
`start ≤ k < stop`. -/
structure Edit where
  /-- Line number, counted from one. -/
  line : Json
  /-- First column replaced, counted from zero. -/
  start : Json
  /-- Column behind the last one replaced. -/
  stop : Json
  old : Json
  new : Json
  /-- Why the edit is made. -/
  category : Json := .text []
deriving BEq, Repr

/-- Line number and start column. -/
abbrev Position := Json × Json

namespace Edit

/-- The edit of the given numbers and texts. -/
def plain (line start stop : Int) (old new category : Text) : Edit :=
  ⟨.int line, .int start, .int stop, .text old, .text new, .text category⟩

/-- Where the edit begins. -/
def position (e : Edit) : Position :=
  (e.line, e.start)

/-- What edits are ordered by: the line number, then the start column. -/
def rank (e : Edit) : Json :=
  .list [e.line, e.start]

end Edit

/-- The edits by descending line number and, on a line, by descending start column.  Edits at one
position keep their order. -/
def applicationOrder (edits : List Edit) : Except ValueFault (List Edit) :=
  sortDownOn Edit.rank edits

/-- In application order there are the same edits. -/
theorem applicationOrder_perm {edits ordered : List Edit}
    (h : applicationOrder edits = .ok ordered) : ordered.Perm edits :=
  sortDownOn_perm h

/-- Whether line number and start column are whole numbers. -/
def Edit.IsPlaced (e : Edit) : Prop :=
  ∃ line start : Int, e.line = .int line ∧ e.start = .int start

theorem Edit.isPlaced_plain (line start stop : Int) (old new category : Text) :
    (plain line start stop old new category).IsPlaced :=
  ⟨line, start, rfl, rfl⟩

/-- Edits whose positions are whole numbers can be put in order. -/
theorem exists_applicationOrder {edits : List Edit} (h : ∀ e ∈ edits, e.IsPlaced) :
    ∃ ordered, applicationOrder edits = .ok ordered := by
  have orderable : Json.canBeOrdered (edits.map Edit.rank) = true := by
    refine Json.canBeOrdered_of_forall fun x hx y hy => ?_
    obtain ⟨a, ha, rfl⟩ := List.mem_map.1 hx
    obtain ⟨b, hb, rfl⟩ := List.mem_map.1 hy
    obtain ⟨aLine, aStart, haLine, haStart⟩ := h a ha
    obtain ⟨bLine, bStart, hbLine, hbStart⟩ := h b hb
    rw [Edit.rank, Edit.rank, haLine, haStart, hbLine, hbStart, Json.order_pair]
    rfl
  exact ⟨_, by rw [applicationOrder, sortDownOn, if_pos orderable]⟩

end RenamePlan
