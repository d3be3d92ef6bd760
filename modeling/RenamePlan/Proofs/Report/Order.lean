import RenamePlan.Audit.Table
import RenamePlan.Proofs.History.StableSort
import RenamePlan.Proofs.Usage.History

/-!
# The order of reports

Rows and records are sorted by keys made of JSON values.  Where these are numbers and texts the sort
never fails, and is a stable sort by the numbers and texts themselves: `sorted_plain` for the rows
of the audit, `sorted_sheets` for the records of a symbol.
-/

namespace RenamePlan

open Std

namespace Json

/-- Lists are ordered by their first items, and then by the others. -/
theorem orderItems_cons {x y : Json} {xs ys : List Json} {first others : Ordering}
    (hsame : (x == y) = (first == .eq)) (hfirst : order x y = .ok first)
    (hothers : orderItems xs ys = .ok others) :
    orderItems (x :: xs) (y :: ys) = .ok (first.then others) := by
  rw [orderItems, show same x y = (first == .eq) from hsame, hothers, hfirst]
  cases first with
  | lt => rfl
  | eq => rfl
  | gt => rfl

theorem orderItems_int (a b : Int) {xs ys : List Json} {others : Ordering}
    (h : orderItems xs ys = .ok others) :
    orderItems (int a :: xs) (int b :: ys) = .ok ((compare a b).then others) := by
  refine orderItems_cons ?_ (order_int a b) h
  rw [beq_int, Bool.eq_iff_iff, beq_iff_eq, beq_iff_eq, LawfulEqOrd.compare_eq_iff_eq]

theorem orderItems_text (s t : Text) {xs ys : List Json} {others : Ordering}
    (h : orderItems xs ys = .ok others) :
    orderItems (text s :: xs) (text t :: ys) = .ok ((compare s t).then others) := by
  refine orderItems_cons ?_ (order_text s t) h
  rw [beq_text, Bool.eq_iff_iff, beq_iff_eq, beq_iff_eq, LawfulEqOrd.compare_eq_iff_eq]

end Json

section Sorts

variable {τ α : Type} {cmp : τ → τ → Ordering}

/-- Keys that are ordered like the entries behind them sort them. -/
theorem sortOn_map (f : τ → α) (key : α → Json)
    (h : ∀ a b, (key (f a)).order (key (f b)) = .ok (cmp a b)) (entries : List τ) :
    sortOn key (entries.map f) = .ok ((sortBy cmp entries).map f) := by
  have hordered : Json.canBeOrdered ((entries.map f).map key) = true := by
    refine Json.canBeOrdered_of_forall fun x hx y hy => ?_
    simp only [List.map_map, List.mem_map, Function.comp_apply] at hx hy
    obtain ⟨a, _, rfl⟩ := hx
    obtain ⟨b, _, rfl⟩ := hy
    rw [h]
    rfl
  have hsort : (sortBy cmp entries).map f =
      (entries.map f).mergeSort fun x y => (key x).notAfter (key y) := by
    refine List.map_mergeSort fun a _ b _ => ?_
    rw [Json.notAfter, h]
  rw [sortOn, if_pos hordered, hsort]

/-- Entries sorted by ranks that are worked out first. -/
theorem sortOn_ranked (f : τ → α) (rank : α → Except ValueFault Json) (key : τ → Json)
    (hrank : ∀ a, rank (f a) = .ok (key a))
    (horder : ∀ a b, (key a).order (key b) = .ok (cmp a b)) (entries : List τ) :
    (do
      let ranked ← (entries.map f).mapM fun entry => do return (← rank entry, entry)
      return (← sortOn Prod.fst ranked).map Prod.snd) = .ok ((sortBy cmp entries).map f) := by
  -- no rank is refused, so all of them are known before the sort
  have hranked : ((entries.map f).mapM fun entry => do return (← rank entry, entry)) =
      (.ok (entries.map fun a => (key a, f a)) : Except ValueFault (List (Json × α))) := by
    rw [List.mapM_map]
    have hpure : ((fun entry => do return (← rank entry, entry)) ∘ f) =
        fun a => (pure (key a, f a) : Except ValueFault (Json × α)) := by
      funext a
      rw [Function.comp_apply, hrank]
      rfl
    rw [hpure, List.mapM_pure]
    rfl
  rw [hranked]
  show (sortOn Prod.fst (entries.map fun a => (key a, f a)) >>= fun sorted =>
    pure (sorted.map Prod.snd)) = _
  rw [sortOn_map (fun a => (key a, f a)) Prod.fst horder]
  show Except.ok (((sortBy cmp entries).map fun a => (key a, f a)).map Prod.snd) = _
  rw [List.map_map]
  rfl

end Sorts

/-! ## Rows of the audit -/

/-- A row of the audit whose values are of the kinds that the order expects. -/
structure PlainRow where
  module : Text
  procedure : Text
  line : Int
  column : Int
  occurrence : Int
  old : Text
  new : Text
  category : Text
deriving DecidableEq, Repr

namespace PlainRow

/-- The row with these values. -/
def row (r : PlainRow) : AuditRow where
  module := .text r.module
  procedure := .text r.procedure
  line := .int r.line
  column := .int r.column
  occurrence := .int r.occurrence
  old := .text r.old
  new := .text r.new
  category := .text r.category

/-- How rows are ordered: by module and routine, up to case folding, then by line and column. -/
def cmp : PlainRow → PlainRow → Ordering :=
  compareLex (compareOn fun r => fold r.module) (compareLex (compareOn fun r => fold r.procedure)
    (compareLex (compareOn line) (compareOn column)))

instance : TransCmp cmp :=
  inferInstanceAs (TransCmp (compareLex _ _))

/-- Plain rows can always be put in order. -/
theorem sorted_plain (rows : List PlainRow) :
    AuditRow.sorted (rows.map row) = .ok ((sortBy cmp rows).map row) := by
  refine sortOn_ranked row AuditRow.rank (fun r => .list [.text (fold r.module),
    .text (fold r.procedure), .int r.line, .int r.column]) (fun r => rfl) (fun a b => ?_) rows
  rw [Json.order]
  have hcolumn := Json.orderItems_int a.column b.column (by rw [Json.orderItems])
  have hline := Json.orderItems_int a.line b.line hcolumn
  have hprocedure := Json.orderItems_text (fold a.procedure) (fold b.procedure) hline
  rw [Json.orderItems_text (fold a.module) (fold b.module) hprocedure, Ordering.then_eq]
  rfl

end PlainRow

/-! ## Records of a symbol -/

namespace UsageCall

/-- How records are ordered: by module and then by routine, up to case folding. -/
def cmp : UsageCall × List UsageCall → UsageCall × List UsageCall → Ordering :=
  compareLex (compareOn fun u => u.1.key.1) (compareOn fun u => u.1.key.2)

instance : TransCmp cmp :=
  inferInstanceAs (TransCmp (compareLex _ _))

/-- The record of a first call and all calls for its routine. -/
def sheetOf (u : UsageCall × List UsageCall) : UsageSheet :=
  u.1.sheet u.2

/-- What the record is ordered by. -/
def rank (u : UsageCall × List UsageCall) : Json :=
  .list [.text u.1.key.1, .text u.1.key.2]

theorem routineRank_sheetOf (u : UsageCall × List UsageCall) :
    routineRank (sheetOf u).module (sheetOf u).procedure = .ok (rank u) := by
  show routineRank (.text u.1.module) (.text (u.1.procedure.getD [])) = _
  rw [routineRank, Json.orEmpty_text]
  rfl

theorem order_rank (a b : UsageCall × List UsageCall) :
    (rank a).order (rank b) = .ok (cmp a b) := by
  rw [rank, rank, Json.order]
  have hprocedure := Json.orderItems_text a.1.key.2 b.1.key.2 (by rw [Json.orderItems])
  rw [Json.orderItems_text a.1.key.1 b.1.key.1 hprocedure, Ordering.then_eq]
  rfl

/-- The records that calls leave can always be put in order. -/
theorem sorted_sheets (calls : List UsageCall) :
    UsageSheet.sorted (sheets calls) =
      .ok ((sortBy cmp (grouped key Prod.mk calls)).map sheetOf) := by
  have hsheets : sheets calls = (grouped key Prod.mk calls).map sheetOf := by
    rw [sheets, grouped, grouped, List.map_map]
    rfl
  rw [hsheets]
  exact sortOn_ranked sheetOf (fun s => routineRank s.module s.procedure) rank routineRank_sheetOf
    order_rank _

end UsageCall

end RenamePlan
