import Mathlib.Data.List.Basic

/-!
# What a stable sort depends on

A stable sort does not show in which order entries of different classes stood before it, as long as
entries that compare equal are of one class (`sortBy_eq_of_filter_eq`).  That `sortBy` is such a
sort is `isStableSort_sortBy`.
-/

namespace RenamePlan

open Std

variable {α κ : Type} (cmp : α → α → Ordering)

/-- The entries by ascending order; entries that compare equal keep their order. -/
def sortBy (entries : List α) : List α :=
  entries.mergeSort fun a b => (cmp a b).isLE

theorem sortBy_perm (entries : List α) : (sortBy cmp entries).Perm entries :=
  List.mergeSort_perm ..

variable [TransCmp cmp]

theorem isLE_trans (a b c : α) (hab : (cmp a b).isLE = true) (hbc : (cmp b c).isLE = true) :
    (cmp a c).isLE = true :=
  TransCmp.isLE_trans hab hbc

theorem isLE_total (a b : α) : ((cmp a b).isLE || (cmp b a).isLE) = true := by
  rw [@OrientedCmp.eq_swap α cmp _ b a]
  cases cmp a b <;> rfl

theorem pairwise_sortBy (entries : List α) :
    (sortBy cmp entries).Pairwise fun a b => (cmp a b).isLE = true :=
  List.pairwise_mergeSort (isLE_trans cmp) (isLE_total cmp) entries

/-- One more entry in front comes to stand behind what is less than it, and before all else. -/
theorem sortBy_cons (a : α) (rest : List α) :
    sortBy cmp (a :: rest) =
        (sortBy cmp rest).filter (fun b => !(cmp a b).isLE) ++
          a :: (sortBy cmp rest).filter (fun b => (cmp a b).isLE) ∧
      sortBy cmp rest =
        (sortBy cmp rest).filter (fun b => !(cmp a b).isLE) ++
          (sortBy cmp rest).filter (fun b => (cmp a b).isLE) := by
  have hsorted := pairwise_sortBy cmp (a :: rest)
  obtain ⟨less, others, hsort, hrest, hless⟩ :=
    List.mergeSort_cons (isLE_trans cmp) (isLE_total cmp) a rest
  rw [sortBy, hsort] at hsorted
  have hothers : ∀ b ∈ others, (cmp a b).isLE = true :=
    (List.pairwise_cons.1 (List.pairwise_append.1 hsorted).2.1).1
  have hfirst : (sortBy cmp rest).filter (fun b => !(cmp a b).isLE) = less := by
    rw [sortBy, hrest, List.filter_append, List.filter_eq_self.2 hless,
      List.filter_eq_nil_iff.2 fun b hb => by simp [hothers b hb], List.append_nil]
  have hsecond : (sortBy cmp rest).filter (fun b => (cmp a b).isLE) = others := by
    rw [sortBy, hrest, List.filter_append, List.filter_eq_self.2 hothers,
      List.filter_eq_nil_iff.2 fun b hb => by simpa using hless b hb, List.nil_append]
  rw [hfirst, hsecond]
  exact ⟨hsort, hrest⟩

/-- Selected entries are sorted as they are among all. -/
theorem filter_sortBy (p : α → Bool) (entries : List α) :
    (sortBy cmp entries).filter p = sortBy cmp (entries.filter p) := by
  induction entries with
  | nil => simp [sortBy]
  | cons a rest ih =>
    obtain ⟨hcons, hrest⟩ := sortBy_cons cmp a rest
    rw [hcons, List.filter_append]
    by_cases ha : p a = true
    · rw [List.filter_cons_of_pos ha, List.filter_cons_of_pos ha, (sortBy_cons cmp a _).1, ← ih,
        List.filter_filter, List.filter_filter, List.filter_filter, List.filter_filter]
      simp only [Bool.and_comm]
    · rw [List.filter_cons_of_neg ha, List.filter_cons_of_neg ha, ← List.filter_append, ← hrest, ih]

/-- What a stable sort owes to the entries. -/
structure IsStableSort (entries sorted : List α) : Prop where
  perm : sorted.Perm entries
  ordered : sorted.Pairwise fun a b => (cmp a b).isLE = true
  /-- Entries that compare equal keep their order. -/
  stable : ∀ a, sorted.filter (fun b => cmp a b == .eq) = entries.filter fun b => cmp a b == .eq

theorem isStableSort_sortBy (entries : List α) :
    IsStableSort cmp entries (sortBy cmp entries) where
  perm := sortBy_perm cmp entries
  ordered := pairwise_sortBy cmp entries
  stable a := by
    rw [filter_sortBy]
    refine List.mergeSort_of_pairwise (List.pairwise_of_forall_mem_list fun b hb c hc => ?_)
    have hab : cmp a b = .eq := by simpa using (List.mem_filter.1 hb).2
    have hac : cmp a c = .eq := by simpa using (List.mem_filter.1 hc).2
    rw [← TransCmp.congr_left hab, hac]
    rfl

variable [DecidableEq κ] (kind : α → κ)

omit [TransCmp cmp] in
/-- Ordered lists that agree in each class are the same. -/
theorem eq_of_filter_eq
    (hkind : ∀ a b, (cmp a b).isLE = true → (cmp b a).isLE = true → kind a = kind b)
    {xs ys : List α} (hxs : xs.Pairwise fun a b => (cmp a b).isLE = true)
    (hys : ys.Pairwise fun a b => (cmp a b).isLE = true)
    (h : ∀ k, xs.filter (kind · = k) = ys.filter (kind · = k)) : xs = ys := by
  induction xs generalizing ys with
  | nil =>
    cases ys with
    | nil => rfl
    | cons b others =>
      have hb := h (kind b)
      simp at hb
  | cons a rest ih =>
    cases ys with
    | nil =>
      have ha := h (kind a)
      simp at ha
    | cons b others =>
      obtain rfl : a = b := by
        have ha : a ∈ b :: others := by
          have hmem : a ∈ (a :: rest).filter (kind · = kind a) := by simp
          rw [h] at hmem
          exact List.mem_of_mem_filter hmem
        have hb : b ∈ a :: rest := by
          have hmem : b ∈ (b :: others).filter (kind · = kind b) := by simp
          rw [← h] at hmem
          exact List.mem_of_mem_filter hmem
        rcases List.mem_cons.1 ha with heq | hafter
        · exact heq
        rcases List.mem_cons.1 hb with heq | hbafter
        · exact heq.symm
        -- each of the two does not come after the other, so they are of one class
        have hsame : kind b = kind a :=
          hkind b a ((List.pairwise_cons.1 hys).1 a hafter) ((List.pairwise_cons.1 hxs).1 b hbafter)
        have hheads := h (kind a)
        rw [List.filter_cons_of_pos (by simp), List.filter_cons_of_pos (by simp [hsame])] at hheads
        exact (List.cons.inj hheads).1
      refine congrArg (a :: ·) (ih (List.pairwise_cons.1 hxs).2 (List.pairwise_cons.1 hys).2 ?_)
      intro k
      have hk := h k
      by_cases ha : kind a = k
      · rw [List.filter_cons_of_pos (by simp [ha]), List.filter_cons_of_pos (by simp [ha])] at hk
        exact (List.cons.inj hk).2
      · rwa [List.filter_cons_of_neg (by simp [ha]), List.filter_cons_of_neg (by simp [ha])] at hk

/-- Lists that agree in each class are sorted to the same list. -/
theorem sortBy_eq_of_filter_eq (hkind : ∀ a b, cmp a b = .eq → kind a = kind b) {xs ys : List α}
    (h : ∀ k, xs.filter (kind · = k) = ys.filter (kind · = k)) :
    sortBy cmp xs = sortBy cmp ys := by
  have hclass (a b : α) (hab : (cmp a b).isLE = true) (hba : (cmp b a).isLE = true) :
      kind a = kind b := hkind a b (OrientedCmp.isLE_antisymm hab hba)
  refine eq_of_filter_eq cmp kind hclass (pairwise_sortBy cmp xs) (pairwise_sortBy cmp ys) ?_
  intro k
  rw [filter_sortBy, filter_sortBy, h]

end RenamePlan
