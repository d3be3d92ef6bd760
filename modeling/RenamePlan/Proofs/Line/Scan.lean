import RenamePlan.Proofs.Line.Occurrence

/-!
# The greedy scan of a line

`findMatches` goes over a line from left to right and takes every occurrence of the name that does
not begin inside one already taken.  `IsScan` says what such a scan finds, by columns of the line
alone: occurrences, without overlap, such that no occurrence is passed over unless it begins inside
a match.

The columns that are kept apart reach every other one (`exists_mem_keepApart`), and only one list of
columns does that (`eq_keepApart`).  So `IsScan` leaves no choice: one list of matches is a scan of
the line, and it is what `findMatches` gives (`findMatches_eq_iff`).
-/

namespace RenamePlan

/-! ## Columns that are kept apart -/

/-- A column that is not kept lies within `width` of one that is. -/
theorem exists_mem_keepApart {width free p : Nat} {columns : List Nat} (hwidth : 0 < width)
    (hasc : columns.Pairwise (· < ·)) (hp : p ∈ columns) (hfree : free ≤ p) :
    ∃ s ∈ keepApart width free columns, s ≤ p ∧ p < s + width := by
  induction columns generalizing free with
  | nil => cases hp
  | cons column later ih =>
    obtain ⟨hfirst, hlater⟩ := List.pairwise_cons.1 hasc
    rw [keepApart]
    rcases List.mem_cons.1 hp with rfl | hp
    · rw [if_pos hfree]
      exact ⟨p, List.mem_cons_self, Nat.le_refl p, by omega⟩
    · have hcolumn := hfirst p hp
      split
      · by_cases hreached : p < column + width
        · exact ⟨column, List.mem_cons_self, by omega, hreached⟩
        · obtain ⟨s, hs, hsp⟩ := ih hlater hp (Nat.le_of_not_lt hreached)
          exact ⟨s, List.mem_cons_of_mem column hs, hsp⟩
      · exact ih hlater hp hfree

/-- Columns that are apart and reach all others are those that are kept.  The induction follows
`keepApart`: the first column from `free` on has nothing before it that could reach it, so it has to
be there. -/
theorem eq_keepApart {width free : Nat} {columns starts : List Nat} (hwidth : 0 < width)
    (hasc : columns.Pairwise (· < ·)) (hmem : ∀ s ∈ starts, s ∈ columns ∧ free ≤ s)
    (hapart : starts.Pairwise fun a b => a + width ≤ b)
    (hreach : ∀ p ∈ columns, free ≤ p → ∃ s ∈ starts, s ≤ p ∧ p < s + width) :
    starts = keepApart width free columns := by
  induction columns generalizing free starts with
  | nil =>
    rw [keepApart, List.eq_nil_iff_forall_not_mem]
    intro s hs
    cases (hmem s hs).1
  | cons column later ih =>
    obtain ⟨hfirst, hlater⟩ := List.pairwise_cons.1 hasc
    have hle : ∀ p ∈ column :: later, column ≤ p := by
      intro p hp
      rcases List.mem_cons.1 hp with rfl | hp
      · exact Nat.le_refl p
      · exact Nat.le_of_lt (hfirst p hp)
    have hin : ∀ s, s ∈ column :: later → s ≠ column → s ∈ later := by
      intro s hs hne
      rcases List.mem_cons.1 hs with heq | hs
      · exact absurd heq hne
      · exact hs
    rw [keepApart]
    split
    · rename_i hfree
      obtain ⟨first, hstart, hbefore, -⟩ := hreach column List.mem_cons_self hfree
      have hfound : first = column := Nat.le_antisymm hbefore (hle first (hmem first hstart).1)
      subst hfound
      cases starts with
      | nil => cases hstart
      | cons head others =>
        obtain ⟨hhead, hothers⟩ := List.pairwise_cons.1 hapart
        have hsame : head = first := by
          rcases List.mem_cons.1 hstart with heq | hbehind
          · exact heq.symm
          · have hgap := hhead first hbehind
            have hleast := hle head (hmem head List.mem_cons_self).1
            omega
        subst hsame
        refine congrArg (head :: ·) (ih hlater ?_ hothers ?_)
        · intro s hs
          have hgap := hhead s hs
          have hcolumn := (hmem s (List.mem_cons_of_mem head hs)).1
          exact ⟨hin s hcolumn (by omega), hgap⟩
        · intro p hp hpast
          obtain ⟨s, hs, hsp, hps⟩ := hreach p (List.mem_cons_of_mem head hp) (by omega)
          rcases List.mem_cons.1 hs with rfl | hs
          · omega
          · exact ⟨s, hs, hsp, hps⟩
    · rename_i hfree
      refine ih hlater ?_ hapart ?_
      · intro s hs
        obtain ⟨hcolumn, hpast⟩ := hmem s hs
        exact ⟨hin s hcolumn (by omega), hpast⟩
      · intro p hp hpast
        exact hreach p (List.mem_cons_of_mem column hp) hpast

/-! ## Scans -/

/-- What a greedy scan of the line for a name finds. -/
structure IsScan (text name : Text) (found : List Match) : Prop where
  /-- A match begins at an occurrence, is as wide as the name, and has the text of its columns. -/
  sound : ∀ m ∈ found, OccursAt text name m.start ∧ m.stop = m.start + name.length ∧
    m.text = Text.slice text m.start m.stop
  /-- Matches come from left to right and do not overlap. -/
  apart : found.Pairwise fun a b => a.stop ≤ b.start
  /-- An occurrence begins a match or lies strictly inside one. -/
  complete : ∀ p, OccursAt text name p →
    ∃ m ∈ found, p = m.start ∨ m.start < p ∧ p < m.stop

/-- The text of a match is what stands between its columns. -/
theorem text_ofColumn {text : Text} {width p : Nat} (h : p + width ≤ text.length) :
    (Match.ofColumn text width p).text = Text.slice text p (p + width : Nat) := by
  rw [Text.slice_of_le text (Nat.le_add_right p width) h, Nat.add_sub_cancel_left]
  rfl

/-- The matches that are found are a scan. -/
theorem isScan_findMatches {text name : Text} (hname : name ≠ []) :
    IsScan text name (findMatches text name) := by
  have hwidth : 0 < name.length := List.length_pos_iff.2 hname
  refine ⟨?_, pairwise_findMatches text name, ?_⟩
  · intro m hm
    obtain ⟨_, hoccurs, hcolumn⟩ := occursAt_of_mem_findMatches hm
    have hstop : m.stop = m.start + name.length := congrArg Match.stop hcolumn
    refine ⟨hoccurs, hstop, ?_⟩
    rw [hstop, ← text_ofColumn hoccurs.within]
    exact congrArg Match.text hcolumn
  · intro p hp
    obtain ⟨s, hs, hsp, hps⟩ := exists_mem_keepApart hwidth (pairwise_occurrencesFrom ..).1
      ((mem_occurrencesFrom_zero hname).2 hp) (Nat.zero_le p)
    refine ⟨Match.ofColumn text name.length s, ?_, ?_⟩
    · rw [findMatches, if_neg (by simpa using hname)]
      exact List.mem_map_of_mem hs
    · show p = s ∨ s < p ∧ p < s + name.length
      omega

/-- A match of a scan is known by its column. -/
theorem IsScan.eq_ofColumn {text name : Text} {found : List Match} (h : IsScan text name found)
    {m : Match} (hm : m ∈ found) : m = Match.ofColumn text name.length m.start := by
  obtain ⟨hoccurs, hstop, htext⟩ := h.sound m hm
  rw [hstop, ← text_ofColumn hoccurs.within] at htext
  cases m with
  | mk start stop content =>
    obtain rfl : stop = start + name.length := hstop
    exact congrArg (Match.mk start (start + name.length)) htext

/-- **Finding is the greedy scan.**  The matches of a name on a line are occurrences of the name,
from left to right and without overlap, and every occurrence begins a match or lies strictly inside
one.  No other list of matches is such. -/
theorem findMatches_eq_iff {text name : Text} (hname : name ≠ []) (found : List Match) :
    findMatches text name = found ↔ IsScan text name found := by
  have hwidth : 0 < name.length := List.length_pos_iff.2 hname
  constructor
  · rintro rfl
    exact isScan_findMatches hname
  · intro h
    have hstarts : found.map Match.start =
        keepApart name.length 0 (occurrencesFrom name none 0 text) := by
      refine eq_keepApart hwidth (pairwise_occurrencesFrom ..).1 ?_ ?_ ?_
      · intro s hs
        obtain ⟨m, hm, rfl⟩ := List.mem_map.1 hs
        exact ⟨(mem_occurrencesFrom_zero hname).2 (h.sound m hm).1, Nat.zero_le _⟩
      · refine List.pairwise_map.2 (h.apart.imp_of_mem ?_)
        intro a b ha _ hab
        rw [← (h.sound a ha).2.1]
        exact hab
      · intro p hp _
        obtain ⟨m, hm, hcolumn⟩ := h.complete p ((mem_occurrencesFrom_zero hname).1 hp)
        have hstop := (h.sound m hm).2.1
        exact ⟨m.start, List.mem_map_of_mem hm, by omega, by omega⟩
    rw [findMatches, if_neg (by simpa using hname), ← hstarts, List.map_map]
    refine (List.map_congr_left fun m hm => ?_).trans (List.map_id found)
    exact (h.eq_ofColumn hm).symm

/-- A dotted name that overlaps itself: of its two occurrences the second one lies inside the match
that the first one begins. -/
theorem isScan_dotted :
    IsScan "a.A.a".toList "a.a".toList [⟨0, 3, "a.A".toList⟩] ∧
      OccursAt "a.A.a".toList "a.a".toList 2 := by
  have hname : "a.a".toList ≠ [] := by decide
  refine ⟨(findMatches_eq_iff hname _).1 (by decide +kernel), ?_⟩
  exact (occursAt_iff hname (by decide)).1 (by decide +kernel)

end RenamePlan
