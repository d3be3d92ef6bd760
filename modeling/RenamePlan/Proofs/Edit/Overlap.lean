import Mathlib.Data.List.Pairwise
import Mathlib.Data.List.Perm.Subperm
import RenamePlan.Proofs.Edit.Plain
import RenamePlan.Proofs.Line.Occurrence

/-!
# Planned edits that overlap

A store keeps the first edit at each position, so no two of its edits begin at one column.  Their
columns may overlap all the same, and this module says when.

* **One run** — every edit replaces a part of its line between two word boundaries
  (`exists_marks_of_mem`), so two of them overlap only if one begins at a word boundary inside the
  text of the other (`pairwise_disjoint_iff`).  Identifiers have no such boundary
  (`pairwise_disjoint_of_word`).
* **All runs** — a source has a run with overlapping edits iff one of its lines has more than two
  word boundaries, that is, more than one word (`addLines_disjoint_iff`).  The run asks for a
  word with what stands behind it, and then for what stands behind it (`exists_overlap`).
-/

namespace RenamePlan

/-- The columns of the line at which a word begins or ends, from left to right. -/
def breaks (line : Text) : List Nat :=
  (List.range (line.length + 1)).filter (breaksAt line)

theorem mem_breaks {line : Text} {k : Nat} :
    k ∈ breaks line ↔ k ≤ line.length ∧ breaksAt line k = true := by
  rw [breaks, List.mem_filter, List.mem_range, Nat.lt_succ_iff]

theorem pairwise_breaks (line : Text) : (breaks line).Pairwise (· < ·) :=
  List.pairwise_lt_range.filter _

/-- Before the third word boundary of a line there are only the first two. -/
theorem lt_of_breaks_eq {line : Text} {p q r : Nat} {later : List Nat}
    (h : breaks line = p :: q :: r :: later) :
    p < q ∧ q < r ∧ ∀ s, s < r → breaksAt line s = true → s = p ∨ s = q := by
  have hasc := pairwise_breaks line
  rw [h] at hasc
  obtain ⟨hp, hasc⟩ := List.pairwise_cons.1 hasc
  obtain ⟨hq, hasc⟩ := List.pairwise_cons.1 hasc
  obtain ⟨hr, _⟩ := List.pairwise_cons.1 hasc
  refine ⟨hp q (by simp), hq r (by simp), ?_⟩
  intro s hs hbreak
  have hrline : r ≤ line.length := (mem_breaks.1 (h ▸ (by simp) : r ∈ breaks line)).1
  have hmem : s ∈ breaks line := mem_breaks.2 ⟨by omega, hbreak⟩
  rw [h] at hmem
  simp only [List.mem_cons] at hmem
  rcases hmem with hsp | hsq | hsr | hlater
  · exact Or.inl hsp
  · exact Or.inr hsq
  · omega
  · have := hr s hlater
    omega

/-! ## Runs -/

/-- The store after the requests, taken in turn. -/
def EditStore.addLines : EditStore → List LineRequest → Except ValueFault EditStore
  | store, [] => .ok store
  | store, request :: rest => do
    let added ← store.addLine request
    added.value.1.addLines rest

/-- A rename asked of one line of a source. -/
structure LineChange (lines : List Text) where
  index : Fin lines.length
  old : Text
  new : Text
  category : Text
  occurrence : Int := everyOccurrence
  skipLiterals : Bool := false

namespace LineChange

variable {lines : List Text}

/-- The request for the line, with its number and its text. -/
def plain (c : LineChange lines) : PlainRequest where
  text := lines.get c.index
  line := c.index + 1
  old := c.old
  new := c.new
  category := c.category
  occurrence := c.occurrence
  skipLiterals := c.skipLiterals

/-- What is asked of the store. -/
def request (c : LineChange lines) : LineRequest :=
  c.plain.request

/-- The changes, planned in turn, leave the given edits in the store of the module. -/
def Leave (module : Text) (changes : List (LineChange lines)) (edits : List PlainEdit) : Prop :=
  ∃ store, EditStore.addLines { module } (changes.map request) = .ok store ∧
    store.edits = edits.map PlainEdit.edit

/-- The edits that the changes leave in a store. -/
def stored (changes : List (LineChange lines)) : List PlainEdit :=
  PlainRequest.stored (changes.map plain)

end LineChange

open PlainEdit

/-- Plain requests are never refused, and the first edit at each position stays. -/
theorem addLines_plain {store : EditStore} {kept : List PlainEdit} (h : Holds store kept)
    (requests : List PlainRequest) :
    ∃ final, store.addLines (requests.map PlainRequest.request) = .ok final ∧
      Holds final (keepAll kept (requests.flatMap PlainRequest.edits)) := by
  induction requests generalizing store kept with
  | nil => exact ⟨store, rfl, h⟩
  | cons r rest ih =>
    obtain ⟨final, hrun, hfinal⟩ := ih (h.insertAll r.edits)
    refine ⟨final, ?_, ?_⟩
    · rw [List.map_cons, EditStore.addLines, PlainRequest.addLine_request]
      exact hrun
    · rw [List.flatMap_cons, keepAll_append]
      exact hfinal

theorem edit_injective : Function.Injective edit := by
  rintro ⟨line, start, stop, old, new, category⟩ ⟨line', start', stop', old', new', category'⟩ h
  simpa [edit, Edit.plain] using h

namespace LineChange

variable {lines : List Text}

/-- Every run succeeds, and leaves one list of edits. -/
theorem leave_iff {module : Text} {changes : List (LineChange lines)} {edits : List PlainEdit} :
    Leave module changes edits ↔ edits = stored changes := by
  obtain ⟨store, hrun, hedits, -⟩ := addLines_plain (.new module) (changes.map plain)
  rw [List.map_map] at hrun
  constructor
  · rintro ⟨other, hother, hleft⟩
    obtain rfl : store = other := Except.ok.inj (hrun.symm.trans hother)
    exact edit_injective.list_map (hleft.symm.trans hedits)
  · rintro rfl
    exact ⟨store, hrun, hedits⟩

theorem exists_change_of_mem {changes : List (LineChange lines)} {e : PlainEdit}
    (h : e ∈ stored changes) : ∃ c ∈ changes, e ∈ c.plain.edits := by
  obtain ⟨r, hr, he⟩ := PlainRequest.exists_request_of_mem h
  obtain ⟨c, hc, rfl⟩ := List.mem_map.1 hr
  exact ⟨c, hc, he⟩

end LineChange

/-! ## One run -/

/-- The edit replaces the columns from `a` up to, not including, `b` of the line, and a word begins
or ends on both sides of them. -/
structure PlainEdit.Marks (e : PlainEdit) (line : Text) (a b : Nat) : Prop where
  start : e.start = a
  stop : e.stop = b
  nonempty : a < b
  within : b ≤ line.length
  old : e.old = (line.drop a).take (b - a)
  left : breaksAt line a = true
  right : breaksAt line b = true

theorem PlainEdit.Marks.length_old {e : PlainEdit} {line : Text} {a b : Nat}
    (h : e.Marks line a b) : e.old.length = b - a := by
  have hnonempty := h.nonempty
  have hwithin := h.within
  rw [h.old, length_part (by omega)]

theorem PlainRequest.selected_sublist (r : PlainRequest) :
    r.selected.Sublist (findMatches r.text r.old) :=
  selectMatches_sublist ..

/-- The edits of a request begin at different columns. -/
theorem PlainRequest.pairwise_start_edits (r : PlainRequest) :
    r.edits.Pairwise fun a b => a.start ≠ b.start := by
  refine List.pairwise_map.2 (((pairwise_findMatches _ _).sublist r.selected_sublist).imp_of_mem ?_)
  intro a b ha _ hab
  have hwidth := start_lt_stop_of_mem_findMatches (r.selected_sublist.subset ha)
  show (a.start : Int) ≠ b.start
  omega

/-- The edits of a request mark occurrences of its name. -/
theorem PlainRequest.exists_marks {r : PlainRequest} {e : PlainEdit} (h : e ∈ r.edits) :
    e.line = r.line ∧ ∃ a, e.Marks r.text a (a + r.old.length) := by
  obtain ⟨m, hm, rfl⟩ := List.mem_map.1 h
  have hfound := r.selected_sublist.subset hm
  obtain ⟨hname, hoccurs, hmatch⟩ := occursAt_of_mem_findMatches hfound
  have hpos : 0 < r.old.length := List.length_pos_iff.2 hname
  have hstop : m.stop = m.start + r.old.length := congrArg Match.stop hmatch
  have htext : m.text = (r.text.drop m.start).take r.old.length := congrArg Match.text hmatch
  refine ⟨rfl, m.start, rfl, congrArg Nat.cast hstop, by omega, hoccurs.within, ?_,
    hoccurs.left, hoccurs.right⟩
  rw [Nat.add_sub_cancel_left]
  exact htext

/-- Whether `b` begins at a word boundary inside the text that `a` replaces. -/
def PlainEdit.BreaksInto (b a : PlainEdit) : Prop :=
  a.line = b.line ∧ ∃ k : Nat, 0 < k ∧ k < a.old.length ∧ b.start = a.start + k ∧
    breaksAt a.old k = true

namespace LineChange

variable {lines : List Text} {changes : List (LineChange lines)}

/-- The edits that a run leaves replace parts of the lines of the source. -/
theorem exists_marks_of_mem {e : PlainEdit} (h : e ∈ stored changes) :
    ∃ c ∈ changes, e ∈ c.plain.edits ∧ e.line = c.index + 1 ∧
      ∃ p r, e.Marks (lines.get c.index) p r := by
  obtain ⟨c, hc, he⟩ := exists_change_of_mem h
  obtain ⟨hline, p, hmarks⟩ := PlainRequest.exists_marks he
  exact ⟨c, hc, he, hline, p, _, hmarks⟩

/-- An edit that begins strictly inside another begins at a word boundary there. -/
theorem breaksInto_of_lt {a b : PlainEdit} (ha : a ∈ stored changes) (hb : b ∈ stored changes)
    (hline : a.line = b.line) (hlt : a.start < b.start) (hover : b.start < a.stop) :
    b.BreaksInto a := by
  obtain ⟨c, _, _, hc, p, r, hmarks⟩ := exists_marks_of_mem ha
  obtain ⟨d, _, _, hd, q, s, hother⟩ := exists_marks_of_mem hb
  -- the two edits are for one line number, so they mark parts of one text
  have hindex : c.index = d.index := Fin.ext (by omega)
  rw [← hindex] at hother
  have hp := hmarks.start
  have hr := hmarks.stop
  have hq := hother.start
  have hwithin := hmarks.within
  refine ⟨hline, q - p, by omega, by rw [hmarks.length_old]; omega, by omega, ?_⟩
  rw [hmarks.old, breaksAt_slice (by omega) (by omega) (by omega),
    show p + (q - p) = q by omega]
  exact hother.left

theorem start_lt_stop_of_mem {e : PlainEdit} (h : e ∈ stored changes) : e.start < e.stop := by
  obtain ⟨_, _, _, _, p, r, hmarks⟩ := exists_marks_of_mem h
  rw [hmarks.start, hmarks.stop]
  exact Int.ofNat_lt.2 hmarks.nonempty

/-- The edits of a run overlap iff one begins at a word boundary inside the text of another. -/
theorem pairwise_disjoint_iff :
    (stored changes).Pairwise PlainEdit.Disjoint ↔
      ∀ a ∈ stored changes, ∀ b ∈ stored changes, ¬ b.BreaksInto a := by
  constructor
  · rintro hdisjoint a ha b hb ⟨hline, k, hpos, hk, hstart, _⟩
    obtain ⟨_, _, _, _, p, r, hmarks⟩ := exists_marks_of_mem ha
    have hp := hmarks.start
    have hr := hmarks.stop
    have hb' := start_lt_stop_of_mem hb
    rw [hmarks.length_old] at hk
    have hne : a ≠ b := by
      rintro rfl
      omega
    rcases hdisjoint.forall ha hb hne hline with hle | hle
    · omega
    · omega
  · intro hbreaks
    refine (PlainRequest.pairwise_apart_stored _).imp_of_mem fun {a b} ha hb hapart hline => ?_
    -- the one that begins first has to end before the other begins
    rcases Int.lt_or_gt_of_ne (hapart hline) with hlt | hgt
    · refine Or.inl (Int.not_lt.1 fun hover => ?_)
      exact hbreaks a ha b hb (breaksInto_of_lt ha hb hline hlt hover)
    · refine Or.inr (Int.not_lt.1 fun hover => ?_)
      exact hbreaks b hb a ha (breaksInto_of_lt hb ha hline.symm hgt hover)

/-- Edits for identifiers never overlap: the text of an identifier has no word boundary inside. -/
theorem pairwise_disjoint_of_word (hword : ∀ c ∈ changes, ∀ x ∈ c.old, isWord x = true)
    (hlines : ∀ line ∈ lines, IsRegular line) :
    (stored changes).Pairwise PlainEdit.Disjoint := by
  rw [pairwise_disjoint_iff]
  rintro a ha b _ ⟨_, k, hpos, hk, _, hbreak⟩
  obtain ⟨c, hc, he⟩ := exists_change_of_mem ha
  obtain ⟨m, hm, rfl⟩ := List.mem_map.1 he
  have hrun := isWordRun_of_mem_findMatches ((selectMatches_sublist ..).subset hm)
    (hword c hc) (hlines _ (List.get_mem lines c.index))
  obtain ⟨_, p, hmarks⟩ := PlainRequest.exists_marks he
  have hp : m.start = p := Int.ofNat_inj.1 hmarks.start
  have hr : m.stop = p + c.old.length := Int.ofNat_inj.1 hmarks.stop
  rw [hp, hr] at hrun
  rw [hmarks.length_old, Nat.add_sub_cancel_left] at hk
  rw [hmarks.old, Nat.add_sub_cancel_left, breaksAt_slice hpos hk hrun.within,
    hrun.breaksAt_eq_false (by omega) (Nat.add_lt_add_left hk p)] at hbreak
  cases hbreak

/-! ## All runs -/

/-- On a line with two word boundaries at most no edits overlap. -/
theorem pairwise_disjoint_of_breaks (hlines : ∀ line ∈ lines, (breaks line).length ≤ 2) :
    (stored changes).Pairwise PlainEdit.Disjoint := by
  rw [pairwise_disjoint_iff]
  rintro a ha b _ ⟨_, k, hpos, hk, _, hbreak⟩
  obtain ⟨c, _, _, _, p, r, hmarks⟩ := exists_marks_of_mem ha
  have hwithin := hmarks.within
  rw [hmarks.length_old] at hk
  rw [hmarks.old, breaksAt_slice hpos hk (by omega)] at hbreak
  -- both ends of the edit and the boundary inside it are three boundaries of the line
  have hsubset : [p, p + k, r] ⊆ breaks (lines.get c.index) := by
    intro x hx
    simp only [List.mem_cons, List.not_mem_nil, or_false] at hx
    rcases hx with rfl | rfl | rfl
    · exact mem_breaks.2 ⟨by omega, hmarks.left⟩
    · exact mem_breaks.2 ⟨by omega, hbreak⟩
    · exact mem_breaks.2 ⟨hwithin, hmarks.right⟩
  have hnodup : [p, p + k, r].Nodup := by
    simp only [List.nodup_cons, List.mem_cons, List.not_mem_nil, or_false, not_or,
      not_false_eq_true, List.nodup_nil, and_true]
    omega
  have hthree : 3 ≤ (breaks (lines.get c.index)).length :=
    (List.subperm_of_subset hnodup hsubset).length_le
  have htwo := hlines _ (List.get_mem lines c.index)
  omega

/-- Removes what stands between two columns of a line, wherever the line has that text. -/
def remove (i : Fin lines.length) (a b : Nat) : LineChange lines where
  index := i
  old := ((lines.get i).drop a).take (b - a)
  new := []
  category := []

/-- Such a change asks for an edit between its columns, unless an earlier occurrence of the text
reaches into them. -/
theorem exists_mem_edits_remove {i : Fin lines.length} {a b : Nat}
    (ha : breaksAt (lines.get i) a = true) (hb : breaksAt (lines.get i) b = true) (hab : a < b)
    (hline : b ≤ (lines.get i).length)
    (hfree : ∀ s < a, breaksAt (lines.get i) s = true →
      breaksAt (lines.get i) (s + (b - a)) = true → s + (b - a) ≤ a) :
    ∃ e ∈ (remove i a b).plain.edits, e.line = i + 1 ∧ e.start = a := by
  have hoccurs := occursAt_slice ha hb (Nat.le_of_lt hab) hline
  have hlength : (((lines.get i).drop a).take (b - a)).length = b - a := length_part (by omega)
  have hname : ((lines.get i).drop a).take (b - a) ≠ [] := by
    rw [← List.length_pos_iff, hlength]
    omega
  have hmatch := mem_findMatches_of_occursAt hname hoccurs fun s hs hother => by
    rw [hlength]
    refine hfree s hs hother.left ?_
    rw [← hlength]
    exact hother.right
  have hselected : (remove i a b).plain.selected =
      findMatches (lines.get i) (((lines.get i).drop a).take (b - a)) := by
    show selectMatches (lines.get i) (((lines.get i).drop a).take (b - a)) [] 0 false = _
    rw [selectMatches, if_neg hname]
    rfl
  rw [← hselected] at hmatch
  exact ⟨_, List.mem_map_of_mem hmatch, rfl, rfl⟩

/-- A run leaves an edit at every position that was asked for. -/
theorem exists_mem_stored {c : LineChange lines} (hc : c ∈ changes) {e : PlainEdit}
    (h : e ∈ c.plain.edits) :
    ∃ kept ∈ stored changes, kept.line = e.line ∧ kept.start = e.start := by
  have hsome : ((stored changes).find? (isAt e.line e.start)).isSome = true := by
    rw [stored, PlainRequest.find?_stored, List.findSome?_isSome_iff]
    exact ⟨c.plain, List.mem_map_of_mem hc, List.find?_isSome.2 ⟨e, h, isAt_iff.2 ⟨rfl, rfl⟩⟩⟩
  obtain ⟨kept, hkept⟩ := Option.isSome_iff_exists.1 hsome
  exact ⟨kept, List.mem_of_find?_eq_some hkept, isAt_iff.1 (List.find?_some hkept)⟩

/-- At the positions that the first change asks for, a run leaves its edits. -/
theorem exists_mem_stored_cons (changes : List (LineChange lines)) {c : LineChange lines}
    {e : PlainEdit} (h : e ∈ c.plain.edits) :
    ∃ kept ∈ stored (c :: changes), kept ∈ c.plain.edits ∧ kept.line = e.line ∧
      kept.start = e.start := by
  have hsome := List.find?_isSome.2 ⟨e, h, isAt_iff.2 ⟨rfl, rfl⟩⟩
  obtain ⟨kept, hkept⟩ := Option.isSome_iff_exists.1 hsome
  have hfirst : (stored (c :: changes)).find? (isAt e.line e.start) = some kept := by
    rw [stored, PlainRequest.find?_stored, List.map_cons, List.findSome?_cons, hkept]
  exact ⟨kept, List.mem_of_find?_eq_some hfirst, List.mem_of_find?_eq_some hkept,
    isAt_iff.1 (List.find?_some hkept)⟩

/-- Where a line has a third word boundary, two changes have edits that overlap: one for the text
up to the third boundary, and one for its part behind the second. -/
theorem exists_overlap {i : Fin lines.length} {p q r : Nat} {later : List Nat}
    (h : breaks (lines.get i) = p :: q :: r :: later) :
    ¬ (stored [remove i p r, remove i q r]).Pairwise PlainEdit.Disjoint := by
  obtain ⟨hpq, hqr, hbefore⟩ := lt_of_breaks_eq h
  obtain ⟨hrline, hrbreak⟩ := mem_breaks.1 (h ▸ (by simp) : r ∈ breaks (lines.get i))
  obtain ⟨_, hpbreak⟩ := mem_breaks.1 (h ▸ (by simp) : p ∈ breaks (lines.get i))
  obtain ⟨_, hqbreak⟩ := mem_breaks.1 (h ▸ (by simp) : q ∈ breaks (lines.get i))
  -- no occurrence of either text begins early enough to hide the edit
  obtain ⟨a, ha, haline, hastart⟩ := exists_mem_edits_remove hpbreak hrbreak (by omega) hrline
    fun s hs hbreak _ => by
      rcases hbefore s (by omega) hbreak with rfl | rfl <;> omega
  obtain ⟨b, hb, hbline, hbstart⟩ := exists_mem_edits_remove hqbreak hrbreak hqr hrline
    fun s hs hbreak hend => by
      rcases hbefore s (by omega) hbreak with rfl | rfl
      · rcases hbefore (s + (r - q)) (by omega) hend with heq | heq <;> omega
      · omega
  obtain ⟨first, hfirst, hasked, hfirstline, hfirststart⟩ :=
    exists_mem_stored_cons [remove i q r] ha
  obtain ⟨second, hsecond, hsecondline, hsecondstart⟩ :=
    exists_mem_stored (List.mem_cons_of_mem (remove i p r) List.mem_cons_self) hb
  have hstop : first.stop = r := by
    obtain ⟨_, s, hmarks⟩ := PlainRequest.exists_marks hasked
    have hs := hmarks.start
    have hlength : (remove i p r).plain.old.length = r - p := length_part (by omega)
    rw [hmarks.stop, hlength]
    omega
  intro hdisjoint
  exact pairwise_disjoint_iff.1 hdisjoint first hfirst second hsecond
    (breaksInto_of_lt hfirst hsecond (by omega) (by omega) (by omega))

/-- **When planned edits overlap.**  Every run of changes succeeds.  Its edits are disjoint iff none
begins at a word boundary inside the text that another replaces, and they always are if the names
are identifiers.  For any names at all they are disjoint in every run iff no line of the source
has more than two word boundaries. -/
theorem addLines_disjoint_iff (module : Text) (lines : List Text) :
    (∀ changes : List (LineChange lines), ∃ edits, Leave module changes edits ∧
      (edits.Pairwise PlainEdit.Disjoint ↔ ∀ a ∈ edits, ∀ b ∈ edits, ¬ b.BreaksInto a) ∧
      ((∀ c ∈ changes, ∀ x ∈ c.old, isWord x = true) → (∀ line ∈ lines, IsRegular line) →
        edits.Pairwise PlainEdit.Disjoint)) ∧
    ((∀ (changes : List (LineChange lines)) (edits : List PlainEdit),
      Leave module changes edits → edits.Pairwise PlainEdit.Disjoint) ↔
        ∀ line ∈ lines, (breaks line).length ≤ 2) := by
  refine ⟨fun changes => ⟨stored changes, leave_iff.2 rfl, pairwise_disjoint_iff,
    pairwise_disjoint_of_word⟩, ?_, ?_⟩
  · intro hruns line hline
    obtain ⟨i, rfl⟩ := List.get_of_mem hline
    match hbreaks : breaks (lines.get i) with
    | [] | [_] | [_, _] => simp
    | p :: q :: r :: later =>
      exact absurd (hruns _ _ (leave_iff.2 rfl)) (exists_overlap hbreaks)
  · rintro hlines changes edits hleave
    rw [leave_iff.1 hleave]
    exact pairwise_disjoint_of_breaks hlines

/-- A rename of a qualified name, and one of its last part. -/
def qualifiedChanges : List (LineChange ["a.b".toList]) :=
  [⟨0, "a.b".toList, "x".toList, "c".toList, everyOccurrence, false⟩,
    ⟨0, "b".toList, "y".toList, "c".toList, everyOccurrence, false⟩]

/-- Both renames are planned, and both of them replace the last column. -/
theorem leave_qualifiedChanges :
    ∃ edits, Leave "Module1".toList qualifiedChanges edits ∧
      edits = [⟨1, 0, 3, "a.b".toList, "x".toList, "c".toList⟩,
        ⟨1, 2, 3, "b".toList, "y".toList, "c".toList⟩] ∧
      ¬ edits.Pairwise PlainEdit.Disjoint :=
  ⟨_, ⟨_, rfl, rfl⟩, rfl, by decide⟩

end LineChange

end RenamePlan
