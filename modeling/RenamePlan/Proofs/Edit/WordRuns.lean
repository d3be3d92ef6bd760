import Mathlib.Data.List.SplitBy
import RenamePlan.Proofs.Edit.Simultaneous
import RenamePlan.Proofs.Line.Occurrence

/-!
# Edits of whole words

A line falls into pieces: its maximal runs of word characters, and every other character by itself
(`pieces`, `fallsInto_pieces`).  `renamePieces` puts the pieces together again, with new names in
place of some of the runs.

Edits that replace whole word runs make of a line what renaming its pieces makes of it
(`AreWordEdits.simultaneous_eq`).  The proof goes from piece to piece: at the columns of a run only
an edit that begins with the run has a say (`AreWordEdits.touches_iff`), and at any other column
none (`AreWordEdits.not_touches`).  On a source, edits of whole words of its lines never overlap
(`separate_of_areWordEdits`).
-/

namespace RenamePlan

/-! ## Pieces of a line -/

/-- Whether two neighbours belong to one word. -/
def joined (a b : Char) : Bool :=
  isWord a && isWord b

/-- The pieces of a line: the maximal runs of word characters, and the other characters one by
one. -/
def pieces (text : Text) : List Text :=
  text.splitBy joined

/-- The text that the pieces from `column` on make with new names for runs of word characters.
`newName? start stop` is the new name for the run between two columns, if it has one. -/
def renamePieces (newName? : Nat → Nat → Option Text) : Nat → List Text → Text
  | _, [] => []
  | column, piece :: rest =>
    let stop := column + piece.length
    (if piece.all isWord then (newName? column stop).getD piece else piece) ++
      renamePieces newName? stop rest

/-- The pieces make up the line from a column on, and each of them is a word run of the line or a
character that is no word character. -/
inductive FallsInto (text : Text) : Nat → List Text → Prop
  | done : FallsInto text text.length []
  | run {a b : Nat} {rest : List Text} : IsWordRun text a b → FallsInto text b rest →
      FallsInto text a ((text.drop a).take (b - a) :: rest)
  | other {k : Nat} {c : Char} {rest : List Text} : text[k]? = some c → isWord c = false →
      FallsInto text (k + 1) rest → FallsInto text k ([c] :: rest)

theorem IsWordRun.all_part {text : Text} {a b : Nat} (h : IsWordRun text a b) :
    ((text.drop a).take (b - a)).all isWord = true := by
  rw [List.all_eq_true]
  intro x hx
  obtain ⟨j, hj⟩ := List.mem_iff_getElem?.1 hx
  have hjlt : j < b - a := by
    have := (List.getElem?_eq_some_iff.1 hj).1
    rw [List.length_take] at this
    omega
  rw [List.getElem?_take_of_lt hjlt, List.getElem?_drop] at hj
  have hchar := h.word (a + j) (by omega) (by omega)
  rwa [hj] at hchar

theorem renamePieces_run {text : Text} {a b : Nat} (h : IsWordRun text a b)
    (newName? : Nat → Nat → Option Text) (rest : List Text) :
    renamePieces newName? a ((text.drop a).take (b - a) :: rest) =
      (newName? a b).getD ((text.drop a).take (b - a)) ++ renamePieces newName? b rest := by
  have hnonempty := h.nonempty
  have hwithin := h.within
  rw [renamePieces, length_part (by omega), show a + (b - a) = b by omega, if_pos h.all_part]

theorem renamePieces_other {c : Char} (h : isWord c = false)
    (newName? : Nat → Nat → Option Text) (k : Nat) (rest : List Text) :
    renamePieces newName? k ([c] :: rest) = c :: renamePieces newName? (k + 1) rest := by
  rw [renamePieces, if_neg (by simp [h])]
  rfl

theorem all_isWord_of_isChain {c : Char} {later : Text}
    (h : (c :: later).IsChain fun a b => joined a b = true) (hc : isWord c = true) :
    ∀ x ∈ c :: later, isWord x = true := by
  induction later generalizing c with
  | nil =>
    intro x hx
    rw [List.mem_singleton.1 hx]
    exact hc
  | cons d later ih =>
    obtain ⟨hjoined, hchain⟩ := List.isChain_cons_cons.1 h
    have hd : isWord d = true := (Bool.and_eq_true_iff.1 hjoined).2
    intro x hx
    rcases List.mem_cons.1 hx with rfl | hx
    · exact hc
    · exact ih hchain hd x hx

/-- A piece of word characters between neighbours that do not belong to it is a word run. -/
theorem isWordRun_of_append {passed piece later : Text} (hne : piece ≠ [])
    (hword : ∀ x ∈ piece, isWord x = true)
    (hleft : ∀ x ∈ passed.getLast?, ∀ y ∈ piece.head?, joined x y = false)
    (hright : ∀ x ∈ piece.getLast?, ∀ y ∈ later.head?, joined x y = false) :
    IsWordRun (passed ++ piece ++ later) passed.length (passed.length + piece.length) := by
  have hpos : 0 < piece.length := List.length_pos_iff.2 hne
  have hlength : (passed ++ piece).length = passed.length + piece.length := List.length_append
  refine ⟨by omega, by simp, ?_, ?_, ?_⟩
  · intro k hk hkb
    rw [List.getElem?_append_left (by omega), List.getElem?_append_right hk,
      List.getElem?_eq_getElem (by omega), Option.any_some]
    exact hword _ (List.getElem_mem _)
  · rw [List.append_assoc, List.take_left, Option.any_eq_false]
    intro x hx
    have hhead := hleft x hx _ (List.head?_eq_some_head hne)
    rwa [joined, hword _ (List.head_mem hne), Bool.and_true] at hhead
  · rw [← hlength, List.getElem?_append_right (Nat.le_refl _), Nat.sub_self,
      ← List.head?_eq_getElem?, Option.any_eq_false]
    intro y hy
    have hlast := hright _ (List.getLast?_eq_some_getLast hne) y hy
    rwa [joined, hword _ (List.getLast_mem hne), Bool.true_and] at hlast

/-- Pieces that do not join, each of them joined in itself, are those of the line.  The induction
goes over the pieces, with what has been passed in front of them. -/
theorem fallsInto_of_isChain {found : List Text} (hne : ∀ p ∈ found, p ≠ [])
    (hin : ∀ p ∈ found, p.IsChain fun a b => joined a b = true)
    (hcut : found.IsChain fun p q => ∃ hp hq, joined (p.getLast hp) (q.head hq) = false)
    (passed : Text)
    (hfirst : ∀ x ∈ passed.getLast?, ∀ y ∈ found.flatten.head?, joined x y = false) :
    FallsInto (passed ++ found.flatten) passed.length found := by
  induction found generalizing passed with
  | nil =>
    rw [List.flatten_nil, List.append_nil]
    exact FallsInto.done
  | cons piece rest ih =>
    have hpiece : piece ≠ [] := hne piece List.mem_cons_self
    have hright : ∀ x ∈ piece.getLast?, ∀ y ∈ rest.flatten.head?, joined x y = false := by
      intro x hx y hy
      cases rest with
      | nil => cases hy
      | cons next rest =>
        obtain ⟨⟨_, hnext, hjoined⟩, _⟩ := List.isChain_cons_cons.1 hcut
        rw [List.flatten_cons, List.head?_append_of_ne_nil _ hnext,
          List.head?_eq_some_head hnext] at hy
        rw [List.getLast?_eq_some_getLast hpiece] at hx
        rw [← Option.some.inj hx, ← Option.some.inj hy]
        exact hjoined
    have hrest := ih (fun p hp => hne p (List.mem_cons_of_mem piece hp))
      (fun p hp => hin p (List.mem_cons_of_mem piece hp)) hcut.tail (passed ++ piece) (by
        rw [List.getLast?_append_of_ne_nil _ hpiece]
        exact hright)
    rw [List.flatten_cons, ← List.append_assoc]
    rw [List.length_append] at hrest
    obtain ⟨c, later, rfl⟩ := List.exists_cons_of_ne_nil hpiece
    by_cases hc : isWord c = true
    · have hword := all_isWord_of_isChain (hin _ List.mem_cons_self) hc
      have hrun := isWordRun_of_append hpiece hword hfirst hright
      have hpart : ((passed ++ c :: later ++ rest.flatten).drop passed.length).take
          (passed.length + (c :: later).length - passed.length) = c :: later := by
        rw [Nat.add_sub_cancel_left, List.append_assoc, List.drop_left, List.take_left]
      have hfalls := FallsInto.run hrun hrest
      rwa [hpart] at hfalls
    · -- a character that is no word character joins with no other
      obtain rfl : later = [] := by
        cases later with
        | nil => rfl
        | cons d later =>
          obtain ⟨hjoined, _⟩ := List.isChain_cons_cons.1 (hin _ List.mem_cons_self)
          exact absurd (Bool.and_eq_true_iff.1 hjoined).1 hc
      refine FallsInto.other ?_ (Bool.not_eq_true _ ▸ hc) hrest
      rw [List.append_assoc, List.getElem?_append_right (Nat.le_refl _), Nat.sub_self]
      rfl

theorem fallsInto_pieces (text : Text) : FallsInto text 0 (pieces text) := by
  have hfalls := fallsInto_of_isChain (fun _ hp => List.ne_nil_of_mem_splitBy hp)
    (fun _ hp => List.isChain_of_mem_splitBy hp) (List.isChain_getLast_head_splitBy joined text)
    [] (fun _ hx => by cases hx)
  rwa [List.flatten_splitBy] at hfalls

namespace PlainEdit

/-! ## The edits that have a say at a column -/

/-- Whether the edit begins at the column or replaces it. -/
def touches (k : Nat) (e : PlainEdit) : Bool :=
  e.start == (k : Int) || e.covers k

/-- Only the edits that touch a column have a say there. -/
theorem columnAt_filter {text : Text} {edits : List PlainEdit} {k : Nat} {p : PlainEdit → Bool}
    (h : ∀ e ∈ edits, e.touches k = p e) :
    columnAt text edits k = columnAt text (edits.filter p) k := by
  have hwritten : writtenAt text edits k = writtenAt text (edits.filter p) k := by
    rw [writtenAt, writtenAt, List.filter_filter]
    refine congrArg (List.flatMap PlainEdit.new) (List.filter_congr fun e he => ?_)
    rw [← h e he, touches]
    cases e.start == (k : Int) <;> simp
  have hkept : keptAt text edits k = keptAt text (edits.filter p) k := by
    have hany : (edits.any fun e => e.fits text && e.covers k) =
        (edits.filter p).any fun e => e.fits text && e.covers k := by
      rw [Bool.eq_iff_iff, List.any_eq_true, List.any_eq_true]
      constructor
      · rintro ⟨e, he, hcovers⟩
        refine ⟨e, List.mem_filter.2 ⟨he, ?_⟩, hcovers⟩
        rw [← h e he, touches, (Bool.and_eq_true_iff.1 hcovers).2, Bool.or_true]
      · rintro ⟨e, he, hcovers⟩
        exact ⟨e, (List.mem_filter.1 he).1, hcovers⟩
    rw [keptAt, keptAt, hany]
  rw [columnAt, columnAt, hwritten, hkept]

/-- Where no edit has a say, a column keeps its character. -/
theorem columnAt_of_not_touches {text : Text} {edits : List PlainEdit} {k : Nat}
    (h : ∀ e ∈ edits, e.touches k = false) : columnAt text edits k = text[k]?.toList := by
  rw [columnAt_filter h, List.filter_false, columnAt_nil]

/-- The edits fit the line, replace whole word runs of it, and begin at different columns. -/
structure AreWordEdits (text : Text) (edits : List PlainEdit) : Prop where
  fits : ∀ e ∈ edits, e.fits text = true
  run : ∀ e ∈ edits, ∃ a b : Nat, e.start = a ∧ e.stop = b ∧ IsWordRun text a b
  starts : edits.Pairwise fun a b => a.start ≠ b.start

namespace AreWordEdits

variable {text : Text} {edits : List PlainEdit}

theorem touches_iff (h : AreWordEdits text edits) {a b k : Nat} (hrun : IsWordRun text a b)
    (hak : a ≤ k) (hkb : k < b) {e : PlainEdit} (he : e ∈ edits) :
    e.touches k = (e.start == (a : Int)) := by
  obtain ⟨c, d, hstart, hstop, hother⟩ := h.run e he
  have hnonempty := hother.nonempty
  have hnonempty' := hrun.nonempty
  rw [Bool.eq_iff_iff, touches, covers, hstart, hstop, Bool.or_eq_true, Bool.and_eq_true,
    beq_iff_eq, beq_iff_eq, decide_eq_true_eq, decide_eq_true_eq]
  -- two runs with a column in common are one run
  constructor
  · intro htouches
    rcases Nat.lt_trichotomy a c with hlt | heq | hgt
    · have := hrun.le_of_lt hother hlt
      omega
    · omega
    · have := hother.le_of_lt hrun hgt
      omega
  · intro heq
    obtain rfl : c = a := by omega
    obtain rfl := hrun.stop_eq hother
    omega

theorem not_touches (h : AreWordEdits text edits) {k : Nat} (hk : text[k]?.any isWord = false)
    {e : PlainEdit} (he : e ∈ edits) : e.touches k = false := by
  obtain ⟨c, d, hstart, hstop, hother⟩ := h.run e he
  have hnonempty := hother.nonempty
  rw [Bool.eq_false_iff]
  intro htouches
  rw [touches, covers, hstart, hstop, Bool.or_eq_true, Bool.and_eq_true, beq_iff_eq,
    decide_eq_true_eq, decide_eq_true_eq] at htouches
  have hword := hother.word k (by omega) (by omega)
  rw [hk] at hword
  cases hword

/-- There is at most one edit at a column. -/
theorem filter_start (h : AreWordEdits text edits) (a : Nat) :
    edits.filter (fun e => e.start == (a : Int)) =
      (edits.find? fun e => e.start == (a : Int)).toList := by
  rw [← List.head?_filter]
  have hstarts := h.starts.sublist (List.filter_sublist (p := fun e => e.start == (a : Int)))
  match hfilter : edits.filter fun e => e.start == (a : Int) with
  | [] | [_] =>
    rw [hfilter]
    rfl
  | x :: y :: rest =>
    have hmem : ∀ e ∈ x :: y :: rest, e.start = a := by
      intro e he
      rw [← hfilter] at he
      exact beq_iff_eq.1 (List.mem_filter.1 he).2
    rw [hfilter] at hstarts
    have hne := (List.pairwise_cons.1 hstarts).1 y List.mem_cons_self
    rw [hmem x (by simp), hmem y (by simp)] at hne
    exact absurd rfl hne

/-- At a word run the edits write the new name of the one that begins there, if one does. -/
theorem flatMap_run (h : AreWordEdits text edits) {a b : Nat} (hrun : IsWordRun text a b) :
    (List.range' a (b - a)).flatMap (columnAt text edits) =
      ((edits.find? fun e => e.start == (a : Int)).map PlainEdit.new).getD
        ((text.drop a).take (b - a)) := by
  have hnonempty := hrun.nonempty
  have hcolumns : ∀ k ∈ List.range' a (b - a), columnAt text edits k =
      columnAt text (edits.find? fun e => e.start == (a : Int)).toList k := by
    intro k hk
    have hk' := List.mem_range'_1.1 hk
    rw [columnAt_filter fun e he => h.touches_iff hrun (by omega) (by omega) he,
      h.filter_start a]
  rw [List.flatMap_congr hcolumns]
  cases hfind : edits.find? fun e => e.start == (a : Int) with
  | none =>
    -- nothing is written, and every column is kept
    exact flatMap_getElem?_range' text a (b - a)
  | some e =>
    have he := List.mem_of_find?_eq_some hfind
    have hstart : e.start = a := by simpa using List.find?_some hfind
    obtain ⟨c, d, hc, hd, hother⟩ := h.run e he
    obtain rfl : c = a := Int.ofNat_inj.1 (hc.symm.trans hstart)
    obtain rfl := hrun.stop_eq hother
    rw [Option.toList_some, flatMap_columnAt_singleton hc hd (by omega) (Nat.le_refl _) hnonempty,
      if_pos (h.fits e he), List.drop_eq_nil_of_le (List.length_take_le ..), List.append_nil]
    rfl

/-- The columns from the start of a piece on. -/
theorem flatMap_fallsInto (h : AreWordEdits text edits) {newName? : Nat → Nat → Option Text}
    (hnew : ∀ a b, IsWordRun text a b →
      newName? a b = (edits.find? fun e => e.start == (a : Int)).map PlainEdit.new)
    {column : Nat} {found : List Text} (hfalls : FallsInto text column found) :
    column ≤ text.length ∧
      (List.range' column (text.length + 1 - column)).flatMap (columnAt text edits) =
        renamePieces newName? column found := by
  induction hfalls with
  | done =>
    refine ⟨Nat.le_refl _, ?_⟩
    have hend : text[text.length]? = none := List.getElem?_eq_none (Nat.le_refl _)
    rw [Nat.add_sub_cancel_left, List.range'_one, List.flatMap_singleton,
      columnAt_of_not_touches fun e he => h.not_touches (by rw [hend]; rfl) he, hend]
    rfl
  | @run a b rest hrun _ ih =>
    obtain ⟨hb, ih⟩ := ih
    have hnonempty := hrun.nonempty
    have hsplit : List.range' a (text.length + 1 - a) =
        List.range' a (b - a) ++ List.range' b (text.length + 1 - b) :=
      range'_split (by omega) (by omega)
    refine ⟨by omega, ?_⟩
    rw [hsplit, List.flatMap_append, h.flatMap_run hrun, ih, renamePieces_run hrun, hnew a b hrun]
  | @other k c rest hchar hc _ ih =>
    obtain ⟨hk, ih⟩ := ih
    have hkept : columnAt text edits k = [c] := by
      rw [columnAt_of_not_touches fun e he => h.not_touches (by rw [hchar]; exact hc) he, hchar]
      rfl
    refine ⟨by omega, ?_⟩
    rw [range'_eq_cons (by omega), List.flatMap_cons, hkept, ih, renamePieces_other hc]
    rfl

/-- Edits of whole words rename the pieces of the line. -/
theorem simultaneous_eq (h : AreWordEdits text edits) {newName? : Nat → Nat → Option Text}
    (hnew : ∀ a b, IsWordRun text a b →
      newName? a b = (edits.find? fun e => e.start == (a : Int)).map PlainEdit.new) :
    simultaneous text edits = renamePieces newName? 0 (pieces text) := by
  rw [simultaneous, List.range_eq_range']
  exact (h.flatMap_fallsInto hnew (fallsInto_pieces text)).2

end AreWordEdits

/-! ## Edits of a source -/

/-- The edit that replaces a match on a line finds its text there. -/
theorem fits_editAt {text name : Text} {m : Match} (h : m ∈ findMatches text name)
    (r : PlainRequest) : (r.editAt m).fits text = true := by
  obtain ⟨_, _, hmatch⟩ := occursAt_of_mem_findMatches h
  have hstop : m.stop = m.start + name.length := congrArg Match.stop hmatch
  have htext : m.text = (text.drop m.start).take name.length := congrArg Match.text hmatch
  rw [fits, found_columns rfl rfl, sameName_iff]
  show fold ((text.take m.stop).drop m.start) = fold m.text
  rw [htext, List.drop_take, hstop, Nat.add_sub_cancel_left]

/-- An edit that fits its line is not skipped. -/
theorem warnings_of_fits {lines : List Text} {e : PlainEdit} {i : Fin lines.length}
    (htarget : e.target? lines.length = some i.val) (hfits : e.fits (lines.get i) = true) :
    e.warnings lines = [] := by
  have hline : lines.getD i.val [] = lines.get i := by
    rw [List.getD_eq_getElem?_getD, List.getElem?_eq_getElem i.isLt]
    rfl
  rw [warnings, htarget]
  show (if e.fits (lines.getD i.val []) = true then [] else _) = _
  rw [hline, if_pos hfits]

/-- Edits of whole words of their lines do not overlap. -/
theorem separate_of_areWordEdits {lines : List Text} {edits : List PlainEdit}
    (h : ∀ i : Fin lines.length, AreWordEdits (lines.get i) (forLine edits lines.length i)) :
    Separate lines edits := by
  refine ⟨?_, List.pairwise_iff_getElem.2 ?_⟩
  · intro e he i hi
    obtain ⟨_, hlt, _⟩ := target?_eq_some_iff.1 hi
    obtain ⟨a, b, hstart, hstop, hrun⟩ := (h ⟨i, hlt⟩).run e (mem_forLine.2 ⟨he, hi⟩)
    have hnonempty := hrun.nonempty
    have hwithin : b ≤ lines[i].length := hrun.within
    rw [List.getD_eq_getElem?_getD, List.getElem?_eq_getElem hlt, Option.getD_some]
    omega
  · intro j k hj hk hjk i hi hi'
    obtain ⟨_, hlt, _⟩ := target?_eq_some_iff.1 hi
    have hstarts := List.pairwise_filter.1 (h ⟨i, hlt⟩).starts
    have hne : edits[j].start ≠ edits[k].start :=
      List.pairwise_iff_getElem.1 hstarts j k hj hk hjk (beq_iff_eq.2 hi) (beq_iff_eq.2 hi')
    obtain ⟨a, b, hstart, hstop, hrun⟩ :=
      (h ⟨i, hlt⟩).run _ (mem_forLine.2 ⟨List.getElem_mem hj, hi⟩)
    obtain ⟨c, d, hstart', hstop', hrun'⟩ :=
      (h ⟨i, hlt⟩).run _ (mem_forLine.2 ⟨List.getElem_mem hk, hi'⟩)
    refine ⟨hne, ?_⟩
    -- of two word runs the first ends before the second begins
    rcases Nat.lt_trichotomy a c with hac | hac | hac
    · have hle := hrun.le_of_lt hrun' hac
      omega
    · omega
    · have hle := hrun'.le_of_lt hrun hac
      omega

end PlainEdit

end RenamePlan
