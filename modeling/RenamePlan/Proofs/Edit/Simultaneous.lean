import Mathlib.Data.List.Basic
import RenamePlan.Proofs.Edit.Plain

/-!
# Edits applied in turn, and edits applied at once

`simultaneous text edits` is the line with all its edits made at once: it is read off the original
line column by column, so that no order of the edits enters into it.  `applyEdits` makes the edits
one after the other, and each of them may change the length of the line.

The two agree for edits that lie on their line and do not overlap
(`applyEdits_eq_simultaneous`).  The invariant of a run is that the line is still the original one
up to the column where the last edit was made (`foldl_onLine`); it holds because application order
goes from right to left.  For the same reason each edit is judged by the text of the original line
(`Separate.allWarnings_inOrder`).
-/

namespace RenamePlan.PlainEdit

/-! ## Edits made at once -/

/-- Whether the column is one that the edit replaces. -/
def covers (e : PlainEdit) (k : Nat) : Bool :=
  e.start ≤ k && (k : Int) < e.stop

/-- What the edits that fit the line write at column `k`. -/
def writtenAt (text : Text) (edits : List PlainEdit) (k : Nat) : Text :=
  (edits.filter fun e => e.fits text && e.start == (k : Int)).flatMap PlainEdit.new

/-- The character of the line at column `k`, unless an edit that fits the line replaces it. -/
def keptAt (text : Text) (edits : List PlainEdit) (k : Nat) : Text :=
  if edits.any fun e => e.fits text && e.covers k then [] else text[k]?.toList

/-- What stands for column `k` of the line when the edits are made at once. -/
def columnAt (text : Text) (edits : List PlainEdit) (k : Nat) : Text :=
  writtenAt text edits k ++ keptAt text edits k

/-- The line with the edits made at once.  An edit that does not fit the line changes nothing.  The
column behind the last character counts too, as an edit may write there. -/
def simultaneous (text : Text) (edits : List PlainEdit) : Text :=
  (List.range (text.length + 1)).flatMap (columnAt text edits)

/-- The lines, each with the edits for it made at once.  An edit that is for no line, or that begins
before the first column, is for none of them. -/
def simultaneousLines (lines : List Text) (edits : List PlainEdit) : List Text :=
  lines.mapIdx fun i text => simultaneous text (forLine edits lines.length i)

/-- Edits that can be made at once: those that are for a line lie on it, and two for the same line
begin at different columns and do not overlap. -/
structure Separate (lines : List Text) (edits : List PlainEdit) : Prop where
  within : ∀ e ∈ edits, ∀ i ∈ e.target? lines.length,
    e.start ≤ e.stop ∧ e.stop ≤ (lines.getD i []).length
  apart : edits.Pairwise fun a b => ∀ i ∈ a.target? lines.length, b.target? lines.length = some i →
    a.start ≠ b.start ∧ (a.stop ≤ b.start ∨ b.stop ≤ a.start)

/-! ## Slices -/

/-- Between two columns the line holds what stands there. -/
theorem found_columns {e : PlainEdit} {s t : Nat} (hs : e.start = s) (ht : e.stop = t)
    (text : Text) : e.columns.found text = (text.take t).drop s := by
  show Text.slice text e.start e.stop = _
  rw [hs, ht, Text.slice, Text.place_of_nonneg (Int.natCast_nonneg s),
    Text.place_of_nonneg (Int.natCast_nonneg t), Int.toNat_natCast, Int.toNat_natCast]
  rcases Nat.le_total s text.length with hle | hge
  · rw [Nat.min_eq_left hle, ← List.take_eq_take_min]
  · rw [Nat.min_eq_right hge, ← List.take_eq_take_min]
    rw [List.drop_eq_nil_of_le (by rw [List.length_take]; omega),
      List.drop_eq_nil_of_le (by rw [List.length_take]; omega)]

/-- The new text takes the place of what stands between two columns. -/
theorem replace_columns {e : PlainEdit} {s t : Nat} (hs : e.start = s) (ht : e.stop = t)
    (text new : Text) : e.columns.replace text new = text.take s ++ new ++ text.drop t := by
  show text.take (Text.place text.length e.start) ++ new ++
    text.drop (Text.place text.length e.stop) = _
  rw [hs, ht, Text.place_of_nonneg (Int.natCast_nonneg s),
    Text.place_of_nonneg (Int.natCast_nonneg t), Int.toNat_natCast, Int.toNat_natCast,
    ← List.take_eq_take_min]
  rcases Nat.le_total t text.length with hle | hge
  · rw [Nat.min_eq_left hle]
  · rw [Nat.min_eq_right hge, List.drop_length, List.drop_eq_nil_of_le hge]

/-- Whether an edit fits is decided by the line up to its stop column. -/
theorem found_congr {e : PlainEdit} {s t : Nat} (hs : e.start = s) (ht : e.stop = t)
    {text other : Text} (h : other.take t = text.take t) :
    e.columns.found other = e.columns.found text := by
  rw [found_columns hs ht, found_columns hs ht, h]

theorem fits_congr {e : PlainEdit} {s t : Nat} (hs : e.start = s) (ht : e.stop = t)
    {text other : Text} (h : other.take t = text.take t) : e.fits other = e.fits text := by
  rw [fits, fits, found_congr hs ht h]

/-! ## One column after the other -/

theorem range'_eq_cons {s b : Nat} (h : s < b) :
    List.range' s (b - s) = s :: List.range' (s + 1) (b - (s + 1)) := by
  rw [← List.range'_succ]
  congr 1
  omega

theorem range'_split {s t b : Nat} (hst : s ≤ t) (htb : t ≤ b) :
    List.range' s (b - s) = List.range' s (t - s) ++ List.range' t (b - t) := by
  have happend := List.range'_append_1 (s := s) (m := t - s) (n := b - t)
  rw [show s + (t - s) = t by omega, show t - s + (b - t) = b - s by omega] at happend
  exact happend.symm

/-- The characters at `n` columns from `s` on are that part of the line. -/
theorem flatMap_getElem?_range' (text : Text) (s n : Nat) :
    (List.range' s n).flatMap (fun k => text[k]?.toList) = (text.drop s).take n := by
  induction n generalizing s with
  | zero => simp
  | succ n ih =>
    rw [List.range'_succ, List.flatMap_cons, ih]
    rcases Nat.lt_or_ge s text.length with hlt | hge
    · rw [List.getElem?_eq_getElem hlt, List.drop_eq_getElem_cons hlt, List.take_succ_cons]
      rfl
    · rw [List.getElem?_eq_none hge, List.drop_eq_nil_of_le hge,
        List.drop_eq_nil_of_le (by omega)]
      simp

/-- Without edits a column keeps its character. -/
theorem columnAt_nil (text : Text) (k : Nat) : columnAt text [] k = text[k]?.toList := rfl

/-- Edits that begin and end elsewhere say nothing about a column. -/
theorem columnAt_cons_of_not {text : Text} {e : PlainEdit} (edits : List PlainEdit) {k : Nat}
    (hstart : e.start ≠ k) (hcovers : e.covers k = false) :
    columnAt text (e :: edits) k = columnAt text edits k := by
  simp [columnAt, writtenAt, keptAt, hstart, hcovers]

/-- From the start of the first edit on, edits that end there say nothing. -/
theorem columnAt_eq_singleton {text : Text} {e : PlainEdit} {edits : List PlainEdit} {k : Nat}
    (hbelow : ∀ a ∈ edits, a.start < k ∧ a.stop ≤ k) :
    columnAt text (e :: edits) k = columnAt text [e] k := by
  have hfilter : edits.filter (fun a => a.fits text && a.start == (k : Int)) = [] := by
    rw [List.filter_eq_nil_iff]
    intro a ha
    have hne : a.start ≠ k := Int.ne_of_lt (hbelow a ha).1
    simp [hne]
  have hfree : edits.any (fun a => a.fits text && a.covers k) = false := by
    rw [List.any_eq_false]
    intro a ha
    have hover : ¬ (k : Int) < a.stop := Int.not_lt.2 (hbelow a ha).2
    simp [covers, hover]
  have hwritten : writtenAt text (e :: edits) k = writtenAt text [e] k := by
    simp [writtenAt, List.filter_cons, hfilter]
  have hkept : keptAt text (e :: edits) k = keptAt text [e] k := by
    rw [keptAt, keptAt, List.any_cons, List.any_cons, hfree, List.any_nil]
  rw [columnAt, columnAt, hwritten, hkept]

/-- The columns from the start of an edit on, up to `b`. -/
theorem flatMap_columnAt_singleton {text : Text} {e : PlainEdit} {s t b : Nat}
    (hs : e.start = s) (ht : e.stop = t) (hst : s ≤ t) (htb : t ≤ b) (hsb : s < b) :
    (List.range' s (b - s)).flatMap (columnAt text [e]) =
      if e.fits text then e.new ++ (text.take b).drop t else (text.take b).drop s := by
  split
  · rename_i hfits
    have hfirst : columnAt text [e] s = e.new ++ keptAt text [e] s := by
      simp [columnAt, writtenAt, hfits, hs]
    have hlater : ∀ k ∈ List.range' (s + 1) (b - (s + 1)),
        columnAt text [e] k = keptAt text [e] k := by
      intro k hk
      have hne : e.start ≠ k := by
        have := List.mem_range'_1.1 hk
        omega
      simp [columnAt, writtenAt, hne]
    have hinside : ∀ k ∈ List.range' s (t - s), keptAt text [e] k = [] := by
      intro k hk
      have hk' := List.mem_range'_1.1 hk
      have hcovers : e.covers k = true := by
        rw [covers, hs, ht, Bool.and_eq_true, decide_eq_true_eq, decide_eq_true_eq]
        omega
      simp [keptAt, hfits, hcovers]
    have hbehind : ∀ k ∈ List.range' t (b - t), keptAt text [e] k = text[k]?.toList := by
      intro k hk
      have hk' := List.mem_range'_1.1 hk
      have hover : ¬ (k : Int) < e.stop := by omega
      simp [keptAt, covers, hover]
    -- the new text stands first, and behind it what the edit does not cover
    calc (List.range' s (b - s)).flatMap (columnAt text [e])
        = e.new ++ (List.range' s (b - s)).flatMap (keptAt text [e]) := by
          rw [range'_eq_cons hsb, List.flatMap_cons, List.flatMap_cons, hfirst, List.append_assoc,
            List.flatMap_congr hlater]
      _ = e.new ++ (List.range' t (b - t)).flatMap (fun k => text[k]?.toList) := by
          rw [range'_split hst htb, List.flatMap_append, List.flatMap_eq_nil_iff.2 hinside,
            List.nil_append, List.flatMap_congr hbehind]
      _ = e.new ++ (text.take b).drop t := by
          rw [flatMap_getElem?_range', List.drop_take]
  · rename_i hstale
    have hkept : ∀ k ∈ List.range' s (b - s), columnAt text [e] k = text[k]?.toList := by
      intro k _
      simp [columnAt, writtenAt, keptAt, hstale]
    rw [List.flatMap_congr hkept, flatMap_getElem?_range', List.drop_take]

/-! ## A run on one line -/

/-- Edits for one line from right to left: each one ends before the one in front of it begins. -/
def Descending (edits : List PlainEdit) : Prop :=
  edits.Pairwise fun a b => b.start < a.start ∧ b.stop ≤ a.start

/-- An edit of a line that is still the original one up to a column behind the edit. -/
theorem onLine_take_append {text : Text} {e : PlainEdit} {s t b : Nat} (hs : e.start = s)
    (ht : e.stop = t) (hst : s ≤ t) (htb : t ≤ b) (htline : t ≤ text.length) (tail : Text) :
    e.onLine (text.take b ++ tail) =
      text.take s ++ ((if e.fits text then e.new ++ (text.take b).drop t
        else (text.take b).drop s) ++ tail) := by
  have hlength : t ≤ (text.take b).length := by
    rw [List.length_take]
    omega
  have htake : ∀ k, k ≤ t → (text.take b ++ tail).take k = text.take k := by
    intro k hk
    rw [List.take_append_of_le_length (by omega), List.take_take, Nat.min_eq_left (by omega)]
  rw [onLine, fits_congr hs ht (htake t (Nat.le_refl t))]
  split
  · rw [replace_columns hs ht, htake s hst, List.drop_append_of_le_length hlength]
    simp only [List.append_assoc]
  · have hsplit : text.take b = text.take s ++ (text.take b).drop s := by
      have hprefix : (text.take b).take s = text.take s := by
        rw [List.take_take, Nat.min_eq_left (by omega)]
      rw [← hprefix, List.take_append_drop]
    rw [← List.append_assoc, ← hsplit]

/-- The columns up to `b`, split where the rightmost edit begins. -/
theorem flatMap_columnAt_cons {text : Text} {e : PlainEdit} {edits : List PlainEdit} {s t b : Nat}
    (hs : e.start = s) (ht : e.stop = t) (hst : s ≤ t) (htb : t ≤ b) (hsb : s < b)
    (hbelow : ∀ a ∈ edits, a.start < s ∧ a.stop ≤ s) :
    (List.range b).flatMap (columnAt text (e :: edits)) =
      (List.range s).flatMap (columnAt text edits) ++
        if e.fits text then e.new ++ (text.take b).drop t else (text.take b).drop s := by
  have hleft : ∀ k ∈ List.range s, columnAt text (e :: edits) k = columnAt text edits k := by
    intro k hk
    have hk' := List.mem_range.1 hk
    have hcovers : e.covers k = false := by
      rw [covers, Bool.and_eq_false_iff, decide_eq_false_iff_not]
      omega
    exact columnAt_cons_of_not edits (by omega) hcovers
  have hright : ∀ k ∈ List.range' s (b - s),
      columnAt text (e :: edits) k = columnAt text [e] k := by
    intro k hk
    have hk' := List.mem_range'_1.1 hk
    refine columnAt_eq_singleton fun a ha => ?_
    have := hbelow a ha
    omega
  have hsplit : List.range b = List.range s ++ List.range' s (b - s) := by
    rw [List.range_eq_range', List.range_eq_range']
    exact range'_split (Nat.zero_le s) (Nat.le_of_lt hsb)
  rw [hsplit, List.flatMap_append, List.flatMap_congr hleft, List.flatMap_congr hright,
    flatMap_columnAt_singleton hs ht hst htb hsb]

/-- The run invariant.  Edits from right to left, on a line that is the original one up to column
`b`, leave what the edits make of the columns up to `b` when they are made at once. -/
theorem foldl_onLine {text : Text} {edits : List PlainEdit} (hdesc : Descending edits)
    (hwithin : ∀ e ∈ edits, 0 ≤ e.start ∧ e.start ≤ e.stop ∧ e.stop ≤ text.length) {b : Nat}
    (hbelow : ∀ e ∈ edits, e.start < b ∧ e.stop ≤ b) (tail : Text) :
    edits.foldl (fun text e => e.onLine text) (text.take b ++ tail) =
      (List.range b).flatMap (columnAt text edits) ++ tail := by
  induction edits generalizing b tail with
  | nil =>
    show text.take b ++ tail = (List.range b).flatMap (fun k => text[k]?.toList) ++ tail
    rw [List.range_eq_range', flatMap_getElem?_range', List.drop_zero]
  | cons e rest ih =>
    obtain ⟨hright, hrest⟩ := List.pairwise_cons.1 hdesc
    obtain ⟨hstart, hstop, hlength⟩ := hwithin e List.mem_cons_self
    obtain ⟨hstartb, hstopb⟩ := hbelow e List.mem_cons_self
    obtain ⟨s, hs⟩ := Int.eq_ofNat_of_zero_le hstart
    obtain ⟨t, ht⟩ := Int.eq_ofNat_of_zero_le (Int.le_trans hstart hstop)
    have hbelow' : ∀ a ∈ rest, a.start < s ∧ a.stop ≤ s := by
      intro a ha
      have := hright a ha
      omega
    rw [List.foldl_cons, onLine_take_append hs ht (by omega) (by omega) (by omega),
      ih hrest (fun a ha => hwithin a (List.mem_cons_of_mem e ha)) hbelow',
      flatMap_columnAt_cons hs ht (by omega) (by omega) (by omega) hbelow', List.append_assoc]

/-- Edits from right to left make of a line what they make of it at once. -/
theorem foldl_onLine_eq_simultaneous {text : Text} {edits : List PlainEdit}
    (hdesc : Descending edits)
    (hwithin : ∀ e ∈ edits, 0 ≤ e.start ∧ e.start ≤ e.stop ∧ e.stop ≤ text.length) :
    edits.foldl (fun text e => e.onLine text) text = simultaneous text edits := by
  have hbelow : ∀ e ∈ edits,
      e.start < (text.length + 1 : Nat) ∧ e.stop ≤ (text.length + 1 : Nat) := by
    intro e he
    have := hwithin e he
    omega
  have hrun := foldl_onLine hdesc hwithin hbelow []
  rw [List.take_of_length_le (Nat.le_succ _), List.append_nil, List.append_nil] at hrun
  exact hrun

/-! ## The order of the edits -/

/-- Of edits that begin at different columns at most one writes at a column, so their order does not
matter. -/
theorem writtenAt_perm {text : Text} {edits others : List PlainEdit} (hperm : edits.Perm others)
    (hstarts : edits.Pairwise fun a b => a.start ≠ b.start) (k : Nat) :
    writtenAt text edits k = writtenAt text others k := by
  unfold writtenAt
  have hfilter := hperm.filter fun e => e.fits text && e.start == (k : Int)
  have hpairs := hstarts.filter fun e => e.fits text && e.start == (k : Int)
  have hstart : ∀ e ∈ edits.filter fun e => e.fits text && e.start == (k : Int), e.start = k := by
    intro e he
    have := (List.mem_filter.1 he).2
    rw [Bool.and_eq_true, beq_iff_eq] at this
    exact this.2
  match hwriting : edits.filter fun e => e.fits text && e.start == (k : Int) with
  | [] =>
    rw [hwriting] at hfilter
    rw [hwriting, ← hfilter.nil_eq]
  | [e] =>
    rw [hwriting] at hfilter
    rw [hwriting, ← List.singleton_perm.1 hfilter]
  | a :: b :: rest =>
    rw [hwriting] at hpairs hstart
    have hne := (List.pairwise_cons.1 hpairs).1 b List.mem_cons_self
    rw [hstart a List.mem_cons_self, hstart b (List.mem_cons_of_mem a List.mem_cons_self)] at hne
    exact absurd rfl hne

/-- Made at once, edits that begin at different columns give the same in any order. -/
theorem simultaneous_perm {text : Text} {edits others : List PlainEdit}
    (hperm : edits.Perm others) (hstarts : edits.Pairwise fun a b => a.start ≠ b.start) :
    simultaneous text edits = simultaneous text others := by
  unfold simultaneous
  refine List.flatMap_congr fun k _ => ?_
  rw [columnAt, columnAt, writtenAt_perm hperm hstarts, keptAt, keptAt, hperm.any_eq]

theorem Separate.perm {lines : List Text} {edits others : List PlainEdit}
    (hsep : Separate lines edits) (hperm : edits.Perm others) : Separate lines others := by
  refine ⟨fun e he => hsep.within e (hperm.mem_iff.2 he), ?_⟩
  refine (hperm.pairwise_iff ?_).1 hsep.apart
  intro a b hab i hb ha
  obtain ⟨hne, hover⟩ := hab i ha hb
  exact ⟨hne.symm, hover.symm⟩

/-- Of the edits for one line no two begin at the same column. -/
theorem Separate.starts_forLine {lines : List Text} {edits : List PlainEdit}
    (hsep : Separate lines edits) (i : Nat) :
    (forLine edits lines.length i).Pairwise fun a b => a.start ≠ b.start := by
  refine (hsep.apart.filter _).imp_of_mem ?_
  intro a b ha hb hab
  exact (hab i (mem_forLine.1 ha).2 (mem_forLine.1 hb).2).1

/-- The edits for one line lie on it. -/
theorem Separate.within_forLine {lines : List Text} {edits : List PlainEdit}
    (hsep : Separate lines edits) {i : Nat} {text : Text} (hline : lines[i]? = some text) :
    ∀ e ∈ forLine edits lines.length i, 0 ≤ e.start ∧ e.start ≤ e.stop ∧ e.stop ≤ text.length := by
  intro e he
  obtain ⟨hmem, htarget⟩ := mem_forLine.1 he
  have hwithin := hsep.within e hmem i htarget
  rw [List.getD_eq_getElem?_getD, hline] at hwithin
  exact ⟨(target?_eq_some_iff.1 htarget).2.2, hwithin⟩

/-- In application order an edit comes before those for its line that lie to the left of it. -/
theorem Separate.pairwise_inOrder {lines : List Text} {edits : List PlainEdit}
    (hsep : Separate lines edits) :
    (inOrder edits).Pairwise fun a b => ∀ i ∈ a.target? lines.length,
      b.target? lines.length = some i → b.start < a.start ∧ b.stop ≤ a.start := by
  have hordered := hsep.perm (inOrder_perm edits).symm
  refine ((PlainEdit.pairwise_inOrder edits).and hordered.apart).imp_of_mem ?_
  intro a b ha _ hab i hai hbi
  obtain ⟨hfirst, hapart⟩ := hab
  obtain ⟨hne, hover⟩ := hapart i hai hbi
  have hwithin := (hordered.within a ha i hai).1
  have hline := (target?_eq_some_iff.1 hai).1
  have hline' := (target?_eq_some_iff.1 hbi).1
  rw [mayPrecede_iff] at hfirst
  omega

theorem Separate.descending_forLine {lines : List Text} {edits : List PlainEdit}
    (hsep : Separate lines edits) (i : Nat) :
    Descending (forLine (inOrder edits) lines.length i) := by
  refine (hsep.pairwise_inOrder.filter _).imp_of_mem ?_
  intro a b ha hb hab
  exact hab i (mem_forLine.1 ha).2 (mem_forLine.1 hb).2

/-- Carrying out separate edits in application order makes of the lines what the edits make of them
at once. -/
theorem Separate.carryOutAll_inOrder {lines : List Text} {edits : List PlainEdit}
    (hsep : Separate lines edits) :
    carryOutAll (inOrder edits) lines = simultaneousLines lines edits := by
  refine List.ext_getElem? fun i => ?_
  rw [getElem?_carryOutAll, simultaneousLines, List.getElem?_mapIdx]
  cases hline : lines[i]? with
  | none => rfl
  | some text =>
    have hordered := hsep.perm (inOrder_perm edits).symm
    have hperm : (forLine (inOrder edits) lines.length i).Perm (forLine edits lines.length i) :=
      (inOrder_perm edits).filter _
    rw [Option.map_some, Option.map_some,
      foldl_onLine_eq_simultaneous (hsep.descending_forLine i) (hordered.within_forLine hline),
      simultaneous_perm hperm (hordered.starts_forLine i)]

theorem simultaneous_nil (text : Text) : simultaneous text [] = text := by
  have hcolumns := flatMap_getElem?_range' text 0 (text.length + 1)
  rw [List.drop_zero, List.take_of_length_le (Nat.le_succ _), ← List.range_eq_range'] at hcolumns
  exact hcolumns

theorem forLine_of_target {edits : List PlainEdit} {count i : Nat}
    (h : ∀ e ∈ edits, e.target? count = some i) (j : Nat) :
    forLine edits count j = if j = i then edits else [] := by
  split
  · rename_i heq
    exact List.filter_eq_self.2 fun e he => beq_iff_eq.2 (heq ▸ h e he)
  · rename_i hne
    refine List.filter_eq_nil_iff.2 fun e he => ?_
    rw [h e he, beq_iff_eq, Option.some.injEq]
    exact Ne.symm hne

/-- Edits for one line leave all other lines as they are. -/
theorem simultaneousLines_of_target {lines : List Text} {edits : List PlainEdit} {i : Nat}
    (h : ∀ e ∈ edits, e.target? lines.length = some i) :
    simultaneousLines lines edits = lines.modify i fun text => simultaneous text edits := by
  refine List.ext_getElem? fun j => ?_
  rw [simultaneousLines, List.getElem?_mapIdx, List.getElem?_modify, forLine_of_target h j]
  by_cases hij : i = j
  · simp [hij]
  · simp [hij, Ne.symm hij, simultaneous_nil]

/-- **Edits in turn are edits at once.**  Edits that lie on their lines and do not overlap, in any
order, make of the original lines what all of them make of these at once; so their order does not
matter. -/
theorem applyEdits_eq_simultaneous (lines : List Text) (edits : List PlainEdit)
    (hsep : Separate lines edits) :
    (applyEdits (lines.map .text) (edits.map edit)).value =
        .ok ((simultaneousLines lines edits).map .text) ∧
      ∀ others : List PlainEdit, others.Perm edits →
        (applyEdits (lines.map .text) (others.map edit)).value =
          (applyEdits (lines.map .text) (edits.map edit)).value := by
  have happly : ∀ others : List PlainEdit, others.Perm edits →
      (applyEdits (lines.map .text) (others.map edit)).value =
        .ok ((simultaneousLines lines edits).map .text) := by
    intro others hperm
    have hothers := hsep.perm hperm.symm
    rw [applyEdits_plain, hothers.carryOutAll_inOrder]
    have hlines : simultaneousLines lines others = simultaneousLines lines edits := by
      unfold simultaneousLines
      congr 1
      funext i text
      exact simultaneous_perm (hperm.filter _) (hothers.starts_forLine i)
    rw [hlines]
  refine ⟨happly edits (List.Perm.refl edits), fun others hperm => ?_⟩
  rw [happly others hperm, happly edits (List.Perm.refl edits)]

/-- Two lines with edits of every sort: an insertion that touches a replacement, a text that differs
in case, one that the line does not hold, a line and a column that do not exist. -/
def mixedLines : List Text := ["ab c".toList, "x".toList]

@[inherit_doc mixedLines]
def mixedEdits : List PlainEdit := [
  ⟨1, 2, 2, [], "_".toList, []⟩, ⟨2, 0, 1, "x".toList, "yy".toList, []⟩,
  ⟨1, -1, 9, "b".toList, "no".toList, []⟩, ⟨1, 0, 2, "AB".toList, "long".toList, []⟩,
  ⟨7, 0, 1, "x".toList, "no".toList, []⟩, ⟨1, 3, 4, "z".toList, "no".toList, []⟩]

theorem applyEdits_mixed :
    Separate mixedLines mixedEdits ∧
      (applyEdits (mixedLines.map .text) (mixedEdits.map edit)).value =
        .ok [.text "long_ c".toList, .text "yy".toList] := by
  have hsep : Separate mixedLines mixedEdits := ⟨by decide, by decide⟩
  refine ⟨hsep, (applyEdits_eq_simultaneous mixedLines mixedEdits hsep).1.trans ?_⟩
  have hlines : simultaneousLines mixedLines mixedEdits = ["long_ c".toList, "yy".toList] := by
    decide
  rw [hlines]
  rfl

/-! ## Warnings -/

/-- An edit leaves the line as it is up to its start column. -/
theorem take_onLine {e : PlainEdit} {s t k : Nat} (hs : e.start = s) (ht : e.stop = t)
    (hks : k ≤ s) {text : Text} (hk : k ≤ text.length) : (e.onLine text).take k = text.take k := by
  rw [onLine]
  split
  · rw [replace_columns hs ht, List.append_assoc, List.take_append_of_le_length (by simp; omega),
      List.take_take, Nat.min_eq_left hks]
  · rfl

theorem warnings_congr {e : PlainEdit} {lines others : List Text}
    (hlength : others.length = lines.length)
    (h : ∀ i ∈ e.target? lines.length,
      e.columns.found (others.getD i []) = e.columns.found (lines.getD i [])) :
    e.warnings others = e.warnings lines := by
  unfold warnings
  rw [hlength]
  cases htarget : e.target? lines.length with
  | none => rfl
  | some i =>
    have hfits : e.fits (others.getD i []) = e.fits (lines.getD i []) := by
      rw [fits, fits, h i htarget]
    show (if e.fits (others.getD i []) = true then []
      else [e.edit.staleText (e.columns.found (others.getD i []))]) = _
    rw [hfits, h i htarget]

/-- What an edit for the same line leaves alone stays as it was. -/
theorem take_getD_carryOut {e : PlainEdit} {lines : List Text} {i k : Nat} (hi : i < lines.length)
    (hk : k ≤ (lines.getD i []).length)
    (hleft : e.target? lines.length = some i → 0 ≤ e.stop ∧ (k : Int) ≤ e.start) :
    ((e.carryOut lines).getD i []).take k = (lines.getD i []).take k := by
  have hget : lines[i]? = some (lines.getD i []) := by
    rw [List.getD_eq_getElem?_getD, List.getElem?_eq_getElem hi]
    rfl
  rw [List.getD_eq_getElem?_getD, getElem?_carryOut, hget]
  by_cases htarget : e.target? lines.length = some i
  · obtain ⟨hstop, hstart⟩ := hleft htarget
    obtain ⟨s, hs⟩ := Int.eq_ofNat_of_zero_le (Int.le_trans (Int.natCast_nonneg k) hstart)
    obtain ⟨t, ht⟩ := Int.eq_ofNat_of_zero_le hstop
    rw [if_pos htarget]
    exact take_onLine hs ht (by omega) hk
  · rw [if_neg htarget]
    rfl

/-- Each edit is judged by the original lines, as those before it in the run lie to its right. -/
theorem allWarnings_eq_flatMap {lines current : List Text} {edits : List PlainEdit}
    (hlength : current.length = lines.length)
    (hwithin : ∀ e ∈ edits, ∀ i ∈ e.target? lines.length,
      e.start ≤ e.stop ∧ e.stop ≤ (lines.getD i []).length)
    (hleft : edits.Pairwise fun a b => ∀ i ∈ a.target? lines.length,
      b.target? lines.length = some i → b.start < a.start ∧ b.stop ≤ a.start)
    (hsame : ∀ e ∈ edits, ∀ i ∈ e.target? lines.length,
      (current.getD i []).take e.stop.toNat = (lines.getD i []).take e.stop.toNat) :
    allWarnings edits current = edits.flatMap fun e => e.warnings lines := by
  induction edits generalizing current with
  | nil => rfl
  | cons e rest ih =>
    obtain ⟨hfirst, hrest⟩ := List.pairwise_cons.1 hleft
    have hwarnings : e.warnings current = e.warnings lines := by
      refine warnings_congr hlength fun i hi => ?_
      have hstart := (target?_eq_some_iff.1 hi).2.2
      have hstop := (hwithin e List.mem_cons_self i hi).1
      exact found_congr (Int.toNat_of_nonneg hstart).symm
        (Int.toNat_of_nonneg (Int.le_trans hstart hstop)).symm
        (hsame e List.mem_cons_self i hi)
    have hstep : ∀ a ∈ rest, ∀ i ∈ a.target? lines.length,
        ((e.carryOut current).getD i []).take a.stop.toNat =
          (lines.getD i []).take a.stop.toNat := by
      intro a ha i hi
      have hsame' := hsame a (List.mem_cons_of_mem e ha) i hi
      obtain ⟨hstart, hstop⟩ := hwithin a (List.mem_cons_of_mem e ha) i hi
      have hnonneg := (target?_eq_some_iff.1 hi).2.2
      have hlong : a.stop.toNat ≤ (current.getD i []).length := by
        have := congrArg List.length hsame'
        rw [List.length_take, List.length_take] at this
        omega
      have hi' : i < current.length := by
        rw [hlength]
        exact (target?_eq_some_iff.1 hi).2.1
      rw [take_getD_carryOut hi' hlong, hsame']
      intro htarget
      rw [hlength] at htarget
      have hbefore := hfirst a ha i htarget hi
      have hrange := hwithin e List.mem_cons_self i htarget
      omega
    rw [allWarnings, List.flatMap_cons, hwarnings,
      ih (by rw [length_carryOut, hlength]) (fun a ha => hwithin a (List.mem_cons_of_mem e ha))
        hrest hstep]

/-- Separate edits give the warnings that each of them gives on the original lines. -/
theorem Separate.allWarnings_inOrder {lines : List Text} {edits : List PlainEdit}
    (hsep : Separate lines edits) :
    allWarnings (inOrder edits) lines = (inOrder edits).flatMap fun e => e.warnings lines := by
  have hordered := hsep.perm (inOrder_perm edits).symm
  exact allWarnings_eq_flatMap rfl hordered.within hsep.pairwise_inOrder fun _ _ _ _ => rfl

end RenamePlan.PlainEdit
