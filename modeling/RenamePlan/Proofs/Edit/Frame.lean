import RenamePlan.Proofs.Edit.Plain
import RenamePlan.Proofs.History.StableSort
import RenamePlan.Proofs.Line.Occurrence
import RenamePlan.Proofs.Text.Folding

/-!
# What an edit leaves alone

Edits are sorted as one list and applied to one list of lines.  This module says how far an edit
reaches, whatever the others are: they may overlap, begin at one position, or be stale.

* **Lines** — a line comes out as its own edits leave it, in their own order
  (`getElem?_carryOutAll_inOrder`).  All edits pass through one sort, but a stable sort does not
  show what else was sorted (`filter_inOrder`).
* **Columns** — on its line an edit that is carried out replaces a part of the line by its new text
  (`splices_onLine`), provided that its stop column is not before its start column.  Where it is,
  the columns hold nothing, and an edit that expects nothing is carried out all the same: what
  stands between the two columns then stands twice (`exists_onLine_of_isMisplaced`).
-/

namespace RenamePlan.PlainEdit

open Std

/-! ## Lines -/

instance : TransCmp cmp :=
  @TransCmp.opposite _ (compareLex (compareOn PlainEdit.line) (compareOn PlainEdit.start)) _

theorem inOrder_eq_sortBy (edits : List PlainEdit) : inOrder edits = sortBy cmp edits := by
  have horder : mayPrecede = fun a b => (cmp a b).isLE := by
    funext a b
    exact (isLE_cmp a b).symm
  rw [inOrder, sortBy, horder]

/-- Selected edits are put in the order that they have among all. -/
theorem filter_inOrder (p : PlainEdit → Bool) (edits : List PlainEdit) :
    (inOrder edits).filter p = inOrder (edits.filter p) := by
  rw [inOrder_eq_sortBy, inOrder_eq_sortBy, filter_sortBy]

/-- What the edits make of a line that all of them are for.  One that begins before the first column
is skipped. -/
def inOrderOnLine (edits : List PlainEdit) (text : Text) : Text :=
  ((inOrder edits).filter fun e => 0 ≤ e.start).foldl (fun text e => e.onLine text) text

theorem inOrderOnLine_nil (text : Text) : inOrderOnLine [] text = text := by
  simp [inOrderOnLine, inOrder]

/-- The edits with the number of the line at index `i`. -/
def numbered (edits : List PlainEdit) (i : Nat) : List PlainEdit :=
  edits.filter fun e => e.line = i + 1

/-- Of the edits with the number of a line all are for it, but for those that begin before the first
column. -/
theorem forLine_inOrder {count i : Nat} (hi : i < count) (edits : List PlainEdit) :
    forLine (inOrder edits) count i =
      (inOrder (numbered edits i)).filter fun e => 0 ≤ e.start := by
  rw [numbered, ← filter_inOrder, List.filter_filter, forLine]
  apply List.filter_congr
  intro e _
  rw [Bool.eq_iff_iff, beq_iff_eq, target?_eq_some_iff]
  simp only [Bool.and_eq_true, decide_eq_true_eq]
  omega

/-- Each line comes out as its own edits leave it. -/
theorem getElem?_carryOutAll_inOrder (edits : List PlainEdit) (lines : List Text) (i : Nat) :
    (carryOutAll (inOrder edits) lines)[i]? =
      lines[i]?.map (inOrderOnLine (numbered edits i)) := by
  rw [getElem?_carryOutAll]
  cases hline : lines[i]? with
  | none => rfl
  | some text =>
    obtain ⟨hi, _⟩ := List.getElem?_eq_some_iff.1 hline
    simp only [Option.map_some, forLine_inOrder hi, inOrderOnLine]

theorem length_carryOutAll (edits : List PlainEdit) (lines : List Text) :
    (carryOutAll edits lines).length = lines.length := by
  induction edits generalizing lines with
  | nil => rfl
  | cons e rest ih =>
    show (carryOutAll rest (e.carryOut lines)).length = lines.length
    rw [ih, length_carryOut]

/-- **Lines are edited on their own.**  Application always succeeds and keeps the number of lines.
What it makes of a line depends on nothing but this line and the edits with its number, in the order
in which these are given: two sources that agree in both have the same line afterwards.  A line
whose number no edit has stays as it is. -/
theorem applyEdits_line_by_line (lines others : List Text) (edits otherEdits : List PlainEdit) :
    ∃ result otherResult : List Text,
      (applyEdits (lines.map .text) (edits.map edit)).value = .ok (result.map .text) ∧
      (applyEdits (others.map .text) (otherEdits.map edit)).value = .ok (otherResult.map .text) ∧
      (∀ i : Nat, lines[i]? = others[i]? → numbered edits i = numbered otherEdits i →
        result[i]? = otherResult[i]?) ∧
      result.length = lines.length ∧
      ∀ i : Nat, (∀ e ∈ edits, e.line ≠ i + 1) → result[i]? = lines[i]? := by
  refine ⟨carryOutAll (inOrder edits) lines, carryOutAll (inOrder otherEdits) others, ?_, ?_, ?_,
    length_carryOutAll _ lines, ?_⟩
  · rw [applyEdits_plain]
  · rw [applyEdits_plain]
  · intro i hline hedits
    rw [getElem?_carryOutAll_inOrder, getElem?_carryOutAll_inOrder, hline, hedits]
  · intro i hnone
    have hempty : numbered edits i = [] := by
      apply List.filter_eq_nil_iff.2
      intro e he
      simpa using hnone e he
    rw [getElem?_carryOutAll_inOrder, hempty, funext inOrderOnLine_nil]
    simp

/-! ## Columns -/

/-- The new text of the edit stands in place of a part of the line that begins in the start column
and is the old text, up to case folding. -/
def Splices (e : PlainEdit) (line result : Text) : Prop :=
  ∃ before middle after : Text, line = before ++ middle ++ after ∧ before.length = e.start ∧
    sameName middle e.old = true ∧ result = before ++ e.new ++ after

/-- The edit is carried out, though its stop column lies before its start column.  Columns outside
the line count as in `Text.place`, so that a start column behind the end of the line lies behind
every stop column. -/
def IsMisplaced (e : PlainEdit) (line : Text) : Prop :=
  0 ≤ e.start ∧ Text.place line.length e.stop < e.start ∧ e.fits line = true

instance (e : PlainEdit) (line : Text) : Decidable (e.IsMisplaced line) :=
  inferInstanceAs (Decidable (_ ∧ _ ∧ _))

theorem found_eq (e : PlainEdit) (line : Text) : e.columns.found line =
    (line.take (Text.place line.length e.stop)).drop (Text.place line.length e.start) := rfl

theorem replace_eq (e : PlainEdit) (line : Text) : e.columns.replace line e.new =
    line.take (Text.place line.length e.start) ++ e.new ++
      line.drop (Text.place line.length e.stop) := rfl

section Columns

variable {e : PlainEdit} {line : Text}

/-- With the start column not behind the stop column, an edit that is carried out splices. -/
theorem splices_onLine (hstart : 0 ≤ e.start) (hstop : e.start ≤ Text.place line.length e.stop)
    (hfits : e.fits line = true) : e.Splices line (e.onLine line) := by
  obtain ⟨s, hs⟩ := Int.eq_ofNat_of_zero_le hstart
  have hline := Text.place_le line.length e.stop
  have hplace : Text.place line.length e.start = s := by
    rw [Text.place_of_nonneg hstart, hs, Int.toNat_natCast]
    omega
  have hfound := found_eq e line
  have hreplace := replace_eq e line
  rw [hplace] at hfound hreplace
  refine ⟨line.take s, e.columns.found line, line.drop (Text.place line.length e.stop), ?_, ?_,
    hfits, ?_⟩
  · rw [hfound, List.drop_take, ← take_eq_append_part line (by omega), List.take_append_drop]
  · rw [List.length_take, hs]
    omega
  · rw [onLine, if_pos hfits, hreplace]

/-- Nothing has the fold of nothing but nothing. -/
theorem eq_nil_of_sameName {name : Text} (h : sameName [] name = true) : name = [] := by
  cases name with
  | nil => rfl
  | cons c rest =>
    have hfold : [] = foldChar c ++ fold rest := sameName_iff.1 h
    exact absurd (List.append_eq_nil_iff.1 hfold.symm).1 (foldChar_ne_nil c)

theorem found_eq_nil (h : Text.place line.length e.stop ≤ Text.place line.length e.start) :
    e.columns.found line = [] := by
  rw [found_eq, List.drop_eq_nil_iff, List.length_take]
  omega

theorem IsMisplaced.place_le (h : e.IsMisplaced line) :
    Text.place line.length e.stop ≤ Text.place line.length e.start := by
  obtain ⟨hstart, hbefore, _⟩ := h
  have hplace := Text.place_le line.length e.stop
  rw [Text.place_of_nonneg hstart]
  omega

/-- Only an edit that expects nothing is misplaced. -/
theorem IsMisplaced.old_eq_nil (h : e.IsMisplaced line) : e.old = [] := by
  have hfits := h.2.2
  rw [fits, found_eq_nil h.place_le] at hfits
  exact eq_nil_of_sameName hfits

/-- What stands between the columns of a misplaced edit stands twice afterwards. -/
theorem exists_onLine_of_isMisplaced (h : e.IsMisplaced line) :
    ∃ before twice after : Text, line = before ++ twice ++ after ∧
      before.length = Text.place line.length e.stop ∧
      (before ++ twice).length = Text.place line.length e.start ∧
      e.onLine line = before ++ twice ++ e.new ++ twice ++ after := by
  have hle := h.place_le
  have hline := Text.place_le line.length e.start
  have hreplace := replace_eq e line
  generalize Text.place line.length e.start = p at hle hline hreplace
  generalize Text.place line.length e.stop = q at hle hreplace
  have hfront := take_eq_append_part line hle
  have hback := drop_eq_part_append line hle
  refine ⟨line.take q, (line.drop q).take (p - q), line.drop p, ?_, ?_, ?_, ?_⟩
  · rw [← hfront, List.take_append_drop]
  · rw [List.length_take]
    omega
  · rw [← hfront, List.length_take]
    omega
  · rw [← hfront, List.append_assoc (line.take p ++ e.new), ← hback, onLine, if_pos h.2.2, hreplace]

/-- A splice begins on the line, and adds no more than the new text. -/
theorem Splices.bounds {result : Text} (h : e.Splices line result) :
    e.start ≤ line.length ∧ result.length ≤ line.length + e.new.length := by
  obtain ⟨before, middle, after, rfl, hstart, _, rfl⟩ := h
  simp only [List.length_append]
  omega

/-- An edit changes nothing but its columns, unless it is misplaced.  A misplaced edit happens to
leave its line alone if both columns lie behind the line and it writes nothing. -/
theorem onLine_eq_or_splices_iff (hstart : 0 ≤ e.start) :
    (e.onLine line = line ∨ e.Splices line (e.onLine line)) ↔
      (e.IsMisplaced line → e.new = [] ∧ Text.place line.length e.stop = line.length) := by
  by_cases hmis : e.IsMisplaced line
  · obtain ⟨before, twice, after, hline, hbefore, htwice, hresult⟩ :=
      exists_onLine_of_isMisplaced hmis
    have hcolumns := hmis.2.1
    have hplace : Text.place line.length e.start = min e.start.toNat line.length :=
      Text.place_of_nonneg hstart
    -- the line grows by the new text and by what stands twice
    have hlength : (e.onLine line).length = line.length + e.new.length + twice.length := by
      rw [hresult, hline]
      simp only [List.length_append]
      omega
    rw [List.length_append] at htwice
    constructor
    · rintro (hkept | hsplices) _
      · rw [hkept] at hlength
        refine ⟨List.eq_nil_of_length_eq_zero (by omega), ?_⟩
        omega
      · have hbounds := hsplices.bounds
        omega
    · intro hnothing
      obtain ⟨hnew, hend⟩ := hnothing hmis
      have hnone : twice = [] := List.eq_nil_of_length_eq_zero (by omega)
      left
      rw [hresult, hline, hnew, hnone]
      simp
  · simp only [hmis, false_implies, iff_true]
    by_cases hfits : e.fits line = true
    · right
      refine splices_onLine hstart (Int.not_lt.1 fun hbefore => ?_) hfits
      exact hmis ⟨hstart, hbefore, hfits⟩
    · left
      rw [onLine, if_neg hfits]

/-- Behind the end of the line an edit is carried out iff it expects nothing. -/
theorem isMisplaced_iff_of_length_lt (h : line.length < e.start) :
    e.IsMisplaced line ↔ e.old = [] := by
  have hplace := Text.place_le line.length e.stop
  have hstart : 0 ≤ e.start := by omega
  constructor
  · exact IsMisplaced.old_eq_nil
  · intro hold
    refine ⟨hstart, by omega, ?_⟩
    have hnothing : e.columns.found line = [] := by
      apply found_eq_nil
      rw [Text.place_of_nonneg hstart]
      omega
    rw [fits, hnothing, hold]
    rfl

theorem value_applyEdits_single (hnumber : e.line = 1) :
    (applyEdits [.text line] [e.edit]).value =
      .ok [.text (if 0 ≤ e.start then e.onLine line else line)] := by
  have happly := congrArg Logged.value (applyEdits_plain [e] [line])
  have horder : inOrder [e] = [e] := List.mergeSort_singleton e
  rw [horder] at happly
  refine happly.trans ?_
  show Except.ok ((e.carryOut [line]).map Json.text) = _
  by_cases hstart : 0 ≤ e.start
  · have htarget : e.target? [line].length = some 0 := by simp [target?, hnumber, hstart]
    rw [carryOut, htarget, if_pos hstart]
    rfl
  · have htarget : e.target? [line].length = none := by simp [target?, hstart]
    rw [carryOut, htarget, if_neg hstart]
    rfl

end Columns

/-- **What one edit does to its line.**  An edit leaves its line as it is, or writes its new text in
place of a part that begins in the start column and has the old text, exactly if it is not misplaced
(or writes nothing behind the end of the line).  A misplaced edit expects nothing, and what stands
between its columns stands twice afterwards.  An edit that begins behind the end of the line is
misplaced if it expects nothing, and leaves the line alone if it expects something. -/
theorem applyEdits_single_edit (line : Text) (e : PlainEdit) (hnumber : e.line = 1) :
    ∃ result : Text, (applyEdits [.text line] [e.edit]).value = .ok [.text result] ∧
      ((result = line ∨ e.Splices line result) ↔
        (e.IsMisplaced line → e.new = [] ∧ Text.place line.length e.stop = line.length)) ∧
      (e.IsMisplaced line → e.old = [] ∧ ∃ before twice after : Text,
        line = before ++ twice ++ after ∧
        before.length = Text.place line.length e.stop ∧
        (before ++ twice).length = Text.place line.length e.start ∧
        result = before ++ twice ++ e.new ++ twice ++ after) ∧
      (line.length < e.start → (result = line ↔
        (e.old = [] → e.new = [] ∧ Text.place line.length e.stop = line.length))) := by
  refine ⟨_, value_applyEdits_single hnumber, ?_⟩
  by_cases hstart : 0 ≤ e.start
  · rw [if_pos hstart]
    refine ⟨onLine_eq_or_splices_iff hstart, ?_, ?_⟩
    · intro hmis
      exact ⟨hmis.old_eq_nil, exists_onLine_of_isMisplaced hmis⟩
    · intro hbehind
      rw [← isMisplaced_iff_of_length_lt hbehind, ← onLine_eq_or_splices_iff hstart, iff_self_or]
      intro hsplices
      have hbounds := hsplices.bounds
      omega
  · rw [if_neg hstart]
    have hplaced : ¬ e.IsMisplaced line := fun hmis => hstart hmis.1
    refine ⟨by simp [hplaced], fun hmis => absurd hmis hplaced, ?_⟩
    intro hbehind
    omega

/-- An edit of a word that its line has in another case, and the same edit for a line that is too
short for it. -/
theorem applyEdits_single_edit_total :
    (∃ result : Text,
      (applyEdits [.text "x = TOTAL".toList]
        [Edit.plain 1 4 9 "total".toList "sum".toList []]).value = .ok [.text result] ∧
      (result = "x = TOTAL".toList ∨
        Splices ⟨1, 4, 9, "total".toList, "sum".toList, []⟩ "x = TOTAL".toList result)) ∧
    (applyEdits [.text "x".toList] [Edit.plain 1 4 9 "total".toList "sum".toList []]).value =
      .ok [.text "x".toList] := by
  constructor
  · obtain ⟨result, happly, hiff, _⟩ :=
      applyEdits_single_edit "x = TOTAL".toList ⟨1, 4, 9, "total".toList, "sum".toList, []⟩ rfl
    refine ⟨result, happly, hiff.2 fun hmis => ?_⟩
    exact absurd hmis (by decide)
  · obtain ⟨result, happly, _, _, hbehind⟩ :=
      applyEdits_single_edit "x".toList ⟨1, 4, 9, "total".toList, "sum".toList, []⟩ rfl
    have hkept : result = "x".toList := by
      apply (hbehind (by decide)).2
      intro hnothing
      cases hnothing
    rw [hkept] at happly
    exact happly

/-- An edit that begins behind the line and expects nothing there. -/
def behindLine : PlainEdit := ⟨1, 5, 7, [], "X".toList, []⟩

/-- An edit that ends before it begins. -/
def backwards : PlainEdit := ⟨1, 2, 0, [], [], []⟩

/-- The first edit is not skipped, and the second one, which neither expects nor writes anything,
doubles the front of its line. -/
theorem applyEdits_misplaced :
    (applyEdits [.text "ab".toList] [behindLine.edit]).value = .ok [.text "abX".toList] ∧
      ¬ ("abX".toList = "ab".toList ∨ behindLine.Splices "ab".toList "abX".toList) ∧
      (applyEdits [.text "abc".toList] [backwards.edit]).value = .ok [.text "ababc".toList] ∧
      ¬ ("ababc".toList = "abc".toList ∨ backwards.Splices "abc".toList "ababc".toList) := by
  refine ⟨value_applyEdits_single rfl, ?_, value_applyEdits_single rfl, ?_⟩
  · rintro (hkept | hsplices)
    · exact absurd hkept (by decide)
    · exact absurd hsplices.bounds.1 (by decide)
  · rintro (hkept | hsplices)
    · exact absurd hkept (by decide)
    · exact absurd hsplices.bounds.2 (by decide)

end RenamePlan.PlainEdit
