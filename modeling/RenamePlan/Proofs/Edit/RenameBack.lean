import RenamePlan.Proofs.Edit.Respelling

/-!
# Renaming back

A rename of all occurrences, followed by one in the other direction, is two rounds of planning and
application; the columns of the second round are found on the line that the first one made.

* What a round makes of its line can be read off the matches that it found there: what stands
  between them is copied, and the new name is written over each (`overwrite_findMatches`).
* On the pieces of the line a round is a map, so two rounds compose.  If the line has no word with
  the letters of the new name, the second round finds exactly what the first one wrote
  (`respell_respell`).

The spelling of the matches is not kept by the first round, so the second one cannot bring it back:
each match comes back spelled as the old name was given.
-/

namespace RenamePlan

/-! ## Matches written over -/

/-- The line from column `k` on, with the name written over each match. -/
def overwriteFrom (name text : Text) : Nat → List Match → Text
  | k, [] => text.drop k
  | k, m :: rest => (text.drop k).take (m.start - k) ++ name ++ overwriteFrom name text m.stop rest

/-- The line with the name written over each match. -/
def overwrite (name text : Text) (found : List Match) : Text :=
  overwriteFrom name text 0 found

/-- Up to the first match the line is copied. -/
theorem overwriteFrom_copy {text : Text} {k b : Nat} {found : List Match} (hkb : k ≤ b)
    (hlater : ∀ m ∈ found, b ≤ m.start) (name : Text) :
    overwriteFrom name text k found =
      (text.drop k).take (b - k) ++ overwriteFrom name text b found := by
  cases found with
  | nil => exact drop_eq_part_append text hkb
  | cons m rest =>
    have hstart := hlater m List.mem_cons_self
    have hwidth : m.start - k = (b - k) + (m.start - b) := by omega
    have hcolumn : k + (b - k) = b := by omega
    simp only [overwriteFrom]
    rw [hwidth, List.take_add, List.drop_drop, hcolumn]
    simp only [List.append_assoc]

/-- Writing over the words that have the letters of a name spells the pieces anew.  The induction
goes over the pieces; a piece that is no such word is copied up to where the next one begins. -/
theorem overwriteFrom_wordsFrom {text : Text} {k : Nat} {found : List Text}
    (hfalls : FallsInto text k found) (old new : Text) :
    overwriteFrom new text k ((wordsFrom k found).filter fun m => spelledLike old m.text) =
      (found.map (respellPiece old new)).flatten := by
  induction hfalls with
  | done => exact List.drop_length
  | @run a b rest hrun hrest ih =>
    have hspelling : isSpelling old ((text.drop a).take (b - a)) =
        spelledLike old ((text.drop a).take (b - a)) := by
      rw [isSpelling, hrun.all_part, Bool.and_true]
    rw [wordsFrom_run hrun, List.map_cons, List.flatten_cons, ← ih, respellPiece, hspelling,
      List.filter_cons, hrun.slice_eq]
    split
    · simp [overwriteFrom]
    · refine overwriteFrom_copy (Nat.le_of_lt hrun.nonempty) ?_ new
      intro m hm
      exact ((mem_wordsFrom hrest).1 (List.mem_of_mem_filter hm)).1
  | @other k c rest hchar hc hrest ih =>
    obtain ⟨hk, rfl⟩ := List.getElem?_eq_some_iff.1 hchar
    have hpart : (text.drop k).take (k + 1 - k) = [text[k]] := by
      rw [List.drop_eq_getElem_cons hk, Nat.add_sub_cancel_left]
      rfl
    rw [wordsFrom_other hc, List.map_cons, List.flatten_cons, ← ih, respellPiece_other hc, ← hpart]
    refine overwriteFrom_copy (Nat.le_succ k) ?_ new
    intro m hm
    exact ((mem_wordsFrom hrest).1 (List.mem_of_mem_filter hm)).1

section Identifier

variable {text old new : Text} (hline : IsRegular text) (hold : ∀ c ∈ old, isWord c = true)

include hline hold

/-- Writing over the matches of an identifier spells its words anew. -/
theorem overwrite_findMatches :
    overwrite new text (findMatches text old) = respell old new text := by
  rw [findMatches_eq_filter hline hold]
  exact overwriteFrom_wordsFrom (fallsInto_pieces text) old new

/-- Where all matches are spelled as the name, writing the name over them changes nothing. -/
theorem overwrite_findMatches_self (hspelled : ∀ m ∈ findMatches text old, m.text = old) :
    overwrite old text (findMatches text old) = text := by
  have hpieces : ∀ piece ∈ pieces text, respellPiece old old piece = id piece := by
    intro piece hpiece
    unfold respellPiece
    split
    · rename_i hspelling
      have hmem : piece ∈ (findMatches text old).map Match.text := by
        rw [map_text_findMatches hline hold]
        exact List.mem_filter.2 ⟨hpiece, hspelling⟩
      obtain ⟨m, hm, rfl⟩ := List.mem_map.1 hmem
      exact (hspelled m hm).symm
    · rfl
  rw [overwrite_findMatches hline hold, respell, List.map_congr_left hpieces, List.map_id]
  exact List.flatten_splitBy joined text

end Identifier

/-! ## Two rounds -/

/-- A piece that is spelled anew and back again, if it did not have the letters of the new name. -/
theorem respellPiece_respellPiece {old new piece : Text} (hnew : IsName new)
    (hfree : isSpelling new piece = false) :
    respellPiece new old (respellPiece old new piece) = respellPiece old old piece := by
  have hitself : isSpelling new new = true := by
    rw [isSpelling, spelledLike_iff.2 rfl, List.all_eq_true.2 hnew.word]
    rfl
  by_cases hspelling : isSpelling old piece = true
  · simp [respellPiece, hspelling, hitself]
  · simp [respellPiece, hspelling, hfree]

/-- On a line without the new name, the second round spells as the old name what the first round
found, and nothing else. -/
theorem respell_respell {text old new : Text} (hline : IsRegular text) (hnew : IsName new)
    (hfree : findMatches text new = []) :
    respell new old (respell old new text) = respell old old text := by
  have hpieces : ∀ piece ∈ pieces text, isSpelling new piece = false := by
    have htexts := map_text_findMatches hline hnew.word
    rw [hfree, List.map_nil, eq_comm, List.filter_eq_nil_iff] at htexts
    intro piece hpiece
    exact Bool.eq_false_iff.2 (htexts piece hpiece)
  have hrounds : respell new old (respell old new text) =
      (((pieces text).map (respellPiece old new)).map (respellPiece new old)).flatten := by
    rw [← pieces_respell hnew old]
    rfl
  rw [hrounds, List.map_map, respell]
  congr 1
  apply List.map_congr_left
  intro piece hpiece
  exact respellPiece_respellPiece hnew (hpieces piece hpiece)

/-- A round leaves a regular line. -/
theorem isRegular_overwrite {text old new : Text} (hline : IsRegular text)
    (hold : ∀ c ∈ old, isWord c = true) (hnew : IsName new) :
    IsRegular (overwrite new text (findMatches text old)) := by
  rw [overwrite_findMatches hline hold]
  exact isRegular_respell hnew old hline

/-- Two rounds write the old name over what it was found as. -/
theorem overwrite_overwrite {text old new : Text} (hline : IsRegular text)
    (hold : ∀ c ∈ old, isWord c = true) (hnew : IsName new) (hfree : findMatches text new = []) :
    overwrite old (overwrite new text (findMatches text old))
        (findMatches (overwrite new text (findMatches text old)) new) =
      overwrite old text (findMatches text old) := by
  rw [overwrite_findMatches (isRegular_overwrite hline hold hnew) hnew.word,
    overwrite_findMatches hline hold, overwrite_findMatches hline hold,
    respell_respell hline hnew hfree]

namespace LineChange

variable {lines : List Text}

/-- One round: a new store takes the change, and applying what it holds skips nothing and writes the
new name over each match. -/
theorem exists_applyEdits_overwrite (module : Text) (c : LineChange lines) (hall : c.occurrence ≤ 0)
    (hliterals : c.skipLiterals = false) (hold : IsName c.old) (hne : c.old ≠ c.new)
    (hline : IsRegular (lines.get c.index)) :
    ∃ added, EditStore.addLine { module } c.request = .ok added ∧
      applyEdits (lines.map .text) added.value.1.edits =
        ⟨.ok ((lines.set c.index (overwrite c.new (lines.get c.index)
          (findMatches (lines.get c.index) c.old))).map .text), []⟩ := by
  obtain ⟨added, hadded, hedits⟩ := exists_addLine module c
  refine ⟨added, hadded, ?_⟩
  rw [hedits, applyEdits_edits hold hline, simultaneous_edits hold hline hall hliterals hne,
    overwrite_findMatches hline hold.word]

/-- The change of every occurrence in the other direction, after the line has become `renamed`. -/
def back (c : LineChange lines) (renamed category : Text) :
    LineChange (lines.set c.index renamed) where
  index := ⟨c.index, by simp⟩
  old := c.new
  new := c.old
  category := category

theorem get_back (c : LineChange lines) (renamed category : Text) :
    (lines.set c.index renamed).get (c.back renamed category).index = renamed := by
  simp [back]

/-- **Renaming back undoes a rename.**  Take a regular line on which the new name is not found.  A
change of all occurrences of an identifier is taken by a new store, and applying it writes the new
name over each match.  The change back, planned on the line that this makes, is taken by another new
store, and applying it gives the original line with the old name written over each of its matches.
This is the original line itself, if the matches were all spelled as the old name. -/
theorem applyEdits_back (module other category : Text) (lines : List Text) (c : LineChange lines)
    (hall : c.occurrence ≤ 0) (hliterals : c.skipLiterals = false) (hold : IsName c.old)
    (hnew : IsName c.new) (hne : c.old ≠ c.new) (hline : IsRegular (lines.get c.index))
    (hfree : findMatches (lines.get c.index) c.new = []) :
    ∃ added renamed undone,
      renamed = overwrite c.new (lines.get c.index) (findMatches (lines.get c.index) c.old) ∧
      EditStore.addLine { module } c.request = .ok added ∧
      applyEdits (lines.map .text) added.value.1.edits =
        ⟨.ok ((lines.set c.index renamed).map .text), []⟩ ∧
      EditStore.addLine { module := other } (c.back renamed category).request = .ok undone ∧
      applyEdits ((lines.set c.index renamed).map .text) undone.value.1.edits =
        ⟨.ok ((lines.set c.index (overwrite c.old (lines.get c.index)
          (findMatches (lines.get c.index) c.old))).map .text), []⟩ ∧
      ((∀ m ∈ findMatches (lines.get c.index) c.old, m.text = c.old) →
        overwrite c.old (lines.get c.index) (findMatches (lines.get c.index) c.old) =
          lines.get c.index) := by
  obtain ⟨added, hadded, happly⟩ :=
    exists_applyEdits_overwrite module c hall hliterals hold hne hline
  have hregular := isRegular_overwrite hline hold.word hnew
  have hresult := overwrite_overwrite hline hold.word hnew hfree
  -- from here on the line that the first round made is any regular line with the last fact
  generalize overwrite c.new (lines.get c.index) (findMatches (lines.get c.index) c.old) = renamed
    at happly hregular hresult ⊢
  have hget := get_back c renamed category
  obtain ⟨undone, hundone, hback⟩ := exists_applyEdits_overwrite other (c.back renamed category)
    (Int.le_of_lt (Int.negSucc_lt_zero 0)) rfl hnew hne.symm (hget.symm ▸ hregular)
  refine ⟨added, renamed, undone, rfl, hadded, happly, hundone, ?_,
    overwrite_findMatches_self hline hold.word⟩
  rw [hback, hget, ← hresult]
  show Logged.mk (Except.ok (((lines.set c.index renamed).set c.index
    (overwrite c.old renamed (findMatches renamed c.new))).map Json.text)) [] = _
  rw [List.set_set]

/-- A name in two spellings, and once more as the end of a longer name. -/
def sumLines : List Text := ["Total = sub_total + TOTAL".toList]

@[inherit_doc sumLines]
def sumChange : LineChange sumLines where
  index := ⟨0, by decide⟩
  old := "Total".toList
  new := "amount".toList
  category := "variable".toList

theorem applyEdits_back_sum :
    (IsName sumChange.old ∧ IsName sumChange.new ∧ IsRegular (sumLines.get sumChange.index) ∧
        findMatches (sumLines.get sumChange.index) sumChange.new = []) ∧
      ∃ added renamed undone,
        renamed = "amount = sub_total + amount".toList ∧
        EditStore.addLine { module := "Ledger".toList } sumChange.request = .ok added ∧
        applyEdits (sumLines.map .text) added.value.1.edits = ⟨.ok [.text renamed], []⟩ ∧
        EditStore.addLine { module := "Ledger".toList } (sumChange.back renamed []).request =
          .ok undone ∧
        applyEdits [.text renamed] undone.value.1.edits =
          ⟨.ok [.text "Total = sub_total + Total".toList], []⟩ := by
  have hold : IsName sumChange.old := by decide
  have hnew : IsName sumChange.new := by decide
  have hline : IsRegular (sumLines.get sumChange.index) := isRegular_of_ascii (by decide)
  have hfree : findMatches (sumLines.get sumChange.index) sumChange.new = [] := by decide
  obtain ⟨added, renamed, undone, hrenamed, hadded, happly, hundone, hback, _⟩ :=
    applyEdits_back "Ledger".toList "Ledger".toList [] sumLines sumChange (by decide) rfl hold hnew
      (by decide) hline hfree
  have hresult : overwrite sumChange.old (sumLines.get sumChange.index)
      (findMatches (sumLines.get sumChange.index) sumChange.old) =
        "Total = sub_total + Total".toList := by decide
  rw [hresult] at hback
  refine ⟨⟨hold, hnew, hline, hfree⟩, added, renamed, undone, hrenamed.trans ?_, hadded, happly,
    hundone, hback⟩
  decide

end LineChange

end RenamePlan
