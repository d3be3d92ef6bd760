import RenamePlan.Proofs.Edit.FirstWriter
import RenamePlan.Proofs.Edit.Overlap
import RenamePlan.Proofs.Line.Spelling
import RenamePlan.Proofs.Line.Words

/-!
# All occurrences of a name

A rename of every occurrence of a name on a line is done by edits, and each of them moves what
stands behind it.  What it comes to is said here without columns: every word with the letters of the
old name gives way to the new name, and all other pieces of the line stay (`respell`).

* The pieces of the new line are those of the old one, spelled anew (`pieces_respell`).  A new name
  that is made of word characters can neither run into its neighbours nor fall apart.
* So what is found on the new line can be told from the pieces of the old one
  (`map_text_findMatches_respell`).
* The planned edits make the new line (`LineChange.applyEdits_respell`).
-/

namespace RenamePlan

/-! ## Words spelled anew -/

/-- Whether the piece is a word with the letters of the name. -/
def isSpelling (name piece : Text) : Bool :=
  spelledLike name piece && piece.all isWord

/-- The new name in place of a word with the letters of the old one; any other piece as it is. -/
def respellPiece (old new piece : Text) : Text :=
  if isSpelling old piece then new else piece

/-- The line with the new name in place of each word that has the letters of the old one. -/
def respell (old new text : Text) : Text :=
  ((pieces text).map (respellPiece old new)).flatten

theorem isChain_joined {name : Text} (hword : ∀ c ∈ name, isWord c = true) :
    name.IsChain fun a b => joined a b = true := by
  refine (List.pairwise_of_forall_mem_list ?_).isChain
  intro a ha b hb
  rw [joined, hword a ha, hword b hb]
  rfl

section New

variable {new : Text} (hnew : IsName new) (old : Text)

include hnew

/-- A piece that is spelled anew begins and ends as before, in a word or not. -/
theorem isWord_ends_respellPiece {piece : Text} (hne : piece ≠ []) :
    ∃ hne' : respellPiece old new piece ≠ [],
      isWord ((respellPiece old new piece).head hne') = isWord (piece.head hne) ∧
      isWord ((respellPiece old new piece).getLast hne') = isWord (piece.getLast hne) := by
  unfold respellPiece
  split
  · rename_i hspelling
    have hword := List.all_eq_true.1 (Bool.and_eq_true_iff.1 hspelling).2
    refine ⟨hnew.nonempty, ?_, ?_⟩
    · rw [hnew.word _ (List.head_mem _), hword _ (List.head_mem _)]
    · rw [hnew.word _ (List.getLast_mem _), hword _ (List.getLast_mem _)]
  · exact ⟨hne, rfl, rfl⟩

/-- Spelling words anew leaves the line cut where it was cut. -/
theorem pieces_respell (text : Text) :
    pieces (respell old new text) = (pieces text).map (respellPiece old new) := by
  refine List.splitBy_flatten ?_ ?_ ?_
  · intro hnil
    obtain ⟨piece, hpiece, heq⟩ := List.mem_map.1 hnil
    obtain ⟨hne, _⟩ := isWord_ends_respellPiece hnew old (List.ne_nil_of_mem_splitBy hpiece)
    exact hne heq
  · intro piece hpiece
    obtain ⟨before, hbefore, rfl⟩ := List.mem_map.1 hpiece
    rw [respellPiece]
    split
    · exact isChain_joined hnew.word
    · exact List.isChain_of_mem_splitBy hbefore
  · rw [List.isChain_map]
    refine (List.isChain_getLast_head_splitBy joined text).imp ?_
    rintro p q ⟨hp, hq, hcut⟩
    obtain ⟨hp', _, hlast⟩ := isWord_ends_respellPiece hnew old hp
    obtain ⟨hq', hhead, _⟩ := isWord_ends_respellPiece hnew old hq
    refine ⟨hp', hq', ?_⟩
    rw [joined, hlast, hhead]
    exact hcut

theorem isRegular_respell {text : Text} (hline : IsRegular text) :
    IsRegular (respell old new text) := by
  intro c hc w hw hsame
  obtain ⟨piece, hpiece, hmem⟩ := List.mem_flatten.1 hc
  obtain ⟨before, hbefore, rfl⟩ := List.mem_map.1 hpiece
  rw [respellPiece] at hmem
  split at hmem
  · exact hnew.word c hmem
  · have hold : c ∈ (pieces text).flatten := List.mem_flatten.2 ⟨before, hbefore, hmem⟩
    rw [pieces, List.flatten_splitBy] at hold
    exact hline c hold w hw hsame

theorem isSpelling_respellPiece (name piece : Text) :
    isSpelling name (respellPiece old new piece) =
      if isSpelling old piece then spelledLike name new else isSpelling name piece := by
  rw [respellPiece]
  split
  · rw [isSpelling, List.all_eq_true.2 hnew.word, Bool.and_true]
  · rfl

end New

/-! ## What is found afterwards -/

/-- A piece has the letters of one name only. -/
theorem isSpelling_eq_false {old name piece : Text} (hpiece : isSpelling old piece = true)
    (hdiffer : spelledLike old name = false) : isSpelling name piece = false := by
  rw [Bool.eq_false_iff]
  intro hother
  have hold := spelledLike_iff.1 (Bool.and_eq_true_iff.1 hpiece).1
  have hname := spelledLike_iff.1 (Bool.and_eq_true_iff.1 hother).1
  rw [spelledLike_iff.2 (hname.symm.trans hold)] at hdiffer
  cases hdiffer

/-- The texts that an identifier is found with, read off the pieces of the line. -/
theorem map_text_findMatches {text name : Text} (hline : IsRegular text)
    (hword : ∀ c ∈ name, isWord c = true) :
    (findMatches text name).map Match.text = (pieces text).filter (isSpelling name) := by
  have htexts : (words text).map Match.text = (pieces text).filter (·.all isWord) :=
    map_text_wordsFrom 0 (pieces text)
  calc (findMatches text name).map Match.text
      = ((words text).filter (spelledLike name ∘ Match.text)).map Match.text := by
        rw [findMatches_eq_filter hline hword]
        rfl
    _ = ((words text).map Match.text).filter (spelledLike name) := List.filter_map.symm
    _ = (pieces text).filter (isSpelling name) := by
        rw [htexts, List.filter_filter]
        rfl

theorem length_findMatches {text name : Text} (hline : IsRegular text)
    (hword : ∀ c ∈ name, isWord c = true) :
    (findMatches text name).length = (pieces text).countP (isSpelling name) := by
  rw [← List.length_map Match.text, map_text_findMatches hline hword, List.countP_eq_length_filter]

theorem countP_or_of_disjoint {α : Type} {p q : α → Bool}
    (h : ∀ a, p a = true → q a = false) (entries : List α) :
    entries.countP (fun a => p a || q a) = entries.countP p + entries.countP q := by
  induction entries with
  | nil => rfl
  | cons a rest ih =>
    rw [List.countP_cons, List.countP_cons, List.countP_cons, ih]
    cases hp : p a with
    | true =>
      rw [h a hp, Bool.true_or, if_pos rfl, if_neg Bool.false_ne_true]
      omega
    | false =>
      rw [Bool.false_or, if_neg Bool.false_ne_true]
      omega

section Afterwards

variable {text old new name : Text} (hline : IsRegular text) (hnew : IsName new)

include hline hnew

/-- What is found on the new line, read off the pieces of the old one. -/
theorem map_text_findMatches_respell (hword : ∀ c ∈ name, isWord c = true) :
    (findMatches (respell old new text) name).map Match.text =
      ((pieces text).filter fun piece =>
        if isSpelling old piece then spelledLike name new else isSpelling name piece).map
          (respellPiece old new) := by
  rw [map_text_findMatches (isRegular_respell hnew old hline) hword, pieces_respell hnew old,
    List.filter_map]
  exact congrArg (List.map _) (List.filter_congr fun piece _ =>
    isSpelling_respellPiece hnew old name piece)

/-- The old name is gone. -/
theorem findMatches_respell_old (hold : ∀ c ∈ old, isWord c = true)
    (hdiffer : spelledLike old new = false) : findMatches (respell old new text) old = [] := by
  rw [← List.map_eq_nil_iff (f := Match.text), map_text_findMatches_respell hline hnew hold,
    List.map_eq_nil_iff, List.filter_eq_nil_iff]
  intro piece _
  split
  · rw [hdiffer]
    exact Bool.false_ne_true
  · assumption

/-- The new name stands where one of the two names stood. -/
theorem length_findMatches_respell_new (hold : ∀ c ∈ old, isWord c = true)
    (hdiffer : spelledLike old new = false) :
    (findMatches (respell old new text) new).length =
      (findMatches text new).length + (findMatches text old).length := by
  rw [← List.length_map Match.text, map_text_findMatches_respell hline hnew hnew.word,
    List.length_map, length_findMatches hline hnew.word, length_findMatches hline hold,
    ← List.countP_eq_length_filter, Nat.add_comm,
    ← countP_or_of_disjoint fun piece hpiece => isSpelling_eq_false hpiece hdiffer]
  refine congrArg (List.countP · _) (funext fun piece => ?_)
  rw [spelledLike_iff.2 rfl]
  cases isSpelling old piece with
  | true => rfl
  | false => rfl

/-- Any other name is found with the same texts as before. -/
theorem map_text_findMatches_respell_other (hword : ∀ c ∈ name, isWord c = true)
    (hold : spelledLike old name = false) (hother : spelledLike name new = false) :
    (findMatches (respell old new text) name).map Match.text =
      (findMatches text name).map Match.text := by
  have hsame : ∀ piece ∈ pieces text, (if isSpelling old piece then spelledLike name new
      else isSpelling name piece) = isSpelling name piece := by
    intro piece _
    split
    · rename_i hpiece
      rw [hother, isSpelling_eq_false hpiece hold]
    · rfl
  have hkept : ∀ piece ∈ (pieces text).filter (isSpelling name),
      respellPiece old new piece = id piece := by
    intro piece hpiece
    have hname := (List.mem_filter.1 hpiece).2
    refine if_neg fun hspelled => ?_
    rw [isSpelling_eq_false hspelled hold] at hname
    cases hname
  rw [map_text_findMatches_respell hline hnew hword, map_text_findMatches hline hword,
    List.filter_congr hsame, List.map_congr_left hkept, List.map_id]

end Afterwards

/-! ## The edits -/

theorem respellPiece_other {c : Char} (h : isWord c = false) (old new : Text) :
    respellPiece old new [c] = [c] := by
  rw [respellPiece, isSpelling, if_neg (by simp [h])]

/-- The new name for the columns of a word, if the word has the letters of the old one. -/
def respelling? (old new text : Text) (start stop : Nat) : Option Text :=
  if isSpelling old (Text.slice text start stop) then some new else none

/-- Giving new names to columns comes to spelling pieces anew. -/
theorem renamePieces_respelling? {text : Text} {k : Nat} {found : List Text}
    (hfalls : FallsInto text k found) (old new : Text) :
    renamePieces (respelling? old new text) k found =
      (found.map (respellPiece old new)).flatten := by
  induction hfalls with
  | done => rfl
  | @run a b rest hrun _ ih =>
    rw [renamePieces_run hrun, ih, List.map_cons, List.flatten_cons, respelling?, hrun.slice_eq,
      respellPiece]
    split
    · rfl
    · rfl
  | @other k c rest _ hc _ ih =>
    rw [renamePieces_other hc, ih, List.map_cons, List.flatten_cons, respellPiece_other hc]
    rfl

namespace LineChange

open PlainEdit

variable {lines : List Text} {c : LineChange lines}

theorem target?_of_mem {e : PlainEdit} (h : e ∈ c.plain.edits) :
    e.target? lines.length = some c.index.val := by
  obtain ⟨m, _, rfl⟩ := List.mem_map.1 h
  exact target?_eq_some_iff.2 ⟨rfl, c.index.isLt, Int.natCast_nonneg m.start⟩

/-- A new store takes all edits of a change. -/
theorem exists_addLine (module : Text) (c : LineChange lines) :
    ∃ added, EditStore.addLine { module } c.request = .ok added ∧
      added.value.1.edits = c.plain.edits.map edit := by
  have hplaces : c.plain.edits.Pairwise fun a b => a.place ≠ b.place :=
    c.plain.pairwise_start_edits.imp fun hne hplace => hne (congrArg Prod.snd hplace)
  have hkept : keepAll [] c.plain.edits = c.plain.edits := by
    rw [keepAll_nil_eq, firstsOn_of_pairwise hplaces]
  refine ⟨_, c.plain.addLine_request { module }, ?_⟩
  rw [((Holds.new module).insertAll c.plain.edits).edits_eq, hkept]

section Identifier

variable (hold : IsName c.old) (hline : IsRegular (lines.get c.index))

include hold hline

/-- The edits of a change of an identifier replace whole words. -/
theorem areWordEdits : AreWordEdits (lines.get c.index) c.plain.edits := by
  refine ⟨?_, ?_, c.plain.pairwise_start_edits⟩
  · intro e he
    obtain ⟨m, hm, rfl⟩ := List.mem_map.1 he
    exact fits_editAt (c.plain.selected_sublist.subset hm) _
  · intro e he
    obtain ⟨m, hm, rfl⟩ := List.mem_map.1 he
    exact ⟨m.start, m.stop, rfl, rfl,
      isWordRun_of_mem_findMatches (c.plain.selected_sublist.subset hm) hold.word hline⟩

/-- They are carried out on their line, all at once and none of them skipped. -/
theorem applyEdits_edits :
    applyEdits (lines.map .text) (c.plain.edits.map edit) =
      ⟨.ok ((lines.set c.index
        (simultaneous (lines.get c.index) c.plain.edits)).map .text), []⟩ := by
  have hwords := areWordEdits hold hline
  have hsep : Separate lines c.plain.edits := by
    refine separate_of_areWordEdits fun i => ?_
    rw [forLine_of_target (fun e he => target?_of_mem he)]
    split
    · rename_i heq
      rw [Fin.ext heq]
      exact hwords
    · exact ⟨by simp, by simp, List.Pairwise.nil⟩
  have hwarnings : (inOrder c.plain.edits).flatMap (·.warnings lines) = [] := by
    rw [List.flatMap_eq_nil_iff]
    intro e he
    have hmem := mem_inOrder.1 he
    exact warnings_of_fits (target?_of_mem hmem) (hwords.fits e hmem)
  rw [applyEdits_plain, hsep.carryOutAll_inOrder, hsep.allWarnings_inOrder, hwarnings,
    simultaneousLines_of_target fun e he => target?_of_mem he, List.modify_eq_set,
    List.getElem?_eq_getElem c.index.isLt]
  rfl

variable (hall : c.occurrence ≤ 0) (hliterals : c.skipLiterals = false) (hne : c.old ≠ c.new)

include hall hliterals hne

/-- A change of every occurrence has an edit at a word iff the word has the letters of the name. -/
theorem respelling?_eq {a b : Nat} (hrun : IsWordRun (lines.get c.index) a b) :
    respelling? c.old c.new (lines.get c.index) a b =
      (c.plain.edits.find? fun e => e.start == (a : Int)).map PlainEdit.new := by
  have hselected : c.plain.selected = findMatches (lines.get c.index) c.old := by
    show selectMatches (lines.get c.index) c.old c.new c.occurrence c.skipLiterals = _
    rw [selectMatches, if_neg hne, pickOccurrence, if_neg (Int.not_lt.2 hall), eligibleMatches,
      hliterals, if_neg Bool.false_ne_true]
  have hword : (Text.slice (lines.get c.index) a b).all isWord = true := by
    rw [hrun.slice_eq]
    exact hrun.all_part
  rw [respelling?, isSpelling, hword, Bool.and_true]
  cases hfind : c.plain.edits.find? fun e => e.start == (a : Int) with
  | some e =>
    obtain ⟨m, hm, rfl⟩ := List.mem_map.1 (List.mem_of_find?_eq_some hfind)
    have hat : (c.plain.editAt m).start = (a : Int) := by simpa using List.find?_some hfind
    have hstart : m.start = a := Int.ofNat_inj.1 hat
    rw [hselected, mem_findMatches_iff hline hold.word] at hm
    obtain ⟨⟨hother, hspelled⟩, hletters⟩ := hm
    -- the match begins where the word does, so it is the word
    rw [hstart] at hother
    rw [hspelled, hstart, hother.stop_eq hrun] at hletters
    rw [if_pos hletters]
    rfl
  | none =>
    rw [if_neg]
    · rfl
    · intro hletters
      have hfound : ⟨a, b, Text.slice (lines.get c.index) a b⟩ ∈ c.plain.selected := by
        rw [hselected, mem_findMatches_iff hline hold.word]
        exact ⟨⟨hrun, rfl⟩, hletters⟩
      exact List.find?_eq_none.1 hfind _ (List.mem_map_of_mem hfound) (beq_self_eq_true (a : Int))

theorem simultaneous_edits :
    simultaneous (lines.get c.index) c.plain.edits = respell c.old c.new (lines.get c.index) := by
  rw [(areWordEdits hold hline).simultaneous_eq fun a b hrun =>
    respelling?_eq hold hline hall hliterals hne hrun]
  exact renamePieces_respelling? (fallsInto_pieces _) c.old c.new

end Identifier

/-- **A rename of every occurrence is complete, and touches no other name.**  On a regular line, a
change of all occurrences of one identifier to another, with other letters, is taken by a new store,
and applying what the store then holds skips nothing and puts the new name in place of each word
with the letters of the old one.  After that the old name is found nowhere, the new one as often as
both were found before, and any other identifier with the very texts it was found with. -/
theorem applyEdits_everyOccurrence (module : Text) (lines : List Text) (c : LineChange lines)
    (hall : c.occurrence ≤ 0) (hliterals : c.skipLiterals = false) (hold : IsName c.old)
    (hnew : IsName c.new) (hdiffer : spelledLike c.old c.new = false)
    (hline : IsRegular (lines.get c.index)) :
    ∃ added result, EditStore.addLine { module } c.request = .ok added ∧
      applyEdits (lines.map .text) added.value.1.edits =
        ⟨.ok ((lines.set c.index result).map .text), []⟩ ∧
      result = respell c.old c.new (lines.get c.index) ∧
      findMatches result c.old = [] ∧
      (findMatches result c.new).length =
        (findMatches (lines.get c.index) c.new).length +
          (findMatches (lines.get c.index) c.old).length ∧
      ∀ name : Text, (∀ x ∈ name, isWord x = true) → spelledLike c.old name = false →
        spelledLike c.new name = false →
          (findMatches result name).map Match.text =
            (findMatches (lines.get c.index) name).map Match.text := by
  have hne : c.old ≠ c.new := by
    intro heq
    rw [heq, spelledLike_iff.2 rfl] at hdiffer
    cases hdiffer
  obtain ⟨added, hadded, hedits⟩ := exists_addLine module c
  refine ⟨added, _, hadded, ?_, rfl, findMatches_respell_old hline hnew hold.word hdiffer,
    length_findMatches_respell_new hline hnew hold.word hdiffer, ?_⟩
  · rw [hedits, applyEdits_edits hold hline, simultaneous_edits hold hline hall hliterals hne]
  · intro name hword hnotold hnotnew
    refine map_text_findMatches_respell_other hline hnew hword hnotold ?_
    rw [spelledLike_comm]
    exact hnotnew

/-- A name in two spellings, once more as the end of a longer name, and the new name in the
comment. -/
def tallyLines : List Text := ["Total = sub_total + TOTAL ' amount".toList]

@[inherit_doc tallyLines]
def tallyChange : LineChange tallyLines where
  index := ⟨0, by decide⟩
  old := "total".toList
  new := "amount".toList
  category := "variable".toList

theorem applyEdits_everyOccurrence_tally :
    (IsName tallyChange.old ∧ IsName tallyChange.new ∧
        spelledLike tallyChange.old tallyChange.new = false ∧
        IsRegular (tallyLines.get tallyChange.index)) ∧
      ∃ added result, EditStore.addLine { module := "Ledger".toList } tallyChange.request =
          .ok added ∧
        applyEdits (tallyLines.map .text) added.value.1.edits = ⟨.ok [.text result], []⟩ ∧
        result = "amount = sub_total + amount ' amount".toList ∧
        findMatches result "total".toList = [] ∧
        (findMatches result "amount".toList).length = 3 ∧
        (findMatches result "sub_total".toList).map Match.text = ["sub_total".toList] := by
  have hold : IsName tallyChange.old := by decide +kernel
  have hnew : IsName tallyChange.new := by decide +kernel
  have hdiffer : spelledLike tallyChange.old tallyChange.new = false := by decide +kernel
  have hline : IsRegular (tallyLines.get tallyChange.index) :=
    isRegular_of_ascii (by decide +kernel)
  have hother : "sub_total".toList.all isWord = true := by decide +kernel
  obtain ⟨added, result, hadded, happly, hresult, hgone, hcount, hnames⟩ :=
    applyEdits_everyOccurrence "Ledger".toList tallyLines tallyChange (by decide) rfl hold hnew
      hdiffer hline
  refine ⟨⟨hold, hnew, hdiffer, hline⟩, added, result, hadded, happly, ?_, hgone, ?_, ?_⟩
  · rw [hresult]
    decide +kernel
  · refine hcount.trans ?_
    decide +kernel
  · refine (hnames _ (List.all_eq_true.1 hother) (by decide +kernel) (by decide +kernel)).trans ?_
    decide +kernel

end LineChange

end RenamePlan
