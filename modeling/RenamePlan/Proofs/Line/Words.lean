import Mathlib.Data.List.Forall2
import Mathlib.Data.List.Sort
import RenamePlan.Proofs.Edit.WordRuns

/-!
# Identifiers and the words of a line

The words of a line are its maximal runs of word characters, with their columns and texts
(`Match.IsWordOf`).  `words` lists them from left to right.

On a regular line the search for an identifier finds words, and it finds every word that has the
letters of the identifier (`mem_findMatches_iff`): no match can begin or end inside a word, so none
hides another one.  What is found is therefore read off the list of words
(`findMatches_eq_filter`), without boundaries or a scan.
-/

namespace RenamePlan

/-! ## Words -/

/-- The columns are a maximal run of word characters of the line, and the text is what stands
there. -/
structure Match.IsWordOf (m : Match) (text : Text) : Prop where
  run : IsWordRun text m.start m.stop
  spelled : m.text = Text.slice text m.start m.stop

/-- The words among the pieces of a line from `column` on. -/
def wordsFrom : Nat → List Text → List Match
  | _, [] => []
  | column, piece :: rest =>
    let stop := column + piece.length
    if piece.all isWord then ⟨column, stop, piece⟩ :: wordsFrom stop rest
    else wordsFrom stop rest

/-- The words of a line, from left to right. -/
def words (text : Text) : List Match :=
  wordsFrom 0 (pieces text)

theorem IsWordRun.slice_eq {text : Text} {a b : Nat} (h : IsWordRun text a b) :
    Text.slice text a b = (text.drop a).take (b - a) :=
  Text.slice_of_le text (Nat.le_of_lt h.nonempty) h.within

theorem wordsFrom_run {text : Text} {a b : Nat} (h : IsWordRun text a b) (rest : List Text) :
    wordsFrom a ((text.drop a).take (b - a) :: rest) =
      ⟨a, b, Text.slice text a b⟩ :: wordsFrom b rest := by
  have hnonempty := h.nonempty
  have hwithin := h.within
  rw [wordsFrom, length_part (by omega), show a + (b - a) = b by omega, if_pos h.all_part,
    h.slice_eq]

theorem wordsFrom_other {c : Char} (h : isWord c = false) (k : Nat) (rest : List Text) :
    wordsFrom k ([c] :: rest) = wordsFrom (k + 1) rest := by
  rw [wordsFrom, if_neg (by simp [h])]
  rfl

/-- From a piece on, exactly the words that begin there or later are listed. -/
theorem mem_wordsFrom {text : Text} {k : Nat} {found : List Text} (hfalls : FallsInto text k found)
    {m : Match} : m ∈ wordsFrom k found ↔ k ≤ m.start ∧ m.IsWordOf text := by
  induction hfalls with
  | done =>
    simp only [wordsFrom, List.not_mem_nil, false_iff]
    rintro ⟨hstart, hword⟩
    have hnonempty := hword.run.nonempty
    have hwithin := hword.run.within
    omega
  | @run a b rest hrun _ ih =>
    have hnonempty := hrun.nonempty
    rw [wordsFrom_run hrun, List.mem_cons, ih]
    constructor
    · rintro (rfl | ⟨hstart, hword⟩)
      · exact ⟨Nat.le_refl a, hrun, rfl⟩
      · exact ⟨by omega, hword⟩
    · rintro ⟨hstart, hword⟩
      rcases Nat.eq_or_lt_of_le hstart with rfl | hlater
      · -- the word begins with the piece, so it is the piece
        left
        obtain ⟨start, stop, content⟩ := m
        obtain rfl : b = stop := hrun.stop_eq hword.run
        exact congrArg (Match.mk start b) hword.spelled
      · exact Or.inr ⟨hrun.le_of_lt hword.run hlater, hword⟩
  | @other k c rest hchar hc _ ih =>
    rw [wordsFrom_other hc, ih]
    constructor
    · rintro ⟨hstart, hword⟩
      exact ⟨by omega, hword⟩
    · rintro ⟨hstart, hword⟩
      refine ⟨Nat.lt_of_le_of_ne hstart ?_, hword⟩
      rintro rfl
      have hfirst := hword.run.word m.start (Nat.le_refl _) hword.run.nonempty
      rw [hchar, Option.any_some, hc] at hfirst
      cases hfirst

theorem mem_words {text : Text} {m : Match} : m ∈ words text ↔ m.IsWordOf text := by
  rw [words, mem_wordsFrom (fallsInto_pieces text)]
  exact and_iff_right (Nat.zero_le _)

theorem pairwise_wordsFrom {text : Text} {k : Nat} {found : List Text}
    (hfalls : FallsInto text k found) :
    (wordsFrom k found).Pairwise fun a b => a.start < b.start := by
  induction hfalls with
  | done => exact List.Pairwise.nil
  | @run a b rest hrun hlater ih =>
    rw [wordsFrom_run hrun]
    refine List.pairwise_cons.2 ⟨?_, ih⟩
    intro m hm
    exact Nat.lt_of_lt_of_le hrun.nonempty ((mem_wordsFrom hlater).1 hm).1
  | other _ hc _ ih =>
    rw [wordsFrom_other hc]
    exact ih

theorem pairwise_words (text : Text) :
    (words text).Pairwise fun a b => a.start < b.start :=
  pairwise_wordsFrom (fallsInto_pieces text)

/-- The texts of the words are the pieces that are made of word characters. -/
theorem map_text_wordsFrom (k : Nat) (found : List Text) :
    (wordsFrom k found).map Match.text = found.filter (·.all isWord) := by
  induction found generalizing k with
  | nil => rfl
  | cons piece rest ih =>
    rw [wordsFrom, List.filter_cons]
    split
    · rw [List.map_cons, ih]
    · exact ih _

/-! ## Matches of an identifier -/

/-- Whether the name has the letters of the text, place by place. -/
def spelledLike (name found : Text) : Bool :=
  found.map letter == name.map letter

theorem spelledLike_iff {name found : Text} :
    spelledLike name found = true ↔ found.map letter = name.map letter :=
  beq_iff_eq

theorem spelledLike_comm (name other : Text) : spelledLike name other = spelledLike other name := by
  rw [Bool.eq_iff_iff, spelledLike_iff, spelledLike_iff, eq_comm]

theorem spelledLike_iff_forall₂ {name found : Text} :
    spelledLike name found = true ↔
      List.Forall₂ (fun a b => sameLetter a b = true) name found := by
  simp only [sameLetter_iff]
  rw [spelledLike_iff, eq_comm, ← List.forall₂_eq_eq_eq, List.forall₂_map_left_iff,
    List.forall₂_map_right_iff]

section Identifier

variable {text name : Text} (hline : IsRegular text) (hword : ∀ c ∈ name, isWord c = true)

include hline hword

/-- The matches of an identifier are the words with its letters. -/
theorem mem_findMatches_iff {m : Match} :
    m ∈ findMatches text name ↔ m.IsWordOf text ∧ spelledLike name m.text = true := by
  rw [spelledLike_iff]
  constructor
  · intro hm
    have hrun := isWordRun_of_mem_findMatches hm hword hline
    obtain ⟨_, hoccurs, hmatch⟩ := occursAt_of_mem_findMatches hm
    have hstop : m.stop = m.start + name.length := congrArg Match.stop hmatch
    have hspelled : m.text = (text.drop m.start).take name.length := congrArg Match.text hmatch
    refine ⟨⟨hrun, ?_⟩, ?_⟩
    · rw [hrun.slice_eq, hspelled, hstop, Nat.add_sub_cancel_left]
    · rw [hspelled]
      exact (map_letter_part_iff hoccurs.within).2 hoccurs.letters
  · rintro ⟨⟨hrun, hspelled⟩, hletters⟩
    have hnonempty := hrun.nonempty
    have hwithin := hrun.within
    rw [hrun.slice_eq] at hspelled
    have hlength : name.length = m.stop - m.start := by
      rw [← List.length_map letter, ← hletters, List.length_map, hspelled,
        length_part (by omega)]
    have hstop : m.stop = m.start + name.length := by omega
    have hname : name ≠ [] := List.length_pos_iff.1 (by omega)
    rw [← hlength] at hspelled
    rw [hstop] at hrun
    have hoccurs : OccursAt text name m.start := hrun.occursAt_iff.2 (hspelled ▸ hletters)
    -- an occurrence further left is a word of its own, and ends before this one begins
    have hfound := mem_findMatches_of_occursAt hname hoccurs fun s hs hother =>
      (hother.isWordRun hname hword hline).le_of_lt hrun hs
    have hmatch : m = Match.ofColumn text name.length m.start := by
      obtain ⟨start, stop, content⟩ := m
      obtain rfl : stop = start + name.length := hstop
      exact congrArg (Match.mk start (start + name.length)) hspelled
    rw [hmatch]
    exact hfound

/-- The matches of an identifier, read off the words of the line. -/
theorem findMatches_eq_filter :
    findMatches text name = (words text).filter fun m => spelledLike name m.text := by
  have hmatches : (findMatches text name).Pairwise fun a b => a.start < b.start := by
    refine (pairwise_findMatches text name).imp_of_mem ?_
    intro a b ha _ hab
    have hwidth := start_lt_stop_of_mem_findMatches ha
    omega
  have hwords := (pairwise_words text).filter fun m => spelledLike name m.text
  have : Std.Irrefl fun a b : Match => a.start < b.start := ⟨fun a => Nat.lt_irrefl a.start⟩
  have : Std.Antisymm fun a b : Match => a.start < b.start :=
    ⟨fun a b hab hba => absurd hba (Nat.lt_asymm hab)⟩
  refine hmatches.eq_of_mem_iff hwords fun m => ?_
  rw [mem_findMatches_iff hline hword, List.mem_filter, mem_words]

end Identifier

/-- **Identifiers are found as words.**  On a regular line the matches of an identifier are the
maximal runs of word characters that have its letters, place by place, each with its text, from
left to right.  So the matches of two identifiers have the same columns or none in common. -/
theorem findMatches_identifier {text : Text} (hline : IsRegular text) {name : Text}
    (hword : ∀ c ∈ name, isWord c = true) :
    (∀ m, m ∈ findMatches text name ↔
      IsWordRun text m.start m.stop ∧ m.text = Text.slice text m.start m.stop ∧
        List.Forall₂ (fun a b => sameLetter a b = true) name m.text) ∧
      (findMatches text name).Pairwise (fun a b => a.stop ≤ b.start) ∧
      ∀ other : Text, (∀ c ∈ other, isWord c = true) →
        ∀ m ∈ findMatches text name, ∀ n ∈ findMatches text other,
          m.start = n.start ∧ m.stop = n.stop ∨ m.stop ≤ n.start ∨ n.stop ≤ m.start := by
  refine ⟨fun m => ?_, pairwise_findMatches text name, ?_⟩
  · rw [mem_findMatches_iff hline hword, spelledLike_iff_forall₂, ← and_assoc]
    exact and_congr_left' ⟨fun h => ⟨h.run, h.spelled⟩, fun h => ⟨h.1, h.2⟩⟩
  · intro other hother m hm n hn
    have hfirst := isWordRun_of_mem_findMatches hm hword hline
    have hsecond := isWordRun_of_mem_findMatches hn hother hline
    rcases Nat.lt_trichotomy m.start n.start with hlt | heq | hgt
    · exact Or.inr (Or.inl (hfirst.le_of_lt hsecond hlt))
    · rw [← heq] at hsecond
      exact Or.inl ⟨heq, hfirst.stop_eq hsecond⟩
    · exact Or.inr (Or.inr (hsecond.le_of_lt hfirst hgt))

/-- A line on which a name stands by itself twice, and once as a part of a longer name. -/
def sumLine : Text := "total=sub_total+TOTAL".toList

theorem findMatches_identifier_sumLine :
    (IsRegular sumLine ∧ "Total".toList.all isWord = true ∧ "sub_total".toList.all isWord = true) ∧
      findMatches sumLine "Total".toList = [⟨0, 5, "total".toList⟩, ⟨16, 21, "TOTAL".toList⟩] ∧
      IsWordRun sumLine 0 5 ∧ IsWordRun sumLine 16 21 ∧
      ∀ m ∈ findMatches sumLine "Total".toList, ∀ n ∈ findMatches sumLine "sub_total".toList,
        m.start = n.start ∧ m.stop = n.stop ∨ m.stop ≤ n.start ∨ n.stop ≤ m.start := by
  have hline : IsRegular sumLine := isRegular_of_ascii (by decide +kernel)
  have hname : "Total".toList.all isWord = true := by decide +kernel
  have hother : "sub_total".toList.all isWord = true := by decide +kernel
  have hfound : findMatches sumLine "Total".toList =
      [⟨0, 5, "total".toList⟩, ⟨16, 21, "TOTAL".toList⟩] := by decide +kernel
  obtain ⟨hmem, _, hdisjoint⟩ := findMatches_identifier hline (List.all_eq_true.1 hname)
  refine ⟨⟨hline, hname, hother⟩, hfound, ?_, ?_, hdisjoint _ (List.all_eq_true.1 hother)⟩
  · exact ((hmem _).1 (hfound ▸ List.mem_cons_self)).1
  · exact ((hmem _).1 (hfound ▸ List.mem_cons_of_mem _ List.mem_cons_self)).1

end RenamePlan
