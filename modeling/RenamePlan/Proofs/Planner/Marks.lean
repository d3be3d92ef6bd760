import Mathlib.Data.List.Forall2
import RenamePlan.Proofs.Line.Quoting
import RenamePlan.Proofs.Planner.Rename

/-!
# Comments and literals of a renamed source

A planner that strips comments and skips literals plans edits in the code of a line only.  So the
renamed line has the comment and the closed literals of the original one, wherever the edits have
moved them (`applyEdits_keeps_marks`).

A literal that the line does not close is not skipped: words in it are renamed like words of the
code.  It does not count as a literal after the renames either, as the new names have no quotes.
-/

namespace RenamePlan

/-! ## Renamed pieces -/

/-- A word has no marks. -/
theorem IsWordRun.isUnmarked {text : Text} {a b : Nat} (h : IsWordRun text a b) :
    IsUnmarked ((text.drop a).take (b - a)) := by
  have hword := List.all_eq_true.1 h.all_part
  refine IsUnmarked.of_notMem ?_ (fun hmem => ?_) (fun hmem => ?_)
  · intro hnil
    have hlength := congrArg List.length hnil
    have hnonempty := h.nonempty
    have hwithin := h.within
    rw [length_part (by omega), List.length_nil] at hlength
    omega
  · exact absurd (hword _ hmem) (by decide +kernel)
  · exact absurd (hword _ hmem) (by decide +kernel)

/-- Where no run has a new name, the pieces make up the line as it was. -/
theorem renamePieces_eq_drop {text : Text} {newName? : Nat → Nat → Option Text} {k : Nat}
    {found : List Text} (hfalls : FallsInto text k found)
    (hnone : ∀ a b, k ≤ a → IsWordRun text a b → newName? a b = none) :
    renamePieces newName? k found = text.drop k := by
  induction hfalls with
  | done => rw [List.drop_length, renamePieces]
  | @run a b rest hrun _ ih =>
    have hab := Nat.le_of_lt hrun.nonempty
    rw [renamePieces_run hrun, hnone a b (Nat.le_refl a) hrun,
      ih fun c d hc => hnone c d (Nat.le_trans hab hc), Option.getD_none]
    exact (drop_eq_part_append text hab).symm
  | @other k c rest hchar hc _ ih =>
    obtain ⟨hk, hget⟩ := List.getElem?_eq_some_iff.1 hchar
    rw [renamePieces_other hc, ih fun a b ha => hnone a b (Nat.le_of_succ_le ha),
      List.drop_eq_getElem_cons hk, hget]

/-- New names without marks, for runs in the code of a line that are in no closed literal, reword
the line. -/
theorem reworded_renamePieces {text : Text} {newName? : Nat → Nat → Option Text}
    (hnew : ∀ a b new, IsWordRun text a b → newName? a b = some new →
      IsUnmarked new ∧ b ≤ (splitComment text).code.length ∧
        insideAny (literalSpans text) a = false)
    {k : Nat} {found : List Text} (hfalls : FallsInto text k found) :
    Reworded (Quoting.outside.after (text.take k)) (text.drop k)
      (renamePieces newName? k found) := by
  induction hfalls with
  | done =>
    rw [List.drop_length, renamePieces]
    exact Reworded.same _ _
  | @run a b rest hrun _ ih =>
    have hab := Nat.le_of_lt hrun.nonempty
    have hsplit := drop_eq_part_append text hab
    have hunmarked := hrun.isUnmarked
    rw [take_eq_append_part text hab, Quoting.after_append] at ih
    rw [renamePieces_run hrun]
    generalize (text.drop a).take (b - a) = part at *
    rw [hsplit]
    cases hname : newName? a b with
    | none => exact Reworded.append_same hunmarked.apostrophe_notMem ih
    | some new =>
      obtain ⟨hnewName, _, hfree⟩ := hnew a b new hrun hname
      rw [hunmarked.after_eq] at ih
      refine Reworded.word hunmarked hnewName (fun hinside => ?_) ih
      -- a literal that is open here and gets closed would have the run inside its span
      rw [Option.eq_none_iff_forall_ne_some]
      intro u hclosed
      have hrest : literalRest? .inside (text.drop a) = some (part ++ u) := by
        rw [hsplit, hunmarked.literalRest?_inside, hclosed]
        rfl
      obtain ⟨span, hspan, hcontains⟩ :=
        exists_span_of_literalRest? (Nat.le_refl 0) hinside hrest
      rw [Nat.zero_add] at hcontains
      exact List.any_eq_false.1 hfree span hspan hcontains
  | @other k c rest hchar hc hlater ih =>
    obtain ⟨hk, hget⟩ := List.getElem?_eq_some_iff.1 hchar
    have hdrop : text.drop k = c :: text.drop (k + 1) := by
      rw [List.drop_eq_getElem_cons hk, hget]
    have htake : text.take (k + 1) = text.take k ++ [c] := by
      rw [List.take_add_one, hchar]
      rfl
    rw [htake, Quoting.after_append] at ih
    by_cases hcomment : c = '\'' ∧ Quoting.outside.after (text.take k) ≠ .inside
    · -- the comment has begun, and no run behind this column has a new name
      obtain ⟨rfl, houtside⟩ := hcomment
      have hcode := length_code_le hchar houtside
      have hnone : ∀ a b, k ≤ a → IsWordRun text a b → newName? a b = none := by
        intro a b ha hrun
        rw [Option.eq_none_iff_forall_ne_some]
        intro new hname
        have hwithin := (hnew a b new hrun hname).2.1
        have hnonempty := hrun.nonempty
        omega
      rw [renamePieces_eq_drop (FallsInto.other hchar hc hlater) hnone]
      exact Reworded.same _ _
    · rw [renamePieces_other hc, hdrop]
      exact Reworded.char hcomment ih

/-! ## The renamed source -/

namespace NameChange

variable {lines : List Text} {profile : Profile} {changes : List (NameChange lines)}

theorem mem_eligibleMatches_of_mem_selectMatches {text old new : Text} {occurrence : Int}
    {skipLiterals : Bool} {m : Match}
    (h : m ∈ selectMatches text old new occurrence skipLiterals) :
    m ∈ eligibleMatches text old skipLiterals := by
  unfold selectMatches at h
  split at h
  · cases h
  · exact (pickOccurrence_sublist ..).subset h

/-- Under a profile that strips comments, a change that skips literals selects matches in the code
of its line that are in no closed literal. -/
theorem not_insideAny_of_mem_selected {c : NameChange lines} {m : Match}
    (hstrip : profile.isOn .stripComments = true)
    (hskip : Planner.skipsLiterals profile c.skipLiterals = true)
    (h : m ∈ c.selected profile) :
    m.stop ≤ (splitComment (lines.get c.index)).code.length ∧
      insideAny (literalSpans (lines.get c.index)) m.start = false := by
  rw [selected, searched, if_pos hstrip, hskip] at h
  have hstop : m.stop ≤ (splitComment (lines.get c.index)).code.length := by
    rw [selectMatches_code] at h
    exact of_decide_eq_true (List.mem_filter.1 h).2
  obtain ⟨hmatch, hfree⟩ := List.mem_filter.1 (mem_eligibleMatches_of_mem_selectMatches h)
  have hlt := start_lt_stop_of_mem_findMatches hmatch
  refine ⟨hstop, ?_⟩
  rw [← literalSpans_code _ (by omega)]
  simpa using hfree

/-- The renamed lines are reworded. -/
theorem reworded_renamePieces_pieces (hstrip : profile.isOn .stripComments = true)
    (hskip : ∀ c ∈ changes, Planner.skipsLiterals profile c.skipLiterals = true)
    (hnew : ∀ c ∈ changes, c.new ≠ [] ∧ '"' ∉ c.new ∧ '\'' ∉ c.new) (i : Fin lines.length) :
    Reworded .outside (lines.get i)
      (renamePieces (newName? profile changes i) 0 (pieces (lines.get i))) := by
  refine reworded_renamePieces (fun a b new _ hname => ?_) (fallsInto_pieces (lines.get i))
  obtain ⟨c, hfind, rfl⟩ := Option.map_eq_some_iff.1 hname
  have hc := List.mem_of_find?_eq_some hfind
  have hselects := List.find?_some hfind
  obtain ⟨hindex, hany⟩ := Bool.and_eq_true_iff.1 hselects
  obtain ⟨m, hm, hcolumns⟩ := List.any_eq_true.1 hany
  obtain ⟨hstart, hstop⟩ := Bool.and_eq_true_iff.1 hcolumns
  obtain rfl : c.index = i := Fin.ext (beq_iff_eq.1 hindex)
  obtain rfl := beq_iff_eq.1 hstart
  obtain rfl := beq_iff_eq.1 hstop
  obtain ⟨hne, hquote, hmark⟩ := hnew c hc
  exact ⟨IsUnmarked.of_notMem hne hquote hmark,
    not_insideAny_of_mem_selected hstrip (hskip c hc) hm⟩

end NameChange

namespace Planner

open NameChange PlainEdit

/-- **Comments and literals stay.**  A new planner with a profile that strips comments takes any
changes of identifiers that skip literals and give names without quotes and apostrophes.  Applying
the edits that it has planned for the module gives lines with the comments and the closed literals
of the original ones. -/
theorem applyEdits_keeps_marks (profile : Profile) (symbols : SymbolTable) (module : Text)
    (lines : List Text) (changes : List (NameChange lines)) (hprofile : profile.check = .ok ())
    (hstrip : profile.isOn .stripComments = true)
    (hmodule : ∀ c ∈ changes, sameName c.module module = true)
    (hskip : ∀ c ∈ changes, skipsLiterals profile c.skipLiterals = true)
    (hword : ∀ c ∈ changes, ∀ x ∈ c.old, isWord x = true)
    (hnew : ∀ c ∈ changes, c.new ≠ [] ∧ '"' ∉ c.new ∧ '\'' ∉ c.new)
    (hlines : ∀ line ∈ lines, IsRegular line) :
    ∃ started planner, start profile symbols = .ok started ∧
      started.value.planAll (changes.map fun c => (c.symbol, c.request)) = .ok planner ∧
      (applyEdits (lines.map .text) (planner.editsFor module)).value =
        .ok ((renamedLines profile changes).map .text) ∧
      List.Forall₂ (fun before after =>
        (splitComment after).comment = (splitComment before).comment ∧
          literalTexts after = literalTexts before) lines (renamedLines profile changes) := by
  obtain ⟨planner, hrun, hedits⟩ :=
    exists_planAll hmodule { profile, symbols } rfl [] (holdsFor_new profile symbols module)
  refine ⟨_, planner, start_of_check hprofile symbols, hrun, ?_, ?_⟩
  · rw [hedits]
    show (applyEdits (lines.map .text) ((stored profile changes).map edit)).value = _
    rw [applyEdits_plain, (separate_stored hword hlines).carryOutAll_inOrder,
      simultaneousLines_stored hword hlines]
  · rw [List.forall₂_iff_get]
    refine ⟨List.length_mapIdx.symm, fun i hi hi' => ?_⟩
    have hreworded := reworded_renamePieces_pieces hstrip hskip hnew ⟨i, hi⟩
    have hget : (renamedLines profile changes).get ⟨i, hi'⟩ =
        renamePieces (newName? profile changes i) 0 (pieces (lines.get ⟨i, hi⟩)) :=
      List.getElem_mapIdx
    rw [hget]
    exact ⟨hreworded.comment_eq.symm, hreworded.literalTexts_eq.symm⟩

/-- Lines with a comment that has quotes, a literal with a doubled quote and an apostrophe, and a
literal that is not closed. -/
def quotedLines : List Text := [
  "x = \"a \"\"x\"\" 'x\" & X ' x \"x".toList, "x = \"b\" & \"x 'x".toList]

/-- All matches on both lines, one rename leaving literals alone by request. -/
def quotedChanges : List (NameChange quotedLines) :=
  let s : Symbol := ⟨"X".toList, .var, "Module1".toList, .null, .null, .null, {}⟩
  [⟨s, "Module1".toList, ⟨0, by decide⟩, "x".toList, "long".toList, [], 0, .bool true, .null⟩,
    ⟨s, "MODULE1".toList, ⟨1, by decide⟩, "X".toList, "y z".toList, [], 0, .bool true, .null⟩]

theorem applyEdits_keeps_quoted_marks :
    ∃ started planner, start defaultProfile {} = .ok started ∧
      started.value.planAll (quotedChanges.map fun c => (c.symbol, c.request)) = .ok planner ∧
      (applyEdits (quotedLines.map .text) (planner.editsFor "Module1".toList)).value =
        .ok [.text "long = \"a \"\"x\"\" 'x\" & long ' x \"x".toList,
          .text "y z = \"b\" & \"y z 'y z".toList] ∧
      List.Forall₂ (fun before after =>
        (splitComment after).comment = (splitComment before).comment ∧
          literalTexts after = literalTexts before) quotedLines
        ["long = \"a \"\"x\"\" 'x\" & long ' x \"x".toList, "y z = \"b\" & \"y z 'y z".toList] := by
  have hword : ∀ c ∈ quotedChanges, ∀ x ∈ c.old, isWord x = true := by
    have hall : ∀ c ∈ quotedChanges, c.old.all isWord = true := by decide +kernel
    exact fun c hc => List.all_eq_true.1 (hall c hc)
  have hlines : ∀ line ∈ quotedLines, IsRegular line := by
    have hascii : ∀ line ∈ quotedLines, line.all (·.toNat < 0x80) = true := by decide +kernel
    exact fun line hline => isRegular_of_ascii (hascii line hline)
  have hrenamed : renamedLines defaultProfile quotedChanges =
      ["long = \"a \"\"x\"\" 'x\" & long ' x \"x".toList,
        "y z = \"b\" & \"y z 'y z".toList] := by decide +kernel
  have hmarks := applyEdits_keeps_marks defaultProfile {} "Module1".toList quotedLines
    quotedChanges rfl (by decide +kernel) (by decide +kernel) (by decide +kernel) hword
    (by decide +kernel) hlines
  rw [hrenamed] at hmarks
  exact hmarks

end Planner

end RenamePlan
