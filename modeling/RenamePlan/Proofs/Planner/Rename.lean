import RenamePlan.Proofs.Edit.WordRuns
import RenamePlan.Proofs.Line.CodePart
import RenamePlan.Proofs.Planner.Plan

/-!
# A rename from end to end

A source is renamed by asking a planner for changes of identifiers, one after the other, and then
applying the edits that it has planned.  What comes out is said here without edits, columns of
edited lines or an order of application: each line is cut into its pieces, and a run of word
characters gets the new name of the first change that selected it (`renamedLines`).

The argument has three parts.

* Matches of identifiers are word runs of the line, also where only its code part was searched
  (`isWordRun_of_mem_selected`).
* So the planned edits lie on their lines and do not overlap (`separate_stored`), and each of them
  finds the text that it replaces (`warnings_eq_nil`).
* The edit that is planned for a run is that of the first change to select it
  (`newName?_eq`).
-/

namespace RenamePlan

open PlainEdit

namespace NameChange

variable {lines : List Text}

/-! ## The renamed source -/

/-- The matches that the change selects on its line, under the profile. -/
def selected (profile : Profile) (c : NameChange lines) : List Match :=
  selectMatches (searched profile (lines.get c.index)) c.old c.new c.occurrence
    (Planner.skipsLiterals profile c.skipLiterals)

/-- Whether the change selects the columns from `start` up to `stop` of the line at index `i`. -/
def selects (profile : Profile) (i start stop : Nat) (c : NameChange lines) : Bool :=
  c.index.val == i && (c.selected profile).any fun m => m.start == start && m.stop == stop

/-- The new name that the first change to select the columns gives them. -/
def newName? (profile : Profile) (changes : List (NameChange lines)) (i start stop : Nat) :
    Option Text :=
  (changes.find? (selects profile i start stop)).map NameChange.new

/-- The source with the new names in place of the runs of word characters that were selected. -/
def renamedLines (profile : Profile) (changes : List (NameChange lines)) : List Text :=
  lines.mapIdx fun i line => renamePieces (newName? profile changes i) 0 (pieces line)

/-! ## Matches on the whole line -/

variable {profile : Profile} {c : NameChange lines}

theorem mem_findMatches_of_mem_selected {m : Match} (h : m ∈ c.selected profile) :
    m ∈ findMatches (lines.get c.index) c.old := by
  unfold selected searched at h
  split at h
  · rw [selectMatches_code] at h
    exact (selectMatches_sublist ..).subset (List.mem_filter.1 h).1
  · exact (selectMatches_sublist ..).subset h

theorem isWordRun_of_mem_selected {m : Match} (h : m ∈ c.selected profile)
    (hword : ∀ x ∈ c.old, isWord x = true) (hlines : ∀ line ∈ lines, IsRegular line) :
    IsWordRun (lines.get c.index) m.start m.stop :=
  isWordRun_of_mem_findMatches (mem_findMatches_of_mem_selected h) hword
    (hlines _ (List.get_mem lines c.index))

/-- The edit for a match is for its line. -/
theorem target?_editAt (m : Match) :
    ((c.plain profile).editAt m).target? lines.length = some c.index.val :=
  target?_eq_some_iff.2 ⟨rfl, c.index.isLt, Int.natCast_nonneg m.start⟩

/-! ## The planned edits -/

/-- The edits that the changes leave in a store. -/
def stored (profile : Profile) (changes : List (NameChange lines)) : List PlainEdit :=
  PlainRequest.stored (changes.map (plain profile))

variable {changes : List (NameChange lines)}

theorem exists_match_of_mem {e : PlainEdit} (h : e ∈ stored profile changes) :
    ∃ c ∈ changes, ∃ m ∈ c.selected profile, e = (c.plain profile).editAt m := by
  obtain ⟨r, hr, he⟩ := PlainRequest.exists_request_of_mem h
  obtain ⟨c, hc, rfl⟩ := List.mem_map.1 hr
  obtain ⟨m, hm, rfl⟩ := List.mem_map.1 he
  exact ⟨c, hc, m, hm, rfl⟩

/-- No edit is skipped on the original lines. -/
theorem warnings_eq_nil {e : PlainEdit} (h : e ∈ stored profile changes) :
    e.warnings lines = [] := by
  obtain ⟨c, _, m, hm, rfl⟩ := exists_match_of_mem h
  exact warnings_of_fits (target?_editAt m) (fits_editAt (mem_findMatches_of_mem_selected hm) _)

/-- The first value found in the entries is that of the first entry that has one. -/
theorem map_findSome? {α β γ : Type} {f : α → Option β} {g : β → γ} {p : α → Bool} {h : α → γ}
    {entries : List α}
    (heach : ∀ x ∈ entries, (f x).map g = if p x then some (h x) else none) :
    (entries.findSome? f).map g = (entries.find? p).map h := by
  induction entries with
  | nil => rfl
  | cons x rest ih =>
    have hrest := ih fun y hy => heach y (List.mem_cons_of_mem x hy)
    have hx := heach x List.mem_cons_self
    rw [List.findSome?_cons, List.find?_cons]
    cases hfound : f x with
    | none =>
      rw [hfound] at hx
      cases hp : p x with
      | true => simp [hp] at hx
      | false => exact hrest
    | some y =>
      rw [hfound] at hx
      cases hp : p x with
      | true => simpa [hp] using hx
      | false => simp [hp] at hx

section Identifiers

variable (hword : ∀ c ∈ changes, ∀ x ∈ c.old, isWord x = true)
  (hlines : ∀ line ∈ lines, IsRegular line)

include hword hlines

/-- The invariant of every run: what is planned for a line replaces whole words of it. -/
theorem areWordEdits_forLine (i : Fin lines.length) :
    AreWordEdits (lines.get i) (forLine (stored profile changes) lines.length i) := by
  have hasked : ∀ e ∈ forLine (stored profile changes) lines.length i, ∃ c ∈ changes,
      ∃ m ∈ c.selected profile, e = (c.plain profile).editAt m ∧ c.index = i := by
    intro e he
    obtain ⟨hmem, htarget⟩ := mem_forLine.1 he
    obtain ⟨c, hc, m, hm, rfl⟩ := exists_match_of_mem hmem
    rw [target?_editAt, Option.some.injEq] at htarget
    exact ⟨c, hc, m, hm, rfl, Fin.ext htarget⟩
  refine ⟨?_, ?_, ?_⟩
  · intro e he
    obtain ⟨c, _, m, hm, rfl, rfl⟩ := hasked e he
    exact fits_editAt (mem_findMatches_of_mem_selected hm) _
  · intro e he
    obtain ⟨c, hc, m, hm, rfl, rfl⟩ := hasked e he
    exact ⟨m.start, m.stop, rfl, rfl, isWordRun_of_mem_selected hm (hword c hc) hlines⟩
  · refine ((PlainRequest.pairwise_apart_stored _).filter _).imp_of_mem ?_
    intro x y hx hy hapart
    obtain ⟨hxline, _, _⟩ := target?_eq_some_iff.1 (mem_forLine.1 hx).2
    obtain ⟨hyline, _, _⟩ := target?_eq_some_iff.1 (mem_forLine.1 hy).2
    exact hapart (hxline.trans hyline.symm)

/-- Two edits for one line do not overlap. -/
theorem separate_stored : Separate lines (stored profile changes) :=
  separate_of_areWordEdits (areWordEdits_forLine hword hlines)

/-! ## The first change to select a run -/

/-- A change asks for an edit at the start of a run iff it selects the run. -/
theorem find?_edits {c : NameChange lines} (hc : c ∈ changes) {i : Fin lines.length} {a b : Nat}
    (hrun : IsWordRun (lines.get i) a b) :
    (((c.plain profile).edits.find? (isAt (i.val + 1) a)).map PlainEdit.new) =
      if c.selects profile i.val a b then some c.new else none := by
  cases hfind : (c.plain profile).edits.find? (isAt (i.val + 1) a) with
  | some e =>
    obtain ⟨m, hm, rfl⟩ := List.mem_map.1 (List.mem_of_find?_eq_some hfind)
    obtain ⟨hline, hstart⟩ := isAt_iff.1 (List.find?_some hfind)
    have hindex : c.index.val + 1 = i.val + 1 := Int.ofNat_inj.1 hline
    obtain rfl : c.index = i := Fin.ext (Nat.succ.inj hindex)
    have hstart : m.start = a := Int.ofNat_inj.1 hstart
    -- what is selected is a run that begins where the given one does, so it is the same run
    have hother := isWordRun_of_mem_selected hm (hword c hc) hlines
    rw [hstart] at hother
    have hselects : c.selects profile c.index.val a b = true := by
      rw [selects, beq_self_eq_true, Bool.true_and, List.any_eq_true]
      exact ⟨m, hm, by rw [hstart, hother.stop_eq hrun, beq_self_eq_true, beq_self_eq_true]; rfl⟩
    rw [hselects, if_pos rfl]
    rfl
  | none =>
    have hselects : c.selects profile i.val a b = false := by
      rw [Bool.eq_false_iff]
      intro hselects
      obtain ⟨hindex, hany⟩ := Bool.and_eq_true_iff.1 hselects
      obtain ⟨m, hm, hcolumns⟩ := List.any_eq_true.1 hany
      obtain ⟨hstart, _⟩ := Bool.and_eq_true_iff.1 hcolumns
      have hat : ((c.plain profile).editAt m).isAt (i.val + 1) a = true := by
        refine isAt_iff.2 ⟨?_, ?_⟩
        · show ((c.index.val : Int) + 1) = i.val + 1
          rw [beq_iff_eq.1 hindex]
        · show (m.start : Int) = a
          rw [beq_iff_eq.1 hstart]
      exact List.find?_eq_none.1 hfind _ (List.mem_map_of_mem hm) hat
    rw [hselects, if_neg Bool.false_ne_true]
    rfl

/-- The edit planned for a run has the new name of the first change that selects the run. -/
theorem newName?_eq {i : Fin lines.length} {a b : Nat} (hrun : IsWordRun (lines.get i) a b) :
    newName? profile changes i.val a b =
      ((forLine (stored profile changes) lines.length i.val).find?
        fun e => e.start == (a : Int)).map PlainEdit.new := by
  have hat : (forLine (stored profile changes) lines.length i.val).find?
      (fun e => e.start == (a : Int)) = (stored profile changes).find? (isAt (i.val + 1) a) := by
    rw [forLine, List.find?_filter]
    congr 1
    funext e
    rw [Bool.eq_iff_iff, decide_eq_true_eq, beq_iff_eq, beq_iff_eq, target?_eq_some_iff,
      isAt_iff]
    have hlt := i.isLt
    omega
  rw [hat, stored, PlainRequest.find?_stored, List.findSome?_map]
  exact (map_findSome? fun c hc => find?_edits hword hlines hc hrun).symm

/-- The planned edits, made at once, give the renamed source. -/
theorem simultaneousLines_stored :
    simultaneousLines lines (stored profile changes) = renamedLines profile changes := by
  unfold simultaneousLines renamedLines
  refine List.ext_getElem? fun i => ?_
  rw [List.getElem?_mapIdx, List.getElem?_mapIdx]
  rcases Nat.lt_or_ge i lines.length with hlt | hge
  · rw [List.getElem?_eq_getElem hlt, Option.map_some, Option.map_some]
    exact congrArg some ((areWordEdits_forLine hword hlines ⟨i, hlt⟩).simultaneous_eq
      fun a b hrun => newName?_eq hword hlines hrun)
  · rw [List.getElem?_eq_none hge]
    rfl

end Identifiers

end NameChange

namespace Planner

open NameChange

/-- **Renames do what they say.**  A new planner with a profile that is in order takes any changes
of identifiers on the lines of a source.  Applying the edits that it has then planned for the module
skips none of them, and gives the source in which each run of word characters that some change
selected has the new name of the first change that did, and nothing else is different. -/
theorem applyEdits_planAll (profile : Profile) (symbols : SymbolTable) (module : Text)
    (lines : List Text) (changes : List (NameChange lines)) (hprofile : profile.check = .ok ())
    (hmodule : ∀ c ∈ changes, sameName c.module module = true)
    (hword : ∀ c ∈ changes, ∀ x ∈ c.old, isWord x = true)
    (hlines : ∀ line ∈ lines, IsRegular line) :
    ∃ started planner, start profile symbols = .ok started ∧
      started.value.planAll (changes.map fun c => (c.symbol, c.request)) = .ok planner ∧
      applyEdits (lines.map .text) (planner.editsFor module) =
        ⟨.ok ((renamedLines profile changes).map .text), []⟩ ∧
      (renamedLines profile changes).length = lines.length := by
  obtain ⟨planner, hrun, hedits⟩ :=
    exists_planAll hmodule { profile, symbols } rfl [] (holdsFor_new profile symbols module)
  have hsep : Separate lines (stored profile changes) := separate_stored hword hlines
  have hwarnings : (inOrder (stored profile changes)).flatMap (·.warnings lines) = [] := by
    rw [List.flatMap_eq_nil_iff]
    intro e he
    exact warnings_eq_nil (mem_inOrder.1 he)
  refine ⟨_, planner, start_of_check hprofile symbols, hrun, ?_, List.length_mapIdx⟩
  rw [hedits]
  show applyEdits (lines.map .text) ((stored profile changes).map edit) = _
  rw [applyEdits_plain, hsep.carryOutAll_inOrder, hsep.allWarnings_inOrder, hwarnings,
    simultaneousLines_stored hword hlines]

/-- Two lines with a comment and a literal. -/
def ledgerLines : List Text := [
  "total = Total + rate ' total".toList, "x = \"rate\" & Rate".toList]

/-- One match of a name, all matches of it, and a name that stands in a literal too. -/
def ledgerChanges : List (NameChange ledgerLines) :=
  let s : Symbol := ⟨"Total".toList, .var, "Module1".toList, .null, .null, .null, {}⟩
  let first : Fin ledgerLines.length := ⟨0, by decide⟩
  let second : Fin ledgerLines.length := ⟨1, by decide⟩
  [⟨s, "MODULE1".toList, first, "total".toList, "sum".toList, "c".toList, 2, .null, .null⟩,
    ⟨s, "Module1".toList, first, "TOTAL".toList, "amount".toList, "c".toList, 0, .null, .null⟩,
    ⟨s, "module1".toList, second, "rate".toList, "r".toList, "c".toList, 0, .bool true, .null⟩]

theorem applyEdits_ledger :
    ∃ started planner, start defaultProfile {} = .ok started ∧
      started.value.planAll (ledgerChanges.map fun c => (c.symbol, c.request)) = .ok planner ∧
      applyEdits (ledgerLines.map .text) (planner.editsFor "Module1".toList) =
        ⟨.ok [.text "amount = sum + rate ' total".toList,
          .text "x = \"rate\" & r".toList], []⟩ := by
  have hword : ∀ c ∈ ledgerChanges, ∀ x ∈ c.old, isWord x = true := by
    have hall : ∀ c ∈ ledgerChanges, c.old.all isWord = true := by decide +kernel
    exact fun c hc => List.all_eq_true.1 (hall c hc)
  have hlines : ∀ line ∈ ledgerLines, IsRegular line := by
    have hascii : ∀ line ∈ ledgerLines, line.all (·.toNat < 0x80) = true := by decide +kernel
    exact fun line hline => isRegular_of_ascii (hascii line hline)
  obtain ⟨started, planner, hstart, hrun, happly, _⟩ := applyEdits_planAll defaultProfile {}
    "Module1".toList ledgerLines ledgerChanges rfl (by decide +kernel) hword hlines
  have hrenamed : renamedLines defaultProfile ledgerChanges =
      ["amount = sum + rate ' total".toList, "x = \"rate\" & r".toList] := by decide +kernel
  rw [hrenamed] at happly
  exact ⟨started, planner, hstart, hrun, happly⟩

end Planner

end RenamePlan
