import RenamePlan.Proofs.History.StableSort
import RenamePlan.Proofs.Json.RoundTrip
import RenamePlan.Proofs.Planner.Ledger
import RenamePlan.Proofs.Report.Delivery

/-!
# The report of the edits can be read back

`EditsReport.read?` reads the report of a planner's edits as any reader of JSON would: the count,
and the modules with their edits.  After a session whose edits are made of numbers and texts it
finds in the written report what the planner holds (`EditsReport.read?_session`).

* **Plain sessions** — edits that the calls of such a session store are plain (`isPlain_ledger`), so
  they can be put in order.
* **Documents** — the document of a planner is that of a report (`exists_document`), from which the
  report is read (`ofJson?_document`) and which holds no fraction (`isWhole_document`), so that
  nothing is lost when it is written.
* **Modules** — stores are for modules with different folds, so the modules of the report ascend
  strictly (`pairwise_sortedModules`).
-/

namespace RenamePlan

open Std

/-! ## Plain sessions -/

/-- Whether the edit is made of numbers and texts. -/
def Edit.IsPlain (e : Edit) : Prop :=
  ∃ p : PlainEdit, e = p.edit

/-- Whether what the call asks to store is made of numbers and texts. -/
def SessionCall.IsPlain : SessionCall → Prop
  | plan _ request => ∃ line new category, request.lineNumber = .int line ∧
      request.new = .text new ∧ request.category = .text category
  | addEdit _ e => e.IsPlain
  | _ => True

namespace EditStore

theorem mem_of_mem_insertAll {store : EditStore} {edits : List Edit} {e : Edit}
    (h : e ∈ (store.insertAll edits).value.2) : e ∈ edits := by
  induction edits generalizing store with
  | nil => cases h
  | cons first rest ih =>
    change e ∈ if (store.insert first).value.2
      then first :: ((store.insert first).value.1.insertAll rest).value.2
      else ((store.insert first).value.1.insertAll rest).value.2 at h
    split at h
    · rcases List.mem_cons.1 h with rfl | h
      · exact List.mem_cons_self
      · exact List.mem_cons_of_mem first (ih h)
    · exact List.mem_cons_of_mem first (ih h)

/-- What is new on a line are edits that the request asks for. -/
theorem exists_match_of_addLine {store : EditStore} {request : LineRequest}
    {done : Logged (EditStore × List Edit)} (h : store.addLine request = .ok done) {e : Edit}
    (he : e ∈ done.value.2) : ∃ m, e = request.editAt m := by
  unfold addLine LineRequest.edits at h
  cases hselected : selectIn request.text request.old request.new request.occurrence
      request.skipLiterals with
  | error fault =>
    rw [hselected] at h
    cases h
  | ok selected =>
    rw [hselected] at h
    change (if _ then _ else _) = _ at h
    split at h
    · obtain rfl := Except.ok.inj h
      obtain ⟨m, -, rfl⟩ := List.mem_map.1 (mem_of_mem_insertAll he)
      exact ⟨m, rfl⟩
    · cases h

end EditStore

namespace Planner

/-- The answer to work on a store is that of the work. -/
theorem exists_result_withStore {α : Type} (planner : Planner) (module : Text)
    (work : EditStore → Except ValueFault (Logged (EditStore × α))) :
    ∃ store, (planner.withStore module work).result =
      (work store).map fun done => done.value.2 := by
  obtain ⟨⟨⟨opened, i⟩, log⟩, hopening⟩ : ∃ opening, planner.openStore module = opening := ⟨_, rfl⟩
  refine ⟨opened.storeAt i, ?_⟩
  simp only [withStore, hopening]
  cases work (opened.storeAt i) with
  | error fault => rfl
  | ok done => rfl

/-- A plain call stores plain edits. -/
theorem isPlain_stored {call : SessionCall} (h : call.IsPlain) (planner : Planner) :
    ∀ s ∈ call.stored planner, s.edit.IsPlain := by
  intro s hs
  cases call with
  | plan symbol request =>
    obtain ⟨line, new, category, hline, hnew, hcategory⟩ := h
    rw [SessionCall.stored] at hs
    rcases planner.plan_cases symbol request with
      ⟨-, fault, hresult⟩ | ⟨module, asked, hmodule, ⟨text, rfl⟩, hresult, -⟩
    · rw [hresult] at hs
      cases hm : request.module <;> simp [hm] at hs
    · obtain ⟨store, hstore⟩ := planner.exists_result_withStore module
        (·.addLine (lineRequest planner.profile request text))
      rw [hresult, hstore, hmodule] at hs
      cases hdone : store.addLine (lineRequest planner.profile request text) with
      | error fault => simp [hdone, Except.map] at hs
      | ok done =>
        simp only [hdone, Except.map, List.mem_map] at hs
        obtain ⟨e, he, rfl⟩ := hs
        obtain ⟨m, rfl⟩ := EditStore.exists_match_of_addLine hdone he
        refine ⟨⟨line, m.start, m.stop, m.text, new, category⟩, ?_⟩
        simp only [LineRequest.editAt, lineRequest, hline, hnew, hcategory]
        rfl
  | addEdit module e =>
    rw [SessionCall.stored] at hs
    split at hs
    · rw [List.mem_singleton.1 hs]
      exact h
    · cases hs
  | _ => cases hs

/-- A plain session stores plain edits. -/
theorem isPlain_ledger {calls : List SessionCall} (h : ∀ call ∈ calls, call.IsPlain)
    (planner : Planner) : ∀ s ∈ planner.ledger calls, s.edit.IsPlain := by
  induction calls generalizing planner with
  | nil =>
    intro s hs
    cases hs
  | cons call rest ih =>
    intro s hs
    rw [ledger, List.mem_append] at hs
    rcases hs with hs | hs
    · exact isPlain_stored (h call List.mem_cons_self) planner s hs
    · exact ih (fun other hother => h other (List.mem_cons_of_mem call hother)) _ s hs

end Planner

/-! ## Indentations -/

/-- Whether a number of spaces is within the bounds of widths, and there is memory for it. -/
def IndentFits (room : Option Nat) (indent : Int) : Prop :=
  -widthLimit ≤ indent ∧ indent < widthLimit ∧ ∀ most, room = some most → indent.toNat ≤ most

/-- A whole number asks for so many spaces, unless these do not fit. -/
theorem layoutOf_int_cases (room : Option Nat) (indent : Int) :
    IndentFits room indent ∧
        layoutOf room (.int indent) = .ok (.broken (List.replicate indent.toNat ' ')) ∨
      ¬ IndentFits room indent ∧ ∃ fault, layoutOf room (.int indent) = .error fault := by
  rw [layoutOf]
  by_cases hwide : indent < -widthLimit ∨ widthLimit ≤ indent
  · rw [if_pos hwide]
    exact Or.inr ⟨fun hfits => by have := hfits.1; have := hfits.2.1; omega, _, rfl⟩
  · rw [if_neg hwide]
    by_cases hroom : room.any (· < indent.toNat) = true
    · rw [if_pos hroom]
      refine Or.inr ⟨fun hfits => ?_, _, rfl⟩
      obtain ⟨most, hmost, hless⟩ := (Option.any_eq_true ..).1 hroom
      have := hfits.2.2 most hmost
      have := of_decide_eq_true hless
      omega
    · rw [if_neg hroom]
      refine Or.inl ⟨⟨by omega, by omega, fun most hmost => ?_⟩, rfl⟩
      rw [hmost, Option.any_some, decide_eq_true_iff] at hroom
      omega

/-- The text of a document, if its indentation fits. -/
theorem documentText_int {failures : DeviceFailures} {document : Json} {indent : Int}
    {text : Text} :
    documentText failures (.ok document) (.int indent) = .ok text ↔
      IndentFits failures.room indent ∧
        text = document.render (.broken (List.replicate indent.toNat ' ')) := by
  rw [documentText]
  rcases layoutOf_int_cases failures.room indent with ⟨hin, hlayout⟩ | ⟨hout, fault, hlayout⟩
  · rw [hlayout]
    exact ⟨fun htext => ⟨hin, (Except.ok.inj htext).symm⟩, fun htext => congrArg _ htext.2.symm⟩
  · rw [hlayout]
    refine ⟨fun htext => ?_, fun htext => absurd htext.1 hout⟩
    cases htext

/-! ## Reports -/

/-- The edits that a report lists. -/
structure EditsReport where
  /-- The number that the report gives for all edits. -/
  count : Int
  /-- The modules with their edits, in the order of the report. -/
  modules : List (Text × List Edit)

namespace EditsReport

/-- The part of a module in the document of a report. -/
def part (entry : Text × List Edit) : Json :=
  .object [
    ("module".toList, .text entry.1),
    ("replaces".toList, .list (entry.2.map Edit.toJson))]

/-- The document of a report. -/
def document (report : EditsReport) : Json :=
  .object [
    ("replace_count".toList, .int report.count),
    ("modules".toList, .list (report.modules.map part))]

/-- Reads the part of a module. -/
def ofPart? (part : Json) : Option (Text × List Edit) :=
  match part.field? "module", part.field? "replaces" with
  | some (.text module), some (.list replaces) =>
    (replaces.mapM Edit.ofJson).toOption.map fun edits => (module, edits)
  | _, _ => none

/-- Reads the document of a report. -/
def ofJson? (document : Json) : Option EditsReport :=
  match document.field? "replace_count", document.field? "modules" with
  | some (.int count), some (.list parts) =>
    (parts.mapM ofPart?).map fun modules => ⟨count, modules⟩
  | _, _ => none

/-- Reads the text of a report. -/
def read? (text : Text) : Option EditsReport :=
  (Json.parse? text).bind ofJson?

theorem ofPart?_part (entry : Text × List Edit) : ofPart? (part entry) = some entry := by
  have hedits : (entry.2.map Edit.toJson).mapM Edit.ofJson = .ok entry.2 :=
    mapM_map_eq_pure fun e _ => Edit.ofJson_toJson e
  show ((entry.2.map Edit.toJson).mapM Edit.ofJson).toOption.map _ = _
  rw [hedits]
  rfl

/-- A report is read from its document. -/
theorem ofJson?_document (report : EditsReport) : ofJson? report.document = some report := by
  have hmodules : (report.modules.map part).mapM ofPart? = some report.modules :=
    mapM_map_eq_pure fun entry _ => ofPart?_part entry
  show ((report.modules.map part).mapM ofPart?).map _ = _
  rw [hmodules]
  rfl

/-- The document of plain edits holds no fraction. -/
theorem isWhole_document {report : EditsReport}
    (h : ∀ entry ∈ report.modules, ∀ e ∈ entry.2, e.IsPlain) :
    report.document.isWhole = true := by
  have hparts : Json.areWhole (report.modules.map part) = true := by
    refine Json.areWhole_map fun entry hentry => ?_
    have hedits : Json.areWhole (entry.2.map Edit.toJson) = true := by
      refine Json.areWhole_map fun e he => ?_
      obtain ⟨p, rfl⟩ := h entry hentry e he
      rfl
    simp [part, Json.isWhole, Json.haveWhole, hedits]
  simp [document, Json.isWhole, Json.haveWhole, hparts]

/-- A report is read from its text. -/
theorem read?_render {report : EditsReport}
    (h : ∀ entry ∈ report.modules, ∀ e ∈ entry.2, e.IsPlain) {layout : Layout}
    (hblank : layout.IsBlank) : read? (report.document.render layout) = some report := by
  rw [read?, Json.parse?_render hblank (isWhole_document h), Option.bind_some, ofJson?_document]

/-! ## What the report lists -/

/-- What a report owes to the planner. -/
structure Covers (report : EditsReport) (planner : Planner) : Prop where
  /-- The modules are those that have a store. -/
  modules_perm : (report.modules.map Prod.fst).Perm planner.modules
  /-- The modules ascend strictly by their folds. -/
  ascending : (report.modules.map Prod.fst).Pairwise fun a b => compare (fold a) (fold b) = .lt
  /-- With each module come its edits in application order. -/
  edits_eq : ∀ entry ∈ report.modules, planner.orderedEditsFor entry.1 = .ok entry.2
  /-- The count is that of the edits in the report. -/
  count_eq : report.count = (report.modules.map fun entry => entry.2.length).sum

/-- Modules with different folds are sorted strictly. -/
theorem pairwise_sortedModules {planner : Planner} (h : planner.ModulesDiffer) :
    (sortedModules planner).Pairwise fun a b => compare (fold a) (fold b) = .lt := by
  have hperm : (sortedModules planner).Perm planner.modules := sortBy_perm (compareOn fold) _
  have hdiffer : (sortedModules planner).Pairwise fun a b => sameName a b = false := by
    refine (hperm.pairwise_iff ?_).2 h
    intro a b hab
    rw [sameName_comm]
    exact hab
  have hsorted : (sortedModules planner).Pairwise fun a b =>
      (compare (fold a) (fold b)).isLE = true := pairwise_sortBy (compareOn fold) planner.modules
  refine (hsorted.and hdiffer).imp ?_
  intro a b hab
  obtain ⟨hle, hne⟩ := hab
  -- equal folds would make the two modules one name
  have hfolds : compare (fold a) (fold b) ≠ .eq := by
    intro heq
    rw [sameName_iff.2 (LawfulEqOrd.eq_of_compare heq)] at hne
    cases hne
  cases hcompare : compare (fold a) (fold b) with
  | lt => rfl
  | eq => exact absurd hcompare hfolds
  | gt =>
    rw [hcompare] at hle
    cases hle

theorem mapM_moduleEdits {planner : Planner} {ordered : Text → List Edit}
    (h : ∀ module, planner.orderedEditsFor module = .ok (ordered module)) (modules : List Text) :
    (modules.mapM fun module => moduleEdits (.text module) (planner.editsFor module)) =
      .ok (modules.map fun module => part (module, ordered module)) := by
  have hpart : (fun module => moduleEdits (.text module) (planner.editsFor module)) =
      fun module => (pure (part (module, ordered module)) : Except ValueFault Json) := by
    funext module
    rw [moduleEdits, show applicationOrder (planner.editsFor module) = _ from h module]
    rfl
  rw [hpart, List.mapM_pure]
  rfl

/-- The document of a planner with plain edits is that of a report on it. -/
theorem exists_document {planner : Planner} (hdiffer : planner.ModulesDiffer)
    (hplain : ∀ module, ∀ e ∈ planner.editsFor module, e.IsPlain) :
    ∃ report : EditsReport, editsDocument planner = .ok report.document ∧ report.Covers planner ∧
      ∀ entry ∈ report.modules, ∀ e ∈ entry.2, e.IsPlain := by
  have hordered : ∀ module, ∃ edits, planner.orderedEditsFor module = .ok edits := by
    intro module
    refine exists_applicationOrder fun e he => ?_
    obtain ⟨p, rfl⟩ := hplain module e he
    exact Edit.isPlaced_plain ..
  choose ordered hordered using hordered
  have hperm : ∀ module, (ordered module).Perm (planner.editsFor module) :=
    fun module => applicationOrder_perm (hordered module)
  have hmodules : ((sortedModules planner).map fun module => (module, ordered module)).map
      Prod.fst = sortedModules planner := by
    rw [List.map_map]
    exact List.map_id _
  have hsorted : (sortedModules planner).Perm planner.modules := sortBy_perm (compareOn fold) _
  refine ⟨⟨planner.editCount, (sortedModules planner).map fun module => (module, ordered module)⟩,
    ?_, ⟨?_, ?_, ?_, ?_⟩, ?_⟩
  · rw [editsDocument, mapM_moduleEdits hordered, document, List.map_map]
    rfl
  · rw [hmodules]
    exact hsorted
  · rw [hmodules]
    exact pairwise_sortedModules hdiffer
  · intro entry hentry
    obtain ⟨module, -, rfl⟩ := List.mem_map.1 hentry
    exact hordered module
  · rw [hdiffer.editCount_eq_sum, List.map_map]
    refine congrArg Nat.cast ((hsorted.map _).sum_nat.symm.trans ?_)
    refine congrArg List.sum (List.map_congr_left fun module _ => ?_)
    exact (hperm module).length_eq.symm
  · intro entry hentry e he
    obtain ⟨module, -, rfl⟩ := List.mem_map.1 hentry
    exact hplain module e ((hperm module).mem_iff.1 he)

/-! ## The law of the report -/

/-- **The report of the edits loses nothing.**  After a session in which the stored edits are made
of numbers and texts, there is a report on the planner that is read from every text that is written,
whatever the indentation.  The text can be made iff the indentation fits: it is within the bounds of
widths, and there is memory for it.  An export that succeeds has delivered such a text. -/
theorem read?_session (profile : Profile) (symbols : SymbolTable) (started : Logged Planner)
    (h : Planner.start profile symbols = .ok started) (calls : List SessionCall)
    (hcalls : ∀ call ∈ calls, call.IsPlain) :
    ∃ report : EditsReport, report.Covers (started.value.session calls) ∧
      (∀ failures indent, (∃ text,
        documentText failures (editsDocument (started.value.session calls)) (.int indent) =
          .ok text) ↔ IndentFits failures.room indent) ∧
      (∀ failures indent text,
        documentText failures (editsDocument (started.value.session calls)) (.int indent) =
          .ok text → read? text = some report) ∧
      ∀ files here failures path indent target,
        (exportEdits files here failures path (started.value.session calls)
            (.int indent)).result = .ok target →
          ∃ text, read? text = some report ∧
            Delivered files (exportEdits files here failures path (started.value.session calls)
              (.int indent)).state target.parts text := by
  have hbalanced := (Planner.balanced_start h).session calls
  rw [List.nil_append] at hbalanced
  have hplain : ∀ module, ∀ e ∈ (started.value.session calls).editsFor module, e.IsPlain := by
    intro module e he
    rw [hbalanced.editsFor_eq] at he
    obtain ⟨s, hs, rfl⟩ := List.mem_map.1 he
    exact Planner.isPlain_ledger hcalls started.value s (List.mem_filter.1 hs).1
  obtain ⟨report, hdocument, hcovers, hentries⟩ :=
    exists_document hbalanced.modulesDiffer hplain
  have hread : ∀ failures indent text,
      documentText failures (editsDocument (started.value.session calls)) (.int indent) =
        .ok text → read? text = some report := by
    intro failures indent text htext
    rw [hdocument, documentText_int] at htext
    obtain ⟨-, rfl⟩ := htext
    exact read?_render hentries (Layout.isBlank_spaces _)
  refine ⟨report, hcovers, fun failures indent => ⟨?_, ?_⟩, hread, ?_⟩
  · rintro ⟨text, htext⟩
    rw [hdocument, documentText_int] at htext
    exact htext.1
  · intro hin
    exact ⟨_, hdocument ▸ documentText_int.2 ⟨hin, rfl⟩⟩
  · intro files here failures path indent target hresult
    obtain ⟨text, -, htext, hdelivered⟩ := delivered_of_exportText
      (ReportKind.lower_extension_ne_nil (.edits (.int indent))) hresult
    exact ⟨text, hread failures indent text htext, hdelivered⟩

/-- A session with signs that JSON escapes, a sign beyond the first plane, a number of forty digits
and a module without edits. -/
def awkwardSession : List SessionCall := [
  Planner.renameOn "say \"x\\\"" "x = X" 7 .null,
  .addEdit "SAY \"X\\\"".toList
    (.plain (10 ^ 39) (-3) 0 "\t\u0000\u007f\n".toList "😀\\".toList "\"".toList),
  .openStore "aux".toList]

/-- The report of the awkward session, with no indentation. -/
theorem read?_awkwardSession :
    ∃ started report text, Planner.start Planner.defaultProfile {} = .ok started ∧
      (started.value.session awkwardSession).modules = ["say \"x\\\"".toList, "aux".toList] ∧
      (started.value.session awkwardSession).editCount = 3 ∧
      documentText {} (editsDocument (started.value.session awkwardSession)) (.int (-1)) =
        .ok text ∧
      read? text = some report ∧ report.Covers (started.value.session awkwardSession) := by
  have hcalls : ∀ call ∈ awkwardSession, call.IsPlain := by
    intro call hcall
    simp only [awkwardSession, List.mem_cons, List.not_mem_nil, or_false] at hcall
    rcases hcall with rfl | rfl | rfl
    · exact ⟨_, _, _, rfl, rfl, rfl⟩
    · exact ⟨⟨10 ^ 39, -3, 0, _, _, _⟩, rfl⟩
    · trivial
  obtain ⟨report, hcovers, hmade, hread, -⟩ :=
    read?_session Planner.defaultProfile {} _ rfl awkwardSession hcalls
  have hfits : IndentFits none (-1) := ⟨by decide, by decide, fun _ hmost => by cases hmost⟩
  obtain ⟨text, htext⟩ := (hmade {} (-1)).2 hfits
  refine ⟨_, report, text, rfl, ?_, ?_, htext, hread {} (-1) text htext, hcovers⟩
  · decide +kernel
  · decide +kernel

end EditsReport

end RenamePlan
