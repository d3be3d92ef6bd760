import RenamePlan.Proofs.Planner.History
import RenamePlan.Proofs.Report.Order
import RenamePlan.Report.Export

/-!
# Reports do not depend on the schedule

Several workers use one planner, each for modules of its own.  Calls for one module then come from
one worker, so any two schedules agree module by module (`Interleaves.agree`).  The state of the
planner shows the schedule: stores, rows and records stand in the order in which they were made.
The reports do not: what they are sorted by has the module in it, and so tells entries of different
workers apart (`sameReports_after`).
-/

namespace RenamePlan

open PlainEdit Std

/-! ## Calls that agree module by module -/

theorem filter_filterMap_eq {α β : Type} {g : α → Option β} {p : β → Bool} {q : α → Bool}
    (h : ∀ a b, g a = some b → p b = q a) (entries : List α) :
    (entries.filterMap g).filter p = (entries.filter q).filterMap g := by
  rw [List.filter_filterMap, List.filterMap_filter]
  congr 1
  funext a
  cases hg : g a with
  | none => simp
  | some b => simp [Option.filter, h a b hg]

theorem exists_mapM {α β ε : Type} {g : α → Except ε β} (h : ∀ a, ∃ b, g a = .ok b)
    (entries : List α) : ∃ results, entries.mapM g = .ok results := by
  choose result hresult using h
  rw [funext hresult]
  exact ⟨_, List.mapM_pure⟩

namespace PlannerCall

/-- What tells the modules of calls apart. -/
def moduleKey (c : PlannerCall) : Text :=
  fold c.module

/-- Whether the calls for each module are the same, in the same order. -/
def Agree (a b : List PlannerCall) : Prop :=
  ∀ k, a.filter (·.moduleKey = k) = b.filter (·.moduleKey = k)

variable {a b : List PlannerCall}

theorem Agree.renames (h : Agree a b) (k : Text) :
    (a.filterMap rename?).filter (·.moduleKey = k) =
      (b.filterMap rename?).filter (·.moduleKey = k) := by
  have hkey (call : PlannerCall) (c : RenameCall) (hc : call.rename? = some c) :
      decide (c.moduleKey = k) = decide (call.moduleKey = k) := by
    cases call with
    | usage i d => cases hc
    | rename d =>
      obtain rfl := Option.some.inj hc
      rfl
  rw [filter_filterMap_eq hkey, filter_filterMap_eq hkey, h k]

theorem Agree.usages (h : Agree a b) (i : Nat) (k : Text) :
    (a.filterMap (usage? i)).filter (·.key.1 = k) =
      (b.filterMap (usage? i)).filter (·.key.1 = k) := by
  have hkey (call : PlannerCall) (c : UsageCall) (hc : call.usage? i = some c) :
      decide (c.key.1 = k) = decide (call.moduleKey = k) := by
    cases call with
    | usage j d =>
      rw [usage?, Option.ite_none_right_eq_some] at hc
      obtain rfl := Option.some.inj hc.2
      rfl
    | rename d => cases hc
  rw [filter_filterMap_eq hkey, filter_filterMap_eq hkey, h k]

end PlannerCall

open PlannerCall (Agree)

/-! ## Edits -/

namespace Planner

/-- The edits for a module are the first ones at their positions of those that calls for the module
submit. -/
theorem editsFor_after (profile : Profile) (symbols : SymbolTable) (calls : List PlannerCall)
    (module : Text) :
    (after profile symbols calls).editsFor module =
      (firstsOn place (((calls.filterMap PlannerCall.rename?).filter
        (·.moduleKey = fold module)).flatMap (RenameCall.edits profile))).map edit := by
  have hname (c : RenameCall) (past : List RenameCall) :
      sameName (c.store profile past).module module = decide (c.moduleKey = fold module) := by
    rw [Bool.eq_iff_iff, sameName_iff, decide_eq_true_iff]
    rfl
  rw [editsFor, show (after profile symbols calls).stores = grouped _ _ _ from rfl,
    find?_grouped hname]
  cases hfound : (calls.filterMap PlannerCall.rename?).find? (·.moduleKey = fold module) with
  | some c => rfl
  | none =>
    -- no call is for the module, so there is no store and nothing was submitted
    rw [List.filter_eq_nil_iff.2 (List.find?_eq_none.1 hfound)]
    rfl

variable {profile : Profile} {symbols : SymbolTable} {a b : List PlannerCall}

theorem editsFor_eq (h : Agree a b) (module : Text) :
    (after profile symbols a).editsFor module = (after profile symbols b).editsFor module := by
  rw [editsFor_after, editsFor_after, h.renames]

/-- How stores are ordered: by the folds of their modules. -/
def storeCmp : EditStore → EditStore → Ordering :=
  compareOn fun store => fold store.module

instance : TransCmp storeCmp :=
  inferInstanceAs (TransCmp (compareOn _))

theorem sortBy_stores_eq (h : Agree a b) :
    sortBy storeCmp (after profile symbols a).stores =
      sortBy storeCmp (after profile symbols b).stores := by
  refine sortBy_eq_of_filter_eq storeCmp (fun store => fold store.module)
    (fun s t hst => LawfulEqOrd.eq_of_compare hst) fun k => ?_
  have hfilter (calls : List PlannerCall) :
      (after profile symbols calls).stores.filter (fun s => fold s.module = k) =
        grouped RenameCall.moduleKey (RenameCall.store profile)
          ((calls.filterMap PlannerCall.rename?).filter (·.moduleKey = k)) :=
    grouped_filter RenameCall.moduleKey (RenameCall.store profile) (fun m => decide (m = k))
      (fun s => decide (fold s.module = k)) (fun _ _ => rfl) _
  rw [hfilter, hfilter, h.renames]

theorem stores_perm (h : Agree a b) :
    (after profile symbols a).stores.Perm (after profile symbols b).stores := by
  have hsorted := (sortBy_perm storeCmp (after profile symbols a).stores).symm
  rw [sortBy_stores_eq h] at hsorted
  exact hsorted.trans (sortBy_perm ..)

theorem editCount_eq (h : Agree a b) :
    (after profile symbols a).editCount = (after profile symbols b).editCount :=
  ((stores_perm h).flatMap_right _).length_eq

theorem sortedModules_eq (h : Agree a b) :
    sortedModules (after profile symbols a) = sortedModules (after profile symbols b) := by
  have hmap (planner : Planner) :
      sortedModules planner = (sortBy storeCmp planner.stores).map EditStore.module := by
    symm
    exact List.map_mergeSort fun _ _ _ _ => rfl
  rw [hmap, hmap, sortBy_stores_eq h]

/-- The document of all edits can always be made, and is that of any calls that agree. -/
theorem exists_editsDocument (profile : Profile) (symbols : SymbolTable) (h : Agree a b) :
    ∃ document, editsDocument (after profile symbols a) = .ok document ∧
      editsDocument (after profile symbols b) = .ok document := by
  have hmodule (calls : List PlannerCall) (module : Text) : ∃ part,
      moduleEdits (.text module) ((after profile symbols calls).editsFor module) = .ok part := by
    rw [editsFor_after, moduleEdits, applicationOrder_plain]
    exact ⟨_, rfl⟩
  obtain ⟨parts, hparts⟩ := exists_mapM (hmodule a) (sortedModules (after profile symbols a))
  have hdocument : ∃ document, editsDocument (after profile symbols a) = .ok document := by
    rw [editsDocument, hparts]
    exact ⟨_, rfl⟩
  have hsame : editsDocument (after profile symbols b) =
      editsDocument (after profile symbols a) := by
    simp only [editsDocument, sortedModules_eq h, editsFor_eq h, editCount_eq h]
  obtain ⟨document, hdocument⟩ := hdocument
  exact ⟨document, hdocument, hsame.trans hdocument⟩

end Planner

/-! ## Audit -/

namespace Submission

/-- The row of the audit for the edit, with its numbers and texts. -/
def plain (s : Submission) : PlainRow where
  module := s.call.module
  procedure := s.call.procedure.getD []
  line := s.edit.line
  column := s.edit.start
  occurrence := s.call.occurrence
  old := s.edit.old
  new := s.edit.new
  category := s.edit.category

theorem row_plain (s : Submission) : s.plain.row = s.row := by
  have hprocedure : s.call.request.procedure.orEmpty = .text (s.call.procedure.getD []) :=
    orEmpty_routineName _
  rw [row, Planner.RenameRequest.auditRow, hprocedure]
  rfl

end Submission

theorem submissions_filter (profile : Profile) (calls : List RenameCall) (k : Text) :
    (submissions profile calls).filter (·.call.moduleKey = k) =
      submissions profile (calls.filter (·.moduleKey = k)) := by
  induction calls with
  | nil => rfl
  | cons c rest ih =>
    rw [submissions, List.flatMap_cons, List.filter_append, ← submissions, ih, List.filter_map]
    by_cases hc : c.moduleKey = k
    · simp [submissions, hc, Function.comp_def]
    · simp [submissions, hc, Function.comp_def]

namespace Planner

/-- The rows of the audit after calls. -/
def plainRows (profile : Profile) (calls : List PlannerCall) : List PlainRow :=
  (firstsOn Submission.key
    (submissions profile (calls.filterMap PlannerCall.rename?))).map Submission.plain

variable {profile : Profile} {symbols : SymbolTable} {a b : List PlannerCall}

theorem audit_after (calls : List PlannerCall) :
    (after profile symbols calls).audit = (plainRows profile calls).map PlainRow.row := by
  rw [plainRows, List.map_map]
  exact List.map_congr_left fun s _ => s.row_plain.symm

theorem sortBy_plainRows_eq (profile : Profile) (h : Agree a b) :
    sortBy PlainRow.cmp (plainRows profile a) = sortBy PlainRow.cmp (plainRows profile b) := by
  refine sortBy_eq_of_filter_eq PlainRow.cmp (fun r => fold r.module) (fun r s hrs => ?_)
    fun k => ?_
  · -- the module comes first in the order
    exact LawfulEqOrd.eq_of_compare (compareLex_eq_eq.1 hrs).1
  · have hfilter (calls : List PlannerCall) :
        (plainRows profile calls).filter (fun r => fold r.module = k) =
          (firstsOn Submission.key (submissions profile
            ((calls.filterMap PlannerCall.rename?).filter (·.moduleKey = k)))).map
              Submission.plain := by
      rw [plainRows, List.filter_map, ← submissions_filter]
      exact congrArg (List.map Submission.plain)
        (firstsOn_filter Submission.key (fun m => decide (m.1 = k)) _)
    rw [hfilter, hfilter, h.renames]

theorem exists_auditTable (profile : Profile) (symbols : SymbolTable) (h : Agree a b)
    (quoting : FieldQuoting) :
    ∃ table, auditTable quoting (after profile symbols a).audit = .ok table ∧
      auditTable quoting (after profile symbols b).audit = .ok table := by
  rw [auditTable, auditTable, audit_after, audit_after, PlainRow.sorted_plain,
    PlainRow.sorted_plain, sortBy_plainRows_eq profile h]
  exact ⟨_, rfl, rfl⟩

theorem length_audit_eq (h : Agree a b) :
    (after profile symbols a).audit.length = (after profile symbols b).audit.length := by
  have hlength := congrArg List.length (sortBy_plainRows_eq profile h)
  rw [(sortBy_perm ..).length_eq, (sortBy_perm ..).length_eq] at hlength
  rw [audit_after, audit_after, List.length_map, List.length_map, hlength]

/-! ## Usages -/

/-- What is written for a symbol. -/
theorem exists_toSortedJson (h : Agree a b) (i : Nat) (s : Symbol) :
    ∃ written, (symbolAfter a i s).toSortedJson = .ok written ∧
      (symbolAfter b i s).toSortedJson = .ok written := by
  have hsorted : sortBy UsageCall.cmp (grouped UsageCall.key Prod.mk
        (a.filterMap (PlannerCall.usage? i))) =
      sortBy UsageCall.cmp (grouped UsageCall.key Prod.mk
        (b.filterMap (PlannerCall.usage? i))) := by
    refine sortBy_eq_of_filter_eq UsageCall.cmp (fun u => u.1.key.1) (fun u v huv => ?_)
      fun k => ?_
    · exact LawfulEqOrd.eq_of_compare (compareLex_eq_eq.1 huv).1
    · have hfilter (calls : List UsageCall) :
          (grouped UsageCall.key Prod.mk calls).filter (fun u => u.1.key.1 = k) =
            grouped UsageCall.key Prod.mk (calls.filter (·.key.1 = k)) :=
        grouped_filter UsageCall.key Prod.mk (fun m => decide (m.1 = k))
          (fun u => decide (u.1.key.1 = k)) (fun _ _ => rfl) calls
      rw [hfilter, hfilter, h.usages]
  rw [Symbol.toSortedJson, Symbol.toSortedJson, symbolAfter, symbolAfter, UsageCall.sorted_sheets,
    UsageCall.sorted_sheets, hsorted]
  exact ⟨_, rfl, rfl⟩

theorem toSortedJson_symbolsAfter {calls : List PlannerCall} {written : Nat → Symbol → Json}
    (h : ∀ i s, (symbolAfter calls i s).toSortedJson = .ok (written i s)) :
    (symbolsAfter symbols calls).toSortedJson =
      .ok (symbols.toJsonWith (symbols.symbols.mapIdx written)) := by
  have hwritten : (symbolsAfter symbols calls).symbols.mapM Symbol.toSortedJson =
      .ok (symbols.symbols.mapIdx written) := by
    rw [symbolsAfter, List.mapIdx_eq_zipIdx_map, List.mapM_map, List.mapIdx_eq_zipIdx_map]
    rw [show Symbol.toSortedJson ∘ _ = fun entry : Symbol × Nat =>
      (pure (written entry.2 entry.1) : Except ValueFault Json) from funext fun entry => h _ _]
    exact List.mapM_pure
  have hsize : (symbolsAfter symbols calls).size = symbols.size := List.length_mapIdx
  rw [SymbolTable.toSortedJson, hwritten]
  show Except.ok ((symbolsAfter symbols calls).toJsonWith _) = _
  rw [SymbolTable.toJsonWith, hsize]
  rfl

theorem exists_usagesDocument (profile : Profile) (symbols : SymbolTable) (h : Agree a b) :
    ∃ document, usagesDocument (after profile symbols a).symbols = .ok document ∧
      usagesDocument (after profile symbols b).symbols = .ok document := by
  choose written ha hb using exists_toSortedJson h
  exact ⟨_, toSortedJson_symbolsAfter ha, toSortedJson_symbolsAfter hb⟩

/-! ## Reports -/

/-- Whether two planners report the same: documents, counts, and whatever the exports leave. -/
structure SameReports (p q : Planner) : Prop where
  orderedEditsFor_eq : ∀ module, ∃ edits, p.orderedEditsFor module = .ok edits ∧
    q.orderedEditsFor module = .ok edits
  editCount_eq : p.editCount = q.editCount
  editsDocument_eq : ∃ document, editsDocument p = .ok document ∧ editsDocument q = .ok document
  auditTable_eq : ∀ quoting, ∃ table, auditTable quoting p.audit = .ok table ∧
    auditTable quoting q.audit = .ok table
  usagesDocument_eq : ∃ document, usagesDocument p.symbols = .ok document ∧
    usagesDocument q.symbols = .ok document
  exportEdits_eq : ∀ files here failures path indent,
    exportEdits files here failures path p indent = exportEdits files here failures path q indent
  exportAudit_eq : ∀ files here failures path quoting,
    exportAudit files here failures path quoting p.audit =
      exportAudit files here failures path quoting q.audit
  exportUsages_eq : ∀ files here failures path indent,
    exportUsages files here failures path p.symbols indent =
      exportUsages files here failures path q.symbols indent

/-- Calls that agree module by module leave the same reports. -/
theorem sameReports_after (profile : Profile) (symbols : SymbolTable) (h : Agree a b) :
    SameReports (after profile symbols a) (after profile symbols b) where
  orderedEditsFor_eq module := by
    rw [orderedEditsFor, orderedEditsFor, editsFor_eq h, editsFor_after, applicationOrder_plain]
    exact ⟨_, rfl, rfl⟩
  editCount_eq := editCount_eq h
  editsDocument_eq := exists_editsDocument profile symbols h
  auditTable_eq := exists_auditTable profile symbols h
  usagesDocument_eq := exists_usagesDocument profile symbols h
  exportEdits_eq files here failures path indent := by
    obtain ⟨document, ha, hb⟩ := exists_editsDocument profile symbols h
    have hprofile (calls : List PlannerCall) :
        (after profile symbols calls).profile = profile := rfl
    have hmodules : (after profile symbols a).modules.length =
        (after profile symbols b).modules.length := ((stores_perm h).map _).length_eq
    unfold exportEdits
    rw [ha, hb, hprofile, hprofile, editCount_eq h, hmodules]
  exportAudit_eq files here failures path quoting := by
    obtain ⟨table, ha, hb⟩ := exists_auditTable profile symbols h quoting
    rw [exportAudit, exportAudit, ha, hb, length_audit_eq h]
  exportUsages_eq files here failures path indent := by
    obtain ⟨document, ha, hb⟩ := exists_usagesDocument profile symbols h
    have hsize (calls : List PlannerCall) :
        (after profile symbols calls).symbols.size = symbols.size := List.length_mapIdx
    rw [exportUsages, exportUsages, ha, hb, hsize, hsize]

end Planner

/-! ## Schedules -/

/-- Whether the schedule takes the calls of each worker in the worker's order, each call in one
step. -/
def Interleaves {count : Nat} (workers : Fin count → List PlannerCall)
    (schedule : List (Fin count × PlannerCall)) : Prop :=
  ∀ w, (schedule.filter (·.1 = w)).map Prod.snd = workers w

namespace Interleaves

variable {count : Nat} {workers : Fin count → List PlannerCall}
  {schedule a b : List (Fin count × PlannerCall)}

theorem mem_workers (h : Interleaves workers schedule) {step : Fin count × PlannerCall}
    (hstep : step ∈ schedule) : step.2 ∈ workers step.1 := by
  rw [← h step.1]
  exact List.mem_map_of_mem (List.mem_filter.2 ⟨hstep, decide_eq_true rfl⟩)

/-- Where one worker has all the calls for a module, the schedule has them in that worker's
order. -/
theorem filter_eq (h : Interleaves workers schedule) {k : Text} {w : Fin count}
    (hown : ∀ v, ∀ c ∈ workers v, c.moduleKey = k → v = w) :
    (schedule.map Prod.snd).filter (·.moduleKey = k) = (workers w).filter (·.moduleKey = k) := by
  rw [← h w, List.filter_map, List.filter_map, List.filter_filter]
  congr 1
  refine List.filter_congr fun step hstep => ?_
  by_cases hkey : step.2.moduleKey = k
  · simp [hkey, hown step.1 step.2 (h.mem_workers hstep) hkey]
  · simp [hkey]

/-- If workers have modules of their own, schedules agree module by module. -/
theorem agree (hworkers : ∀ v w, v ≠ w → ∀ c ∈ workers v, ∀ d ∈ workers w,
      c.moduleKey ≠ d.moduleKey)
    (ha : Interleaves workers a) (hb : Interleaves workers b) :
    Agree (a.map Prod.snd) (b.map Prod.snd) := by
  intro k
  by_cases hused : ∃ w, ∃ c ∈ workers w, c.moduleKey = k
  · obtain ⟨w, c, hc, hkey⟩ := hused
    -- the module is `w`'s, so both schedules have its calls in the order of `w`
    have hown : ∀ v, ∀ d ∈ workers v, d.moduleKey = k → v = w := by
      intro v d hd hdkey
      by_contra hne
      exact hworkers v w hne d hd c hc (hdkey.trans hkey.symm)
    rw [ha.filter_eq hown, hb.filter_eq hown]
  · have hnone {schedule : List (Fin count × PlannerCall)} (h : Interleaves workers schedule) :
        (schedule.map Prod.snd).filter (·.moduleKey = k) = [] := by
      rw [List.filter_eq_nil_iff]
      intro c hc hkey
      obtain ⟨step, hstep, rfl⟩ := List.mem_map.1 hc
      exact hused ⟨step.1, step.2, h.mem_workers hstep, of_decide_eq_true hkey⟩
    rw [hnone ha, hnone hb]

end Interleaves

namespace Planner

theorem after_nil {symbols : SymbolTable} (h : ∀ s ∈ symbols.symbols, s.usages.sheets = [])
    (profile : Profile) : after profile symbols [] = { profile, symbols } := by
  have hsymbols : symbolsAfter symbols [] = symbols := by
    refine congrArg SymbolTable.mk (List.ext_getElem? fun i => ?_)
    rw [List.getElem?_mapIdx]
    cases hs : symbols.symbols[i]? with
    | none => rfl
    | some s =>
      have hempty : s.usages = ⟨[]⟩ := congrArg UsageRegistry.mk (h s (List.mem_of_getElem? hs))
      rw [Option.map_some, symbolAfter]
      exact congrArg (fun usages => some { s with usages }) hempty.symm
  rw [after, hsymbols]
  rfl

/-- **Reports do not depend on the schedule.**  A new planner is used by workers that share no
module.  Every schedule of their calls succeeds, and any two leave planners that report the
same. -/
theorem foldlM_perform_sameReports (profile : Profile) (symbols : SymbolTable) {count : Nat}
    (workers : Fin count → List PlannerCall) (a b : List (Fin count × PlannerCall))
    (hprofile : profile.check = .ok ()) (hsymbols : ∀ s ∈ symbols.symbols, s.usages.sheets = [])
    (hworkers : ∀ v w, v ≠ w → ∀ c ∈ workers v, ∀ d ∈ workers w, c.moduleKey ≠ d.moduleKey)
    (ha : Interleaves workers a) (hb : Interleaves workers b) :
    ∃ started p q, start profile symbols = .ok started ∧
      (a.map Prod.snd).foldlM PlannerCall.perform started.value = .ok p ∧
      (b.map Prod.snd).foldlM PlannerCall.perform started.value = .ok q ∧ SameReports p q := by
  have hrun (calls : List PlannerCall) :
      calls.foldlM PlannerCall.perform { profile, symbols } =
        .ok (after profile symbols calls) := by
    rw [← after_nil hsymbols]
    exact foldlM_eq_of_step (perform_after profile symbols) [] calls
  exact ⟨_, _, _, start_of_check hprofile symbols, hrun _, hrun _,
    sameReports_after profile symbols (Interleaves.agree hworkers ha hb)⟩

/-- One symbol, used in both modules. -/
def sharedSymbols : SymbolTable :=
  ⟨[⟨"x".toList, .var, "Main".toList, .null, .null, .null, {}⟩]⟩

/-- A rename of both words of a line, and a usage under another spelling of the module. -/
def wordCalls (symbol : Symbol) (module other : Text) : List PlannerCall :=
  [.rename ⟨symbol, module, "x = X".toList, 1, "x".toList, "total".toList, "var".toList,
      everyOccurrence, none, some "Run".toList⟩,
    .usage 0 ⟨other, none, 1, 2, 4⟩]

/-- Two workers, each with a module of its own. -/
def pairOfWorkers : Fin 2 → List PlannerCall
  | 0 => sharedSymbols.symbols.flatMap fun s => wordCalls s "Main".toList "MAIN".toList
  | 1 => sharedSymbols.symbols.flatMap fun s => wordCalls s "Aux".toList "aux".toList

/-- One worker after the other. -/
def inTurn : List (Fin 2 × PlannerCall) :=
  (pairOfWorkers 0).map (0, ·) ++ (pairOfWorkers 1).map (1, ·)

/-- The workers by turns, the second one first. -/
def byTurns : List (Fin 2 × PlannerCall) :=
  ((pairOfWorkers 0).zip (pairOfWorkers 1)).flatMap fun (c, d) => [(1, d), (0, c)]

/-- The planners of the two schedules differ, and report the same. -/
theorem sameReports_pairOfWorkers :
    ∃ started p q, start defaultProfile sharedSymbols = .ok started ∧
      (inTurn.map Prod.snd).foldlM PlannerCall.perform started.value = .ok p ∧
      (byTurns.map Prod.snd).foldlM PlannerCall.perform started.value = .ok q ∧
      p.modules = ["Main".toList, "Aux".toList] ∧ q.modules = ["Aux".toList, "Main".toList] ∧
      SameReports p q := by
  have hsymbols : ∀ s ∈ sharedSymbols.symbols, s.usages.sheets = [] := by
    intro s hs
    rw [List.mem_singleton.1 hs]
  have hin : Interleaves pairOfWorkers inTurn := fun
    | 0 => rfl
    | 1 => rfl
  have hby : Interleaves pairOfWorkers byTurns := fun
    | 0 => rfl
    | 1 => rfl
  obtain ⟨started, p, q, hstart, hp, hq, hreports⟩ := foldlM_perform_sameReports defaultProfile
    sharedSymbols pairOfWorkers inTurn byTurns rfl hsymbols (by decide +kernel) hin hby
  have hrun (calls : List PlannerCall) :
      calls.foldlM PlannerCall.perform started.value =
        .ok (after defaultProfile sharedSymbols calls) := by
    obtain rfl := Except.ok.inj hstart
    exact foldlM_eq_of_step (perform_after defaultProfile sharedSymbols) [] calls
  refine ⟨started, p, q, hstart, hp, hq, ?_, ?_, hreports⟩
  · rw [← Except.ok.inj ((hrun _).symm.trans hp)]
    decide +kernel
  · rw [← Except.ok.inj ((hrun _).symm.trans hq)]
    decide +kernel

end Planner

end RenamePlan
