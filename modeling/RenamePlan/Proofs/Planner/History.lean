import RenamePlan.Proofs.Edit.FirstWriter
import RenamePlan.Proofs.Planner.Plan
import RenamePlan.Proofs.Usage.History

/-!
# The planner and its calls

A planner takes usages and renames in any order.  Its state is a function of the calls
(`Planner.after`): a store for each module with the first edit at each position, a row of the audit
for each of these edits with the call that it is due to, and for each symbol the registry of its own
usages.  One call extends the state by itself (`perform_after`), so a run extends it by its calls.
-/

namespace RenamePlan

open PlainEdit

/-! ## Calls -/

/-- A call that asks a planner to rename a symbol on a line. -/
structure RenameCall where
  symbol : Symbol
  module : Text
  lineText : Text
  line : Int
  old : Text
  new : Text
  category : Text
  occurrence : Int := everyOccurrence
  skipLiterals : Option Bool := none
  procedure : Option Text := none

namespace RenameCall

/-- What is asked of the planner. -/
def request (c : RenameCall) : RenameRequest where
  module := .text c.module
  lineText := .text c.lineText
  lineNumber := .int c.line
  old := .text c.old
  new := .text c.new
  category := .text c.category
  occurrence := .int c.occurrence
  skipLiterals := c.skipLiterals.elim .null .bool
  procedure := routineName c.procedure

/-- What a planner with the profile asks of the store. -/
def plain (profile : Profile) (c : RenameCall) : PlainRequest where
  text := searched profile c.lineText
  line := c.line
  old := c.old
  new := c.new
  category := c.category
  occurrence := c.occurrence
  skipLiterals := Planner.skipsLiterals profile c.request.skipLiterals

/-- The edits that the call submits under the profile. -/
def edits (profile : Profile) (c : RenameCall) : List PlainEdit :=
  (c.plain profile).edits

/-- What tells modules apart. -/
def moduleKey (c : RenameCall) : Text :=
  fold c.module

/-- The store that calls for one module leave: named as in the first of them, with the first edit
at each position. -/
def store (profile : Profile) (first : RenameCall) (calls : List RenameCall) : EditStore :=
  let edits := (firstsOn place (calls.flatMap (edits profile))).map edit
  { module := first.module, edits, positions := edits.map Edit.position }

/-- The stores that calls leave, one for each module, in the order of the first calls. -/
def stores (profile : Profile) (calls : List RenameCall) : List EditStore :=
  grouped moduleKey (store profile) calls

theorem sameName_store (profile : Profile) (c first : RenameCall) (calls : List RenameCall) :
    sameName (first.store profile calls).module c.module =
      decide (first.moduleKey = c.moduleKey) := by
  rw [Bool.eq_iff_iff, sameName_iff, decide_eq_true_iff]
  rfl

end RenameCall

/-- An edit, and the call that submits it. -/
structure Submission where
  call : RenameCall
  edit : PlainEdit

namespace Submission

/-- The module and the position of the edit. -/
def key (s : Submission) : Text × Int × Int :=
  (s.call.moduleKey, s.edit.place)

/-- The row of the audit for the edit. -/
def row (s : Submission) : AuditRow :=
  Planner.RenameRequest.auditRow s.call.request s.edit.edit

end Submission

/-- All edits that calls submit under the profile, with their calls. -/
def submissions (profile : Profile) (calls : List RenameCall) : List Submission :=
  calls.flatMap fun c => (c.edits profile).map (Submission.mk c)

/-- A call of a planner that records a usage of the symbol at a place of its table, or plans a
rename. -/
inductive PlannerCall where
  | usage (i : Nat) (c : UsageCall)
  | rename (c : RenameCall)

namespace PlannerCall

/-- The module that the call names. -/
def module : PlannerCall → Text
  | usage _ c => c.module
  | rename c => c.module

/-- The rename that the call asks for. -/
def rename? : PlannerCall → Option RenameCall
  | usage _ _ => none
  | rename c => some c

/-- The usage of the symbol at place `i` that the call records. -/
def usage? (i : Nat) : PlannerCall → Option UsageCall
  | usage j c => if j = i then some c else none
  | rename _ => none

/-- The planner after the call. -/
def perform (planner : Planner) : PlannerCall → Except ValueFault Planner
  | usage i c =>
    let done := planner.recordUsage i (.text c.module) (routineName c.procedure) c.place
    done.result.map fun _ => done.state
  | rename c =>
    let done := planner.plan c.symbol c.request
    done.result.map fun _ => done.state

end PlannerCall

namespace Planner

/-- The symbol at place `i` of the table after calls. -/
def symbolAfter (calls : List PlannerCall) (i : Nat) (s : Symbol) : Symbol :=
  { s with usages := ⟨UsageCall.sheets (calls.filterMap (PlannerCall.usage? i))⟩ }

/-- The symbols after calls. -/
def symbolsAfter (symbols : SymbolTable) (calls : List PlannerCall) : SymbolTable :=
  ⟨symbols.symbols.mapIdx (symbolAfter calls)⟩

/-- The planner that calls leave. -/
def after (profile : Profile) (symbols : SymbolTable) (calls : List PlannerCall) : Planner where
  profile
  symbols := symbolsAfter symbols calls
  stores := RenameCall.stores profile (calls.filterMap PlannerCall.rename?)
  audit := (firstsOn Submission.key
    (submissions profile (calls.filterMap PlannerCall.rename?))).map Submission.row

end Planner

/-! ## Stores -/

namespace RenameCall

/-- The edits of a call that are at new positions in their module. -/
def newEdits (profile : Profile) (past : List RenameCall) (c : RenameCall) : List PlainEdit :=
  (firstsOn place (c.edits profile)).filter fun e =>
    ((past.filter fun d => d.moduleKey = c.moduleKey).flatMap (edits profile)).all fun a =>
      e.place ≠ a.place

/-- The store of a module takes the edits of a call for it. -/
theorem addLine_store (profile : Profile) (first c : RenameCall) (past : List RenameCall) :
    ∃ log, (first.store profile (past.filter fun d => d.moduleKey = c.moduleKey)).addLine
        (c.plain profile).request =
      .ok ⟨(first.store profile ((past.filter fun d => d.moduleKey = c.moduleKey) ++ [c]),
        (c.newEdits profile past).map edit), log⟩ := by
  rw [PlainRequest.addLine_request, newEdits]
  generalize (past.filter fun d => d.moduleKey = c.moduleKey) = own
  have hmodule := module_insertAll (first.store profile own) ((c.edits profile).map edit)
  have hown : Holds (first.store profile own)
      (firstsOn place (own.flatMap (edits profile))) := ⟨rfl, rfl⟩
  have hholds := hown.insertAll (c.edits profile)
  have hplanned := edits_insertAll_eq (first.store profile own) ((c.edits profile).map edit)
  rw [← edits]
  generalize (first.store profile own).insertAll ((c.edits profile).map edit) = done at *
  obtain ⟨⟨⟨ownModule, kept, positions⟩, planned⟩, log⟩ := done
  -- what is kept are the firsts of all that was submitted, and the new ones stand last
  have hkept : kept = (firstsOn place ((own ++ [c]).flatMap (edits profile))).map edit := by
    rw [List.flatMap_append, List.flatMap_singleton, ← keepAll_nil_eq, keepAll_append,
      keepAll_nil_eq]
    exact hholds.edits_eq
  have hpositions : positions = kept.map Edit.position := hholds.inStep
  have hnew : planned = ((firstsOn place (c.edits profile)).filter fun e =>
      (own.flatMap (edits profile)).all fun a => e.place ≠ a.place).map edit := by
    have happend := hplanned.symm.trans hkept
    rw [List.flatMap_append, List.flatMap_singleton, firstsOn_append, List.map_append] at happend
    exact List.append_cancel_left happend
  refine ⟨log, ?_⟩
  rw [hnew, hpositions, store, ← hkept, show ownModule = first.module from hmodule]

/-- Work on the store for a call: the stores become those of the past calls and this one. -/
theorem exists_withStore_stores {planner : Planner} {profile : Profile} {past : List RenameCall}
    (h : planner.stores = stores profile past) (c : RenameCall) :
    ∃ log, planner.withStore c.module (·.addLine (c.plain profile).request) =
      ⟨{ planner with stores := stores profile (past ++ [c]) },
        .ok ((c.newEdits profile past).map edit), log⟩ := by
  cases hfound : (stores profile past).findIdx? fun s => sameName s.module c.module with
  | some i =>
    obtain ⟨first, hget, hnext⟩ := grouped_concat_of_some (sameName_store profile c) hfound
    obtain ⟨log, hadd⟩ := addLine_store profile first c past
    have hopen : planner.openStore c.module = ⟨(planner, i), []⟩ := by
      rw [Planner.openStore, Planner.storeIndex?, h, hfound]
    have hat : planner.storeAt i =
        first.store profile (past.filter (·.moduleKey = c.moduleKey)) := by
      rw [Planner.storeAt, h, List.getD_eq_getElem?_getD, stores, hget, Option.getD_some]
    refine ⟨[] ++ log, ?_⟩
    simp only [Planner.withStore, hopen, hat, hadd]
    rw [h, stores, stores, hnext]
  | none =>
    obtain ⟨hown, hnext⟩ := grouped_concat_of_none (sameName_store profile c) hfound
    obtain ⟨log, hadd⟩ := addLine_store profile c c past
    have hopen : planner.openStore c.module =
        ⟨({ planner with stores := planner.stores ++ [{ module := c.module }] },
          planner.stores.length), [Planner.storeCreated c.module]⟩ := by
      rw [Planner.openStore, Planner.storeIndex?, h, hfound]
    -- the new store is that of no calls, and stands last
    have hblank : c.store profile [] = { module := c.module } := rfl
    rw [hown, hblank] at hadd
    refine ⟨[Planner.storeCreated c.module] ++ log, ?_⟩
    simp only [Planner.withStore, hopen, Planner.storeAt, List.getD_eq_getElem?_getD,
      List.getElem?_concat_length, Option.getD_some, hadd]
    rw [List.set_append_right _ _ (Nat.le_refl _), Nat.sub_self, List.set_cons_zero, h, stores,
      stores, hnext]
    rfl

end RenameCall

/-! ## Audit -/

namespace Submission

theorem isRowFor_row (s t : Submission) :
    Planner.isRowFor t.call.module (t.row.line, t.row.column) s.row =
      decide (t.key = s.key) := by
  have hint (a b : Int) : (Json.int a == Json.int b) = (a == b) := Json.beq_int a b
  show (Json.int s.edit.line == Json.int t.edit.line &&
    Json.int s.edit.start == Json.int t.edit.start &&
      sameName s.call.module t.call.module) = _
  rw [hint, hint, Bool.eq_iff_iff, Bool.and_eq_true, Bool.and_eq_true, sameName_iff,
    decide_eq_true_iff, beq_iff_eq, beq_iff_eq, key, key, RenameCall.moduleKey,
    RenameCall.moduleKey, place, place, Prod.mk.injEq, Prod.mk.injEq]
  constructor
  · rintro ⟨⟨hline, hstart⟩, hmodule⟩
    exact ⟨hmodule.symm, hline.symm, hstart.symm⟩
  · rintro ⟨hmodule, hline, hstart⟩
    exact ⟨⟨hline.symm, hstart.symm⟩, hmodule.symm⟩

theorem addRow_row (kept : List Submission) (s : Submission) :
    Planner.addRow s.call.module (kept.map row) s.row = (addNew key kept s).map row := by
  have hfree : (kept.all fun t => s.key ≠ t.key) =
      !(kept.map row).any (Planner.isRowFor s.call.module (s.row.line, s.row.column)) := by
    rw [List.any_map, List.not_any_eq_all_not]
    refine congrArg kept.all (funext fun t => ?_)
    rw [Function.comp_apply, isRowFor_row, ← decide_not]
  rw [Planner.addRow, addNew, hfree]
  cases (kept.map row).any (Planner.isRowFor s.call.module (s.row.line, s.row.column)) with
  | true => rfl
  | false => simp

/-- Rows for edits of one call are added unless their position is known in the module. -/
theorem foldl_addRow (c : RenameCall) (kept : List Submission) (edits : List PlainEdit) :
    ((edits.map (Submission.mk c)).map row).foldl (Planner.addRow c.module) (kept.map row) =
      ((edits.map (Submission.mk c)).foldl (addNew key) kept).map row := by
  induction edits generalizing kept with
  | nil => rfl
  | cons e rest ih =>
    rw [List.map_cons, List.map_cons, List.foldl_cons, List.foldl_cons]
    rw [show Planner.addRow c.module (kept.map row) (row ⟨c, e⟩) = _ from addRow_row kept ⟨c, e⟩]
    exact ih _

end Submission

theorem submissions_concat (profile : Profile) (past : List RenameCall) (c : RenameCall) :
    submissions profile (past ++ [c]) =
      submissions profile past ++ (c.edits profile).map (Submission.mk c) := by
  rw [submissions, List.flatMap_append, List.flatMap_singleton]
  rfl

/-- A position is new in its module iff no earlier submission has the same key. -/
theorem all_submissions (profile : Profile) (past : List RenameCall) (c : RenameCall)
    (e : PlainEdit) :
    ((submissions profile past).all fun s => Submission.key ⟨c, e⟩ ≠ s.key) =
      ((past.filter fun d => d.moduleKey = c.moduleKey).flatMap (RenameCall.edits profile)).all
        fun a => e.place ≠ a.place := by
  rw [Bool.eq_iff_iff, List.all_eq_true, List.all_eq_true]
  simp only [decide_eq_true_iff]
  constructor
  · intro h a ha heq
    obtain ⟨d, hd, hedit⟩ := List.mem_flatMap.1 ha
    obtain ⟨hd, hmodule⟩ := List.mem_filter.1 hd
    refine h ⟨d, a⟩ (List.mem_flatMap.2 ⟨d, hd, List.mem_map_of_mem hedit⟩) ?_
    exact Prod.ext (of_decide_eq_true hmodule).symm heq
  · intro h s hs heq
    obtain ⟨d, hd, hmem⟩ := List.mem_flatMap.1 hs
    obtain ⟨a, ha, rfl⟩ := List.mem_map.1 hmem
    obtain ⟨hmodule, hplace⟩ := Prod.mk.inj heq
    refine h a (List.mem_flatMap.2 ⟨d, List.mem_filter.2 ⟨hd, ?_⟩, ha⟩) hplace
    exact decide_eq_true hmodule.symm

/-- Rows for the new edits of a call are rows for all that it submits. -/
theorem foldl_addRow_newEdits (profile : Profile) (past : List RenameCall) (c : RenameCall) :
    (((c.newEdits profile past).map (Submission.mk c)).map Submission.row).foldl
        (Planner.addRow c.module)
        ((firstsOn Submission.key (submissions profile past)).map Submission.row) =
      (firstsOn Submission.key (submissions profile (past ++ [c]))).map Submission.row := by
  have hkeys : firstsOn (Submission.key ∘ Submission.mk c) (c.edits profile) =
      firstsOn place (c.edits profile) := by
    refine firstsOn_congr fun a b => ?_
    simp [Submission.key]
  have hnew : (c.newEdits profile past).map (Submission.mk c) =
      (firstsOn Submission.key ((c.edits profile).map (Submission.mk c))).filter fun s =>
        (submissions profile past).all fun t => s.key ≠ t.key := by
    rw [firstsOn_map, hkeys, List.filter_map, RenameCall.newEdits]
    congr 2
    funext e
    exact (all_submissions profile past c e).symm
  rw [Submission.foldl_addRow, foldl_addNew_firstsOn, hnew, firstsOn_append_new,
    submissions_concat]

/-! ## One call -/

namespace Planner

theorem symbolAfter_rename (past : List PlannerCall) (c : RenameCall) :
    symbolAfter (past ++ [.rename c]) = symbolAfter past := by
  funext i s
  rw [symbolAfter, List.filterMap_append]
  exact congrArg (fun calls => { s with usages := ⟨UsageCall.sheets calls⟩ }) (List.append_nil _)

theorem symbolAfter_usage_self (past : List PlannerCall) (i : Nat) (c : UsageCall) (s : Symbol) :
    symbolAfter (past ++ [.usage i c]) i s =
      { s with usages := ⟨UsageCall.sheets (past.filterMap (PlannerCall.usage? i) ++ [c])⟩ } := by
  rw [symbolAfter, List.filterMap_append]
  simp [PlannerCall.usage?]

theorem symbolAfter_usage_of_ne {i j : Nat} (h : i ≠ j) (past : List PlannerCall) (c : UsageCall) :
    symbolAfter (past ++ [.usage i c]) j = symbolAfter past j := by
  funext s
  rw [symbolAfter, List.filterMap_append]
  simp [PlannerCall.usage?, h, symbolAfter]

/-- A rename changes the store of its module and the audit. -/
theorem perform_rename_after (profile : Profile) (symbols : SymbolTable)
    (past : List PlannerCall) (c : RenameCall) :
    (PlannerCall.rename c).perform (after profile symbols past) =
      .ok (after profile symbols (past ++ [.rename c])) := by
  have hrenames : (past ++ [PlannerCall.rename c]).filterMap PlannerCall.rename? =
      past.filterMap PlannerCall.rename? ++ [c] := by
    rw [List.filterMap_append]
    rfl
  obtain ⟨log, hwork⟩ :=
    RenameCall.exists_withStore_stores (rfl : (after profile symbols past).stores = _) c
  have hrequest : lineRequest profile c.request (.text (searched profile c.lineText)) =
      (c.plain profile).request := rfl
  have hprofile : (after profile symbols past).profile = profile := rfl
  have haudit := foldl_addRow_newEdits profile (past.filterMap PlannerCall.rename?) c
  simp only [PlannerCall.perform, plan, show c.request.lineText = .text c.lineText from rfl,
    show c.request.module = .text c.module from rfl, searchedText_text, Json.name_text,
    bind, Except.bind, pure, Except.pure, hprofile, hrequest, hwork]
  rw [List.map_map] at haudit
  simp only [Except.map, noteEdits, List.map_map, after, symbolsAfter, hrenames, symbolAfter_rename,
    ← haudit]
  rfl

/-- The symbols after a usage differ from those before in the registry of its symbol. -/
theorem symbolsAfter_usage {symbols : SymbolTable} {past : List PlannerCall} {i : Nat} {s : Symbol}
    (h : symbols.symbols[i]? = some s) (c : UsageCall) :
    (symbolsAfter symbols (past ++ [.usage i c])).symbols =
      (symbolsAfter symbols past).symbols.set i (symbolAfter (past ++ [.usage i c]) i s) := by
  have hi := (List.getElem?_eq_some_iff.1 h).1
  refine List.ext_getElem? fun j => ?_
  rw [List.getElem?_set]
  simp only [symbolsAfter, List.getElem?_mapIdx, List.length_mapIdx]
  by_cases hij : i = j
  · subst hij
    rw [h, if_pos rfl, if_pos hi, Option.map_some]
  · rw [if_neg hij, symbolAfter_usage_of_ne hij]

/-- A usage changes the registry of its symbol. -/
theorem perform_usage_after (profile : Profile) (symbols : SymbolTable)
    (past : List PlannerCall) (i : Nat) (c : UsageCall) :
    (PlannerCall.usage i c).perform (after profile symbols past) =
      .ok (after profile symbols (past ++ [.usage i c])) := by
  have hrenames : (past ++ [PlannerCall.usage i c]).filterMap PlannerCall.rename? =
      past.filterMap PlannerCall.rename? := by
    rw [List.filterMap_append]
    exact List.append_nil _
  have hget : (symbolsAfter symbols past).symbols[i]? =
      symbols.symbols[i]?.map (symbolAfter past i) := List.getElem?_mapIdx
  have hafter (table : SymbolTable) (h : symbolsAfter symbols (past ++ [.usage i c]) = table) :
      after profile symbols (past ++ [.usage i c]) =
        { after profile symbols past with symbols := table } := by
    rw [after, hrenames, h]
    rfl
  rw [PlannerCall.perform, recordUsage, SymbolTable.recordUsage,
    show (after profile symbols past).symbols = symbolsAfter symbols past from rfl, hget]
  cases hs : symbols.symbols[i]? with
  | none =>
    -- there is no such symbol, and its calls are nobody's
    have hsame : symbolsAfter symbols (past ++ [.usage i c]) = symbolsAfter symbols past := by
      refine congrArg SymbolTable.mk (List.ext_getElem? fun j => ?_)
      rw [List.getElem?_mapIdx, List.getElem?_mapIdx]
      by_cases hij : i = j
      · subst hij
        rw [hs, Option.map_none, Option.map_none]
      · rw [symbolAfter_usage_of_ne hij]
    rw [hafter _ hsame]
    rfl
  | some s =>
    have hdone := UsageCall.perform_sheets (past.filterMap (PlannerCall.usage? i)) c
    rw [UsageCall.perform] at hdone
    rw [hafter _ (congrArg SymbolTable.mk (symbolsAfter_usage hs c)), symbolAfter_usage_self]
    simp only [Option.map_some, symbolAfter]
    generalize UsageRegistry.record _ _ _ _ = done at hdone ⊢
    obtain ⟨state, result, log⟩ := done
    cases result with
    | error fault => cases hdone
    | ok _ =>
      obtain rfl := Except.ok.inj hdone
      rfl

/-- One call: what past calls leave becomes what the past calls and this one leave. -/
theorem perform_after (profile : Profile) (symbols : SymbolTable) (past : List PlannerCall)
    (call : PlannerCall) :
    call.perform (after profile symbols past) = .ok (after profile symbols (past ++ [call])) := by
  cases call with
  | usage i c => exact perform_usage_after profile symbols past i c
  | rename c => exact perform_rename_after profile symbols past c

end Planner

end RenamePlan
