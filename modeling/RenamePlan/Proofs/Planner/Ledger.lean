import Mathlib.Algebra.GroupWithZero.Nat
import Mathlib.Data.List.Forall2
import RenamePlan.Proofs.Edit.FirstWriter
import RenamePlan.Proofs.Planner.Plan

/-!
# The audit accounts for the stored edits

A session calls a planner in any way: it plans renames, adds single edits to stores, opens stores,
records usages, declares symbols and changes options.  The values may be of any kind, and a call
that they do not suit fails and the session goes on.  The answers tell which edits were stored; in
the order of the calls they make up the ledger of the session (`Planner.ledger`).

* **Stores** — work on a store that appends edits to it appends them to what is known under every
  spelling of its module, and changes nothing else (`withStore_appends`).
* **Rows** — the rows for new edits are all new (`foldl_addRow_eq_append`), since a row that is
  there belongs to an edit in the ledger, and that edit is in the store.
* **Sessions** — one call keeps the books balanced (`Balanced.perform`), and so does a session
  (`Balanced.session`).
-/

namespace RenamePlan

theorem sameName_comm (s t : Text) : sameName s t = sameName t s := by
  rw [Bool.eq_iff_iff, sameName_iff, sameName_iff, eq_comm]

/-- Texts that are the same name are the same name as any other text. -/
theorem sameName_congr {s t : Text} (h : sameName s t = true) (u : Text) :
    sameName s u = sameName t u := by
  rw [Bool.eq_iff_iff, sameName_iff, sameName_iff, sameName_iff.1 h]

/-! ## Sessions -/

/-- A call of a planner. -/
inductive SessionCall where
  | plan (s : Symbol) (request : RenameRequest)
  | addEdit (module : Text) (e : Edit)
  | openStore (module : Text)
  | recordUsage (i : Nat) (module procedure : Json) (place : Place)
  | declare (d : Declaration)
  | getOrDeclare (d : Declaration)
  /-- Puts other options in place of those of the profile, unchecked. -/
  | setOptions (options : Options)

/-- An edit that a planner has stored. -/
structure StoredEdit where
  /-- The module, as the call spelled it. -/
  module : Text
  edit : Edit
  /-- The request that planned the edit; none if the edit was added as it is. -/
  request : Option RenameRequest

/-- The table after a declaration, which may have been refused. -/
def SymbolTable.afterDeclaring (table : SymbolTable) :
    Except DeclarationFault (Logged (SymbolTable × Nat)) → SymbolTable
  | .ok added => added.value.1
  | .error _ => table

namespace SessionCall

/-- The planner after the call, whether or not it succeeds. -/
def perform (planner : Planner) : SessionCall → Planner
  | plan s request => (planner.plan s request).state
  | addEdit module e => (planner.addEdit module e).state
  | openStore module => (planner.openStore module).value.1
  | recordUsage i module procedure place => (planner.recordUsage i module procedure place).state
  | declare d =>
    { planner with symbols := planner.symbols.afterDeclaring (planner.symbols.declare d) }
  | getOrDeclare d =>
    { planner with symbols := planner.symbols.afterDeclaring (planner.symbols.getOrDeclare d) }
  | setOptions options => { planner with profile := { planner.profile with options } }

/-- The edits that the call stores, by its answer: a rename answers with those that are new, and a
single edit with whether it is. -/
def stored (planner : Planner) : SessionCall → List StoredEdit
  | plan s request =>
    match request.module, (planner.plan s request).result with
    | .text module, .ok planned => planned.map (StoredEdit.mk module · (some request))
    | _, _ => []
  | addEdit module e =>
    match (planner.addEdit module e).result with
    | .ok true => [⟨module, e, none⟩]
    | _ => []
  | _ => []

end SessionCall

namespace Planner

/-- The planner after calls. -/
def session (planner : Planner) (calls : List SessionCall) : Planner :=
  calls.foldl SessionCall.perform planner

/-- The edits that calls store, in the order in which they are stored. -/
def ledger : Planner → List SessionCall → List StoredEdit
  | _, [] => []
  | planner, call :: rest => call.stored planner ++ ledger (call.perform planner) rest

end Planner

/-! ## Stores -/

section Lists

variable {α β : Type} {p : α → Bool} {entries : List α} {i : Nat} {old : α}

theorem find?_set_of_neg (hget : entries[i]? = some old) (hold : p old = false) {new : α}
    (hnew : p new = false) : (entries.set i new).find? p = entries.find? p := by
  induction entries generalizing i with
  | nil => rfl
  | cons entry rest ih =>
    cases i with
    | zero =>
      rw [List.getElem?_cons_zero, Option.some.injEq] at hget
      rw [List.set_cons_zero, List.find?_cons_of_neg (by simp [hnew]),
        List.find?_cons_of_neg (by simp [hget, hold])]
    | succ i =>
      rw [List.getElem?_cons_succ] at hget
      rw [List.set_cons_succ, List.find?_cons, List.find?_cons, ih hget]

theorem length_flatMap_set {f : α → List β} (hget : entries[i]? = some old) {new : α}
    {more : List β} (hnew : f new = f old ++ more) :
    ((entries.set i new).flatMap f).length = (entries.flatMap f).length + more.length := by
  induction entries generalizing i with
  | nil => cases hget
  | cons entry rest ih =>
    cases i with
    | zero =>
      rw [List.getElem?_cons_zero, Option.some.injEq] at hget
      simp only [List.set_cons_zero, List.flatMap_cons, List.length_append, hnew, hget]
      omega
    | succ i =>
      rw [List.getElem?_cons_succ] at hget
      simp only [List.set_cons_succ, List.flatMap_cons, List.length_append, ih hget]
      omega

theorem exists_mem_of_forall₂ {r : α → β → Prop} {others : List β}
    (h : List.Forall₂ r entries others) {a : α} (ha : a ∈ entries) : ∃ b ∈ others, r a b := by
  induction h with
  | nil => cases ha
  | @cons first b _ _ hfirst _ ih =>
    rcases List.mem_cons.1 ha with rfl | ha
    · exact ⟨b, List.mem_cons_self, hfirst⟩
    · obtain ⟨c, hc, hac⟩ := ih ha
      exact ⟨c, List.mem_cons_of_mem b hc, hac⟩

end Lists

/-- Whether no two edits are at one position. -/
def AllApart (edits : List Edit) : Prop :=
  edits.Pairwise fun a b => (a.position == b.position) = false

namespace EditStore

/-- The positions that are kept tell where an edit is free to go. -/
theorem InStep.allApart_insert {store : EditStore} (hstep : store.InStep)
    (h : AllApart store.edits) (e : Edit) : AllApart (store.insert e).value.1.edits := by
  rw [EditStore.insert, hstep.contains_eq]
  split
  · exact h
  · rename_i hfree
    refine List.pairwise_append.2 ⟨h, List.pairwise_singleton .., ?_⟩
    intro a ha b hb
    rw [List.mem_singleton.1 hb, Bool.eq_false_iff]
    exact fun hat => hfree (List.any_eq_true.2 ⟨a, ha, hat⟩)

theorem InStep.allApart_insertAll {store : EditStore} (hstep : store.InStep)
    (h : AllApart store.edits) (edits : List Edit) :
    AllApart (store.insertAll edits).value.1.edits := by
  induction edits generalizing store with
  | nil => exact h
  | cons e rest ih => exact ih (hstep.insert e) (hstep.allApart_insert h e)

theorem module_insert (store : EditStore) (e : Edit) :
    (store.insert e).value.1.module = store.module := by
  rw [insert]
  split <;> rfl

end EditStore

/-- What is asked of work on a store: if it succeeds, the store keeps its module, the edits that the
answer tells of are appended, and a store that was in step still is and has one edit at a
position. -/
structure Appends {α : Type} (work : EditStore → Except ValueFault (Logged (EditStore × α)))
    (new : α → List Edit) : Prop where
  module_eq : ∀ {store done}, work store = .ok done → done.value.1.module = store.module
  edits_eq : ∀ {store done}, work store = .ok done →
    done.value.1.edits = store.edits ++ new done.value.2
  inStep : ∀ {store done}, work store = .ok done → store.InStep → done.value.1.InStep
  allApart : ∀ {store done}, work store = .ok done → store.InStep → AllApart store.edits →
    AllApart done.value.1.edits

/-- A single edit is appended iff the answer says so. -/
theorem appends_add (e : Edit) :
    Appends (·.add e) fun planned => if planned then [e] else [] := by
  have hadd {store : EditStore} {done : Logged (EditStore × Bool)} (h : store.add e = .ok done) :
      done = store.insert e := by
    rw [EditStore.add] at h
    split at h
    · exact (Except.ok.inj h).symm
    · cases h
  refine ⟨fun h => ?_, fun h => ?_, fun h hstep => ?_, fun h hstep hapart => ?_⟩
  · rw [hadd h, EditStore.module_insert]
  · rw [hadd h, edits_insert_eq]
  · rw [hadd h]
    exact hstep.insert e
  · rw [hadd h]
    exact hstep.allApart_insert hapart e

/-- The edits that answer a line are appended. -/
theorem appends_addLine (request : LineRequest) : Appends (·.addLine request) id := by
  have hadd {store : EditStore} {done : Logged (EditStore × List Edit)}
      (h : store.addLine request = .ok done) : ∃ edits, done = store.insertAll edits := by
    rw [EditStore.addLine] at h
    cases hedits : request.edits with
    | error fault =>
      rw [hedits] at h
      cases h
    | ok edits =>
      rw [hedits] at h
      change (if _ then _ else _) = _ at h
      split at h
      · exact ⟨edits, (Except.ok.inj h).symm⟩
      · cases h
  refine ⟨fun h => ?_, fun h => ?_, fun h hstep => ?_, fun h hstep hapart => ?_⟩
  · obtain ⟨edits, rfl⟩ := hadd h
    exact PlainEdit.module_insertAll _ edits
  · obtain ⟨edits, rfl⟩ := hadd h
    exact edits_insertAll_eq _ edits
  · obtain ⟨edits, rfl⟩ := hadd h
    exact hstep.insertAll edits
  · obtain ⟨edits, rfl⟩ := hadd h
    exact hstep.allApart_insertAll hapart edits

namespace Planner

/-- Whether stores are for different modules. -/
def ModulesDiffer (planner : Planner) : Prop :=
  planner.modules.Pairwise fun a b => sameName a b = false

/-- Edits are known under every spelling of the module. -/
theorem editsFor_congr (planner : Planner) {a b : Text} (h : sameName a b = true) :
    planner.editsFor a = planner.editsFor b := by
  have hnames : (fun store : EditStore => sameName store.module a) =
      fun store => sameName store.module b := by
    funext store
    rw [sameName_comm, sameName_congr h, sameName_comm]
  rw [editsFor, editsFor, hnames]

/-- Where modules differ, the edits known under a store's own name are its edits. -/
theorem ModulesDiffer.editsFor_module {planner : Planner} (h : planner.ModulesDiffer)
    {store : EditStore} (hmem : store ∈ planner.stores) :
    planner.editsFor store.module = store.edits := by
  have hfound : ∀ stores : List EditStore, store ∈ stores →
      (stores.Pairwise fun a b => sameName a.module b.module = false) →
      stores.find? (fun s => sameName s.module store.module) = some store := by
    intro stores hmem hdiffer
    induction hdiffer with
    | nil => cases hmem
    | @cons first rest hfirst _ ih =>
      rcases List.mem_cons.1 hmem with rfl | hmem
      · exact List.find?_cons_of_pos (sameName_iff.2 rfl)
      · rw [List.find?_cons_of_neg (by rw [hfirst store hmem]; exact Bool.false_ne_true)]
        exact ih hmem
  rw [editsFor, hfound planner.stores hmem (List.pairwise_map.1 h)]
  rfl

/-- The edits of all stores are those known under their modules. -/
theorem ModulesDiffer.editCount_eq_sum {planner : Planner} (h : planner.ModulesDiffer) :
    planner.editCount =
      (planner.modules.map fun module => (planner.editsFor module).length).sum := by
  rw [editCount, List.length_flatMap, modules, List.map_map]
  refine congrArg List.sum (List.map_congr_left fun store hmem => ?_)
  rw [Function.comp_apply, h.editsFor_module hmem]

/-- What a planner is after more edits have been stored for a module. -/
structure Extends (before after : Planner) (module : Text) (more : List Edit) : Prop where
  audit_eq : after.audit = before.audit
  modulesDiffer : after.ModulesDiffer
  inStep : after.InStep
  editCount_eq : after.editCount = before.editCount + more.length
  editsFor_eq : ∀ other, after.editsFor other =
    before.editsFor other ++ if sameName module other then more else []

theorem extends_openStore {planner : Planner} (h : planner.ModulesDiffer)
    (hstep : planner.InStep) (module : Text) :
    planner.Extends (planner.openStore module).value.1 module [] := by
  have hopened := hstep.openStore module
  rw [openStore] at hopened ⊢
  cases hindex : planner.storeIndex? module with
  | some i => exact ⟨rfl, h, hstep, rfl, fun other => by simp⟩
  | none =>
    rw [hindex] at hopened
    refine ⟨rfl, ?_, hopened, by simp [editCount], fun other => ?_⟩
    · show ((planner.stores ++ [({ module } : EditStore)]).map EditStore.module).Pairwise _
      rw [List.map_append]
      refine List.pairwise_append.2 ⟨h, List.pairwise_singleton .., ?_⟩
      intro a ha b hb
      obtain ⟨store, hstore, rfl⟩ := List.mem_map.1 ha
      rw [List.mem_singleton.1 hb]
      exact List.findIdx?_eq_none_iff.1 hindex store hstore
    · rw [ite_self, List.append_nil]
      show ((List.find? _ (planner.stores ++ [({ module } : EditStore)])).map _).getD [] = _
      rw [List.find?_append, editsFor]
      cases planner.stores.find? fun store => sameName store.module other with
      | some store => rfl
      | none =>
        -- the new store holds nothing, so it does not matter whether it is the one
        rw [Option.none_or, List.find?_singleton]
        split <;> rfl

/-- Replacing a store by one with more edits. -/
theorem extends_set {planner : Planner} (h : planner.ModulesDiffer) (hstep : planner.InStep)
    {i : Nat} {store next : EditStore} {more : List Edit}
    (hget : planner.stores[i]? = some store) (hmodule : next.module = store.module)
    (hnext : next.InStep) (hedits : next.edits = store.edits ++ more) :
    planner.Extends { planner with stores := planner.stores.set i next } store.module more := by
  obtain ⟨hi, hstore⟩ := List.getElem?_eq_some_iff.1 hget
  have hdiffer : Planner.ModulesDiffer { planner with stores := planner.stores.set i next } := by
    show ((planner.stores.set i next).map EditStore.module).Pairwise _
    have hsame : (planner.stores.set i next).map EditStore.module = planner.modules := by
      rw [List.map_set, hmodule, ← hstore, ← List.getElem_map EditStore.module,
        List.set_getElem_self, modules]
      simpa using hi
    rw [hsame]
    exact h
  refine ⟨rfl, hdiffer, hstep.set i hnext, length_flatMap_set hget hedits, fun other => ?_⟩
  cases hsame : sameName store.module other with
  | true =>
    -- both stores are the ones for the module under any of its spellings
    have hnext : next ∈ planner.stores.set i next := List.mem_set hi next
    rw [← editsFor_congr _ hsame, ← editsFor_congr planner hsame,
      h.editsFor_module (List.mem_of_getElem? hget), ← hmodule, hdiffer.editsFor_module hnext,
      hedits, if_pos rfl]
  | false =>
    show ((List.find? _ (planner.stores.set i next)).map _).getD [] = _
    rw [find?_set_of_neg hget hsame (by rw [hmodule, hsame])]
    simp [editsFor]

theorem Extends.trans {a b c : Planner} {module other : Text} {more : List Edit}
    (hab : a.Extends b module []) (hbc : b.Extends c other more)
    (hsame : sameName other module = true) : a.Extends c module more where
  audit_eq := hbc.audit_eq.trans hab.audit_eq
  modulesDiffer := hbc.modulesDiffer
  inStep := hbc.inStep
  editCount_eq := by rw [hbc.editCount_eq, hab.editCount_eq, List.length_nil, Nat.add_zero]
  editsFor_eq name := by
    rw [hbc.editsFor_eq, hab.editsFor_eq, ite_self, List.append_nil, sameName_congr hsame]

/-- The edits that the answer to work on a store tells of. -/
def answered {α : Type} (new : α → List Edit) : Except ValueFault α → List Edit
  | .ok result => new result
  | .error _ => []

/-- Work on a store that appends edits to it appends those that its answer tells of to what is known
under every spelling of the module, where there is still one at a position. -/
theorem withStore_appends {α : Type} {planner : Planner} {module : Text}
    {work : EditStore → Except ValueFault (Logged (EditStore × α))} {new : α → List Edit}
    (hwork : Appends work new) (hdiffer : planner.ModulesDiffer) (hstep : planner.InStep)
    (hapart : AllApart (planner.editsFor module)) :
    planner.Extends (planner.withStore module work).state module
        (answered new (planner.withStore module work).result) ∧
      AllApart (planner.editsFor module ++
        answered new (planner.withStore module work).result) := by
  have hopen := extends_openStore hdiffer hstep module
  obtain ⟨store, _, _, hget, hname, hstored⟩ :=
    planner.openStore_spec (sameName_iff.2 rfl : sameName module module = true)
  obtain ⟨⟨⟨opened, i⟩, log⟩, hopening⟩ : ∃ opening, planner.openStore module = opening := ⟨_, rfl⟩
  simp only [hopening] at hopen hget
  have hat := storeAt_of_getElem? hget
  have hown := hopen.inStep store (List.mem_of_getElem? hget)
  cases hdone : work store with
  | error fault =>
    have houtcome : planner.withStore module work = ⟨opened, .error fault, log⟩ := by
      simp only [withStore, hopening, hat, hdone]
    rw [houtcome, answered, List.append_nil]
    exact ⟨hopen, hapart⟩
  | ok done =>
    have hmodule := hwork.module_eq hdone
    have hadded := hwork.edits_eq hdone
    have hnext := hwork.inStep hdone hown
    have hstill := hwork.allApart hdone hown (by rwa [hstored])
    obtain ⟨⟨next, result⟩, later⟩ := done
    have houtcome : planner.withStore module work =
        ⟨{ opened with stores := opened.stores.set i next }, .ok result, log ++ later⟩ := by
      simp only [withStore, hopening, hat, hdone]
    rw [houtcome, answered, ← hstored, ← hadded]
    refine ⟨hopen.trans ?_ hname, hstill⟩
    exact extends_set hopen.modulesDiffer hopen.inStep hget hmodule hnext hadded

end Planner

/-! ## Rows -/

/-- What a row of the audit says of the edit that it is for. -/
structure AuditRow.Describes (row : AuditRow) (s : StoredEdit) : Prop where
  module_eq : row.module = .text s.module
  line_eq : row.line = s.edit.line
  column_eq : row.column = s.edit.start
  old_eq : row.old = s.edit.old
  new_eq : row.new = s.edit.new
  category_eq : row.category = s.edit.category
  /-- Occurrence and routine are those of the request that planned the edit.  A routine that does
  not count as set is empty. -/
  request_eq : ∃ request, s.request = some request ∧ row.occurrence = request.occurrence ∧
    row.procedure = request.procedure.orEmpty

namespace Planner

theorem describes_auditRow {request : RenameRequest} {module : Text}
    (h : request.module = .text module) (e : Edit) :
    (RenameRequest.auditRow request e).Describes ⟨module, e, some request⟩ :=
  ⟨h, rfl, rfl, rfl, rfl, rfl, request, rfl, rfl, rfl⟩

theorem isRowFor_of_describes {row : AuditRow} {s : StoredEdit} (h : row.Describes s)
    (module : Text) (position : Position) :
    isRowFor module position row = (s.edit.position == position && sameName s.module module) := by
  unfold isRowFor
  rw [h.module_eq, h.line_eq, h.column_eq]
  rfl

/-- Rows for positions that have none, and of which no two are for one position, are all added. -/
theorem foldl_addRow_eq_append {module : Text} {audit rows : List AuditRow}
    (h : ∀ row ∈ rows, audit.any (isRowFor module (row.line, row.column)) = false)
    (hrows : rows.Pairwise fun a b => isRowFor module (b.line, b.column) a = false) :
    rows.foldl (addRow module) audit = audit ++ rows := by
  induction rows generalizing audit with
  | nil => exact (List.append_nil audit).symm
  | cons row rest ih =>
    obtain ⟨hrow, hrest⟩ := List.pairwise_cons.1 hrows
    have hadd : addRow module audit row = audit ++ [row] := by
      rw [addRow, h row List.mem_cons_self]
      exact if_neg Bool.false_ne_true
    rw [List.foldl_cons, hadd, ih _ hrest, List.append_assoc, List.singleton_append]
    intro later hlater
    rw [List.any_append, h later (List.mem_cons_of_mem row hlater), List.any_cons,
      hrow later hlater, List.any_nil]
    rfl

/-! ## Books -/

/-- Whether a planner holds what its ledger says. -/
structure Balanced (ledger : List StoredEdit) (planner : Planner) : Prop where
  modulesDiffer : planner.ModulesDiffer
  inStep : planner.InStep
  editCount_eq : planner.editCount = ledger.length
  editsFor_eq : ∀ module, planner.editsFor module =
    (ledger.filter fun s => sameName s.module module).map StoredEdit.edit
  allApart : ∀ module, AllApart (planner.editsFor module)
  audit_describes : List.Forall₂ AuditRow.Describes planner.audit
    (ledger.filter (·.request.isSome))

namespace Balanced

variable {ledger : List StoredEdit} {planner after : Planner} {module : Text} {more : List Edit}

/-- Where a position is free, the audit has no row for it. -/
theorem any_isRowFor_eq_false (h : Balanced ledger planner) {e : Edit}
    (hfree : ∀ a ∈ planner.editsFor module, (a.position == e.position) = false) :
    planner.audit.any (isRowFor module e.position) = false := by
  rw [List.any_eq_false]
  intro row hrow hfor
  obtain ⟨s, hs, hdescribes⟩ := exists_mem_of_forall₂ h.audit_describes hrow
  rw [isRowFor_of_describes hdescribes, Bool.and_eq_true] at hfor
  -- the edit of the row is in the store, at the same position
  have hstored : s.edit ∈ planner.editsFor module := by
    rw [h.editsFor_eq]
    exact List.mem_map_of_mem (List.mem_filter.2 ⟨(List.mem_filter.1 hs).1, hfor.2⟩)
  rw [hfree _ hstored] at hfor
  exact Bool.false_ne_true hfor.1

/-- More edits are stored for a module and entered in the ledger. -/
theorem enter (h : Balanced ledger planner) (hmore : planner.Extends after module more)
    (hapart : AllApart (planner.editsFor module ++ more)) (request : Option RenameRequest)
    (audit : List AuditRow)
    (haudit : List.Forall₂ AuditRow.Describes audit
      ((ledger ++ more.map (StoredEdit.mk module · request)).filter (·.request.isSome))) :
    Balanced (ledger ++ more.map (StoredEdit.mk module · request)) { after with audit } where
  modulesDiffer := hmore.modulesDiffer
  inStep := hmore.inStep
  editCount_eq := by
    rw [List.length_append, List.length_map, ← h.editCount_eq]
    exact hmore.editCount_eq
  editsFor_eq other := by
    refine (hmore.editsFor_eq other).trans ?_
    rw [List.filter_append, List.map_append, h.editsFor_eq, List.filter_map]
    cases hsame : sameName module other with
    | true => simp [Function.comp_def, hsame]
    | false => simp [Function.comp_def, hsame]
  allApart other := by
    show AllApart (after.editsFor other)
    rw [hmore.editsFor_eq]
    cases hsame : sameName module other with
    | true =>
      rw [if_pos rfl, ← editsFor_congr planner hsame]
      exact hapart
    | false =>
      rw [if_neg Bool.false_ne_true, List.append_nil]
      exact h.allApart other
  audit_describes := haudit

/-- Edits that no request planned get no rows. -/
theorem enter_unplanned (h : Balanced ledger planner) (hmore : planner.Extends after module more)
    (hapart : AllApart (planner.editsFor module ++ more)) :
    Balanced (ledger ++ more.map (StoredEdit.mk module · none)) after := by
  have hnone : (more.map (StoredEdit.mk module · none)).filter (·.request.isSome) = [] := by simp
  refine h.enter hmore hapart none after.audit ?_
  rw [List.filter_append, hnone, List.append_nil, hmore.audit_eq]
  exact h.audit_describes

theorem of_stores (h : Balanced ledger planner) (hstores : after.stores = planner.stores)
    (haudit : after.audit = planner.audit) : Balanced (ledger ++ []) after := by
  obtain ⟨profile, symbols, stores, audit⟩ := after
  obtain rfl : stores = planner.stores := hstores
  obtain rfl : audit = planner.audit := haudit
  rw [List.append_nil]
  exact ⟨h.modulesDiffer, h.inStep, h.editCount_eq, h.editsFor_eq, h.allApart, h.audit_describes⟩

/-- A rename: what is new gets its rows. -/
theorem enter_planned (h : Balanced ledger planner) (hmore : planner.Extends after module more)
    (hapart : AllApart (planner.editsFor module ++ more)) {request : RenameRequest}
    (hrequest : request.module = .text module) :
    Balanced (ledger ++ more.map (StoredEdit.mk module · (some request)))
      { after with
        audit := (more.map (RenameRequest.auditRow request)).foldl (addRow module)
          after.audit } := by
  obtain ⟨_, hnew, hfree⟩ := List.pairwise_append.1 hapart
  have hrows : (more.map (RenameRequest.auditRow request)).foldl (addRow module) after.audit =
      planner.audit ++ more.map (RenameRequest.auditRow request) := by
    rw [hmore.audit_eq]
    refine foldl_addRow_eq_append ?_ (List.pairwise_map.2 (hnew.imp ?_))
    · intro row hrow
      obtain ⟨e, he, rfl⟩ := List.mem_map.1 hrow
      exact h.any_isRowFor_eq_false fun a ha => hfree a ha e he
    · intro a b hab
      rw [isRowFor_of_describes (describes_auditRow hrequest a)]
      exact (congrArg (· && _) hab).trans (Bool.false_and _)
  rw [hrows]
  refine h.enter hmore hapart (some request) _ ?_
  have hall : (more.map (StoredEdit.mk module · (some request))).filter (·.request.isSome) =
      more.map (StoredEdit.mk module · (some request)) := by simp
  rw [List.filter_append, hall]
  refine List.rel_append h.audit_describes ?_
  rw [List.forall₂_map_left_iff, List.forall₂_map_right_iff, List.forall₂_same]
  exact fun e _ => describes_auditRow hrequest e

end Balanced

/-- A rename either is refused before it comes to a store, or asks the store of its module for the
matches in the text that is searched and then notes what is new. -/
theorem plan_cases (planner : Planner) (s : Symbol) (request : RenameRequest) :
    ((planner.plan s request).state = planner ∧
        ∃ fault, (planner.plan s request).result = .error fault) ∨
      ∃ module asked, request.module = .text module ∧
        (∃ text, asked = lineRequest planner.profile request text) ∧
        (planner.plan s request).result = (planner.withStore module (·.addLine asked)).result ∧
        (planner.plan s request).state =
          { (planner.withStore module (·.addLine asked)).state with
            audit := ((answered id (planner.withStore module (·.addLine asked)).result).map
              (RenameRequest.auditRow request)).foldl (addRow module)
                (planner.withStore module (·.addLine asked)).state.audit } := by
  unfold plan
  cases htext : searchedText planner.profile request.lineText with
  | error fault => exact .inl ⟨rfl, fault, rfl⟩
  | ok text =>
    cases hmodule : request.module with
    | text module =>
      refine .inr ⟨module, lineRequest planner.profile request text, rfl, ⟨text, rfl⟩, ?_⟩
      simp only [bind, Except.bind, Json.name_text, pure, Except.pure]
      cases (planner.withStore module _).result with
      | error fault => exact ⟨rfl, rfl⟩
      | ok planned => exact ⟨rfl, rfl⟩
    | _ => exact .inl ⟨rfl, .notText, rfl⟩

/-- One call keeps the books balanced. -/
theorem Balanced.perform {ledger : List StoredEdit} {planner : Planner}
    (h : Balanced ledger planner) (call : SessionCall) :
    Balanced (ledger ++ call.stored planner) (call.perform planner) := by
  cases call with
  | plan s request =>
    rw [SessionCall.stored, SessionCall.perform]
    rcases planner.plan_cases s request with
      ⟨hstate, fault, hresult⟩ | ⟨module, asked, hmodule, -, hresult, hstate⟩
    · rw [hstate, hresult]
      simpa using h
    · obtain ⟨hmore, hapart⟩ :=
        withStore_appends (appends_addLine asked) h.modulesDiffer h.inStep (h.allApart module)
      have hplanned := h.enter_planned hmore hapart hmodule
      rw [hstate, hresult, hmodule]
      cases hanswer : (planner.withStore module (·.addLine asked)).result with
      | error fault => simpa [hanswer, answered] using hplanned
      | ok planned => simpa [hanswer, answered] using hplanned
  | addEdit module e =>
    obtain ⟨hmore, hapart⟩ :=
      withStore_appends (appends_add e) h.modulesDiffer h.inStep (h.allApart module)
    have hstored : SessionCall.stored planner (.addEdit module e) =
        (answered (fun planned => if planned then [e] else [])
          (planner.withStore module (·.add e)).result).map (StoredEdit.mk module · none) := by
      rw [SessionCall.stored, addEdit]
      cases (planner.withStore module (·.add e)).result with
      | error fault => rfl
      | ok planned => cases planned <;> rfl
    rw [hstored]
    exact h.enter_unplanned hmore hapart
  | openStore module =>
    have hmore := extends_openStore h.modulesDiffer h.inStep module
    have hapart : AllApart (planner.editsFor module ++ []) := by
      rw [List.append_nil]
      exact h.allApart module
    exact h.enter_unplanned hmore hapart
  | recordUsage i module procedure place => exact h.of_stores rfl rfl
  | declare d => exact h.of_stores rfl rfl
  | getOrDeclare d => exact h.of_stores rfl rfl
  | setOptions options => exact h.of_stores rfl rfl

/-- A session keeps the books balanced. -/
theorem Balanced.session {past : List StoredEdit} {planner : Planner}
    (h : Balanced past planner) (calls : List SessionCall) :
    Balanced (past ++ planner.ledger calls) (planner.session calls) := by
  induction calls generalizing past planner with
  | nil =>
    rw [ledger, List.append_nil]
    exact h
  | cons call rest ih =>
    rw [ledger, ← List.append_assoc]
    exact ih (h.perform call)

theorem balanced_start {profile : Profile} {symbols : SymbolTable} {started : Logged Planner}
    (h : start profile symbols = .ok started) : Balanced [] started.value := by
  rw [start] at h
  cases hchecked : profile.validate with
  | error fault =>
    rw [hchecked] at h
    cases h
  | ok checked =>
    rw [hchecked] at h
    obtain rfl := Except.ok.inj h
    refine ⟨List.Pairwise.nil, ?_, rfl, fun _ => rfl, fun _ => List.Pairwise.nil,
      List.Forall₂.nil⟩
    exact (holdsFor_new profile symbols []).inStep

/-! ## The law of the audit -/

/-- What a planner owes to the ledger of its session. -/
structure Accounts (ledger : List StoredEdit) (planner : Planner) : Prop where
  /-- There is a row for each edit that a request planned, in the order of storing. -/
  audit_describes : List.Forall₂ AuditRow.Describes planner.audit
    (ledger.filter (·.request.isSome))
  /-- The edits for a module are those of the ledger, in the order of storing. -/
  editsFor_eq : ∀ module, planner.editsFor module =
    (ledger.filter fun s => fold s.module = fold module).map StoredEdit.edit
  /-- The ledger has one entry for a position of a module. -/
  apart : ledger.Pairwise fun s t => fold s.module = fold t.module →
    (s.edit.position == t.edit.position) = false
  modules_differ : planner.modules.Pairwise fun a b => fold a ≠ fold b
  editsFor_congr : ∀ a b, fold a = fold b → planner.editsFor a = planner.editsFor b
  editCount_eq_sum : planner.editCount =
    (planner.modules.map fun module => (planner.editsFor module).length).sum
  /-- An edit has a row, or was added as it is. -/
  editCount_eq : planner.editCount =
    planner.audit.length + (ledger.filter (·.request.isNone)).length

/-- If the entries for each module are at different positions, so are any two for one module. -/
theorem pairwise_of_allApart {ledger : List StoredEdit}
    (h : ∀ module, AllApart ((ledger.filter fun s => sameName s.module module).map
      StoredEdit.edit)) :
    ledger.Pairwise fun s t => fold s.module = fold t.module →
      (s.edit.position == t.edit.position) = false := by
  induction ledger with
  | nil => exact List.Pairwise.nil
  | cons s rest ih =>
    refine List.pairwise_cons.2 ⟨fun t ht hsame => ?_, ih fun module => ?_⟩
    · have hown := List.pairwise_map.1 (h s.module)
      have hself : sameName s.module s.module = true := sameName_iff.2 rfl
      rw [List.filter_cons, if_pos hself] at hown
      exact (List.pairwise_cons.1 hown).1 t
        (List.mem_filter.2 ⟨ht, sameName_iff.2 hsame.symm⟩)
    · exact (h module).sublist (((List.sublist_cons_self s rest).filter _).map _)

theorem Balanced.accounts {ledger : List StoredEdit} {planner : Planner}
    (h : Balanced ledger planner) : Accounts ledger planner where
  audit_describes := h.audit_describes
  editsFor_eq module := by
    rw [h.editsFor_eq]
    refine congrArg (List.map _) (List.filter_congr fun s _ => ?_)
    rw [Bool.eq_iff_iff, sameName_iff, decide_eq_true_iff]
  apart := pairwise_of_allApart fun module => by
    rw [← h.editsFor_eq]
    exact h.allApart module
  modules_differ := h.modulesDiffer.imp fun hne heq => by
    rw [sameName_iff.2 heq] at hne
    cases hne
  editsFor_congr a b hsame := planner.editsFor_congr (sameName_iff.2 hsame)
  editCount_eq_sum := h.modulesDiffer.editCount_eq_sum
  editCount_eq := by
    have hnone : (fun s : StoredEdit => s.request.isNone) = fun s => !s.request.isSome :=
      funext fun s => (Option.not_isSome s.request).symm
    rw [h.editCount_eq, h.audit_describes.length_eq, hnone,
      ← List.length_eq_length_filter_add]

/-- **The audit accounts for the stored edits.**  In any session of a new planner the rows of the
audit correspond, one by one and in order, to the edits that renames stored; the stores hold these
and the edits that were added as they are, and nothing else. -/
theorem session_accounts (profile : Profile) (symbols : SymbolTable) (started : Logged Planner)
    (h : start profile symbols = .ok started) (calls : List SessionCall) :
    Accounts (started.value.ledger calls) (started.value.session calls) := by
  have hbalanced := (balanced_start h).session calls
  rw [List.nil_append] at hbalanced
  exact hbalanced.accounts

/-- A rename of a name on a line of a module. -/
def renameOn (module line : String) (number : Int) (procedure : Json) : SessionCall :=
  .plan ⟨"x".toList, .var, "Main".toList, .null, .null, .null, {}⟩ {
    module := .text module.toList
    lineText := .text line.toList
    lineNumber := .int number
    old := .text "x".toList
    new := .text "total".toList
    category := .text "var".toList
    procedure }

/-- A session with three spellings of a module.  The first single edit is at a position that is
taken, and the second one takes a position that the last rename asks for.  That rename looks into
comments, as an option has been changed.  The declaration is refused. -/
def mixedSession : List SessionCall := [
  renameOn "Main" "x = X ' x" 1 (.text "Run".toList),
  .addEdit "MAIN".toList (.plain 1 0 1 "x".toList "y".toList []),
  .addEdit "main".toList (.plain 2 0 1 "x".toList "y".toList []),
  .setOptions [(.text "strip_comments".toList, .int 0)],
  .openStore "Aux".toList,
  .getOrDeclare { name := .text "x".toList, kind := .text "no kind".toList, module := .null },
  renameOn "MAIN" "x ' x" 2 .null]

/-- Of the six edits that are asked for, four are stored, and three of them have rows. -/
theorem accounts_mixedSession :
    ∃ started, start defaultProfile {} = .ok started ∧
      (started.value.ledger mixedSession).length = 4 ∧
      (started.value.session mixedSession).audit.length = 3 ∧
      (started.value.session mixedSession).modules = ["Main".toList, "Aux".toList] ∧
      Accounts (started.value.ledger mixedSession) (started.value.session mixedSession) := by
  refine ⟨_, rfl, ?_, ?_, ?_, session_accounts defaultProfile {} _ rfl mixedSession⟩
  · decide +kernel
  · decide +kernel
  · decide +kernel

end Planner

end RenamePlan
