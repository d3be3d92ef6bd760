import RenamePlan.Planner
import RenamePlan.Proofs.Edit.Plain

/-!
# Planning renames

What a planner does with the renames of one source, asked of it one after the other.

* **Stores** — work on the store of a module reads and writes the edits that are known under every
  spelling of the module's name (`exists_withStore`).
* **One rename** — a rename of a line of the source is never refused, and the store takes the edits
  for its matches in turn (`exists_plan`).
* **A run** — renames in turn leave the first edit at each position (`exists_planAll`).
-/

namespace RenamePlan

open PlainEdit

/-! ## Stores -/

section Lists

variable {α : Type} {p : α → Bool} {entries : List α} {i : Nat}

theorem find?_eq_of_findIdx? (h : entries.findIdx? p = some i) :
    entries.find? p = entries[i]? := by
  induction entries generalizing i with
  | nil => cases h
  | cons entry rest ih =>
    rw [List.findIdx?_cons] at h
    split at h
    · rename_i hentry
      obtain rfl := Option.some.inj h
      rw [List.find?_cons_of_pos hentry, List.getElem?_cons_zero]
    · rename_i hentry
      obtain ⟨j, hj, rfl⟩ := Option.map_eq_some_iff.1 h
      rw [List.find?_cons_of_neg hentry, ih hj, List.getElem?_cons_succ]

theorem find?_set_of_findIdx? (h : entries.findIdx? p = some i) {new : α} (hnew : p new = true) :
    (entries.set i new).find? p = some new := by
  induction entries generalizing i with
  | nil => cases h
  | cons entry rest ih =>
    rw [List.findIdx?_cons] at h
    split at h
    · obtain rfl := Option.some.inj h
      rw [List.set_cons_zero, List.find?_cons_of_pos hnew]
    · rename_i hentry
      obtain ⟨j, hj, rfl⟩ := Option.map_eq_some_iff.1 h
      rw [List.set_cons_succ, List.find?_cons_of_neg hentry, ih hj]

end Lists

namespace Planner

theorem start_of_check {profile : Profile} (h : profile.check = .ok ()) (symbols : SymbolTable) :
    start profile symbols = .ok ⟨{ profile, symbols }, [profile.validated]⟩ := by
  rw [start, Profile.validate, h]
  rfl

theorem storeAt_of_getElem? {planner : Planner} {i : Nat} {store : EditStore}
    (h : planner.stores[i]? = some store) : planner.storeAt i = store := by
  rw [storeAt, List.getD_eq_getElem?_getD, h, Option.getD_some]

/-- The store that is opened for a module is the first one for any spelling of its name, and holds
the edits that are known under it. -/
theorem openStore_spec (planner : Planner) {module other : Text}
    (hsame : sameName module other = true) :
    ∃ store, (planner.openStore module).value.1.profile = planner.profile ∧
      (planner.openStore module).value.1.stores.findIdx? (fun s => sameName s.module other) =
        some (planner.openStore module).value.2 ∧
      (planner.openStore module).value.1.stores[(planner.openStore module).value.2]? =
        some store ∧
      sameName store.module other = true ∧ store.edits = planner.editsFor other := by
  have hnames : (fun store : EditStore => sameName store.module module) =
      fun store => sameName store.module other := by
    funext store
    rw [Bool.eq_iff_iff, sameName_iff, sameName_iff, sameName_iff.1 hsame]
  rw [openStore, storeIndex?, hnames]
  cases hindex : planner.stores.findIdx? fun store => sameName store.module other with
  | some i =>
    obtain ⟨hi, hname, _⟩ := List.findIdx?_eq_some_iff_getElem.1 hindex
    have hstore : planner.stores[i]? = some planner.stores[i] := List.getElem?_eq_getElem hi
    refine ⟨planner.stores[i], rfl, hindex, hstore, hname, ?_⟩
    rw [editsFor, find?_eq_of_findIdx? hindex, hstore]
    rfl
  | none =>
    have hnone : (planner.stores.find? fun store => sameName store.module other) = none := by
      rw [List.find?_eq_none]
      intro store hmem
      rw [List.findIdx?_eq_none_iff.1 hindex store hmem]
      exact Bool.false_ne_true
    -- the new store stands last, and no other is for the module
    refine ⟨{ module }, rfl, ?_, List.getElem?_concat_length, hsame, ?_⟩
    · show (planner.stores ++ [({ module } : EditStore)]).findIdx? _ = some planner.stores.length
      rw [List.findIdx?_append, hindex, List.findIdx?_singleton, if_pos hsame]
      simp
    · rw [editsFor, hnone]
      rfl

/-- Whether the positions of every store are in step with its edits. -/
def InStep (planner : Planner) : Prop :=
  ∀ store ∈ planner.stores, store.InStep

theorem InStep.openStore {planner : Planner} (h : planner.InStep) (module : Text) :
    (planner.openStore module).value.1.InStep := by
  rw [Planner.openStore]
  cases planner.storeIndex? module with
  | some i => exact h
  | none =>
    intro store hmem
    rcases List.mem_append.1 hmem with hmem | hmem
    · exact h store hmem
    · rw [List.mem_singleton.1 hmem]
      exact EditStore.inStep_new module

theorem InStep.set {planner : Planner} (h : planner.InStep) (i : Nat) {next : EditStore}
    (hnext : next.InStep) :
    Planner.InStep { planner with stores := planner.stores.set i next } := by
  intro store hmem
  rcases List.mem_or_eq_of_mem_set hmem with hmem | rfl
  · exact h store hmem
  · exact hnext

/-- Work on the store of a module finds the edits that are known under another spelling of its
name, and leaves what is known under it then.  Stores stay in step if the work keeps them so. -/
theorem exists_withStore {α : Type} {planner : Planner} (hstep : planner.InStep)
    {module other : Text} (hsame : sameName module other = true)
    {work : EditStore → Except ValueFault (Logged (EditStore × α))} {after : List Edit}
    (hwork : ∀ store : EditStore, store.InStep → store.edits = planner.editsFor other →
      ∃ done, work store = .ok done ∧ done.value.1.module = store.module ∧
        done.value.1.InStep ∧ done.value.1.edits = after) :
    ∃ result, (planner.withStore module work).result = .ok result ∧
      (planner.withStore module work).state.profile = planner.profile ∧
      (planner.withStore module work).state.InStep ∧
      (planner.withStore module work).state.editsFor other = after := by
  have hopened := hstep.openStore module
  obtain ⟨store, hprofile, hindex, hget, hname, hedits⟩ := planner.openStore_spec hsame
  obtain ⟨done, hdone, hmodule, hnext, hafter⟩ :=
    hwork store (hopened store (List.mem_of_getElem? hget)) hedits
  obtain ⟨⟨⟨opened, i⟩, log⟩, hopening⟩ : ∃ opening, planner.openStore module = opening := ⟨_, rfl⟩
  obtain ⟨⟨next, result⟩, later⟩ := done
  simp only [hopening] at hopened hprofile hindex hget
  have houtcome : planner.withStore module work =
      ⟨{ opened with stores := opened.stores.set i next }, .ok result, log ++ later⟩ := by
    simp only [withStore, hopening, storeAt_of_getElem? hget, hdone]
  have hfound : (opened.stores.set i next).find? (fun s => sameName s.module other) = some next :=
    find?_set_of_findIdx? hindex (by rw [show next.module = store.module from hmodule, hname])
  rw [houtcome]
  refine ⟨result, rfl, hprofile, hopened.set i hnext, ?_⟩
  rw [editsFor, hfound]
  exact hafter

end Planner

/-! ## Renames of a source -/

/-- A rename asked of a planner for one line of a source. -/
structure NameChange (lines : List Text) where
  symbol : Symbol
  /-- The name of the module, in some spelling. -/
  module : Text
  index : Fin lines.length
  old : Text
  new : Text
  category : Text
  occurrence : Int := everyOccurrence
  skipLiterals : Json := .null
  procedure : Json := .null

/-- The text of a line in which a planner with the profile looks for matches. -/
def searched (profile : Profile) (line : Text) : Text :=
  if profile.isOn .stripComments then (splitComment line).code else line

theorem searchedText_text (profile : Profile) (line : Text) :
    Planner.searchedText profile (.text line) = .ok (.text (searched profile line)) := by
  unfold Planner.searchedText searched
  split <;> rfl

namespace NameChange

variable {lines : List Text}

/-- What is asked of the planner. -/
def request (c : NameChange lines) : RenameRequest where
  module := .text c.module
  lineText := .text (lines.get c.index)
  lineNumber := .int (c.index + 1)
  old := .text c.old
  new := .text c.new
  category := .text c.category
  occurrence := .int c.occurrence
  skipLiterals := c.skipLiterals
  procedure := c.procedure

/-- What a planner with the profile asks of the store. -/
def plain (profile : Profile) (c : NameChange lines) : PlainRequest where
  text := searched profile (lines.get c.index)
  line := c.index + 1
  old := c.old
  new := c.new
  category := c.category
  occurrence := c.occurrence
  skipLiterals := Planner.skipsLiterals profile c.skipLiterals

end NameChange

namespace Planner

variable {lines : List Text}

/-- Whether the edits known for a module are the given ones, and all stores are in step. -/
structure HoldsFor (planner : Planner) (module : Text) (kept : List PlainEdit) : Prop where
  editsFor_eq : planner.editsFor module = kept.map edit
  inStep : planner.InStep

theorem holdsFor_new (profile : Profile) (symbols : SymbolTable) (module : Text) :
    HoldsFor { profile, symbols } module [] :=
  ⟨rfl, fun _ hmem => absurd hmem List.not_mem_nil⟩

/-- One rename: the store of the module takes the edits for its matches in turn. -/
theorem exists_plan {planner : Planner} {module : Text} {kept : List PlainEdit}
    (hkept : planner.HoldsFor module kept) {c : NameChange lines}
    (hsame : sameName c.module module = true) :
    ∃ planned, (planner.plan c.symbol c.request).result = .ok planned ∧
      (planner.plan c.symbol c.request).state.profile = planner.profile ∧
      (planner.plan c.symbol c.request).state.HoldsFor module
        (keepAll kept (c.plain planner.profile).edits) := by
  obtain ⟨planned, hresult, hprofile, hstep, hedits⟩ :=
    exists_withStore hkept.inStep hsame fun store hstore hstored =>
      have hadded := Holds.insertAll ⟨hstored.trans hkept.editsFor_eq, hstore⟩
        (c.plain planner.profile).edits
      ⟨_, (c.plain planner.profile).addLine_request store, module_insertAll .., hadded.inStep,
        hadded.edits_eq⟩
  have hplan : planner.plan c.symbol c.request =
      let stored := planner.withStore c.module (·.addLine (c.plain planner.profile).request)
      let noted := stored.state.noteEdits c.symbol c.module c.request planned
      ⟨noted.value, .ok planned, stored.log ++ noted.log⟩ := by
    have hrequest : lineRequest planner.profile c.request
        (.text (searched planner.profile (lines.get c.index))) =
          (c.plain planner.profile).request := rfl
    simp only [plan, show c.request.lineText = .text (lines.get c.index) from rfl,
      show c.request.module = .text c.module from rfl, searchedText_text, Json.name_text,
      bind, Except.bind, pure, Except.pure, hrequest, hresult]
  rw [hplan]
  exact ⟨planned, rfl, hprofile, hedits, hstep⟩

/-- The planner after the renames, taken in turn. -/
def planAll : Planner → List (Symbol × RenameRequest) → Except ValueFault Planner
  | planner, [] => .ok planner
  | planner, (s, request) :: rest => do
    let planned := planner.plan s request
    let _ ← planned.result
    planned.state.planAll rest

/-- A run leaves the first edit at each position that its renames ask for. -/
theorem exists_planAll {profile : Profile} {module : Text} {changes : List (NameChange lines)}
    (hmodule : ∀ c ∈ changes, sameName c.module module = true) (planner : Planner)
    (hprofile : planner.profile = profile) (kept : List PlainEdit)
    (hkept : planner.HoldsFor module kept) :
    ∃ final, planner.planAll (changes.map fun c => (c.symbol, c.request)) = .ok final ∧
      final.editsFor module =
        (keepAll kept ((changes.map (NameChange.plain profile)).flatMap PlainRequest.edits)).map
          edit := by
  induction changes generalizing planner kept with
  | nil => exact ⟨planner, rfl, hkept.editsFor_eq⟩
  | cons c rest ih =>
    obtain ⟨planned, hresult, hsame, hedits⟩ := exists_plan hkept (hmodule c List.mem_cons_self)
    rw [hprofile] at hsame hedits
    obtain ⟨final, hrun, hfinal⟩ :=
      ih (fun d hd => hmodule d (List.mem_cons_of_mem c hd)) _ hsame _ hedits
    refine ⟨final, ?_, ?_⟩
    · rw [List.map_cons, planAll, hresult]
      exact hrun
    · rw [hfinal, List.map_cons, List.flatMap_cons, keepAll_append]

end Planner

end RenamePlan
