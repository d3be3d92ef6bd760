import RenamePlan.Proofs.History.Groups
import RenamePlan.Proofs.Usage.Columns

/-!
# The registry and its calls

A registry of usages is a function of the calls that recorded them (`perform_sheets`).  It has one
record for each routine that a call names, spelled as in the first such call, and the three lists of
the record tell of the places of the calls with a positive line, each once.
-/

namespace RenamePlan

/-- The value that names a routine, null if there is none. -/
def routineName : Option Text → Json
  | none => .null
  | some name => .text name

@[simp] theorem orEmpty_routineName (procedure : Option Text) :
    (routineName procedure).orEmpty = .text (procedure.getD []) := by
  cases procedure with
  | none => rfl
  | some name => exact Json.orEmpty_text name

/-- What tells routines apart: the folds of both names. -/
def routineKey (module : Text) (procedure : Option Text) : Text × Text :=
  (fold module, fold (procedure.getD []))

/-- A call that records a usage. -/
structure UsageCall where
  module : Text
  procedure : Option Text
  line : Int
  occurrence : Int := unspecified
  column : Int := unspecified
deriving DecidableEq, Repr

namespace UsageCall

/-- The routine of the call. -/
def key (c : UsageCall) : Text × Text :=
  routineKey c.module c.procedure

/-- The numbers that make up the place. -/
def triple (c : UsageCall) : Int × Int × Int :=
  (c.line, c.occurrence, c.column)

/-- The place of the usage. -/
def place (c : UsageCall) : Place where
  line := .int c.line
  occurrence := .int c.occurrence
  column := .int c.column

theorem place_beq (a b : UsageCall) : (a.place == b.place) = decide (a.triple = b.triple) := by
  show (Json.int a.line == Json.int b.line && (Json.int a.occurrence == Json.int b.occurrence &&
    Json.int a.column == Json.int b.column)) = _
  rw [Bool.eq_iff_iff]
  simp [triple]

/-- The registry after the call. -/
def perform (registry : UsageRegistry) (c : UsageCall) : Except ValueFault UsageRegistry :=
  let done := registry.record (.text c.module) (routineName c.procedure) c.place
  done.result.map fun _ => done.state

/-- The record that calls for one routine leave: spelled as in the first of them, with each place
once that has a positive line. -/
def sheet (first : UsageCall) (calls : List UsageCall) : UsageSheet :=
  .ofPlaces (.text first.module) (.text (first.procedure.getD []))
    ((firstsOn triple (calls.filter (0 < ·.line))).map place)

/-- The records that calls leave, one for each routine, in the order of the first calls. -/
def sheets (calls : List UsageCall) : List UsageSheet :=
  grouped key sheet calls

theorem isParallel_sheet (first : UsageCall) (calls : List UsageCall) :
    (first.sheet calls).IsParallel :=
  UsageSheet.isParallel_ofPlaces ..

end UsageCall

/-! ## Look-up -/

/-- Whether the record is for the routine with the given key. -/
def UsageSheet.hasKey (key : Text × Text) (sheet : UsageSheet) : Bool :=
  match sheet.module, sheet.procedure with
  | .text module, .text procedure => (fold module, fold procedure) = key
  | _, _ => false

theorem UsageCall.hasKey_sheet (key : Text × Text) (first : UsageCall) (calls : List UsageCall) :
    (first.sheet calls).hasKey key = decide (first.key = key) :=
  rfl

/-- Where the names are texts, the look-up goes by the folds of both. -/
theorem indexIn_texts {entries : List UsageSheet}
    (h : ∀ sheet ∈ entries, ∃ module procedure, sheet.module = .text module ∧
      sheet.procedure = .text procedure) (module procedure : Text) :
    UsageRegistry.indexIn entries (.text module) (.text procedure) =
      .ok (entries.findIdx? (UsageSheet.hasKey (fold module, fold procedure))) := by
  induction entries with
  | nil => rfl
  | cons sheet rest ih =>
    have hrest := ih fun other hother => h other (List.mem_cons_of_mem sheet hother)
    obtain ⟨ownModule, ownProcedure, hmodule, hprocedure⟩ := h sheet List.mem_cons_self
    have hfor : sheet.isFor (.text module) (.text procedure) =
        .ok (sheet.hasKey (fold module, fold procedure)) := by
      rw [UsageSheet.isFor, UsageSheet.hasKey, hmodule, hprocedure, sameRoutine_text]
      refine congrArg Except.ok (Bool.eq_iff_iff.2 ?_)
      simp [sameName_iff]
    rw [UsageRegistry.indexIn, hfor, hrest, List.findIdx?_cons]
    cases sheet.hasKey (fold module, fold procedure) with
    | true => rfl
    | false => rfl

namespace UsageCall

theorem indexOf?_sheets (calls : List UsageCall) (module : Text) (procedure : Option Text) :
    UsageRegistry.indexOf? ⟨sheets calls⟩ (.text module) (routineName procedure) =
      .ok ((sheets calls).findIdx? (UsageSheet.hasKey (routineKey module procedure))) := by
  rw [UsageRegistry.indexOf?, orEmpty_routineName]
  refine indexIn_texts (fun own hown => ?_) module _
  obtain ⟨first, _, rfl⟩ := List.mem_map.1 hown
  exact ⟨_, _, rfl, rfl⟩

/-! ## One call -/

theorem has_place (first : UsageCall) (past : List UsageCall) (c : UsageCall) :
    (first.sheet past).has c.place = true ↔
      c.triple ∈ (past.filter (0 < ·.line)).map triple := by
  rw [← mem_map_firstsOn, UsageSheet.has, sheet, UsageSheet.places_ofPlaces,
    List.contains_eq_any_beq, List.any_map, List.any_eq_true]
  simp only [Function.comp_apply, place_beq, decide_eq_true_eq, List.mem_map, @eq_comm _ c.triple]

theorem order_line (c : UsageCall) : c.place.line.order (.int 0) = .ok (compare c.line 0) :=
  Json.order_int ..

theorem isPositive_place (c : UsageCall) : c.place.isPositive = decide (0 < c.line) := by
  rw [Place.isPositive, order_line]
  simp [Int.compare_eq_gt]

/-- A record that takes the place of a call is extended by the call. -/
theorem listing_sheet (first : UsageCall) (past : List UsageCall) (c : UsageCall) :
    (first.sheet past).listing c.place = first.sheet (past ++ [c]) := by
  rw [(isParallel_sheet first past).listing_eq, isPositive_place]
  by_cases hpositive : 0 < c.line
  · have hfilter : (past ++ [c]).filter (0 < ·.line) = past.filter (0 < ·.line) ++ [c] := by
      rw [List.filter_append, List.filter_cons_of_pos (by simpa using hpositive), List.filter_nil]
    by_cases hlisted : (first.sheet past).has c.place = true
    · rw [if_neg (by simp [hlisted]), sheet, sheet, hfilter,
        firstsOn_concat_of_mem ((has_place ..).1 hlisted)]
    · rw [if_pos (by simp [hpositive, hlisted]), UsageSheet.append_eq_appendAll, sheet, sheet,
        hfilter, firstsOn_concat_of_notMem fun hmem => hlisted ((has_place ..).2 hmem),
        UsageSheet.appendAll_ofPlaces, List.map_append, List.map_singleton]
  · rw [if_neg (by simp [hpositive]), sheet, sheet, List.filter_append,
      List.filter_cons_of_neg (by simpa using hpositive), List.filter_nil, List.append_nil]

theorem exists_list_sheet {entries : List UsageSheet} {i : Nat} {first : UsageCall}
    {past : List UsageCall} (h : entries[i]? = some (first.sheet past)) (c : UsageCall) :
    ∃ known, UsageRegistry.list ⟨entries⟩ i c.place =
      .ok (⟨entries.set i (first.sheet (past ++ [c]))⟩, known) := by
  rcases UsageRegistry.list_cases ⟨entries⟩ i c.place with ⟨fault, -, hfault⟩ | ⟨known, hlist⟩
  · rw [order_line] at hfault
    cases hfault
  · refine ⟨known, hlist.trans ?_⟩
    rw [List.modify_eq_set_getElem?, h, ← listing_sheet]
    rfl

theorem perform_of_openRecord {registry opened next : UsageRegistry} {c : UsageCall} {i : Nat}
    {log : List Record} {known : Bool}
    (hopen : registry.openRecord (.text c.module) (routineName c.procedure) =
      .ok ⟨(opened, i), log⟩) (hlist : opened.list i c.place = .ok (next, known)) :
    c.perform registry = .ok next := by
  simp only [perform, UsageRegistry.record, hopen, hlist]
  rfl

/-- One call: the registry that past calls leave becomes that of the past calls and this one. -/
theorem perform_sheets (past : List UsageCall) (c : UsageCall) :
    c.perform ⟨sheets past⟩ = .ok ⟨sheets (past ++ [c])⟩ := by
  have hindex := indexOf?_sheets past c.module c.procedure
  cases hfound : (sheets past).findIdx? (UsageSheet.hasKey c.key) with
  | some i =>
    obtain ⟨first, hget, hnext⟩ := grouped_concat_of_some (hasKey_sheet c.key) hfound
    obtain ⟨known, hlist⟩ := exists_list_sheet hget c
    have hopen : UsageRegistry.openRecord ⟨sheets past⟩ (.text c.module)
        (routineName c.procedure) = .ok ⟨(⟨sheets past⟩, i), []⟩ := by
      rw [UsageRegistry.openRecord, hindex, ← key, hfound]
      rfl
    rw [perform_of_openRecord hopen hlist]
    exact congrArg (fun entries => Except.ok (UsageRegistry.mk entries)) hnext.symm
  | none =>
    obtain ⟨_, hnext⟩ := grouped_concat_of_none (hasKey_sheet c.key) hfound
    -- the new record is that of no calls, and stands last
    have hget : (sheets past ++ [c.sheet []])[(sheets past).length]? = some (c.sheet []) :=
      List.getElem?_concat_length
    obtain ⟨known, hlist⟩ := exists_list_sheet hget c
    have hopen : UsageRegistry.openRecord ⟨sheets past⟩ (.text c.module)
        (routineName c.procedure) =
          .ok ⟨(⟨sheets past ++ [c.sheet []]⟩, (sheets past).length),
            [UsageRegistry.recordCreated (.text c.module) (routineName c.procedure)]⟩ := by
      rw [UsageRegistry.openRecord, hindex, ← key, hfound, orEmpty_routineName]
      rfl
    rw [perform_of_openRecord hopen hlist, List.set_append_right _ _ (Nat.le_refl _), Nat.sub_self,
      List.set_cons_zero]
    exact congrArg (fun entries => Except.ok (UsageRegistry.mk entries)) hnext.symm

/-! ## The law of the registry -/

theorem get?_sheets (calls : List UsageCall) (module : Text) (procedure : Option Text) :
    UsageRegistry.get? ⟨sheets calls⟩ (.text module) (routineName procedure) =
      .ok ((calls.find? (·.key = routineKey module procedure)).map fun first =>
        first.sheet (calls.filter (·.key = routineKey module procedure))) := by
  rw [UsageRegistry.get?, indexOf?_sheets]
  show Except.ok (((sheets calls).findIdx? _).bind fun i => (sheets calls)[i]?) = _
  rw [← List.find?_eq_bind_findIdx?_getElem?, sheets, find?_grouped (hasKey_sheet _)]

theorem filter_key_positive (calls : List UsageCall) (routine : Text × Text) :
    (calls.filter (·.key = routine)).filter (0 < ·.line) =
      calls.filter fun c => c.key = routine ∧ 0 < c.line := by
  rw [List.filter_filter]
  apply List.filter_congr
  intro c _
  rw [Bool.and_comm, Bool.decide_and]

theorem places_sheet (calls : List UsageCall) (first : UsageCall) :
    (first.sheet (calls.filter (·.key = first.key))).places =
      (firstsOn triple (calls.filter fun c => c.key = first.key ∧ 0 < c.line)).map place := by
  rw [sheet, UsageSheet.places_ofPlaces, filter_key_positive]

/-- **A registry is the history of its calls.**  Any calls on an empty registry succeed.  Its
records are then one for each routine that a call names, in the order of the first calls for them,
each with the names of its first call.  The three lists of a record have one length, and side by
side they give the distinct places of its calls with a positive line.  Looking up a routine gives
its record, or nothing if no call names it. -/
theorem sheets_foldlM_perform (calls : List UsageCall) :
    ∃ registry, calls.foldlM perform {} = .ok registry ∧
      registry.sheets = ((firstsOn key calls).map fun first =>
        first.sheet (calls.filter (·.key = first.key))) ∧
      (∀ sheet ∈ registry.sheets, sheet.occurrences.length = sheet.lines.length ∧
        sheet.columns.length = sheet.lines.length) ∧
      registry.sheets.map UsageSheet.places = ((firstsOn key calls).map fun first =>
        (firstsOn triple (calls.filter fun c => c.key = first.key ∧ 0 < c.line)).map place) ∧
      ∀ module procedure, registry.get? (.text module) (routineName procedure) =
        .ok ((calls.find? (·.key = routineKey module procedure)).map fun first =>
          first.sheet (calls.filter (·.key = routineKey module procedure))) := by
  refine ⟨⟨sheets calls⟩, foldlM_eq_of_step perform_sheets [] calls, rfl, ?_, ?_,
    get?_sheets calls⟩
  · intro own hown
    obtain ⟨first, _, rfl⟩ := List.mem_map.1 hown
    have hparallel := isParallel_sheet first (calls.filter (·.key = first.key))
    exact ⟨hparallel.occurrences, hparallel.columns⟩
  · rw [sheets, grouped, List.map_map]
    apply List.map_congr_left
    intro first _
    exact places_sheet calls first

end UsageCall

end RenamePlan
