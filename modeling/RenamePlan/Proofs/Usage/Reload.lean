import RenamePlan.Proofs.History.Groups
import RenamePlan.Proofs.Usage.Columns

/-!
# A registry can be saved and loaded again

Loading what a registry saves gives that registry, so no later call can tell them apart
(`UsageRegistry.reload_after`).  What is loaded may come from elsewhere: lists may be missing or of
different lengths, routines may be null, and several records may be for one routine.

* **Settled records** — loading writes the empty name for a routine that does not count as set.  A
  record in which this changes nothing is settled, and is loaded as it was saved if its lists are
  parallel (`ofJson_saved`).
* **Calls** — what is loaded is settled and parallel, and calls keep it so (`Lasts.after`), also
  those that fail.
-/

namespace RenamePlan

theorem Json.orEmpty_orEmpty (value : Json) : value.orEmpty.orEmpty = value.orEmpty := by
  by_cases h : value.isSet = true
  · have hkept : value.orEmpty = value := if_pos h
    rw [hkept, hkept]
  · have hempty : value.orEmpty = .text [] := if_neg h
    rw [hempty, orEmpty_text]

/-- What a walk that may fail has made of the entries. -/
theorem exists_of_mem_mapM {ε α β : Type} {f : α → Except ε β} {entries : List α}
    {made : List β} (h : entries.mapM f = .ok made) : ∀ b ∈ made, ∃ a ∈ entries, f a = .ok b := by
  induction entries generalizing made with
  | nil =>
    intro b hb
    rw [List.mapM_nil] at h
    obtain rfl := Except.ok.inj h
    cases hb
  | cons a rest ih =>
    rw [List.mapM_cons] at h
    cases hfirst : f a with
    | error fault =>
      rw [hfirst] at h
      cases h
    | ok first =>
      cases hrest : rest.mapM f with
      | error fault =>
        rw [hfirst, hrest] at h
        cases h
      | ok others =>
        rw [hfirst, hrest] at h
        obtain rfl := Except.ok.inj h
        intro b hb
        rcases List.mem_cons.1 hb with rfl | hb
        · exact ⟨a, List.mem_cons_self, hfirst⟩
        · obtain ⟨other, hother, hmade⟩ := ih hrest b hb
          exact ⟨other, List.mem_cons_of_mem a hother, hmade⟩

/-! ## Settled records -/

namespace UsageSheet

/-- Whether the routine of the record counts as set, or is the empty name. -/
def IsSettled (sheet : UsageSheet) : Prop :=
  sheet.procedure.orEmpty = sheet.procedure

theorem lasts_isSettled : Lasts IsSettled where
  new _ procedure := Json.orEmpty_orEmpty procedure
  align _ h := h
  append _ _ h := h

theorem ofJson_toJson (sheet : UsageSheet) :
    ofJson sheet.toJson = .ok { sheet with procedure := sheet.procedure.orEmpty }.align :=
  rfl

/-- A settled record with parallel lists is loaded as it was saved. -/
theorem IsSettled.ofJson_toJson {sheet : UsageSheet} (h : sheet.IsSettled)
    (hparallel : sheet.IsParallel) : ofJson sheet.toJson = .ok sheet := by
  have hsame : { sheet with procedure := sheet.procedure.orEmpty } = sheet :=
    congrArg (fun procedure => { sheet with procedure }) h
  rw [UsageSheet.ofJson_toJson, hsame, hparallel.align_eq]

/-- What is loaded is settled. -/
theorem isSettled_of_ofJson {data : Json} {sheet : UsageSheet} (h : ofJson data = .ok sheet) :
    sheet.IsSettled := by
  unfold ofJson at h
  split at h
  · split at h
    · obtain rfl := Except.ok.inj h
      exact Json.orEmpty_orEmpty _
    · cases h
  · cases h
  · cases h

end UsageSheet

namespace UsageRegistry

/-- Whether all records are settled. -/
def IsSettled (registry : UsageRegistry) : Prop :=
  registry.Each UsageSheet.IsSettled

/-- The registry as it is saved. -/
def saved (registry : UsageRegistry) : List Json :=
  registry.sheets.map UsageSheet.toJson

/-- A settled registry with parallel lists is loaded as it was saved. -/
theorem ofJson_saved {registry : UsageRegistry} (h : registry.IsSettled)
    (hparallel : registry.IsParallel) : ofJson registry.saved = .ok registry := by
  have hsheets : registry.saved.mapM UsageSheet.ofJson = .ok registry.sheets :=
    mapM_map_eq_pure fun sheet hsheet => (h sheet hsheet).ofJson_toJson (hparallel sheet hsheet)
  have haligned : registry.sheets.map UsageSheet.align = registry.sheets :=
    (List.map_congr_left fun sheet hsheet => (hparallel sheet hsheet).align_eq).trans
      (List.map_id _)
  rw [ofJson, hsheets]
  exact congrArg (fun sheets => Except.ok (UsageRegistry.mk sheets)) haligned

theorem isSettled_ofJson {data : List Json} {registry : UsageRegistry}
    (h : ofJson data = .ok registry) : registry.IsSettled := by
  rw [ofJson] at h
  cases hsheets : data.mapM UsageSheet.ofJson with
  | error fault =>
    rw [hsheets] at h
    cases h
  | ok sheets =>
    rw [hsheets] at h
    obtain rfl := Except.ok.inj h
    intro aligned haligned
    obtain ⟨sheet, hsheet, rfl⟩ := List.mem_map.1 haligned
    obtain ⟨saved, -, hload⟩ := exists_of_mem_mapM hsheets sheet hsheet
    exact UsageSheet.lasts_isSettled.align sheet (UsageSheet.isSettled_of_ofJson hload)

end UsageRegistry

/-! ## Calls -/

/-- A call to a registry. -/
inductive RegistryCall where
  | record (module procedure : Json) (place : Place)
  | get (module procedure : Json)
  | linesIn (module : Json)
  | size

/-- What a registry answers to a call. -/
inductive RegistryAnswer where
  | recorded (result : Except ValueFault Unit) (log : List Record)
  | found (sheet : Except ValueFault (Option UsageSheet))
  | lines (lines : Except ValueFault (List Json))
  | size (size : Nat)

namespace RegistryCall

/-- The registry after the call. -/
def perform (registry : UsageRegistry) : RegistryCall → UsageRegistry
  | record module procedure place => (registry.record module procedure place).state
  | _ => registry

/-- The answer to the call. -/
def answer (registry : UsageRegistry) : RegistryCall → RegistryAnswer
  | record module procedure place =>
    let done := registry.record module procedure place
    .recorded done.result done.log
  | get module procedure => .found (registry.get? module procedure)
  | linesIn module => .lines (registry.linesIn module)
  | size => .size registry.size

end RegistryCall

namespace UsageRegistry

/-- The registry after the calls. -/
def after (registry : UsageRegistry) (calls : List RegistryCall) : UsageRegistry :=
  calls.foldl RegistryCall.perform registry

/-- The answers to the calls, one after the other. -/
def answers (registry : UsageRegistry) : List RegistryCall → List RegistryAnswer
  | [] => []
  | call :: rest => call.answer registry :: (call.perform registry).answers rest

end UsageRegistry

namespace UsageSheet.Lasts

variable {P : UsageSheet → Prop} {registry : UsageRegistry}

theorem perform (hP : Lasts P) (h : registry.Each P) (call : RegistryCall) :
    (call.perform registry).Each P := by
  cases call with
  | record module procedure place => exact hP.record h module procedure place
  | get module procedure => exact h
  | linesIn module => exact h
  | size => exact h

/-- What lasts is kept by any calls. -/
theorem after (hP : Lasts P) (h : registry.Each P) (calls : List RegistryCall) :
    (registry.after calls).Each P := by
  induction calls generalizing registry with
  | nil => exact h
  | cons call rest ih => exact ih (hP.perform h call)

end UsageSheet.Lasts

namespace UsageRegistry

/-- **Saving and loading cannot be noticed.**  Let a registry begin empty or with what is loaded,
and take any calls.  What it then saves is accepted; what is loaded from it saves the same, and
answers all further calls in the same way.  With no calls this says that loading settles all there
is to settle: what has been loaded and saved is loaded as it is. -/
theorem reload_after {first : UsageRegistry}
    (h : first = {} ∨ ∃ data, ofJson data = .ok first) (calls : List RegistryCall) :
    ∃ reloaded, ofJson (first.after calls).saved = .ok reloaded ∧
      reloaded.saved = (first.after calls).saved ∧
      ∀ further, reloaded.answers further = (first.after calls).answers further ∧
        (reloaded.after further).saved = ((first.after calls).after further).saved := by
  have hfirst : first.IsSettled ∧ first.IsParallel := by
    rcases h with rfl | ⟨data, hdata⟩
    · exact ⟨fun _ hnone => absurd hnone List.not_mem_nil,
        fun _ hnone => absurd hnone List.not_mem_nil⟩
    · exact ⟨isSettled_ofJson hdata, isParallel_ofJson hdata⟩
  have hsettled := UsageSheet.lasts_isSettled.after hfirst.1 calls
  have hparallel := UsageSheet.lasts_isParallel.after hfirst.2 calls
  exact ⟨first.after calls, ofJson_saved hsettled hparallel, rfl, fun further => ⟨rfl, rfl⟩⟩

/-- Two records for one routine.  The first has a null routine, a list that is too short and one
that is too long; the second has nothing but its module. -/
def patchyRecords : List Json := [
  .object [
    ("module".toList, .text "Main".toList),
    ("procedure".toList, .null),
    ("line_numbers".toList, .list [.int 4, .int 7]),
    ("occurrence_indexes".toList, .list [.int 2]),
    ("start_chars".toList, .list [.int 0, .int 5, .int 9])],
  .object [("module".toList, .text "MAIN".toList)]]

/-- Of the patchy records the first takes the usage, and both are loaded again. -/
theorem reload_patchyRecords :
    ∃ first reloaded, ofJson patchyRecords = .ok first ∧
      (first.after [.record (.text "main".toList) .null ⟨.int 9, .int 1, .int 3⟩]).sheets = [
        ⟨.text "Main".toList, .text [], [.int 4, .int 7, .int 9],
          [.int 2, .int unspecified, .int 1], [.int 0, .int 5, .int 3]⟩,
        ⟨.text "MAIN".toList, .text [], [], [], []⟩] ∧
      ofJson (first.after [.record (.text "main".toList) .null ⟨.int 9, .int 1, .int 3⟩]).saved =
        .ok reloaded ∧
      reloaded.answers [.linesIn (.text "main".toList), .size] =
        [.lines (.ok [.int 4, .int 7, .int 9]), .size 2] := by
  obtain ⟨reloaded, hload, -, hfurther⟩ := reload_after (Or.inr ⟨patchyRecords, rfl⟩)
    [.record (.text "main".toList) .null ⟨.int 9, .int 1, .int 3⟩]
  exact ⟨_, reloaded, rfl, rfl, hload, (hfurther _).1.trans rfl⟩

end UsageRegistry

end RenamePlan
