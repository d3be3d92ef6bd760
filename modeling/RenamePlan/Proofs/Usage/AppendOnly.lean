import RenamePlan.Proofs.Usage.History
import RenamePlan.Proofs.Usage.Reload

/-!
# Recording only appends

A registry may begin with records from elsewhere: lists of different lengths, null routines, several
records for one routine, places that are listed twice.  Whatever it begins with, a call appends a
record, or a place to the first record for the routine, or nothing, and the three lists of every
record are parallel (`appendsOnly_after`).

* **One pass** — a call is one pass over the records (`recorded`, `UsageRegistry.record_eq_pass`),
  so what is proved of it follows the list.
* **Growth** — records stay where they are, keep their names and their places, and may get more
  places (`Grows`).
* **Repetition** — a call leaves nothing for itself to do (`UsageCall.recorded_recorded`), and where
  it has nothing to do, it has nothing to do when the registry has grown (`Grows.recorded_eq_self`).
-/

namespace RenamePlan

/-! ## One call is one pass -/

/-- The records after a usage: the first one for the routine takes the place, or a new one if there
is none.  A name that is no text ends the pass. -/
def recorded (module procedure : Json) (place : Place) : List UsageSheet → List UsageSheet
  | [] => [UsageSheet.listing place { module, procedure }]
  | sheet :: rest =>
    match sheet.isFor module procedure with
    | .error _ => sheet :: rest
    | .ok true => sheet.listing place :: rest
    | .ok false => sheet :: recorded module procedure place rest

/-- The records with the place listed in the one that was found, or in a new one. -/
def listedAt (module procedure : Json) (place : Place) (entries : List UsageSheet) :
    Option Nat → List UsageSheet
  | some i => entries.modify i (UsageSheet.listing place)
  | none => entries ++ [UsageSheet.listing place { module, procedure }]

/-- The pass changes the record that the look-up finds. -/
theorem recorded_eq (module procedure : Json) (place : Place) (entries : List UsageSheet) :
    recorded module procedure place entries =
      ((UsageRegistry.indexIn entries module procedure).map
        (listedAt module procedure place entries)).toOption.getD entries := by
  induction entries with
  | nil => rfl
  | cons sheet rest ih =>
    rw [UsageRegistry.indexIn, recorded]
    cases hfor : sheet.isFor module procedure with
    | error fault => rfl
    | ok own =>
      cases own with
      | true => rfl
      | false =>
        simp only [ih]
        cases UsageRegistry.indexIn rest module procedure with
        | error fault => rfl
        | ok found =>
          cases found with
          | none => rfl
          | some i => rfl

namespace UsageRegistry

theorem modify_concat_length (entries : List UsageSheet) (sheet : UsageSheet)
    (f : UsageSheet → UsageSheet) :
    (entries ++ [sheet]).modify entries.length f = entries ++ [f sheet] := by
  rw [List.modify_eq_set_getElem?, List.getElem?_concat_length]
  show (entries ++ [sheet]).set entries.length (f sheet) = entries ++ [f sheet]
  rw [List.set_append_right _ _ (Nat.le_refl _), Nat.sub_self, List.set_cons_zero]

/-- A call leaves what the pass makes of the records.  Where the line can be compared with zero, it
fails only if the look-up does. -/
theorem record_eq_pass (registry : UsageRegistry) (module procedure : Json) (place : Place) :
    (registry.record module procedure place).state.sheets =
        recorded module procedure.orEmpty place registry.sheets ∧
      ((place.line.order (.int 0)).isOk = true →
        (registry.record module procedure place).result =
          (indexIn registry.sheets module procedure.orEmpty).map fun _ => ()) := by
  rw [recorded_eq]
  cases hindex : indexIn registry.sheets module procedure.orEmpty with
  | error fault =>
    have hopen : registry.openRecord module procedure = .error fault := by
      rw [openRecord, indexOf?, hindex]
      rfl
    simp only [record, hopen]
    exact ⟨rfl, fun _ => rfl⟩
  | ok found =>
    -- either way a record is opened, and the place goes to that record
    obtain ⟨opened, i, log, hopen, hmodify⟩ : ∃ opened i log,
        registry.openRecord module procedure = .ok ⟨(opened, i), log⟩ ∧
        opened.sheets.modify i (UsageSheet.listing place) =
          listedAt module procedure.orEmpty place registry.sheets found := by
      cases found with
      | some i =>
        refine ⟨registry, i, [], ?_, rfl⟩
        rw [openRecord, indexOf?, hindex]
        rfl
      | none =>
        refine ⟨_, registry.size, [recordCreated module procedure], ?_,
          modify_concat_length registry.sheets _ _⟩
        rw [openRecord, indexOf?, hindex]
        rfl
    rcases opened.list_cases i place with ⟨fault, hlist, horder⟩ | ⟨known, hlist⟩
    · have hplace : place.isPositive = false := by simp [Place.isPositive, horder]
      rw [modify_listing_of_not_isPositive hplace] at hmodify
      simp only [record, hopen, hlist, horder]
      exact ⟨hmodify, fun hok => by cases hok⟩
    · simp only [record, hopen, hlist]
      exact ⟨hmodify, fun _ => rfl⟩

end UsageRegistry

/-! ## Growth -/

/-- The records of the second list are those of the first, perhaps with more places behind their
own, and perhaps more records behind them. -/
inductive Grows : List UsageSheet → List UsageSheet → Prop
  | more (added : List UsageSheet) : Grows [] added
  | keep {sheet : UsageSheet} {entries grown : List UsageSheet} (places : List Place)
      (h : Grows entries grown) : Grows (sheet :: entries) (sheet.appendAll places :: grown)

theorem Grows.cons (sheet : UsageSheet) {entries grown : List UsageSheet}
    (h : Grows entries grown) : Grows (sheet :: entries) (sheet :: grown) := by
  have hkeep := @Grows.keep sheet entries grown [] h
  rwa [UsageSheet.appendAll_nil] at hkeep

theorem Grows.refl (entries : List UsageSheet) : Grows entries entries := by
  induction entries with
  | nil => exact .more []
  | cons sheet rest ih => exact ih.cons sheet

theorem Grows.trans {first second third : List UsageSheet} (h : Grows first second)
    (h' : Grows second third) : Grows first third := by
  induction h generalizing third with
  | more added => exact .more third
  | keep places h ih =>
    cases h' with
    | keep later h' =>
      rw [UsageSheet.appendAll_appendAll]
      exact .keep (places ++ later) (ih h')

theorem grows_listing {sheet : UsageSheet} (h : sheet.IsParallel) (place : Place)
    (rest : List UsageSheet) : Grows (sheet :: rest) (sheet.listing place :: rest) := by
  rw [h.listing_eq]
  split
  · exact .keep [place] (.refl rest)
  · exact .refl _

theorem grows_recorded (module procedure : Json) (place : Place) {entries : List UsageSheet}
    (h : ∀ sheet ∈ entries, sheet.IsParallel) :
    Grows entries (recorded module procedure place entries) := by
  fun_induction recorded module procedure place entries with
  | case1 => exact .more _
  | case2 sheet rest fault hfor => exact .refl _
  | case3 sheet rest hfor => exact grows_listing (h sheet List.mem_cons_self) place rest
  | case4 sheet rest hfor ih =>
    exact (ih fun other hother => h other (List.mem_cons_of_mem sheet hother)).cons sheet

section Calls

variable {registry : UsageRegistry} (h : registry.IsParallel)

include h

theorem grows_perform (call : RegistryCall) :
    Grows registry.sheets (call.perform registry).sheets := by
  cases call with
  | record module procedure place =>
    show Grows _ (registry.record module procedure place).state.sheets
    rw [(registry.record_eq_pass module procedure place).1]
    exact grows_recorded _ _ _ h
  | get module procedure => exact .refl _
  | linesIn module => exact .refl _
  | size => exact .refl _

theorem grows_after (calls : List RegistryCall) :
    Grows registry.sheets (registry.after calls).sheets := by
  induction calls generalizing registry with
  | nil => exact .refl _
  | cons call rest ih =>
    exact (grows_perform h call).trans (ih (UsageSheet.lasts_isParallel.perform h call))

end Calls

/-! ## Repetition -/

namespace UsageSheet

theorem IsParallel.listing_eq_self_iff {sheet : UsageSheet} (h : sheet.IsParallel)
    {place : Place} :
    sheet.listing place = sheet ↔ (place.isPositive = true → sheet.has place = true) := by
  rw [h.listing_eq]
  split
  · rename_i hnew
    simp only [Bool.and_eq_true, Bool.not_eq_true'] at hnew
    constructor
    · intro heq
      have hlines := congrArg (fun own => own.lines.length) heq
      simp [append] at hlines
    · intro hlisted
      rw [hlisted hnew.1] at hnew
      cases hnew.2
  · rename_i hold
    simpa using hold

/-- A record lists a place that has been listed in it. -/
theorem listing_listing {place : Place} (hself : (place == place) = true) (sheet : UsageSheet) :
    (sheet.listing place).listing place = sheet.listing place := by
  cases hpositive : place.isPositive with
  | false => rw [listing_of_not_isPositive hpositive, listing_of_not_isPositive hpositive]
  | true =>
    have haligned := sheet.isParallel_align
    have hdone : sheet.listing place = sheet.align.listing place := by
      rw [listing, listing, haligned.align_eq, hpositive, if_pos rfl, if_pos rfl]
    rw [hdone, (lasts_isParallel.listing place _ haligned).listing_eq_self_iff]
    intro _
    rw [haligned.listing_eq]
    split
    · exact haligned.has_append hself
    · rename_i hold
      simpa [hpositive] using hold

end UsageSheet

/-- Where a call has nothing to do, it has nothing to do later. -/
theorem Grows.recorded_eq_self {module procedure : Json} {place : Place}
    {entries grown : List UsageSheet} (h : Grows entries grown)
    (hparallel : ∀ sheet ∈ entries, sheet.IsParallel)
    (hself : recorded module procedure place entries = entries) :
    recorded module procedure place grown = grown := by
  induction h with
  | more added =>
    -- with no records, a record is made
    rw [recorded] at hself
    cases hself
  | @keep sheet entries grown places h ih =>
    obtain ⟨hsheet, hrest⟩ := List.forall_mem_cons.1 hparallel
    have hnames : (sheet.appendAll places).isFor module procedure =
        sheet.isFor module procedure := rfl
    cases hfor : sheet.isFor module procedure with
    | error fault => simp only [recorded, hnames, hfor]
    | ok own =>
      cases own with
      | true =>
        simp only [recorded, hfor, List.cons.injEq, and_true] at hself
        simp only [recorded, hnames, hfor, List.cons.injEq, and_true]
        apply (hsheet.appendAll places).listing_eq_self_iff.2
        intro hpositive
        have hlisted := hsheet.listing_eq_self_iff.1 hself hpositive
        rw [UsageSheet.has] at hlisted
        rw [UsageSheet.has, hsheet.places_appendAll]
        simp [hlisted]
      | false =>
        simp only [recorded, hfor, List.cons.injEq, true_and] at hself
        simp only [recorded, hnames, hfor, ih hrest hself]

/-! ## What a call does -/

/-- What tells the routine of the record from others, if both names are texts: their folds.  A
routine that does not count as set has the empty name. -/
def UsageSheet.key? (sheet : UsageSheet) : Option (Text × Text) :=
  match sheet.module, sheet.procedure.orEmpty with
  | .text module, .text procedure => some (fold module, fold procedure)
  | _, _ => none

/-- The records before and after a call, and how the call ends. -/
inductive Recording (c : UsageCall) :
    List UsageSheet → Except ValueFault Unit → List UsageSheet → Prop
  /-- No record is for the routine: one is appended, with the place if its line is positive. -/
  | opens {entries : List UsageSheet} (hnone : ∀ sheet ∈ entries, sheet.key? ≠ some c.key) :
      Recording c entries (.ok ()) (entries ++
        [.ofPlaces (.text c.module) (.text (c.procedure.getD []))
          (if 0 < c.line then [c.place] else [])])
  /-- The first record for the routine lacks the place, and the line is positive: it is appended. -/
  | lists (before : List UsageSheet) {after : List UsageSheet} {own : UsageSheet}
      (hbefore : ∀ sheet ∈ before, sheet.key? ≠ some c.key)
      (hown : own.key? = some c.key) (hline : 0 < c.line)
      (hnew : own.has c.place = false) :
      Recording c (before ++ own :: after) (.ok ()) (before ++ own.append c.place :: after)
  /-- The first record for the routine lists the place, or the line is not positive. -/
  | keeps (before : List UsageSheet) {after : List UsageSheet} {own : UsageSheet}
      (hbefore : ∀ sheet ∈ before, sheet.key? ≠ some c.key)
      (hown : own.key? = some c.key) (hlisted : 0 < c.line → own.has c.place = true) :
      Recording c (before ++ own :: after) (.ok ()) (before ++ own :: after)
  /-- A name that is no text cannot be compared. -/
  | fails {entries : List UsageSheet} {fault : ValueFault}
      (hunnamed : ∃ sheet ∈ entries, sheet.key? = none) :
      Recording c entries (.error fault) entries

theorem Recording.cons {c : UsageCall} {entries next : List UsageSheet}
    {result : Except ValueFault Unit} {sheet : UsageSheet} (hsheet : sheet.key? ≠ some c.key)
    (h : Recording c entries result next) :
    Recording c (sheet :: entries) result (sheet :: next) := by
  cases h with
  | opens hnone => exact .opens (List.forall_mem_cons.2 ⟨hsheet, hnone⟩)
  | lists before hbefore hown hline hnew =>
    exact .lists (sheet :: before) (List.forall_mem_cons.2 ⟨hsheet, hbefore⟩) hown hline hnew
  | keeps before hbefore hown hlisted =>
    exact .keeps (sheet :: before) (List.forall_mem_cons.2 ⟨hsheet, hbefore⟩) hown hlisted
  | fails hunnamed =>
    obtain ⟨other, hother, hnone⟩ := hunnamed
    exact .fails ⟨other, List.mem_cons_of_mem sheet hother, hnone⟩

namespace UsageCall

/-- The records after the call. -/
def recorded (c : UsageCall) (entries : List UsageSheet) : List UsageSheet :=
  RenamePlan.recorded (.text c.module) (.text (c.procedure.getD [])) c.place entries

/-- Names that are texts are compared by their folds. -/
theorem isFor_of_key? {sheet : UsageSheet} {key : Text × Text} (h : sheet.key? = some key)
    (c : UsageCall) :
    sheet.isFor (.text c.module) (.text (c.procedure.getD [])) = .ok (decide (key = c.key)) := by
  unfold UsageSheet.key? at h
  split at h
  · rename_i module procedure hmodule hprocedure
    obtain rfl := Option.some.inj h
    have htext : sheet.isFor (.text c.module) (.text (c.procedure.getD [])) =
        sameRoutine (.text module) (.text procedure) (.text c.module)
          (.text (c.procedure.getD [])) := by
      rw [UsageSheet.isFor, sameRoutine, sameRoutine, hmodule, hprocedure, Json.orEmpty_text]
    rw [htext, sameRoutine_text]
    apply congrArg Except.ok
    rw [Bool.eq_iff_iff]
    simp [sameName_iff, key, routineKey]
  · cases h

/-- A record is for the routine only if its names are texts. -/
theorem isFor_ne_true {sheet : UsageSheet} (h : sheet.key? = none) (c : UsageCall) :
    sheet.isFor (.text c.module) (.text (c.procedure.getD [])) ≠ .ok true := by
  intro htrue
  rw [UsageSheet.isFor, sameRoutine] at htrue
  unfold UsageSheet.key? at h
  cases hmodule : sheet.module with
  | text module =>
    rw [hmodule, sameNames_text] at htrue
    cases hsame : sameName module c.module with
    | false =>
      rw [hsame] at htrue
      cases htrue
    | true =>
      rw [hsame] at htrue
      cases hprocedure : sheet.procedure.orEmpty with
      | text procedure => simp [hmodule, hprocedure] at h
      | _ =>
        rw [hprocedure] at htrue
        cases htrue
  | _ =>
    rw [hmodule] at htrue
    cases htrue

section Names

variable {c : UsageCall} {sheet : UsageSheet}

theorem key?_of_isFor_error {fault : ValueFault}
    (h : sheet.isFor (.text c.module) (.text (c.procedure.getD [])) = .error fault) :
    sheet.key? = none := by
  cases hkey : sheet.key? with
  | none => rfl
  | some key =>
    rw [isFor_of_key? hkey] at h
    cases h

theorem key?_of_isFor_true
    (h : sheet.isFor (.text c.module) (.text (c.procedure.getD [])) = .ok true) :
    sheet.key? = some c.key := by
  cases hkey : sheet.key? with
  | none => exact absurd h (isFor_ne_true hkey c)
  | some key =>
    rw [isFor_of_key? hkey, Except.ok.injEq, decide_eq_true_iff] at h
    rw [h]

theorem key?_of_isFor_false
    (h : sheet.isFor (.text c.module) (.text (c.procedure.getD [])) = .ok false) :
    sheet.key? ≠ some c.key := by
  intro hkey
  rw [isFor_of_key? hkey] at h
  simp at h

end Names

theorem listing_new (c : UsageCall) (module procedure : Json) :
    UsageSheet.listing c.place { module, procedure } =
      .ofPlaces module procedure (if 0 < c.line then [c.place] else []) := by
  have hempty : UsageSheet.has { module, procedure } c.place = false := rfl
  have hparallel : UsageSheet.IsParallel { module, procedure } := ⟨rfl, rfl⟩
  rw [hparallel.listing_eq, hempty, isPositive_place]
  by_cases hline : 0 < c.line
  · rw [if_pos (by simpa using hline), if_pos hline]
    rfl
  · rw [if_neg (by simpa using hline), if_neg hline]
    rfl

/-- What the pass does, and whether the look-up succeeds. -/
theorem recording_recorded (c : UsageCall) {entries : List UsageSheet}
    (h : ∀ sheet ∈ entries, sheet.IsParallel) :
    Recording c entries
      ((UsageRegistry.indexIn entries (.text c.module) (.text (c.procedure.getD []))).map
        fun _ => ()) (c.recorded entries) := by
  unfold recorded
  fun_induction RenamePlan.recorded (.text c.module) (.text (c.procedure.getD [])) c.place entries
    with
  | case1 =>
    rw [listing_new]
    exact .opens (by simp)
  | case2 sheet rest fault hfor =>
    rw [UsageRegistry.indexIn, hfor]
    exact .fails ⟨sheet, List.mem_cons_self, key?_of_isFor_error hfor⟩
  | case3 sheet rest hfor =>
    rw [UsageRegistry.indexIn, hfor]
    show Recording c (sheet :: rest) (.ok ()) (sheet.listing c.place :: rest)
    rw [(h sheet List.mem_cons_self).listing_eq]
    split
    · rename_i hnew
      simp only [isPositive_place, Bool.and_eq_true, decide_eq_true_eq, Bool.not_eq_true'] at hnew
      exact .lists [] (by simp) (key?_of_isFor_true hfor) hnew.1 hnew.2
    · rename_i hold
      simp only [isPositive_place, Bool.and_eq_true, decide_eq_true_eq, Bool.not_eq_true',
        not_and, Bool.not_eq_false] at hold
      exact .keeps [] (by simp) (key?_of_isFor_true hfor) hold
  | case4 sheet rest hfor ih =>
    rw [UsageRegistry.indexIn, hfor]
    have ih := ih fun other hother => h other (List.mem_cons_of_mem sheet hother)
    -- the rest decides how the look-up ends
    cases hrest : UsageRegistry.indexIn rest (.text c.module) (.text (c.procedure.getD [])) with
    | error fault =>
      rw [hrest] at ih
      exact ih.cons (key?_of_isFor_false hfor)
    | ok found =>
      rw [hrest] at ih
      exact ih.cons (key?_of_isFor_false hfor)

theorem isFor_listing (place : Place) (sheet : UsageSheet) (module procedure : Json) :
    (sheet.listing place).isFor module procedure = sheet.isFor module procedure := by
  unfold UsageSheet.listing
  split
  · split
    · rfl
    · rfl
  · rfl

/-- After a call there is nothing left for it to do. -/
theorem recorded_recorded (c : UsageCall) (entries : List UsageSheet) :
    c.recorded (c.recorded entries) = c.recorded entries := by
  have hself : (c.place == c.place) = true := by simp [place_beq]
  unfold recorded
  fun_induction RenamePlan.recorded (.text c.module) (.text (c.procedure.getD [])) c.place entries
    with
  | case1 =>
    have hown : UsageSheet.isFor
        { module := .text c.module, procedure := .text (c.procedure.getD []) }
        (.text c.module) (.text (c.procedure.getD [])) = .ok true := by
      simp [UsageSheet.isFor, sameRoutine_text, sameName_iff]
    simp only [RenamePlan.recorded, isFor_listing, hown, UsageSheet.listing_listing hself]
  | case2 sheet rest fault hfor => simp only [RenamePlan.recorded, hfor]
  | case3 sheet rest hfor =>
    simp only [RenamePlan.recorded, isFor_listing, hfor, UsageSheet.listing_listing hself]
  | case4 sheet rest hfor ih => simp only [RenamePlan.recorded, hfor, ih]

/-- The call to the registry. -/
def registryCall (c : UsageCall) : RegistryCall :=
  .record (.text c.module) (routineName c.procedure) c.place

theorem sheets_perform (c : UsageCall) (registry : UsageRegistry) :
    (c.registryCall.perform registry).sheets = c.recorded registry.sheets := by
  have hpass := (registry.record_eq_pass (.text c.module) (routineName c.procedure) c.place).1
  rwa [orEmpty_routineName] at hpass

section Parallel

variable (c : UsageCall) {registry : UsageRegistry} (h : registry.IsParallel)

include h

/-- A call that is made again later changes nothing. -/
theorem perform_later (further : List RegistryCall) :
    c.registryCall.perform ((c.registryCall.perform registry).after further) =
      (c.registryCall.perform registry).after further := by
  have hdone := UsageSheet.lasts_isParallel.perform h c.registryCall
  have hgrows := grows_after hdone further
  have hagain := c.recorded_recorded registry.sheets
  rw [← c.sheets_perform registry] at hagain
  have hsheets := c.sheets_perform ((c.registryCall.perform registry).after further)
  rw [recorded, hgrows.recorded_eq_self hdone hagain] at hsheets
  exact congrArg UsageRegistry.mk hsheets

theorem recording_record :
    Recording c registry.sheets
      (registry.record (.text c.module) (routineName c.procedure) c.place).result
      (c.registryCall.perform registry).sheets := by
  have hresult := (registry.record_eq_pass (.text c.module) (routineName c.procedure) c.place).2
    (by rw [order_line]; rfl)
  rw [orEmpty_routineName] at hresult
  rw [sheets_perform, hresult]
  exact c.recording_recorded h

end Parallel

end UsageCall

/-! ## Registries with records from elsewhere -/

/-- The line numbers that a saved record lists. -/
def Json.lineNumbers (data : Json) : List Json :=
  ((data.field? "line_numbers").bind Json.items?).getD []

theorem GivenUsage.lines_of_sheet {given : GivenUsage} {sheet : UsageSheet}
    (h : given.sheet = .ok sheet) : given.lines.items = .ok sheet.lines := by
  unfold GivenUsage.sheet at h
  cases hlines : given.lines.items with
  | error fault =>
    rw [hlines] at h
    cases h
  | ok lines =>
    cases hoccurrences : given.occurrences.items with
    | error fault =>
      rw [hlines, hoccurrences] at h
      cases h
    | ok occurrences =>
      cases hcolumns : given.columns.items with
      | error fault =>
        rw [hlines, hoccurrences, hcolumns] at h
        cases h
      | ok columns =>
        rw [hlines, hoccurrences, hcolumns] at h
        obtain rfl := Except.ok.inj h
        rfl

theorem GivenUsage.items_ofFields {module data : Json} {items : List Json}
    (h : (ofFields module data).lines.items = .ok items) : items = data.lineNumbers := by
  simp only [ofFields, Json.items] at h
  unfold Json.lineNumbers
  cases hfield : data.field? "line_numbers" with
  | none =>
    rw [hfield] at h
    obtain rfl := Except.ok.inj h
    rfl
  | some value =>
    rw [hfield, Option.getD_some] at h
    show items = value.items?.getD []
    cases hvalue : value.items? with
    | none =>
      rw [hvalue] at h
      cases h
    | some found =>
      rw [hvalue] at h
      obtain rfl := Except.ok.inj h
      rfl

theorem UsageSheet.lines_of_ofJson {data : Json} {sheet : UsageSheet}
    (h : ofJson data = .ok sheet) : sheet.lines = data.lineNumbers := by
  unfold ofJson at h
  split at h
  · split at h
    · rename_i loaded hloaded
      obtain rfl := Except.ok.inj h
      have hitems := GivenUsage.lines_of_sheet hloaded
      exact GivenUsage.items_ofFields hitems
    · cases h
  · cases h
  · cases h

theorem map_eq_of_mapM {ε α β γ : Type} {f : α → Except ε β} {g : β → γ} {k : α → γ}
    (hf : ∀ a b, f a = .ok b → g b = k a) {entries : List α} {made : List β}
    (h : entries.mapM f = .ok made) : made.map g = entries.map k := by
  induction entries generalizing made with
  | nil =>
    rw [List.mapM_nil] at h
    obtain rfl := Except.ok.inj h
    rfl
  | cons a rest ih =>
    rw [List.mapM_cons] at h
    cases hfirst : f a with
    | error fault =>
      rw [hfirst] at h
      cases h
    | ok first =>
      cases hrest : rest.mapM f with
      | error fault =>
        rw [hfirst, hrest] at h
        cases h
      | ok others =>
        rw [hfirst, hrest] at h
        obtain rfl := Except.ok.inj h
        rw [List.map_cons, List.map_cons, hf a first hfirst, ih hrest]

namespace UsageRegistry

/-- A registry that is built of records with the given line numbers. -/
inductive IsBuilt : List (List Json) → UsageRegistry → Prop
  /-- From records as they are given: their lists may differ in length, and names may be null. -/
  | given (sheets : List UsageSheet) : IsBuilt (sheets.map UsageSheet.lines) (ofSheets sheets)
  /-- From saved records, in which lists and routines may also be missing. -/
  | loaded {data : List Json} {registry : UsageRegistry} (h : ofJson data = .ok registry) :
      IsBuilt (data.map Json.lineNumbers) registry

/-- Each record has the line numbers that it was given. -/
theorem IsBuilt.lines_eq {lines : List (List Json)} {registry : UsageRegistry}
    (h : IsBuilt lines registry) : registry.sheets.map UsageSheet.lines = lines := by
  cases h with
  | given sheets =>
    rw [ofSheets, List.map_map]
    rfl
  | @loaded data registry h =>
    rw [ofJson] at h
    cases hsheets : data.mapM UsageSheet.ofJson with
    | error fault =>
      rw [hsheets] at h
      cases h
    | ok sheets =>
      rw [hsheets] at h
      obtain rfl := Except.ok.inj h
      rw [ofSheets, List.map_map]
      exact map_eq_of_mapM (fun _ _ => UsageSheet.lines_of_ofJson) hsheets

theorem IsBuilt.isParallel {lines : List (List Json)} {registry : UsageRegistry}
    (h : IsBuilt lines registry) : registry.IsParallel := by
  cases h with
  | given sheets => exact isParallel_ofSheets sheets
  | loaded h => exact isParallel_ofJson h

/-- **Recording only appends.**  Let a registry be built of any records, and take any calls.  Then
it began with the line numbers that were given, and no record has moved or lost a name or a place.
The three lists of each record had one length then, have it now, and have it after any call that
records a usage.  Such a call appends a record if none is for the routine, or else the place to the
first one for the routine if the line is positive and the place is not listed there, or else
nothing.  When it is made again, at once or after any further calls, it changes nothing. -/
theorem appendsOnly_after {lines : List (List Json)} {first : UsageRegistry}
    (h : IsBuilt lines first) (calls : List RegistryCall) :
    first.sheets.map UsageSheet.lines = lines ∧ first.IsParallel ∧
      Grows first.sheets (first.after calls).sheets ∧ (first.after calls).IsParallel ∧
      ∀ c : UsageCall,
        let done := (first.after calls).record (.text c.module) (routineName c.procedure) c.place
        Recording c (first.after calls).sheets done.result done.state.sheets ∧
          done.state.IsParallel ∧
          ∀ further, c.registryCall.perform (done.state.after further) =
            done.state.after further := by
  have hafter : (first.after calls).IsParallel :=
    UsageSheet.lasts_isParallel.after h.isParallel calls
  refine ⟨h.lines_eq, h.isParallel, grows_after h.isParallel calls, hafter, fun c => ?_⟩
  exact ⟨c.recording_record hafter, UsageSheet.lasts_isParallel.record hafter _ _ _,
    c.perform_later hafter⟩

/-- Two records for one routine.  The first has a null routine, a place that is listed twice and a
list that is too long; the second has a list that is too short. -/
def mixedSheets : List UsageSheet := [
  ⟨.text "Main".toList, .null, [.int 4, .int 4], [.int 1, .int 1, .int 9], [.int 2, .int 2]⟩,
  ⟨.text "MAIN".toList, .text [], [.int 7], [], [.int 0]⟩]

/-- A usage that the second of the records lists. -/
def mixedCall : UsageCall where
  module := "main".toList
  procedure := none
  line := 7
  column := 0

/-- The first record takes the usage although the second one lists it, and takes it once. -/
theorem appendsOnly_mixedSheets :
    IsBuilt [[.int 4, .int 4], [.int 7]] (ofSheets mixedSheets) ∧
      (mixedCall.registryCall.perform (ofSheets mixedSheets)).sheets = [
        ⟨.text "Main".toList, .null, [.int 4, .int 4, .int 7],
          [.int 1, .int 1, .int unspecified], [.int 2, .int 2, .int 0]⟩,
        ⟨.text "MAIN".toList, .text [], [.int 7], [.int unspecified], [.int 0]⟩] ∧
      ∀ further, mixedCall.registryCall.perform
          ((mixedCall.registryCall.perform (ofSheets mixedSheets)).after further) =
        (mixedCall.registryCall.perform (ofSheets mixedSheets)).after further := by
  obtain ⟨-, -, -, -, hcall⟩ := appendsOnly_after (.given mixedSheets) []
  exact ⟨.given mixedSheets, rfl, (hcall mixedCall).2.2⟩

end UsageRegistry

end RenamePlan
