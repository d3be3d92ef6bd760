import Mathlib.Data.List.Basic
import RenamePlan.Usage.Registry

/-!
# The lists of a record are parallel

A record keeps line numbers, occurrence indexes and start columns in three lists.  Where these have
one length (`UsageSheet.IsParallel`), they are the columns of the list of places, and the record can
be told from its names and its places (`IsParallel.eq_ofPlaces`).

* **Records** — aligning makes the lists parallel, and leaves them alone where they are.  Appending
  keeps them parallel, and puts the place behind the others (`IsParallel.places_appendAll`).
* **Registries** — listing a place changes one record (`UsageRegistry.list_cases`).  So what every
  new record has, and aligning and appending keep, is kept by every call that records a usage,
  whether or not it succeeds (`Lasts.record`).  Being parallel is such a property.
-/

namespace RenamePlan

/-- Whether the line of the place is a number above zero. -/
def Place.isPositive (place : Place) : Bool :=
  place.line.order (.int 0) = .ok .gt

/-! ## Records -/

namespace UsageSheet

/-- Whether the three lists have one length. -/
structure IsParallel (sheet : UsageSheet) : Prop where
  occurrences : sheet.occurrences.length = sheet.lines.length
  columns : sheet.columns.length = sheet.lines.length

/-- The record that tells of the places, each in three lists. -/
def ofPlaces (module procedure : Json) (places : List Place) : UsageSheet where
  module
  procedure
  lines := places.map Place.line
  occurrences := places.map Place.occurrence
  columns := places.map Place.column

/-- The record with more usages behind the others. -/
def appendAll (sheet : UsageSheet) (places : List Place) : UsageSheet :=
  { sheet with
    lines := sheet.lines ++ places.map Place.line
    occurrences := sheet.occurrences ++ places.map Place.occurrence
    columns := sheet.columns ++ places.map Place.column }

theorem append_eq_appendAll (sheet : UsageSheet) (place : Place) :
    sheet.append place = sheet.appendAll [place] :=
  rfl

@[simp] theorem appendAll_nil (sheet : UsageSheet) : sheet.appendAll [] = sheet := by
  simp [appendAll]

theorem appendAll_appendAll (sheet : UsageSheet) (first later : List Place) :
    (sheet.appendAll first).appendAll later = sheet.appendAll (first ++ later) := by
  simp [appendAll]

theorem appendAll_ofPlaces (module procedure : Json) (first later : List Place) :
    (ofPlaces module procedure first).appendAll later =
      ofPlaces module procedure (first ++ later) := by
  simp [appendAll, ofPlaces]

theorem isParallel_ofPlaces (module procedure : Json) (places : List Place) :
    (ofPlaces module procedure places).IsParallel :=
  ⟨by simp [ofPlaces], by simp [ofPlaces]⟩

@[simp] theorem places_ofPlaces (module procedure : Json) (places : List Place) :
    (ofPlaces module procedure places).places = places := by
  simp only [UsageSheet.places, ofPlaces, zipPlaces, List.zip_map', List.map_map]
  exact List.map_id places

theorem isParallel_align (sheet : UsageSheet) : sheet.align.IsParallel :=
  ⟨length_fitTo .., length_fitTo ..⟩

namespace IsParallel

variable {sheet : UsageSheet}

theorem align_eq (h : sheet.IsParallel) : sheet.align = sheet := by
  rw [align, fitTo_of_length_eq h.occurrences, fitTo_of_length_eq h.columns]

/-- Parallel lists are the columns of the places. -/
theorem eq_ofPlaces (h : sheet.IsParallel) :
    sheet = ofPlaces sheet.module sheet.procedure sheet.places := by
  have hoccurrences := h.occurrences
  have hcolumns := h.columns
  have hpairs : (sheet.occurrences.zip sheet.columns).length = sheet.lines.length := by
    rw [List.length_zip, hoccurrences, hcolumns, Nat.min_self]
  have hlines : sheet.places.map Place.line = sheet.lines := by
    rw [UsageSheet.places, zipPlaces, List.map_map]
    exact List.map_fst_zip (Nat.le_of_eq hpairs.symm)
  -- the other columns are those of the inner pairs
  have hsecond : (sheet.lines.zip (sheet.occurrences.zip sheet.columns)).map Prod.snd =
      sheet.occurrences.zip sheet.columns :=
    List.map_snd_zip (Nat.le_of_eq hpairs)
  have hinner : sheet.places.map Place.occurrence = sheet.occurrences := by
    rw [UsageSheet.places, zipPlaces, List.map_map]
    show (sheet.lines.zip (sheet.occurrences.zip sheet.columns)).map (Prod.fst ∘ Prod.snd) = _
    rw [← List.map_map, hsecond]
    exact List.map_fst_zip (Nat.le_of_eq (hoccurrences.trans hcolumns.symm))
  have houter : sheet.places.map Place.column = sheet.columns := by
    rw [UsageSheet.places, zipPlaces, List.map_map]
    show (sheet.lines.zip (sheet.occurrences.zip sheet.columns)).map (Prod.snd ∘ Prod.snd) = _
    rw [← List.map_map, hsecond]
    exact List.map_snd_zip (Nat.le_of_eq (hcolumns.trans hoccurrences.symm))
  rw [ofPlaces, hlines, hinner, houter]

theorem appendAll (h : sheet.IsParallel) (places : List Place) :
    (sheet.appendAll places).IsParallel := by
  rw [h.eq_ofPlaces, appendAll_ofPlaces]
  exact isParallel_ofPlaces ..

theorem places_appendAll (h : sheet.IsParallel) (places : List Place) :
    (sheet.appendAll places).places = sheet.places ++ places := by
  rw [h.eq_ofPlaces, appendAll_ofPlaces, places_ofPlaces, places_ofPlaces]

end IsParallel

/-- A record lists a place that has just been appended to its parallel lists. -/
theorem IsParallel.has_append {sheet : UsageSheet} (h : sheet.IsParallel) {place : Place}
    (hself : (place == place) = true) : (sheet.append place).has place = true := by
  rw [append_eq_appendAll, has, h.places_appendAll]
  simp [hself]

/-- The record after a usage.  If the line of the place is positive the record is aligned, and takes
the place unless it lists it. -/
def listing (place : Place) (sheet : UsageSheet) : UsageSheet :=
  if place.isPositive then
    if sheet.align.has place then sheet.align else sheet.align.append place
  else sheet

theorem listing_of_not_isPositive {place : Place} (h : place.isPositive = false)
    (sheet : UsageSheet) : sheet.listing place = sheet := by
  rw [listing, h, if_neg Bool.false_ne_true]

theorem IsParallel.listing_eq {sheet : UsageSheet} (h : sheet.IsParallel) (place : Place) :
    sheet.listing place =
      if place.isPositive && !sheet.has place then sheet.append place else sheet := by
  rw [listing, h.align_eq]
  cases place.isPositive with
  | false => rfl
  | true =>
    cases sheet.has place with
    | false => rfl
    | true => rfl

/-- A property of records that new ones have, and that aligning a record and appending a place to it
keep. -/
structure Lasts (P : UsageSheet → Prop) : Prop where
  new : ∀ module procedure : Json, P { module, procedure := procedure.orEmpty }
  align : ∀ sheet, P sheet → P sheet.align
  append : ∀ place sheet, P sheet → P (sheet.append place)

theorem Lasts.listing {P : UsageSheet → Prop} (hP : Lasts P) (place : Place) (sheet : UsageSheet)
    (h : P sheet) : P (sheet.listing place) := by
  unfold UsageSheet.listing
  split
  · split
    · exact hP.align sheet h
    · exact hP.append place _ (hP.align sheet h)
  · exact h

theorem lasts_isParallel : Lasts IsParallel where
  new _ _ := ⟨rfl, rfl⟩
  align sheet _ := sheet.isParallel_align
  append place _ h := h.appendAll [place]

end UsageSheet

/-! ## Registries -/

theorem modify_congr {α : Type} {f g : α → α} {entries : List α} {i : Nat}
    (h : ∀ a, entries[i]? = some a → f a = g a) : entries.modify i f = entries.modify i g := by
  rw [List.modify_eq_set_getElem?, List.modify_eq_set_getElem?]
  cases hget : entries[i]? with
  | none => rfl
  | some a => exact congrArg (entries.set i) (h a hget)

theorem forall_mem_modify {α : Type} {P : α → Prop} {f : α → α} (hf : ∀ a, P a → P (f a))
    {entries : List α} (h : ∀ a ∈ entries, P a) (i : Nat) : ∀ a ∈ entries.modify i f, P a := by
  intro a ha
  obtain ⟨k, hk⟩ := List.mem_iff_getElem?.1 ha
  rw [List.getElem?_modify] at hk
  obtain ⟨old, hold, rfl⟩ := Option.map_eq_some_iff.1 hk
  have hkept := h old (List.mem_iff_getElem?.2 ⟨k, hold⟩)
  split
  · exact hf old hkept
  · exact hkept

theorem modify_listing_of_not_isPositive {place : Place} (h : place.isPositive = false)
    (entries : List UsageSheet) (i : Nat) :
    entries.modify i (UsageSheet.listing place) = entries :=
  (modify_congr fun sheet _ => sheet.listing_of_not_isPositive h).trans (List.modify_id i entries)

namespace UsageRegistry

/-- Whether all records have the property. -/
def Each (P : UsageSheet → Prop) (registry : UsageRegistry) : Prop :=
  ∀ sheet ∈ registry.sheets, P sheet

/-- Whether the lists of all records are parallel. -/
def IsParallel (registry : UsageRegistry) : Prop :=
  registry.Each UsageSheet.IsParallel

theorem isParallel_ofSheets (sheets : List UsageSheet) : (ofSheets sheets).IsParallel := by
  intro sheet hsheet
  obtain ⟨given, _, rfl⟩ := List.mem_map.1 hsheet
  exact given.isParallel_align

theorem isParallel_ofJson {data : List Json} {registry : UsageRegistry}
    (h : ofJson data = .ok registry) : registry.IsParallel := by
  rw [ofJson] at h
  cases hsheets : data.mapM UsageSheet.ofJson with
  | error fault =>
    rw [hsheets] at h
    cases h
  | ok sheets =>
    rw [hsheets] at h
    obtain rfl := Except.ok.inj h
    exact isParallel_ofSheets sheets

/-- Listing a place fails if its line is no number, or else changes one record. -/
theorem list_cases (registry : UsageRegistry) (i : Nat) (place : Place) :
    (∃ fault, registry.list i place = .error fault ∧
        place.line.order (.int 0) = .error fault) ∨
      ∃ known, registry.list i place =
        .ok (⟨registry.sheets.modify i (UsageSheet.listing place)⟩, known) := by
  cases horder : place.line.order (.int 0) with
  | error fault =>
    refine Or.inl ⟨fault, ?_, rfl⟩
    rw [list, horder]
    rfl
  | ok order =>
    right
    simp only [list, horder, bind, Except.bind, pure, Except.pure]
    by_cases hpositive : order = .gt
    · have hplace : place.isPositive = true := by simp [Place.isPositive, horder, hpositive]
      rw [if_neg fun hother => hother hpositive, List.modify_modify_eq]
      -- whether the place is listed is seen on the record at `i` alone
      by_cases hlisted :
          ((registry.sheets.modify i UsageSheet.align)[i]?).any (·.has place) = true
      · have hsame : registry.sheets.modify i UsageSheet.align =
            registry.sheets.modify i (UsageSheet.listing place) := by
          refine modify_congr fun sheet hget => ?_
          rw [List.getElem?_modify_eq, hget] at hlisted
          simp [UsageSheet.listing, hplace, show sheet.align.has place = true from hlisted]
        rw [if_pos hlisted, hsame]
        exact ⟨true, rfl⟩
      · have hsame : registry.sheets.modify i ((·.append place) ∘ UsageSheet.align) =
            registry.sheets.modify i (UsageSheet.listing place) := by
          refine modify_congr fun sheet hget => ?_
          rw [List.getElem?_modify_eq, hget] at hlisted
          simp [UsageSheet.listing, hplace, show ¬ sheet.align.has place = true from hlisted]
        rw [if_neg hlisted, hsame]
        exact ⟨false, rfl⟩
    · have hplace : place.isPositive = false := by simp [Place.isPositive, horder, hpositive]
      rw [if_pos hpositive, modify_listing_of_not_isPositive hplace]
      exact ⟨false, rfl⟩

end UsageRegistry

namespace UsageSheet.Lasts

open UsageRegistry

variable {P : UsageSheet → Prop} {registry : UsageRegistry}

theorem openRecord (hP : Lasts P) (h : registry.Each P) {module procedure : Json}
    {done : Logged (UsageRegistry × Nat)}
    (hdone : registry.openRecord module procedure = .ok done) : done.value.1.Each P := by
  rw [UsageRegistry.openRecord] at hdone
  cases hindex : registry.indexOf? module procedure with
  | error fault =>
    rw [hindex] at hdone
    cases hdone
  | ok found =>
    rw [hindex] at hdone
    cases found with
    | some i =>
      obtain rfl := Except.ok.inj hdone
      exact h
    | none =>
      obtain rfl := Except.ok.inj hdone
      intro sheet hsheet
      rcases List.mem_append.1 hsheet with hsheet | hsheet
      · exact h sheet hsheet
      · rw [List.mem_singleton.1 hsheet]
        exact hP.new module procedure

theorem list (hP : Lasts P) (h : registry.Each P) {i : Nat} {place : Place}
    {done : UsageRegistry × Bool} (hdone : registry.list i place = .ok done) :
    done.1.Each P := by
  rcases registry.list_cases i place with ⟨fault, hfault, -⟩ | ⟨known, hlist⟩
  · cases hfault.symm.trans hdone
  · obtain rfl := Except.ok.inj (hlist.symm.trans hdone)
    exact forall_mem_modify (hP.listing place) h i

/-- Recording keeps what lasts, whether or not it succeeds. -/
theorem record (hP : Lasts P) (h : registry.Each P) (module procedure : Json) (place : Place) :
    (registry.record module procedure place).state.Each P := by
  unfold UsageRegistry.record
  split
  · exact h
  · rename_i opened i log hopen
    have hopened : opened.Each P := hP.openRecord h hopen
    split
    · exact hopened
    · rename_i listed known hlist
      exact hP.list hopened hlist

end UsageSheet.Lasts

end RenamePlan
