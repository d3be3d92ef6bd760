import RenamePlan.Proofs.Usage.History

/-!
# The lines of a module

The lines on which a symbol is used in a module are those of the calls that name the module
(`linesIn_foldlM_perform`).  They are listed record by record, in the order in which the records
were made, and in each record in the order of the first calls with them; a line that an earlier
record has is not listed again.
-/

namespace RenamePlan

/-- The distinct lines of the groups in turn, in each group less those of the groups before it and
those that are listed already. -/
def newLines (listed : List Int) : List (List Int) → List (List Int)
  | [] => []
  | group :: rest =>
    (firstsOn id group).filter (· ∉ listed) :: newLines (listed ++ group) rest

/-- What is new in each group is what is first in all of them. -/
theorem firstsOn_flatten (listed : List Int) (groups : List (List Int)) :
    firstsOn id (listed ++ groups.flatten) =
      firstsOn id listed ++ (newLines listed groups).flatten := by
  induction groups generalizing listed with
  | nil => simp [newLines]
  | cons group rest ih =>
    have hnew : (firstsOn id group).filter (· ∉ listed) =
        (firstsOn id group).filter fun b => listed.all fun a => id b ≠ id a := by
      apply List.filter_congr
      intro b _
      rw [Bool.eq_iff_iff, decide_eq_true_iff, List.all_eq_true]
      constructor
      · intro hb a ha
        apply decide_eq_true
        intro heq
        apply hb
        rw [show b = a from heq]
        exact ha
      · intro hall hb
        exact of_decide_eq_true (hall b hb) rfl
    rw [newLines, List.flatten_cons, List.flatten_cons, ← List.append_assoc, ih, firstsOn_append,
      hnew, List.append_assoc]

/-- The firsts of lists in turn depend on the firsts of each list. -/
theorem firstsOn_flatMap_congr {α : Type} {f g : α → List Int} {entries : List α}
    (h : ∀ a ∈ entries, firstsOn id (f a) = firstsOn id (g a)) :
    firstsOn id (entries.flatMap f) = firstsOn id (entries.flatMap g) := by
  induction entries with
  | nil => rfl
  | cons a rest ih =>
    have hfirst := h a List.mem_cons_self
    have hmem (n : Int) : n ∈ f a ↔ n ∈ g a := by
      have hf := @mem_map_firstsOn _ _ _ id (f a) n
      have hg := @mem_map_firstsOn _ _ _ id (g a) n
      rw [List.map_id, List.map_id] at hf hg
      rw [← hf, hfirst, hg]
    rw [List.flatMap_cons, List.flatMap_cons, firstsOn_append, firstsOn_append, hfirst,
      ih fun b hb => h b (List.mem_cons_of_mem a hb)]
    congr 1
    apply List.filter_congr
    intro b _
    rw [Bool.eq_iff_iff]
    simp only [List.all_eq_true, hmem]

theorem eraseDups_map_int (lines : List Int) :
    (lines.map Json.int).eraseDups = (firstsOn id lines).map Json.int := by
  -- both drop what equals the first line, so the induction is on the length
  induction hlength : lines.length using Nat.strongRecOn generalizing lines with
  | ind n ih =>
    cases lines with
    | nil => rfl
    | cons a rest =>
      have hrest : (rest.map Json.int).filter (fun b => !b == Json.int a) =
          (rest.filter fun b => b ≠ a).map Json.int := by
        rw [List.filter_map]
        congr 1
        apply List.filter_congr
        intro b _
        by_cases hb : b = a
        · simp [hb]
        · simp [hb]
      have hshorter : (rest.filter fun b => b ≠ a).length < n := by
        rw [← hlength]
        exact Nat.lt_succ_of_le (List.length_filter_le _ _)
      have hfilter := firstsOn_filter id (fun b : Int => b ≠ a) rest
      rw [List.map_cons, List.eraseDups_cons, hrest, ih _ hshorter _ rfl, firstsOn, List.map_cons]
      exact congrArg (fun lines => Json.int a :: lines.map Json.int) hfilter.symm

namespace UsageCall

/-- The positive lines of the calls for a routine, in the order of the calls. -/
def linesFor (calls : List UsageCall) (routine : Text × Text) : List Int :=
  (calls.filter fun c => c.key = routine ∧ 0 < c.line).map line

/-- The routines of a module that calls name, in the order of the first calls for them. -/
def routinesIn (calls : List UsageCall) (module : Text) : List (Text × Text) :=
  ((firstsOn key calls).map key).filter fun routine => routine.1 = fold module

/-- The lines that a record lists. -/
def recordLines (calls : List UsageCall) (first : UsageCall) : List Int :=
  (firstsOn triple ((calls.filter (·.key = first.key)).filter (0 < ·.line))).map line

theorem firstsOn_recordLines (calls : List UsageCall) (first : UsageCall) :
    firstsOn id (recordLines calls first) = firstsOn id (linesFor calls first.key) := by
  have hcoarser (a b : UsageCall) (h : a.triple = b.triple) : a.line = b.line :=
    congrArg Prod.fst h
  rw [recordLines, linesFor, filter_key_positive, firstsOn_map, firstsOn_map]
  exact congrArg (List.map line) (firstsOn_firstsOn hcoarser _)

theorem lines_sheet (calls : List UsageCall) (first : UsageCall) :
    (first.sheet (calls.filter (·.key = first.key))).lines =
      (recordLines calls first).map Json.int := by
  rw [recordLines, List.map_map]
  exact List.map_map

theorem linesOf_sheets (calls firsts : List UsageCall) (module : Text) :
    UsageRegistry.linesOf
        (firsts.map fun first => first.sheet (calls.filter (·.key = first.key))) (.text module) =
      .ok (((firsts.filter fun first => fold first.module = fold module).flatMap
        (recordLines calls)).map Json.int) := by
  induction firsts with
  | nil => rfl
  | cons first rest ih =>
    have hsame : sameNames (first.sheet (calls.filter (·.key = first.key))).module (.text module) =
        .ok (decide (fold first.module = fold module)) := by
      show sameNames (.text first.module) (.text module) = _
      rw [sameNames_text]
      apply congrArg Except.ok
      rw [Bool.eq_iff_iff, sameName_iff, decide_eq_true_iff]
    have hkeys : ((recordLines calls first).map Json.int).all Json.isKey = true := by
      simp [Json.isKey]
    rw [List.map_cons, UsageRegistry.linesOf, hsame, ih, lines_sheet, hkeys]
    by_cases hmodule : fold first.module = fold module
    · rw [List.filter_cons_of_pos (by simpa using hmodule), List.flatMap_cons, List.map_append]
      simp only [hmodule, decide_true]
      rfl
    · rw [List.filter_cons_of_neg (by simpa using hmodule)]
      simp only [hmodule, decide_false]
      rfl

/-! ## The law of the lines -/

/-- The lines of a module, in a group for each routine: the distinct lines of its calls, less those
of the routines before it. -/
def lineGroups (calls : List UsageCall) (module : Text) : List (List Int) :=
  newLines [] ((routinesIn calls module).map (linesFor calls))

/-- The lines of a module are the firsts of the lines of its routines. -/
theorem flatten_lineGroups (calls : List UsageCall) (module : Text) :
    (lineGroups calls module).flatten =
      firstsOn id ((routinesIn calls module).flatMap (linesFor calls)) := by
  have hfirsts := firstsOn_flatten [] ((routinesIn calls module).map (linesFor calls))
  rw [List.nil_append, ← List.flatMap_def] at hfirsts
  exact hfirsts.symm

/-- The lines of a module are the positive lines of the calls for it. -/
theorem mem_flatten_lineGroups {calls : List UsageCall} {module : Text} {n : Int} :
    n ∈ (lineGroups calls module).flatten ↔
      0 < n ∧ ∃ c ∈ calls, sameName c.module module = true ∧ c.line = n := by
  have hfirsts := @mem_map_firstsOn _ _ _ id
    ((routinesIn calls module).flatMap (linesFor calls)) n
  rw [List.map_id, List.map_id] at hfirsts
  rw [flatten_lineGroups, hfirsts, List.mem_flatMap]
  constructor
  · rintro ⟨routine, hroutine, hn⟩
    obtain ⟨c, hc, rfl⟩ := List.mem_map.1 hn
    have hselected := (List.mem_filter.1 hc).2
    have hmodule := (List.mem_filter.1 hroutine).2
    simp only [decide_eq_true_eq] at hselected hmodule
    refine ⟨hselected.2, c, (List.mem_filter.1 hc).1, sameName_iff.2 ?_, rfl⟩
    rw [← hmodule, ← hselected.1]
    rfl
  · rintro ⟨hpositive, c, hc, hmodule, rfl⟩
    refine ⟨c.key, List.mem_filter.2 ⟨?_, ?_⟩,
      List.mem_map.2 ⟨c, List.mem_filter.2 ⟨hc, ?_⟩, rfl⟩⟩
    · exact mem_map_firstsOn.2 (List.mem_map_of_mem hc)
    · exact decide_eq_true (sameName_iff.1 hmodule)
    · simp [hpositive]

theorem linesIn_sheets (calls : List UsageCall) (module : Text) :
    UsageRegistry.linesIn ⟨sheets calls⟩ (.text module) =
      .ok ((lineGroups calls module).flatten.map Json.int) := by
  have hroutines : routinesIn calls module =
      ((firstsOn key calls).filter fun first => fold first.module = fold module).map key := by
    rw [routinesIn, List.filter_map]
    rfl
  rw [UsageRegistry.linesIn, sheets, grouped, linesOf_sheets]
  apply congrArg Except.ok
  show List.eraseDups _ = _
  rw [eraseDups_map_int, flatten_lineGroups, hroutines, List.flatMap_map,
    firstsOn_flatMap_congr fun first _ => firstsOn_recordLines calls first]

/-- **The lines of a module come from the calls.**  After any calls on an empty registry, the lines
in a module differ from each other.  They are the positive lines of the calls for the module, its
name being spelled in any way.  They are listed routine by routine, in the order in which the
records of the routines were made, and for each routine in the order of the first calls with them;
a line that was listed for an earlier routine is left out. -/
theorem linesIn_foldlM_perform (calls : List UsageCall) (module : Text) :
    ∃ registry lines, calls.foldlM perform {} = .ok registry ∧
      registry.linesIn (.text module) = .ok (lines.map Json.int) ∧
      lines.Nodup ∧
      (∀ n, n ∈ lines ↔ 0 < n ∧ ∃ c ∈ calls, sameName c.module module = true ∧ c.line = n) ∧
      lines = (lineGroups calls module).flatten := by
  refine ⟨⟨sheets calls⟩, (lineGroups calls module).flatten, ?_, linesIn_sheets calls module,
    ?_, fun _ => mem_flatten_lineGroups, rfl⟩
  · exact foldlM_eq_of_step perform_sheets [] calls
  · rw [flatten_lineGroups]
    exact pairwise_firstsOn _

-- the record of `b` is made after that of `a`, so its lines come last, whenever they were recorded
example :
    (lineGroups
      [⟨"M".toList, some "a".toList, 5, 1, 0⟩, ⟨"m".toList, some "b".toList, 3, 1, 0⟩,
        ⟨"M".toList, some "A".toList, 1, 1, 0⟩, ⟨"m".toList, some "B".toList, 5, 1, 0⟩]
      "M".toList).flatten = [5, 1, 3] := by
  decide

end UsageCall

end RenamePlan
