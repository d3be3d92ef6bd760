import RenamePlan.Edit.Apply
import RenamePlan.Edit.Store

/-!
# Plain edits

An edit may hold any JSON value.  A `PlainEdit` holds numbers and texts only, and this module says
what the operations on edits do for these:

* **position** — two plain edits are at one position iff line and start agree (`position_beq`);
* **order** — plain edits can always be put in application order (`applicationOrder_plain`), which
  descends by line and then by start (`pairwise_inOrder`);
* **application** — plain edits always apply to texts (`applyInTurn_plain`), each to its own line
  only (`getElem?_carryOutAll`);
* **store** — planning them in turn keeps the first one at each position (`Holds.insertAll`,
  `find?_keepAll`);
* **requests** — a request made of numbers and texts is never refused, and asks for plain edits
  (`PlainRequest.addLine_request`).
-/

namespace RenamePlan

/-- An edit whose values are of the kinds that the operations expect. -/
structure PlainEdit where
  line : Int
  start : Int
  stop : Int
  old : Text
  new : Text
  category : Text
deriving DecidableEq, Repr

namespace PlainEdit

/-- The edit with these values. -/
def edit (e : PlainEdit) : Edit :=
  Edit.plain e.line e.start e.stop e.old e.new e.category

/-- Whether the edit begins at the given line and column. -/
def isAt (line start : Int) (e : PlainEdit) : Bool :=
  e.line == line && e.start == start

theorem isAt_iff {line start : Int} {e : PlainEdit} :
    e.isAt line start = true ↔ e.line = line ∧ e.start = start := by
  simp [isAt]

theorem position_beq (a b : PlainEdit) :
    (a.edit.position == b.edit.position) = a.isAt b.line b.start := by
  show (Json.int a.line == Json.int b.line && Json.int a.start == Json.int b.start) = _
  rw [Json.beq_int, Json.beq_int]
  rfl

/-! ## Application order -/

/-- Whether `a` may stand before `b` in application order. -/
def mayPrecede (a b : PlainEdit) : Bool :=
  b.line < a.line || (b.line == a.line && b.start ≤ a.start)

theorem mayPrecede_iff {a b : PlainEdit} :
    a.mayPrecede b = true ↔ b.line < a.line ∨ (b.line = a.line ∧ b.start ≤ a.start) := by
  simp [mayPrecede]

theorem mayPrecede_trans (a b c : PlainEdit) (hab : a.mayPrecede b = true)
    (hbc : b.mayPrecede c = true) : a.mayPrecede c = true := by
  rw [mayPrecede_iff] at *
  omega

theorem mayPrecede_total (a b : PlainEdit) : (a.mayPrecede b || b.mayPrecede a) = true := by
  rw [Bool.or_eq_true, mayPrecede_iff, mayPrecede_iff]
  omega

/-- How edits are compared for application: later lines first and, on a line, later columns. -/
def cmp (a b : PlainEdit) : Ordering :=
  (compare b.line a.line).then (compare b.start a.start)

theorem isLE_cmp (a b : PlainEdit) : (cmp a b).isLE = a.mayPrecede b := by
  rw [cmp, Bool.eq_iff_iff, mayPrecede_iff]
  rcases Int.lt_trichotomy b.line a.line with hlt | heq | hgt
  · simp [Int.compare_eq_lt.2 hlt, hlt]
  · rw [heq, Std.compare_self, Ordering.then, Ordering.isLE_iff_ne_gt, Int.compare_eq_gt]
    omega
  · rw [Int.compare_eq_gt.2 hgt]
    simp only [Ordering.then, Ordering.isLE_gt, Bool.false_eq_true, false_iff]
    omega

/-- The order of ranks is that of `mayPrecede`. -/
theorem notAfter_rank (a b : PlainEdit) :
    b.edit.rank.notAfter a.edit.rank = a.mayPrecede b := by
  have hrank : Json.order b.edit.rank a.edit.rank = .ok (cmp a b) := Json.order_pair ..
  rw [Json.notAfter, hrank]
  exact isLE_cmp a b

/-- The plain edits in application order. -/
def inOrder (edits : List PlainEdit) : List PlainEdit :=
  edits.mergeSort mayPrecede

theorem inOrder_perm (edits : List PlainEdit) : (inOrder edits).Perm edits :=
  List.mergeSort_perm edits mayPrecede

theorem mem_inOrder {e : PlainEdit} {edits : List PlainEdit} :
    e ∈ inOrder edits ↔ e ∈ edits :=
  (inOrder_perm edits).mem_iff

theorem pairwise_inOrder (edits : List PlainEdit) :
    (inOrder edits).Pairwise fun a b => a.mayPrecede b = true :=
  List.pairwise_mergeSort mayPrecede_trans mayPrecede_total edits

/-- Plain edits can always be put in application order. -/
theorem applicationOrder_plain (edits : List PlainEdit) :
    applicationOrder (edits.map edit) = .ok ((inOrder edits).map edit) := by
  have hplaced : ∀ e ∈ edits.map edit, e.IsPlaced := by
    intro e he
    obtain ⟨p, _, rfl⟩ := List.mem_map.1 he
    exact Edit.isPlaced_plain ..
  obtain ⟨ordered, hordered⟩ := exists_applicationOrder hplaced
  rw [hordered]
  unfold applicationOrder sortDownOn at hordered
  split at hordered
  · rw [inOrder, ← hordered]
    exact congrArg Except.ok (List.map_mergeSort fun a _ b _ => (notAfter_rank a b).symm).symm
  · cases hordered

/-! ## Application -/

/-- The columns of the edit. -/
def columns (e : PlainEdit) : Columns :=
  ⟨e.start, some e.stop⟩

/-- Whether the line holds the old text of the edit, up to case folding. -/
def fits (e : PlainEdit) (line : Text) : Bool :=
  sameName (e.columns.found line) e.old

/-- What the edit makes of its line. -/
def onLine (e : PlainEdit) (line : Text) : Text :=
  if e.fits line then e.columns.replace line e.new else line

/-- The index of the line that the edit is for, if there is one and the edit begins at a column. -/
def target? (e : PlainEdit) (count : Nat) : Option Nat :=
  if 1 ≤ e.line ∧ e.line ≤ count ∧ 0 ≤ e.start then some (e.line - 1).toNat else none

theorem target?_eq_some_iff {e : PlainEdit} {count i : Nat} :
    e.target? count = some i ↔ e.line = i + 1 ∧ i < count ∧ 0 ≤ e.start := by
  rw [target?, Option.ite_none_right_eq_some, Option.some.injEq]
  omega

theorem index?_edit (e : PlainEdit) (count : Nat) :
    e.edit.index? count = .ok (e.target? count) := by
  show (do
    let first ← Except.ok (compare e.line 1)
    let behind ← Except.ok (compare e.line (count + 1 : Int))
    if first = .lt ∨ behind ≠ .lt then return none
    if (← Except.ok (compare e.start 0)) = .lt then return none
    return some ((← Except.ok e.line) - 1).toNat : Except ValueFault (Option Nat)) = _
  simp only [bind, Except.bind, pure, Except.pure, Ne, Int.compare_eq_lt, target?]
  by_cases hout : e.line < 1 ∨ ¬ e.line < count + 1
  · rw [if_pos hout, if_neg (by omega)]
  · rw [if_neg hout]
    by_cases hstart : e.start < 0
    · rw [if_pos hstart, if_neg (by omega)]
    · rw [if_neg hstart, if_pos (by omega)]

theorem effectOn_edit (e : PlainEdit) (line : Text) :
    e.edit.effectOn (.text line) =
      .ok (if e.fits line then .replaced (e.columns.replace line e.new)
        else .stale (e.columns.found line)) := by
  show (if e.fits line = true then Except.ok (Edit.Effect.replaced (e.columns.replace line e.new))
    else Except.ok (.stale (e.columns.found line)) : Except ValueFault Edit.Effect) = _
  split <;> rfl

/-- The lines after the edit. -/
def carryOut (e : PlainEdit) (lines : List Text) : List Text :=
  match e.target? lines.length with
  | none => lines
  | some i => lines.modify i e.onLine

@[simp] theorem length_carryOut (e : PlainEdit) (lines : List Text) :
    (e.carryOut lines).length = lines.length := by
  unfold carryOut
  split <;> simp

/-- The warnings that carrying out the edit gives. -/
def warnings (e : PlainEdit) (lines : List Text) : List Record :=
  match e.target? lines.length with
  | none => [e.edit.outOfRange]
  | some i =>
    if e.fits (lines.getD i []) then []
    else [e.edit.staleText (e.columns.found (lines.getD i []))]

/-- On texts a plain edit never fails. -/
theorem applyTo_edit (e : PlainEdit) (lines : List Text) :
    e.edit.applyTo (lines.map .text) = ⟨.ok ((e.carryOut lines).map .text), e.warnings lines⟩ := by
  unfold Edit.applyTo
  rw [List.length_map, index?_edit, carryOut, warnings]
  cases htarget : e.target? lines.length with
  | none => rfl
  | some i =>
    have hi : i < lines.length := (target?_eq_some_iff.1 htarget).2.1
    have hline : (lines.map Json.text).getD i .null = .text lines[i] := by
      rw [List.getD_eq_getElem?_getD, List.getElem?_map, List.getElem?_eq_getElem hi]
      rfl
    have hget : lines.getD i [] = lines[i] := by
      rw [List.getD_eq_getElem?_getD, List.getElem?_eq_getElem hi]
      rfl
    have hmodify : lines.modify i e.onLine = lines.set i (e.onLine lines[i]) := by
      rw [List.modify_eq_set, List.getElem?_eq_getElem hi]
      rfl
    simp only [hline, effectOn_edit, hget, hmodify, onLine]
    by_cases hfits : e.fits lines[i] = true
    · simp [hfits]
    · simp [hfits]

/-- The lines after the edits, carried out one after the other. -/
def carryOutAll (edits : List PlainEdit) (lines : List Text) : List Text :=
  edits.foldl (fun lines e => e.carryOut lines) lines

/-- The warnings that carrying out the edits in turn gives. -/
def allWarnings : List PlainEdit → List Text → List Record
  | [], _ => []
  | e :: rest, lines => e.warnings lines ++ allWarnings rest (e.carryOut lines)

/-- On texts plain edits never fail. -/
theorem applyInTurn_plain (edits : List PlainEdit) (lines : List Text) :
    applyInTurn (edits.map edit) (lines.map .text) =
      ⟨.ok ((carryOutAll edits lines).map .text), allWarnings edits lines⟩ := by
  induction edits generalizing lines with
  | nil => rfl
  | cons e rest ih =>
    rw [List.map_cons, applyInTurn, applyTo_edit]
    show Logged.mk (applyInTurn (rest.map edit) ((e.carryOut lines).map .text)).value
      (e.warnings lines ++ (applyInTurn (rest.map edit) ((e.carryOut lines).map .text)).log) = _
    rw [ih]
    rfl

theorem applyEdits_plain (edits : List PlainEdit) (lines : List Text) :
    applyEdits (lines.map .text) (edits.map edit) =
      ⟨.ok ((carryOutAll (inOrder edits) lines).map .text), allWarnings (inOrder edits) lines⟩ := by
  rw [applyEdits, applicationOrder_plain]
  exact applyInTurn_plain ..

theorem getElem?_carryOut (e : PlainEdit) (lines : List Text) (i : Nat) :
    (e.carryOut lines)[i]? =
      lines[i]?.map (if e.target? lines.length = some i then e.onLine else id) := by
  unfold carryOut
  cases e.target? lines.length with
  | none => simp
  | some j =>
    rw [List.getElem?_modify]
    by_cases hij : j = i
    · simp [hij]
    · simp [hij]

/-- The edits for the line at index `i` of `count` lines. -/
def forLine (edits : List PlainEdit) (count i : Nat) : List PlainEdit :=
  edits.filter fun e => e.target? count == some i

theorem mem_forLine {e : PlainEdit} {edits : List PlainEdit} {count i : Nat} :
    e ∈ forLine edits count i ↔ e ∈ edits ∧ e.target? count = some i := by
  rw [forLine, List.mem_filter, beq_iff_eq]

/-- Each line is changed by the edits for it, in their order, and by no others. -/
theorem getElem?_carryOutAll (edits : List PlainEdit) (lines : List Text) (i : Nat) :
    (carryOutAll edits lines)[i]? =
      lines[i]?.map fun line =>
        (forLine edits lines.length i).foldl (fun line e => e.onLine line) line := by
  induction edits generalizing lines with
  | nil => simp [carryOutAll, forLine]
  | cons e rest ih =>
    show (carryOutAll rest (e.carryOut lines))[i]? = _
    rw [ih, length_carryOut, getElem?_carryOut, Option.map_map]
    congr 1
    funext line
    by_cases htarget : e.target? lines.length = some i
    · simp [forLine, htarget]
    · simp [forLine, htarget]

/-! ## Store -/

/-- The stored edits after one more is planned: the first one at a position stays. -/
def keep (stored : List PlainEdit) (e : PlainEdit) : List PlainEdit :=
  if stored.any (isAt e.line e.start) then stored else stored ++ [e]

/-- The stored edits after more are planned in turn. -/
def keepAll (stored edits : List PlainEdit) : List PlainEdit :=
  edits.foldl keep stored

theorem keepAll_append (stored first later : List PlainEdit) :
    keepAll stored (first ++ later) = keepAll (keepAll stored first) later :=
  List.foldl_append

/-- Whether the store holds the edits, with the positions in step. -/
structure Holds (store : EditStore) (stored : List PlainEdit) : Prop where
  edits_eq : store.edits = stored.map edit
  inStep : store.InStep

namespace Holds

variable {store : EditStore} {stored : List PlainEdit}

theorem new (module : Text) : Holds { module } [] :=
  ⟨rfl, EditStore.inStep_new module⟩

theorem contains_position (h : Holds store stored) (e : PlainEdit) :
    store.contains e.edit.position = stored.any (isAt e.line e.start) := by
  rw [h.inStep.contains_eq, h.edits_eq, List.any_map]
  exact congrArg stored.any (funext fun a => position_beq a e)

theorem insert (h : Holds store stored) (e : PlainEdit) :
    Holds (store.insert e.edit).value.1 (keep stored e) := by
  refine ⟨?_, h.inStep.insert e.edit⟩
  rw [EditStore.insert, h.contains_position, keep]
  split
  · exact h.edits_eq
  · simp [h.edits_eq]

/-- Planning plain edits in turn keeps the first one at each position. -/
theorem insertAll (h : Holds store stored) (edits : List PlainEdit) :
    Holds (store.insertAll (edits.map edit)).value.1 (keepAll stored edits) := by
  induction edits generalizing store stored with
  | nil => exact h
  | cons e rest ih => exact ih (h.insert e)

end Holds

theorem module_insertAll (store : EditStore) (edits : List Edit) :
    (store.insertAll edits).value.1.module = store.module := by
  induction edits generalizing store with
  | nil => rfl
  | cons e rest ih =>
    show ((store.insert e).value.1.insertAll rest).value.1.module = store.module
    rw [ih, EditStore.insert]
    split <;> rfl

/-- At each position the store holds what was planned there first. -/
theorem find?_keepAll (stored edits : List PlainEdit) (line start : Int) :
    (keepAll stored edits).find? (isAt line start) =
      (stored ++ edits).find? (isAt line start) := by
  induction edits generalizing stored with
  | nil => simp [keepAll]
  | cons e rest ih =>
    show (keepAll (keep stored e) rest).find? (isAt line start) = _
    rw [ih, keep]
    split
    · rename_i htaken
      -- the position of `e` is taken, so the search stops before it would come to `e`
      by_cases hat : e.isAt line start = true
      · obtain ⟨rfl, rfl⟩ := isAt_iff.1 hat
        rw [List.find?_append, List.find?_append]
        obtain ⟨a, ha, hafound⟩ := List.any_eq_true.1 htaken
        have hsome := List.find?_isSome.2 ⟨a, ha, hafound⟩
        obtain ⟨b, hb⟩ := Option.isSome_iff_exists.1 hsome
        rw [hb, Option.some_or, Option.some_or]
      · simp [List.find?_append, hat]
    · rw [List.append_assoc, List.singleton_append]

theorem mem_of_mem_keepAll {stored edits : List PlainEdit} {e : PlainEdit}
    (h : e ∈ keepAll stored edits) : e ∈ stored ∨ e ∈ edits := by
  induction edits generalizing stored with
  | nil => exact Or.inl h
  | cons a rest ih =>
    rcases ih h with hkept | hlater
    · rw [keep] at hkept
      split at hkept
      · exact Or.inl hkept
      · rcases List.mem_append.1 hkept with hold | hnew
        · exact Or.inl hold
        · exact Or.inr (List.mem_cons.2 (Or.inl (List.mem_singleton.1 hnew)))
    · exact Or.inr (List.mem_cons_of_mem a hlater)

/-- Whether the edits are at different positions. -/
def Apart (a b : PlainEdit) : Prop :=
  a.line = b.line → a.start ≠ b.start

theorem apart_keep {stored : List PlainEdit} (h : stored.Pairwise Apart) (e : PlainEdit) :
    (keep stored e).Pairwise Apart := by
  rw [keep]
  split
  · exact h
  · rename_i hfree
    refine List.pairwise_append.2 ⟨h, List.pairwise_singleton .., ?_⟩
    intro a ha b hb hline hstart
    rw [List.mem_singleton.1 hb] at hline hstart
    exact hfree (List.any_eq_true.2 ⟨a, ha, isAt_iff.2 ⟨hline, hstart⟩⟩)

/-- Stored edits are at different positions. -/
theorem apart_keepAll {stored : List PlainEdit} (h : stored.Pairwise Apart)
    (edits : List PlainEdit) : (keepAll stored edits).Pairwise Apart := by
  induction edits generalizing stored with
  | nil => exact h
  | cons e rest ih => exact ih (apart_keep h e)

/-- Whether the edits replace no column in common. -/
def Disjoint (a b : PlainEdit) : Prop :=
  a.line = b.line → a.stop ≤ b.start ∨ b.stop ≤ a.start

instance : DecidableRel Disjoint := fun a b =>
  inferInstanceAs (Decidable (a.line = b.line → a.stop ≤ b.start ∨ b.stop ≤ a.start))

instance : Std.Symm Disjoint := ⟨fun _ _ h hline => (h hline.symm).symm⟩

end PlainEdit

/-! ## Requests -/

/-- A request for one line whose values are of the kinds that the store expects. -/
structure PlainRequest where
  text : Text
  line : Int
  old : Text
  new : Text
  category : Text
  occurrence : Int
  skipLiterals : Bool
deriving DecidableEq, Repr

namespace PlainRequest

/-- The request with these values. -/
def request (r : PlainRequest) : LineRequest where
  text := .text r.text
  lineNumber := .int r.line
  old := .text r.old
  new := .text r.new
  category := .text r.category
  occurrence := .int r.occurrence
  skipLiterals := r.skipLiterals

/-- The matches that the request replaces. -/
def selected (r : PlainRequest) : List Match :=
  selectMatches r.text r.old r.new r.occurrence r.skipLiterals

/-- The plain edit that replaces a match. -/
def editAt (r : PlainRequest) (m : Match) : PlainEdit :=
  ⟨r.line, m.start, m.stop, m.text, r.new, r.category⟩

/-- The edits that the request asks for. -/
def edits (r : PlainRequest) : List PlainEdit :=
  r.selected.map r.editAt

theorem edits_request (r : PlainRequest) :
    r.request.edits = .ok (r.edits.map PlainEdit.edit) := by
  rw [LineRequest.edits]
  show (selectIn (.text r.text) (.text r.old) (.text r.new) (.int r.occurrence) r.skipLiterals >>=
    fun selected => pure (selected.map r.request.editAt)) = _
  rw [selectIn_plain, edits, List.map_map]
  rfl

/-- The store takes the edits of the request in turn. -/
theorem addLine_request (r : PlainRequest) (store : EditStore) :
    store.addLine r.request = .ok (store.insertAll (r.edits.map PlainEdit.edit)) := by
  rw [EditStore.addLine, edits_request]
  show (if _ || true then pure _ else throw ValueFault.misfit) = _
  rw [Bool.or_true, if_pos rfl]
  rfl

/-- The edits that stay when the requests are planned in turn. -/
def stored (requests : List PlainRequest) : List PlainEdit :=
  PlainEdit.keepAll [] (requests.flatMap edits)

theorem exists_request_of_mem {requests : List PlainRequest} {e : PlainEdit}
    (h : e ∈ stored requests) : ∃ r ∈ requests, e ∈ r.edits := by
  rcases PlainEdit.mem_of_mem_keepAll h with hnone | hasked
  · cases hnone
  · exact List.mem_flatMap.1 hasked

theorem pairwise_apart_stored (requests : List PlainRequest) :
    (stored requests).Pairwise PlainEdit.Apart :=
  PlainEdit.apart_keepAll List.Pairwise.nil _

/-- At each position stays the edit of the first request that asks for one there. -/
theorem find?_stored (requests : List PlainRequest) (line start : Int) :
    (stored requests).find? (PlainEdit.isAt line start) =
      requests.findSome? fun r => r.edits.find? (PlainEdit.isAt line start) := by
  rw [stored, PlainEdit.find?_keepAll, List.nil_append, List.find?_flatMap]

end PlainRequest

end RenamePlan
