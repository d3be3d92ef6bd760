import RenamePlan.Proofs.Edit.Plain
import RenamePlan.Proofs.History.Groups

/-!
# The first edit at a position stays

A store is asked for edits one at a time or by line.  After any calls it holds what was submitted to
it, less the edits whose position was submitted before, and the positions that it knows are those of
the edits that it holds (`exists_foldlM_perform`).  The answer to a call tells what the call
appended, and nothing that is stored changes later.
-/

namespace RenamePlan

namespace PlainEdit

/-- Line and start of the edit. -/
def place (e : PlainEdit) : Int × Int :=
  (e.line, e.start)

theorem keep_eq_addNew (stored : List PlainEdit) (e : PlainEdit) :
    keep stored e = addNew place stored e := by
  have hfree : (stored.all fun a => e.place ≠ a.place) = !stored.any (isAt e.line e.start) := by
    rw [List.not_any_eq_all_not]
    refine congrArg stored.all (funext fun a => ?_)
    rw [Bool.eq_iff_iff, decide_eq_true_iff, Bool.not_eq_true', ← Bool.not_eq_true, isAt_iff,
      place, place, Ne, Prod.mk.injEq, eq_comm, @eq_comm _ e.start]
  rw [keep, addNew, hfree]
  cases stored.any (isAt e.line e.start) with
  | true => rfl
  | false => rfl

/-- Planning edits in turn appends those at positions that are new. -/
theorem keepAll_eq_append (stored edits : List PlainEdit) :
    keepAll stored edits =
      stored ++ (firstsOn place edits).filter fun e => stored.all fun a => e.place ≠ a.place := by
  rw [keepAll, funext fun kept => funext fun e => keep_eq_addNew kept e, foldl_addNew]

theorem keepAll_nil_eq (edits : List PlainEdit) : keepAll [] edits = firstsOn place edits := by
  simp [keepAll_eq_append]

/-- Whether `a` is on a later line than `b`, or behind it on the same line. -/
def Descends (a b : PlainEdit) : Prop :=
  b.line < a.line ∨ b.line = a.line ∧ b.start < a.start

/-- At different positions, application order descends strictly. -/
theorem descends_inOrder {edits : List PlainEdit}
    (h : edits.Pairwise fun a b => a.place ≠ b.place) : (inOrder edits).Pairwise Descends := by
  have hplaces : (inOrder edits).Pairwise fun a b => a.place ≠ b.place :=
    ((inOrder_perm edits).pairwise_iff Ne.symm).2 h
  refine ((pairwise_inOrder edits).and hplaces).imp ?_
  rintro a b ⟨horder, hne⟩
  rw [mayPrecede_iff] at horder
  rcases horder with hline | ⟨hline, hstart⟩
  · exact Or.inl hline
  · -- the places differ, so on one line the starts do
    have hstarts : b.start ≠ a.start := fun heq => hne (Prod.ext hline.symm heq.symm)
    exact Or.inr ⟨hline, Int.lt_iff_le_and_ne.2 ⟨hstart, hstarts⟩⟩

end PlainEdit

open PlainEdit

/-! ## Calls -/

/-- A call that submits plain edits to a store. -/
inductive StoreCall where
  | add (e : PlainEdit)
  | addLine (r : PlainRequest)

namespace StoreCall

/-- The edits that the call submits: one, or one for each selected match, left to right. -/
def submitted : StoreCall → List PlainEdit
  | add e => [e]
  | addLine r => r.edits

/-- The store after the call. -/
def perform (store : EditStore) : StoreCall → Except ValueFault EditStore
  | add e => do return (← store.add e.edit).value.1
  | addLine r => do return (← store.addLine r.request).value.1

end StoreCall

theorem add_edit (store : EditStore) (e : PlainEdit) :
    store.add e.edit = .ok (store.insert e.edit) :=
  rfl

/-- An edit is appended iff the flag says so. -/
theorem edits_insert_eq (store : EditStore) (e : Edit) :
    (store.insert e).value.1.edits =
      store.edits ++ if (store.insert e).value.2 then [e] else [] := by
  rw [EditStore.insert]
  split
  · simp
  · rfl

/-- What is returned is what is appended. -/
theorem edits_insertAll_eq (store : EditStore) (edits : List Edit) :
    (store.insertAll edits).value.1.edits = store.edits ++ (store.insertAll edits).value.2 := by
  induction edits generalizing store with
  | nil => exact (List.append_nil _).symm
  | cons e rest ih =>
    show ((store.insert e).value.1.insertAll rest).value.1.edits =
      store.edits ++ if (store.insert e).value.2
        then e :: ((store.insert e).value.1.insertAll rest).value.2
        else ((store.insert e).value.1.insertAll rest).value.2
    rw [ih, edits_insert_eq]
    split
    · rw [List.append_assoc, List.singleton_append]
    · rw [List.append_nil]

/-- One call: the store takes what is submitted in turn, and stays in step. -/
theorem exists_perform {store : EditStore} {stored : List PlainEdit} (h : Holds store stored)
    (call : StoreCall) :
    ∃ next, call.perform store = .ok next ∧ Holds next (keepAll stored call.submitted) := by
  cases call with
  | add e => exact ⟨_, rfl, h.insert e⟩
  | addLine r =>
    refine ⟨_, ?_, h.insertAll r.edits⟩
    rw [StoreCall.perform, PlainRequest.addLine_request]
    rfl

/-- A run: no call is refused, the first edit at each position stays, and the positions stay in
step with the edits. -/
theorem exists_foldlM_perform {store : EditStore} {stored : List PlainEdit}
    (h : Holds store stored) (calls : List StoreCall) :
    ∃ final, calls.foldlM StoreCall.perform store = .ok final ∧
      Holds final (keepAll stored (calls.flatMap StoreCall.submitted)) := by
  induction calls generalizing store stored with
  | nil => exact ⟨store, rfl, h⟩
  | cons call rest ih =>
    obtain ⟨next, hnext, hholds⟩ := exists_perform h call
    obtain ⟨final, hrun, hfinal⟩ := ih hholds
    refine ⟨final, ?_, ?_⟩
    · rw [List.foldlM_cons, hnext]
      exact hrun
    · rw [List.flatMap_cons, keepAll_append]
      exact hfinal

/-! ## The law of the store -/

/-- What a store owes to the edits that were submitted to it. -/
structure KeepsFirsts (submitted : List PlainEdit) (store : EditStore) : Prop where
  /-- It holds the first edit at each position, in the order of submission. -/
  edits_eq : store.edits = (firstsOn place submitted).map edit
  /-- The positions that it keeps are those of the edits that it holds. -/
  inStep : store.InStep
  /-- It knows the positions of the edits that it holds, and no others. -/
  contains_iff : ∀ line start : Int, store.contains (.int line, .int start) = true ↔
    ∃ e ∈ store.edits, e.position = (.int line, .int start)
  /-- The flag that answers an edit says whether the edit is appended. -/
  add_eq : ∀ e : PlainEdit, ∃ added, store.add e.edit = .ok added ∧
    added.value.1.edits = store.edits ++ if added.value.2 then [e.edit] else []
  /-- The list that answers a line is what is appended. -/
  addLine_eq : ∀ r : PlainRequest, ∃ added, store.addLine r.request = .ok added ∧
    added.value.1.edits = store.edits ++ added.value.2
  /-- Application order lists what is stored, strictly descending by line and start. -/
  ordered_eq : ∃ ordered : List PlainEdit, store.ordered = .ok (ordered.map edit) ∧
    (ordered.map edit).Perm store.edits ∧ ordered.Pairwise Descends

theorem contains_int_iff {store : EditStore} {stored : List PlainEdit} (h : Holds store stored)
    (line start : Int) :
    store.contains (.int line, .int start) = true ↔
      ∃ e ∈ store.edits, e.position = (.int line, .int start) := by
  have hposition (e : PlainEdit) : e.edit.position = (.int e.line, .int e.start) := rfl
  have hcontains : store.contains (.int line, .int start) = stored.any (isAt line start) :=
    h.contains_position ⟨line, start, 0, [], [], []⟩
  rw [hcontains, List.any_eq_true, h.edits_eq]
  constructor
  · rintro ⟨e, he, hat⟩
    obtain ⟨rfl, rfl⟩ := isAt_iff.1 hat
    exact ⟨e.edit, List.mem_map_of_mem he, rfl⟩
  · rintro ⟨_, he, heq⟩
    obtain ⟨e, hmem, rfl⟩ := List.mem_map.1 he
    rw [hposition, Prod.mk.injEq, Json.int.injEq, Json.int.injEq] at heq
    exact ⟨e, hmem, isAt_iff.2 heq⟩

/-- **The first writer wins.**  Any calls on a new store succeed and leave the submitted edits less
those whose position was submitted before.  The positions that the store keeps are in step with
them.  Whatever is called later succeeds, what is stored stays in its place, and the positions stay
in step. -/
theorem foldlM_perform_keepsFirsts (module : Text) (calls : List StoreCall) :
    ∃ store, calls.foldlM StoreCall.perform { module } = .ok store ∧
      KeepsFirsts (calls.flatMap StoreCall.submitted) store ∧
      ∀ later : List StoreCall, ∃ final, later.foldlM StoreCall.perform store = .ok final ∧
        store.edits <+: final.edits ∧ final.InStep := by
  obtain ⟨store, hrun, hholds⟩ := exists_foldlM_perform (.new module) calls
  rw [keepAll_nil_eq] at hholds
  have hedits := hholds.edits_eq
  refine ⟨store, hrun, ⟨hedits, hholds.inStep, contains_int_iff hholds, ?_, ?_, ?_⟩, ?_⟩
  · intro e
    exact ⟨_, add_edit store e, edits_insert_eq store e.edit⟩
  · intro r
    exact ⟨_, r.addLine_request store, edits_insertAll_eq store _⟩
  · refine ⟨inOrder (firstsOn place (calls.flatMap StoreCall.submitted)), ?_, ?_, ?_⟩
    · rw [EditStore.ordered, hedits, applicationOrder_plain]
    · rw [hedits]
      exact (inOrder_perm _).map edit
    · exact descends_inOrder (pairwise_firstsOn _)
  · intro later
    obtain ⟨final, hlater, hfinal⟩ := exists_foldlM_perform hholds later
    refine ⟨final, hlater, ?_, hfinal.inStep⟩
    rw [hfinal.edits_eq, keepAll_eq_append, List.map_append, ← hedits]
    exact List.prefix_append ..

end RenamePlan
