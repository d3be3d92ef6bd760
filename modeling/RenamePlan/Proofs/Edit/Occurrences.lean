import Mathlib.Data.List.Nodup
import RenamePlan.Proofs.Edit.FirstWriter
import RenamePlan.Proofs.Edit.Overlap

/-!
# One occurrence after the other

A rename can be asked of all occurrences on a line, or of one occurrence at a time by its number.
Numbers count the matches that may be replaced, while the store tells edits apart by their columns
and keeps what it already has.

* **Numbers** — the edit that a number asks for is the one with this number among all
  (`PlainRequest.edits_atOccurrence`).  So the numbers up to the last one ask for all edits,
  whatever else is asked for (`mem_flatMap_pickOccurrence`).
* **Store** — a store that is asked for the same edits in another order, or for some of them again,
  holds the same edits in the end, up to their order (`keepAll_perm`).
* **What is seen** — application order, positions and size do not depend on that order
  (`sameContent_of_perm`).
-/

namespace RenamePlan

/-! ## Numbers -/

theorem map_pickOccurrence {α β : Type} (f : α → β) (k : Int) (entries : List α) :
    (pickOccurrence k entries).map f = pickOccurrence k (entries.map f) := by
  unfold pickOccurrence
  split
  · rw [List.getElem?_map]
    cases entries[k.toNat - 1]? with
    | none => rfl
    | some entry => rfl
  · rfl

/-- Indexes that name every entry, in any order, pick all entries and nothing else. -/
theorem mem_flatMap_pickOccurrence {α : Type} {entries : List α} {indexes : List Int}
    (h : ∀ k : Nat, 1 ≤ k → k ≤ entries.length → (k : Int) ∈ indexes) {a : α} :
    a ∈ indexes.flatMap (pickOccurrence · entries) ↔ a ∈ entries := by
  rw [List.mem_flatMap]
  constructor
  · rintro ⟨k, _, hpicked⟩
    exact (pickOccurrence_sublist k entries).subset hpicked
  · intro hmem
    obtain ⟨j, hj, rfl⟩ := List.getElem_of_mem hmem
    refine ⟨(j + 1 : Nat), h (j + 1) (by omega) (by omega), ?_⟩
    rw [pickOccurrence, if_pos (by omega)]
    simp [hj]

namespace PlainRequest

/-- The same request for another occurrence. -/
def atOccurrence (r : PlainRequest) (occurrence : Int) : PlainRequest :=
  { r with occurrence }

theorem selected_atOccurrence (r : PlainRequest) (k : Int) :
    (r.atOccurrence k).selected = pickOccurrence k (r.atOccurrence everyOccurrence).selected := by
  show selectMatches r.text r.old r.new k r.skipLiterals =
    pickOccurrence k (selectMatches r.text r.old r.new everyOccurrence r.skipLiterals)
  unfold selectMatches
  split
  · simp [pickOccurrence]
  · rfl

/-- A number asks for the edit that has this number among all. -/
theorem edits_atOccurrence (r : PlainRequest) (k : Int) :
    (r.atOccurrence k).edits = pickOccurrence k (r.atOccurrence everyOccurrence).edits := by
  show (r.atOccurrence k).selected.map r.editAt =
    pickOccurrence k ((r.atOccurrence everyOccurrence).selected.map r.editAt)
  rw [selected_atOccurrence, map_pickOccurrence]

theorem length_edits (r : PlainRequest) : r.edits.length = r.selected.length :=
  List.length_map _

/-- Of the edits of a request no two are at one place. -/
theorem eq_of_place_eq {r : PlainRequest} {a b : PlainEdit} (ha : a ∈ r.edits) (hb : b ∈ r.edits)
    (h : a.place = b.place) : a = b := by
  have hstarts : (r.edits.map PlainEdit.start).Nodup := List.pairwise_map.2 r.pairwise_start_edits
  exact List.inj_on_of_nodup_map hstarts ha hb (congrArg Prod.snd h)

end PlainRequest

/-! ## Store -/

open PlainEdit

/-- Edits that are told apart by their places leave the same in a store, up to order, however often
and in whichever order they are planned. -/
theorem PlainEdit.keepAll_perm {stored edits others : List PlainEdit}
    (hmem : ∀ e, e ∈ edits ↔ e ∈ others)
    (hplace : ∀ a ∈ others, ∀ b ∈ others, a.place = b.place → a = b) :
    (keepAll stored edits).Perm (keepAll stored others) := by
  rw [keepAll_eq_append, keepAll_eq_append]
  exact ((firstsOn_perm hmem hplace).filter _).append_left stored

/-- Edits at different places are in one order only. -/
theorem PlainEdit.inOrder_eq_of_perm {edits others : List PlainEdit} (hperm : edits.Perm others)
    (hplaces : edits.Pairwise fun a b => a.place ≠ b.place) : inOrder edits = inOrder others := by
  have hothers : others.Pairwise fun a b => a.place ≠ b.place :=
    (hperm.pairwise_iff Ne.symm).1 hplaces
  have hinOrder : (inOrder edits).Perm (inOrder others) :=
    (inOrder_perm edits).trans (hperm.trans (inOrder_perm others).symm)
  refine hinOrder.eq_of_pairwise ?_ (descends_inOrder hplaces) (descends_inOrder hothers)
  intro a b _ _ hab hba
  unfold Descends at hab hba
  omega

/-! ## What is seen -/

/-- What is seen of two stores is the same: the edits in application order, whether an edit is
planned at a position, and how many are planned. -/
structure EditStore.SameContent (a b : EditStore) : Prop where
  ordered : ∃ edits, a.ordered = .ok edits ∧ b.ordered = .ok edits
  contains : ∀ position, a.contains position = b.contains position
  size : a.size = b.size

/-- The order in which edits were planned is not seen, if they are at different places. -/
theorem sameContent_of_perm {a b : EditStore} {edits others : List PlainEdit}
    (ha : Holds a edits) (hb : Holds b others) (hperm : edits.Perm others)
    (hplaces : edits.Pairwise fun a b => a.place ≠ b.place) : a.SameContent b where
  ordered := by
    refine ⟨(inOrder edits).map edit, ?_, ?_⟩
    · rw [EditStore.ordered, ha.edits_eq, applicationOrder_plain]
    · rw [EditStore.ordered, hb.edits_eq, applicationOrder_plain,
        inOrder_eq_of_perm hperm hplaces]
  contains position := by
    rw [ha.inStep.contains_eq, hb.inStep.contains_eq, ha.edits_eq, hb.edits_eq]
    exact (hperm.map edit).any_eq
  size := by
    rw [EditStore.size, EditStore.size, ha.edits_eq, hb.edits_eq]
    exact (hperm.map edit).length_eq

/-- **One at a time is all at once.**  Take any store that calls on a new one lead to, and any
request.  Asking for one occurrence after the other, by a list of numbers that has all those from
one to the number of matches, leaves a store of which the same is seen as after asking for all of
them at once.  The numbers may come in any order, repeat, or exceed the number of matches. -/
theorem sameContent_atOccurrence (module : Text) (calls : List StoreCall) (r : PlainRequest)
    (indexes : List Int)
    (h : ∀ k : Nat, 1 ≤ k → k ≤ (r.atOccurrence everyOccurrence).selected.length →
      (k : Int) ∈ indexes) :
    ∃ store atOnce inTurn : EditStore,
      calls.foldlM StoreCall.perform { module } = .ok store ∧
      (StoreCall.addLine (r.atOccurrence everyOccurrence)).perform store = .ok atOnce ∧
      (indexes.map fun k => StoreCall.addLine (r.atOccurrence k)).foldlM StoreCall.perform store =
        .ok inTurn ∧
      inTurn.SameContent atOnce := by
  obtain ⟨store, hrun, hstored⟩ := exists_foldlM_perform (.new module) calls
  obtain ⟨atOnce, hatOnce, hall⟩ :=
    exists_perform hstored (StoreCall.addLine (r.atOccurrence everyOccurrence))
  obtain ⟨inTurn, hinTurn, heach⟩ := exists_foldlM_perform hstored
    (indexes.map fun k => StoreCall.addLine (r.atOccurrence k))
  refine ⟨store, atOnce, inTurn, hrun, hatOnce, hinTurn, ?_⟩
  have hsubmitted : (indexes.map fun k => StoreCall.addLine (r.atOccurrence k)).flatMap
      StoreCall.submitted =
        indexes.flatMap (pickOccurrence · (r.atOccurrence everyOccurrence).edits) := by
    rw [List.flatMap_map]
    apply List.flatMap_congr
    intro k _
    exact r.edits_atOccurrence k
  rw [hsubmitted] at heach
  refine sameContent_of_perm heach hall (keepAll_perm ?_ ?_) ?_
  · intro e
    apply mem_flatMap_pickOccurrence
    rw [PlainRequest.length_edits]
    exact h
  · intro a ha b hb
    exact PlainRequest.eq_of_place_eq ha hb
  · rw [← keepAll_append, keepAll_nil_eq]
    exact pairwise_firstsOn _

/-- Three occurrences in three spellings behind a fourth one in a literal, which does not count. -/
def totalsRequest : PlainRequest where
  text := "x = \"Total\" & Total + total(TOTAL)".toList
  line := 7
  old := "Total".toList
  new := "dblTotal".toList
  category := "Variable".toList
  occurrence := everyOccurrence
  skipLiterals := true

/-- The second occurrence is planned already, and the numbers come in disorder, one of them twice
and one too large. -/
theorem sameContent_totals :
    totalsRequest.selected.length = 3 ∧
    ∃ store atOnce inTurn : EditStore,
      [StoreCall.add ⟨7, 22, 27, "total".toList, "early".toList, []⟩].foldlM StoreCall.perform
        { module := "Ledger".toList } = .ok store ∧
      (StoreCall.addLine totalsRequest).perform store = .ok atOnce ∧
      ([3, 9, 1, 3, 2].map fun k => StoreCall.addLine (totalsRequest.atOccurrence k)).foldlM
        StoreCall.perform store = .ok inTurn ∧
      inTurn.SameContent atOnce := by
  have hcount : totalsRequest.selected.length = 3 := by decide
  refine ⟨hcount, sameContent_atOccurrence _ _ totalsRequest [3, 9, 1, 3, 2] ?_⟩
  intro k hfirst hlast
  have hbound : k ≤ 3 := Nat.le_trans hlast (Nat.le_of_eq hcount)
  have hcases : k = 1 ∨ k = 2 ∨ k = 3 := by omega
  rcases hcases with rfl | rfl | rfl
  · decide
  · decide
  · decide

end RenamePlan
