import Mathlib.Data.List.Basic

/-!
# Entries and the calls that made them

Stores and registries hold one entry for each key, made by the first call with the key and extended
by the later ones.  What they hold is here a function of the list of calls.

* **Firsts** — `firstsOn key calls` are the calls whose key no earlier call has.  Their keys differ
  (`pairwise_firstsOn`), and adding what is new in turn gives them (`foldl_addNew`).  Where calls
  with one key are the same call, their order and repetitions do not matter (`firstsOn_perm`), and
  neither do repetitions to a coarser key (`firstsOn_firstsOn`).
* **Groups** — `grouped key entry calls` has an entry for each key, made of the first call with the
  key and all the calls with it.  One more call extends the entry for its key
  (`grouped_concat_of_some`) or makes a new one (`grouped_concat_of_none`).
* **Restriction** — a condition on the key selects entries that depend on the selected calls only
  (`firstsOn_filter`, `grouped_filter`).
-/

namespace RenamePlan

variable {α β κ : Type} [DecidableEq κ]

/-! ## Firsts -/

/-- The calls whose key no earlier call has. -/
def firstsOn (key : α → κ) : List α → List α
  | [] => []
  | a :: rest => a :: (firstsOn key rest).filter fun b => key b ≠ key a

section Firsts

variable {key : α → κ}

theorem firstsOn_sublist (calls : List α) : (firstsOn key calls).Sublist calls := by
  induction calls with
  | nil => exact List.Sublist.slnil
  | cons a rest ih => exact (List.filter_sublist.trans ih).cons_cons a

theorem pairwise_firstsOn (calls : List α) :
    (firstsOn key calls).Pairwise fun a b => key a ≠ key b := by
  induction calls with
  | nil => exact List.Pairwise.nil
  | cons a rest ih =>
    refine List.Pairwise.cons (fun b hb => ?_) (ih.filter _)
    exact Ne.symm (of_decide_eq_true (List.mem_filter.1 hb).2)

/-- The first call with a key is among the firsts. -/
theorem find?_firstsOn (key : α → κ) (calls : List α) (k : κ) :
    (firstsOn key calls).find? (key · = k) = calls.find? (key · = k) := by
  induction calls with
  | nil => rfl
  | cons a rest ih =>
    rw [firstsOn]
    by_cases ha : key a = k
    · simp [ha]
    · rw [List.find?_cons_of_neg (by simp [ha]), List.find?_cons_of_neg (by simp [ha]),
        List.find?_filter, ← ih]
      congr 1
      funext b
      by_cases hb : key b = k
      · simp [hb, Ne.symm ha]
      · simp [hb]

theorem mem_map_firstsOn {calls : List α} {k : κ} :
    k ∈ (firstsOn key calls).map key ↔ k ∈ calls.map key := by
  have hsome := congrArg Option.isSome (find?_firstsOn key calls k)
  rw [Bool.eq_iff_iff, List.find?_isSome, List.find?_isSome] at hsome
  simpa using hsome

theorem firstsOn_append (first later : List α) :
    firstsOn key (first ++ later) =
      firstsOn key first ++
        (firstsOn key later).filter fun b => first.all fun a => key b ≠ key a := by
  induction first with
  | nil => simp [firstsOn]
  | cons a rest ih =>
    rw [List.cons_append, firstsOn, ih, firstsOn, List.filter_append, List.filter_filter,
      List.cons_append]
    rfl

theorem firstsOn_concat_of_mem {calls : List α} {d : α} (h : key d ∈ calls.map key) :
    firstsOn key (calls ++ [d]) = firstsOn key calls := by
  obtain ⟨c, hc, heq⟩ := List.mem_map.1 h
  have hknown : (calls.all fun a => key d ≠ key a) = false :=
    List.all_eq_false.2 ⟨c, hc, by simp [heq]⟩
  simp only [firstsOn_append, firstsOn, List.filter_nil, List.filter_cons, hknown,
    Bool.false_eq_true, if_false, List.append_nil]

theorem firstsOn_concat_of_notMem {calls : List α} {d : α} (h : key d ∉ calls.map key) :
    firstsOn key (calls ++ [d]) = firstsOn key calls ++ [d] := by
  have hnew : (calls.all fun a => key d ≠ key a) = true :=
    List.all_eq_true.2 fun a ha => decide_eq_true fun heq =>
      h (heq ▸ List.mem_map_of_mem ha)
  simp only [firstsOn_append, firstsOn, List.filter_nil, List.filter_cons, hnew, if_true]

/-- Calls with different keys are all first ones. -/
theorem firstsOn_of_pairwise {calls : List α} (h : calls.Pairwise fun a b => key a ≠ key b) :
    firstsOn key calls = calls := by
  induction h with
  | nil => rfl
  | @cons a rest ha _ ih =>
    rw [firstsOn, ih, List.filter_eq_self.2 fun b hb => decide_eq_true (ha b hb).symm]

/-- If no two calls with one key differ, every call has itself as the first one with its key. -/
theorem mem_firstsOn {calls : List α}
    (hkey : ∀ a ∈ calls, ∀ b ∈ calls, key a = key b → a = b) {a : α} :
    a ∈ firstsOn key calls ↔ a ∈ calls := by
  constructor
  · intro h
    exact (firstsOn_sublist calls).subset h
  · intro h
    obtain ⟨first, hfirst, heq⟩ :=
      List.mem_map.1 (mem_map_firstsOn.2 (List.mem_map_of_mem (f := key) h))
    rw [← hkey first ((firstsOn_sublist calls).subset hfirst) a h heq]
    exact hfirst

/-- If no two calls with one key differ, the firsts depend on what is called, up to order, and not
on how often and when. -/
theorem firstsOn_perm {calls others : List α} (hmem : ∀ a, a ∈ calls ↔ a ∈ others)
    (hkey : ∀ a ∈ others, ∀ b ∈ others, key a = key b → a = b) :
    (firstsOn key calls).Perm (firstsOn key others) := by
  have hnodup (entries : List α) : (firstsOn key entries).Nodup := by
    have hkeys : (firstsOn key entries).Pairwise fun a b => key a ≠ key b :=
      pairwise_firstsOn entries
    apply hkeys.imp
    intro a b hne heq
    exact hne (congrArg key heq)
  have hcalls : ∀ a ∈ calls, ∀ b ∈ calls, key a = key b → a = b := by
    intro a ha b hb
    exact hkey a ((hmem a).1 ha) b ((hmem b).1 hb)
  apply (List.perm_ext_iff_of_nodup (hnodup calls) (hnodup others)).2
  intro a
  rw [mem_firstsOn hcalls, mem_firstsOn hkey, hmem]

theorem firstsOn_map (f : β → α) (calls : List β) :
    firstsOn key (calls.map f) = (firstsOn (key ∘ f) calls).map f := by
  induction calls with
  | nil => rfl
  | cons a rest ih =>
    rw [List.map_cons, firstsOn, ih, firstsOn, List.map_cons, List.filter_map]
    rfl

/-- A condition on the key selects firsts that depend on the selected calls only. -/
theorem firstsOn_filter (key : α → κ) (p : κ → Bool) (calls : List α) :
    (firstsOn key calls).filter (fun a => p (key a)) =
      firstsOn key (calls.filter fun a => p (key a)) := by
  induction calls with
  | nil => rfl
  | cons a rest ih =>
    rw [firstsOn, List.filter_cons, List.filter_cons, List.filter_filter]
    by_cases ha : p (key a) = true
    · rw [if_pos ha, if_pos ha, firstsOn, ← ih, List.filter_filter]
      simp only [Bool.and_comm]
    · rw [if_neg ha, if_neg ha, ← ih]
      -- what is selected has another key than `a` anyway
      refine List.filter_congr fun b _ => ?_
      by_cases hb : key b = key a
      · simp [hb, ha]
      · simp [hb]

/-- Leaving out repetitions does not matter to a coarser key. -/
theorem firstsOn_firstsOn {ι : Type} [DecidableEq ι] {other : α → ι}
    (h : ∀ a b, key a = key b → other a = other b) (calls : List α) :
    firstsOn other (firstsOn key calls) = firstsOn other calls := by
  induction calls with
  | nil => rfl
  | cons a rest ih =>
    rw [firstsOn, firstsOn, firstsOn, ← ih]
    congr 1
    have hfilter := firstsOn_filter other (fun k => k ≠ other a)
    rw [hfilter, hfilter, List.filter_filter]
    congr 1
    -- what differs from `a` in the coarser key differs in the finer one
    apply List.filter_congr
    intro b _
    by_cases hb : other b = other a
    · simp [hb]
    · have hkey : key b ≠ key a := fun heq => hb (h b a heq)
      simp [hb, hkey]

/-- The entries after one more is added, unless one with its key is there. -/
def addNew (key : α → κ) (kept : List α) (a : α) : List α :=
  if kept.all (key a ≠ key ·) then kept ++ [a] else kept

/-- Adding entries in turn appends those whose key is new. -/
theorem foldl_addNew (kept entries : List α) :
    entries.foldl (addNew key) kept =
      kept ++ (firstsOn key entries).filter fun b => kept.all fun a => key b ≠ key a := by
  induction entries generalizing kept with
  | nil => simp [firstsOn]
  | cons a rest ih =>
    rw [List.foldl_cons, ih, firstsOn, List.filter_cons, List.filter_filter, addNew]
    split
    · rw [List.append_assoc, List.singleton_append]
      congr 2
      refine List.filter_congr fun b _ => ?_
      rw [List.all_append, List.all_cons, List.all_nil, Bool.and_true]
    · rename_i hknown
      -- where `a` is left out, so is what has its key
      congr 1
      refine List.filter_congr fun b _ => ?_
      by_cases hb : key b = key a
      · rw [hb, eq_false_of_ne_true hknown, Bool.false_and]
      · simp [hb]

theorem foldl_addNew_firstsOn (past entries : List α) :
    entries.foldl (addNew key) (firstsOn key past) = firstsOn key (past ++ entries) := by
  have hfirsts (xs : List α) : xs.foldl (addNew key) [] = firstsOn key xs := by
    simp [foldl_addNew]
  rw [← hfirsts, ← hfirsts, List.foldl_append]

/-- Leaving out what is not new changes nothing. -/
theorem firstsOn_append_new (past entries : List α) :
    firstsOn key (past ++ (firstsOn key entries).filter fun b => past.all fun a => key b ≠ key a) =
      firstsOn key (past ++ entries) := by
  rw [firstsOn_append, firstsOn_append, firstsOn_of_pairwise ((pairwise_firstsOn entries).filter _),
    List.filter_filter]
  simp only [Bool.and_self]

theorem firstsOn_congr {ι : Type} [DecidableEq ι] {other : α → ι} {calls : List α}
    (h : ∀ a b, key a = key b ↔ other a = other b) : firstsOn key calls = firstsOn other calls := by
  induction calls with
  | nil => rfl
  | cons a rest ih =>
    rw [firstsOn, firstsOn, ih]
    simp only [Ne, h]

end Firsts

/-! ## Groups -/

/-- One entry for each key, made of the first call with the key and all the calls with it. -/
def grouped (key : α → κ) (entry : α → List α → β) (calls : List α) : List β :=
  (firstsOn key calls).map fun c => entry c (calls.filter fun d => key d = key c)

section Groups

variable {key : α → κ} {entry : α → List α → β}

/-- A call with a new key makes an entry. -/
theorem grouped_concat_of_none {calls : List α} {d : α} {p : β → Bool}
    (hp : ∀ c past, p (entry c past) = decide (key c = key d))
    (h : (grouped key entry calls).findIdx? p = none) :
    (calls.filter fun c => key c = key d) = [] ∧
      grouped key entry (calls ++ [d]) = grouped key entry calls ++ [entry d [d]] := by
  have hnew : ∀ c ∈ calls, key c ≠ key d := by
    intro c hc heq
    obtain ⟨first, hfirst, hkey⟩ :=
      List.mem_map.1 (mem_map_firstsOn.2 (List.mem_map_of_mem (f := key) hc))
    have hfalse := List.findIdx?_eq_none_iff.1 h _ (List.mem_map_of_mem hfirst)
    rw [hp, decide_eq_false_iff_not] at hfalse
    exact hfalse (hkey.trans heq)
  have hnone : (calls.filter fun c => key c = key d) = [] :=
    List.filter_eq_nil_iff.2 fun c hc => by simp [hnew c hc]
  have hnotMem : key d ∉ calls.map key := by
    intro hmem
    obtain ⟨c, hc, heq⟩ := List.mem_map.1 hmem
    exact hnew c hc heq
  refine ⟨hnone, ?_⟩
  rw [grouped, grouped, firstsOn_concat_of_notMem hnotMem, List.map_append, List.map_singleton,
    List.filter_append, hnone]
  congr 1
  · refine List.map_congr_left fun c hc => ?_
    have hne := hnew c ((firstsOn_sublist calls).subset hc)
    simp [List.filter_append, Ne.symm hne]
  · simp

/-- A call with a known key extends the entry for the key, and no other. -/
theorem grouped_concat_of_some {calls : List α} {d : α} {p : β → Bool} {i : Nat}
    (hp : ∀ c past, p (entry c past) = decide (key c = key d))
    (h : (grouped key entry calls).findIdx? p = some i) :
    ∃ c, (grouped key entry calls)[i]? = some (entry c (calls.filter fun c => key c = key d)) ∧
      grouped key entry (calls ++ [d]) = (grouped key entry calls).set i
        (entry c ((calls.filter fun c => key c = key d) ++ [d])) := by
  obtain ⟨hi, hfound, _⟩ := List.findIdx?_eq_some_iff_getElem.1 h
  have hlength : i < (firstsOn key calls).length := by rwa [grouped, List.length_map] at hi
  simp only [grouped, List.getElem_map, hp, decide_eq_true_eq] at hfound
  have hmem : key d ∈ calls.map key := by
    rw [← mem_map_firstsOn, ← hfound]
    exact List.mem_map_of_mem (List.getElem_mem hlength)
  refine ⟨(firstsOn key calls)[i], ?_, ?_⟩
  · simp [grouped, hlength, hfound]
  · rw [grouped, grouped, firstsOn_concat_of_mem hmem]
    refine List.ext_getElem (by simp) fun j hj hj' => ?_
    rw [List.length_map] at hj
    rw [List.getElem_set]
    by_cases hij : i = j
    · subst hij
      simp [List.filter_append, hfound]
    · -- the other entries have other keys
      have hother : key d ≠ key (firstsOn key calls)[j] := by
        rw [← hfound]
        rcases Nat.lt_or_gt_of_ne hij with hlt | hgt
        · exact List.pairwise_iff_getElem.1 (pairwise_firstsOn calls) i j hlength hj hlt
        · exact (List.pairwise_iff_getElem.1 (pairwise_firstsOn calls) j i hj hlength hgt).symm
      simp [hij, List.filter_append, hother]

/-- The entry for a key, if a call has it. -/
theorem find?_grouped {p : β → Bool} {k : κ} (hp : ∀ c past, p (entry c past) = decide (key c = k))
    (calls : List α) :
    (grouped key entry calls).find? p =
      (calls.find? (key · = k)).map fun c => entry c (calls.filter fun d => key d = k) := by
  have hcomp : (p ∘ fun c => entry c (calls.filter fun d => key d = key c)) =
      fun c => decide (key c = k) := funext fun c => hp c _
  rw [grouped, List.find?_map, hcomp, find?_firstsOn]
  cases hfound : calls.find? (key · = k) with
  | none => rfl
  | some c =>
    have hkey : key c = k := by simpa using List.find?_some hfound
    rw [Option.map_some, Option.map_some, hkey]

/-- A condition on the key selects entries that depend on the selected calls only. -/
theorem grouped_filter (key : α → κ) (entry : α → List α → β) (p : κ → Bool) (q : β → Bool)
    (hq : ∀ c past, q (entry c past) = p (key c)) (calls : List α) :
    (grouped key entry calls).filter q =
      grouped key entry (calls.filter fun a => p (key a)) := by
  have hcomp : (q ∘ fun c => entry c (calls.filter fun d => key d = key c)) =
      fun c => p (key c) := funext fun c => hq c _
  rw [grouped, grouped, List.filter_map, hcomp, firstsOn_filter]
  refine List.map_congr_left fun c hc => ?_
  have hselected := (List.mem_filter.1 ((firstsOn_sublist _).subset hc)).2
  rw [List.filter_filter]
  congr 1
  refine List.filter_congr fun d _ => ?_
  by_cases hd : key d = key c
  · simp [hd, hselected]
  · simp [hd]

end Groups

/-! ## Runs -/

/-- If each call adds itself to what a state is due to, a run adds all its calls. -/
theorem foldlM_eq_of_step {σ ε : Type} {perform : σ → α → Except ε σ} {after : List α → σ}
    (hstep : ∀ past call, perform (after past) call = .ok (after (past ++ [call])))
    (past calls : List α) : calls.foldlM perform (after past) = .ok (after (past ++ calls)) := by
  induction calls generalizing past with
  | nil =>
    rw [List.append_nil]
    rfl
  | cons call rest ih =>
    rw [List.foldlM_cons, hstep]
    show rest.foldlM perform (after (past ++ [call])) = _
    rw [ih, List.append_assoc, List.singleton_append]

/-- Entries that are each loaded as they were saved are all loaded. -/
theorem mapM_map_eq_pure {m : Type → Type} [Monad m] [LawfulMonad m] {save : α → β}
    {load : β → m α} {entries : List α} (h : ∀ a ∈ entries, load (save a) = pure a) :
    (entries.map save).mapM load = pure entries := by
  induction entries with
  | nil => rfl
  | cons a rest ih =>
    rw [List.map_cons, List.mapM_cons, h a List.mem_cons_self,
      ih fun b hb => h b (List.mem_cons_of_mem a hb), pure_bind, pure_bind]

end RenamePlan
