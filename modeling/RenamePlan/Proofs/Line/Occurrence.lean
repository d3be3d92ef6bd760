import RenamePlan.Line.Selection
import RenamePlan.Proofs.Text.Classes

/-!
# Occurrences of a name on a line

What `findMatches` finds, said by columns of the line.  `OccursAt text name p` says that the name
stands at column `p` with a word boundary on both sides, and `breaksAt text k` that there is a word
boundary at column `k`.

* **Matches** are occurrences (`occursAt_of_mem_findMatches`), from left to right and without
  overlap (`pairwise_findMatches`); `selectMatches` takes some of them
  (`selectMatches_sublist`).
* **Cut lines** — a line cut in front of a character that is no word character has the matches of
  the whole line that end before the cut (`findMatches_append`).
* **Word runs** — the matches of an identifier are maximal runs of word characters
  (`isWordRun_of_mem_findMatches`), of which two are equal or apart (`IsWordRun.le_of_lt`).
-/

namespace RenamePlan

/-! ## Boundaries -/

/-- Whether a word begins or ends at column `k` of the line. -/
def breaksAt (text : Text) (k : Nat) : Bool :=
  isBoundary (text.take k).getLast? text[k]?

/-- The character in front of a column. -/
theorem getLast?_take_of_pos {text : Text} {k : Nat} (hpos : 0 < k) (hk : k ≤ text.length) :
    (text.take k).getLast? = text[k - 1]? := by
  rw [List.getLast?_take, if_neg (by omega), List.getElem?_eq_getElem (by omega), Option.some_or]

theorem length_part {text : Text} {p width : Nat} (h : p + width ≤ text.length) :
    ((text.drop p).take width).length = width := by
  rw [List.length_take, List.length_drop]
  omega

theorem drop_eq_part_append (text : Text) {a b : Nat} (h : a ≤ b) :
    text.drop a = (text.drop a).take (b - a) ++ text.drop b := by
  have hsplit := List.take_append_drop (b - a) (text.drop a)
  rw [List.drop_drop, Nat.add_sub_cancel' h] at hsplit
  exact hsplit.symm

theorem take_eq_append_part (text : Text) {a b : Nat} (h : a ≤ b) :
    text.take b = text.take a ++ (text.drop a).take (b - a) := by
  rw [← List.take_add, Nat.add_sub_cancel' h]

/-- Inside a part of the line the boundaries are those of the line. -/
theorem breaksAt_slice {text : Text} {p width k : Nat} (hpos : 0 < k) (hk : k < width)
    (hline : p + width ≤ text.length) :
    breaksAt ((text.drop p).take width) k = breaksAt text (p + k) := by
  have hlength := length_part hline
  have hleft : ((text.drop p).take width)[k - 1]? = text[p + k - 1]? := by
    rw [List.getElem?_take_of_lt (by omega), List.getElem?_drop]
    congr 1
    omega
  have hright : ((text.drop p).take width)[k]? = text[p + k]? := by
    rw [List.getElem?_take_of_lt hk, List.getElem?_drop]
  rw [breaksAt, breaksAt, getLast?_take_of_pos hpos (by omega),
    getLast?_take_of_pos (by omega) (by omega), hleft, hright]

/-! ## Occurrences -/

/-- A text that spells a name is long enough, and has the letters of the name one by one. -/
theorem spells_iff {name rest : Text} :
    spells name rest = true ↔ name.length ≤ rest.length ∧
      ∀ (j : Nat) (a b : Char), name[j]? = some a → rest[j]? = some b → sameLetter a b = true := by
  induction name generalizing rest with
  | nil => simp [spells]
  | cons a name ih =>
    cases rest with
    | nil => simp [spells]
    | cons b rest =>
      rw [spells, Bool.and_eq_true, ih, List.length_cons, List.length_cons]
      constructor
      · rintro ⟨hfirst, hlength, hlater⟩
        refine ⟨by omega, fun j x y hx hy => ?_⟩
        cases j with
        | zero =>
          rw [List.getElem?_cons_zero, Option.some.injEq] at hx hy
          rwa [← hx, ← hy]
        | succ j => exact hlater j x y (by simpa using hx) (by simpa using hy)
      · rintro ⟨hlength, hletters⟩
        refine ⟨hletters 0 a b rfl rfl, by omega, fun j x y hx hy => ?_⟩
        exact hletters (j + 1) x y (by simpa using hx) (by simpa using hy)

/-- The name stands at column `p` of the line, up to case, and a word begins or ends on both sides
of it. -/
structure OccursAt (text name : Text) (p : Nat) : Prop where
  within : p + name.length ≤ text.length
  letters : ∀ (j : Nat) (a b : Char),
    name[j]? = some a → text[p + j]? = some b → sameLetter a b = true
  left : breaksAt text p = true
  right : breaksAt text (p + name.length) = true

theorem occursAt_iff {text name : Text} {p : Nat} (hname : name ≠ []) (hp : p ≤ text.length) :
    occursAt name (text.take p).getLast? (text.drop p) = true ↔ OccursAt text name p := by
  have hpos : 0 < name.length := List.length_pos_iff.2 hname
  have hletters : (∀ (j : Nat) (a b : Char), name[j]? = some a → (text.drop p)[j]? = some b →
        sameLetter a b = true) ↔
      ∀ (j : Nat) (a b : Char), name[j]? = some a → text[p + j]? = some b →
        sameLetter a b = true := by
    simp only [List.getElem?_drop]
  rw [occursAt, Bool.and_eq_true, Bool.and_eq_true, spells_iff, hletters, List.length_drop,
    List.head?_drop, List.getElem?_drop, List.getElem?_drop]
  constructor
  · rintro ⟨⟨⟨hlength, hspelled⟩, hleft⟩, hright⟩
    refine ⟨by omega, hspelled, hleft, ?_⟩
    rw [breaksAt, getLast?_take_of_pos (by omega) (by omega),
      show p + name.length - 1 = p + (name.length - 1) by omega]
    exact hright
  · rintro ⟨hwithin, hspelled, hleft, hright⟩
    refine ⟨⟨⟨by omega, hspelled⟩, hleft⟩, ?_⟩
    rw [breaksAt, getLast?_take_of_pos (by omega) (by omega),
      show p + name.length - 1 = p + (name.length - 1) by omega] at hright
    exact hright

/-- The scan lists the columns at which the name occurs.  The induction goes over what is left of
the line, with what has been passed in front of it. -/
theorem mem_occurrencesFrom (name passed rest : Text) (p : Nat) :
    p ∈ occurrencesFrom name passed.getLast? passed.length rest ↔
      passed.length ≤ p ∧ p < (passed ++ rest).length ∧
        occursAt name ((passed ++ rest).take p).getLast? ((passed ++ rest).drop p) = true := by
  induction rest generalizing passed with
  | nil =>
    rw [occurrencesFrom, List.append_nil]
    simp only [List.not_mem_nil, false_iff]
    omega
  | cons c rest ih =>
    have hnext := ih (passed ++ [c])
    rw [List.getLast?_concat, List.length_append, List.length_singleton, List.append_assoc,
      List.singleton_append] at hnext
    have htake : (passed ++ c :: rest).take passed.length = passed := List.take_left
    have hdrop : (passed ++ c :: rest).drop passed.length = c :: rest := List.drop_left
    have hlength : passed.length < (passed ++ c :: rest).length := by
      rw [List.length_append, List.length_cons]
      omega
    rw [occurrencesFrom]
    split
    · rename_i hoccurs
      rw [List.mem_cons, hnext]
      constructor
      · rintro (rfl | ⟨hle, hlater⟩)
        · exact ⟨Nat.le_refl _, hlength, by rw [htake, hdrop]; exact hoccurs⟩
        · exact ⟨by omega, hlater⟩
      · rintro ⟨hle, hlater⟩
        rcases Nat.eq_or_lt_of_le hle with heq | hlt
        · exact Or.inl heq.symm
        · exact Or.inr ⟨hlt, hlater⟩
    · rename_i hoccurs
      rw [hnext]
      constructor
      · rintro ⟨hle, hlater⟩
        exact ⟨by omega, hlater⟩
      · rintro ⟨hle, hlt, hhere⟩
        rcases Nat.eq_or_lt_of_le hle with heq | hlt'
        · rw [← heq, htake, hdrop] at hhere
          exact absurd hhere hoccurs
        · exact ⟨hlt', hlt, hhere⟩

theorem pairwise_occurrencesFrom (name : Text) (before : Option Char) (column : Nat)
    (rest : Text) : (occurrencesFrom name before column rest).Pairwise (· < ·) ∧
      ∀ p ∈ occurrencesFrom name before column rest, column ≤ p := by
  induction rest generalizing before column with
  | nil => simp [occurrencesFrom]
  | cons c rest ih =>
    obtain ⟨hpairs, hle⟩ := ih (some c) (column + 1)
    have hlater : ∀ p ∈ occurrencesFrom name (some c) (column + 1) rest, column ≤ p :=
      fun p hp => Nat.le_of_succ_le (hle p hp)
    rw [occurrencesFrom]
    split
    · refine ⟨List.pairwise_cons.2 ⟨hle, hpairs⟩, fun p hp => ?_⟩
      rcases List.mem_cons.1 hp with rfl | hp
      · exact Nat.le_refl p
      · exact hlater p hp
    · exact ⟨hpairs, hlater⟩

/-! ## Columns that are kept apart -/

theorem mem_of_mem_keepApart {width free p : Nat} {columns : List Nat}
    (h : p ∈ keepApart width free columns) : p ∈ columns ∧ free ≤ p := by
  induction columns generalizing free with
  | nil => simp [keepApart] at h
  | cons column later ih =>
    rw [keepApart] at h
    split at h
    · rename_i hfree
      rcases List.mem_cons.1 h with rfl | h
      · exact ⟨List.mem_cons_self, hfree⟩
      · obtain ⟨hmem, hle⟩ := ih h
        exact ⟨List.mem_cons_of_mem column hmem, by omega⟩
    · obtain ⟨hmem, hle⟩ := ih h
      exact ⟨List.mem_cons_of_mem column hmem, hle⟩

/-- A column is kept if no earlier one reaches into it. -/
theorem mem_keepApart {width free p : Nat} {columns : List Nat}
    (hasc : columns.Pairwise (· < ·)) (hp : p ∈ columns) (hfree : free ≤ p)
    (hearlier : ∀ s ∈ columns, s < p → s + width ≤ p) : p ∈ keepApart width free columns := by
  induction columns generalizing free with
  | nil => cases hp
  | cons column later ih =>
    obtain ⟨hfirst, hlater⟩ := List.pairwise_cons.1 hasc
    have hrest : ∀ s ∈ later, s < p → s + width ≤ p :=
      fun s hs => hearlier s (List.mem_cons_of_mem column hs)
    rw [keepApart]
    rcases List.mem_cons.1 hp with rfl | hp
    · rw [if_pos hfree]
      exact List.mem_cons_self
    · split
      · have hcolumn := hearlier column List.mem_cons_self (hfirst p hp)
        exact List.mem_cons_of_mem column (ih hlater hp hcolumn hrest)
      · exact ih hlater hp hfree hrest

theorem pairwise_keepApart (width free : Nat) (columns : List Nat) :
    (keepApart width free columns).Pairwise fun a b => a + width ≤ b := by
  induction columns generalizing free with
  | nil => simp [keepApart]
  | cons column later ih =>
    rw [keepApart]
    split
    · exact List.pairwise_cons.2 ⟨fun p hp => (mem_of_mem_keepApart hp).2, ih _⟩
    · exact ih free

/-- Columns that do not fit before a bound may be left out first: behind the first of them there
are no others. -/
theorem keepApart_filter {columns : List Nat} (hasc : columns.Pairwise (· < ·))
    (width free bound : Nat) :
    keepApart width free (columns.filter fun p => p + width ≤ bound) =
      (keepApart width free columns).filter fun p => p + width ≤ bound := by
  induction columns generalizing free with
  | nil => rfl
  | cons column later ih =>
    obtain ⟨hfirst, hlater⟩ := List.pairwise_cons.1 hasc
    by_cases hfits : column + width ≤ bound
    · rw [List.filter_cons_of_pos (by simpa using hfits), keepApart, keepApart]
      split
      · rw [List.filter_cons_of_pos (by simpa using hfits), ih hlater]
      · exact ih hlater free
    · -- what comes later begins further right, so none of it fits either
      have hnone : later.filter (fun p => p + width ≤ bound) = [] := by
        rw [List.filter_eq_nil_iff]
        intro p hp
        have := hfirst p hp
        simp only [decide_eq_true_eq]
        omega
      have hleft : (keepApart width free (column :: later)).filter
          (fun p => p + width ≤ bound) = [] := by
        rw [List.filter_eq_nil_iff]
        intro p hp
        simp only [decide_eq_true_eq]
        rcases List.mem_cons.1 (mem_of_mem_keepApart hp).1 with rfl | hmem
        · exact hfits
        · have := hfirst p hmem
          omega
      rw [List.filter_cons_of_neg (by simpa using hfits), hnone, hleft, keepApart]

/-! ## Matches -/

/-- The scan of a line lists the columns at which the name occurs. -/
theorem mem_occurrencesFrom_zero {text name : Text} (hname : name ≠ []) {p : Nat} :
    p ∈ occurrencesFrom name none 0 text ↔ OccursAt text name p := by
  have hpos : 0 < name.length := List.length_pos_iff.2 hname
  have hscan := mem_occurrencesFrom name [] text p
  rw [List.nil_append] at hscan
  constructor
  · intro hp
    obtain ⟨_, hlt, hoccurs⟩ := hscan.1 hp
    exact (occursAt_iff hname (Nat.le_of_lt hlt)).1 hoccurs
  · intro hoccurs
    have hwithin := hoccurs.within
    exact hscan.2 ⟨Nat.zero_le p, by omega, (occursAt_iff hname (by omega)).2 hoccurs⟩

/-- A match is an occurrence of the name, with the text that stands there. -/
theorem occursAt_of_mem_findMatches {text name : Text} {m : Match} (h : m ∈ findMatches text name) :
    name ≠ [] ∧ OccursAt text name m.start ∧ m = Match.ofColumn text name.length m.start := by
  unfold findMatches at h
  split at h
  · simp at h
  · rename_i hempty
    have hname : name ≠ [] := fun hnil => hempty (List.isEmpty_iff.2 hnil)
    obtain ⟨p, hp, rfl⟩ := List.mem_map.1 h
    exact ⟨hname, (mem_occurrencesFrom_zero hname).1 (mem_of_mem_keepApart hp).1, rfl⟩

/-- What stands between two word boundaries occurs there. -/
theorem occursAt_slice {text : Text} {a b : Nat} (ha : breaksAt text a = true)
    (hb : breaksAt text b = true) (hab : a ≤ b) (hline : b ≤ text.length) :
    OccursAt text ((text.drop a).take (b - a)) a := by
  have hlength : ((text.drop a).take (b - a)).length = b - a := length_part (by omega)
  refine ⟨by omega, ?_, ha, ?_⟩
  · intro j x y hx hy
    have hj : j < b - a := by
      rw [← hlength]
      exact (List.getElem?_eq_some_iff.1 hx).1
    rw [List.getElem?_take_of_lt hj, List.getElem?_drop, hy, Option.some.injEq] at hx
    rw [hx, sameLetter_refl]
  · rw [hlength, Nat.add_sub_cancel' hab]
    exact hb

/-- An occurrence that no earlier one reaches into is a match. -/
theorem mem_findMatches_of_occursAt {text name : Text} {p : Nat} (hname : name ≠ [])
    (h : OccursAt text name p)
    (hfree : ∀ s, s < p → OccursAt text name s → s + name.length ≤ p) :
    Match.ofColumn text name.length p ∈ findMatches text name := by
  have hkept : p ∈ keepApart name.length 0 (occurrencesFrom name none 0 text) :=
    mem_keepApart (pairwise_occurrencesFrom ..).1 ((mem_occurrencesFrom_zero hname).2 h)
      (Nat.zero_le p) fun s hs hsp => hfree s hsp ((mem_occurrencesFrom_zero hname).1 hs)
  rw [findMatches, if_neg (by simpa using hname)]
  exact List.mem_map_of_mem hkept

theorem start_lt_stop_of_mem_findMatches {text name : Text} {m : Match}
    (h : m ∈ findMatches text name) : m.start < m.stop := by
  obtain ⟨hname, _, hm⟩ := occursAt_of_mem_findMatches h
  have hstop : m.stop = m.start + name.length := congrArg Match.stop hm
  have hpos : 0 < name.length := List.length_pos_iff.2 hname
  omega

/-- Matches come from left to right and do not overlap. -/
theorem pairwise_findMatches (text name : Text) :
    (findMatches text name).Pairwise fun a b => a.stop ≤ b.start := by
  unfold findMatches
  split
  · exact List.Pairwise.nil
  · exact List.pairwise_map.2 (pairwise_keepApart ..)

theorem pickOccurrence_sublist {α : Type} (occurrence : Int) (entries : List α) :
    (pickOccurrence occurrence entries).Sublist entries := by
  unfold pickOccurrence
  split
  · cases hentry : entries[occurrence.toNat - 1]? with
    | none => exact List.nil_sublist entries
    | some entry => exact List.singleton_sublist.2 (List.mem_of_getElem? hentry)
  · exact List.Sublist.refl entries

/-- What a rename replaces are matches of its name. -/
theorem selectMatches_sublist (text old new : Text) (occurrence : Int) (skipLiterals : Bool) :
    (selectMatches text old new occurrence skipLiterals).Sublist (findMatches text old) := by
  unfold selectMatches
  split
  · exact List.nil_sublist _
  · refine (pickOccurrence_sublist occurrence _).trans ?_
    unfold eligibleMatches
    split
    · exact List.filter_sublist
    · exact List.Sublist.refl _

/-! ## Cut lines -/

theorem spells_append {name code : Text} (rest : Text) (h : name.length ≤ code.length) :
    spells name (code ++ rest) = spells name code := by
  have hget : ∀ (j : Nat) (a : Char), name[j]? = some a → (code ++ rest)[j]? = code[j]? := by
    intro j a ha
    have hj : j < name.length := (List.getElem?_eq_some_iff.1 ha).1
    exact List.getElem?_append_left (Nat.lt_of_lt_of_le hj h)
  rw [Bool.eq_iff_iff, spells_iff, spells_iff, List.length_append]
  constructor
  · rintro ⟨_, hletters⟩
    exact ⟨h, fun j a b ha hb => hletters j a b ha (by rw [hget j a ha, hb])⟩
  · rintro ⟨_, hletters⟩
    exact ⟨by omega, fun j a b ha hb => hletters j a b ha (by rw [← hget j a ha, hb])⟩

/-- In front of a cut at a character that is no word character, a name occurs as if the line ended
there. -/
theorem occursAt_append {name code rest : Text} (before : Option Char) (hname : name ≠ [])
    (hcut : rest.head?.any isWord = false) (h : name.length ≤ code.length) :
    occursAt name before (code ++ rest) = occursAt name before code := by
  have hpos : 0 < name.length := List.length_pos_iff.2 hname
  have hhead : (code ++ rest).head? = code.head? := by
    rw [List.head?_eq_getElem?, List.head?_eq_getElem?, List.getElem?_append_left (by omega)]
  have hlast : (code ++ rest)[name.length - 1]? = code[name.length - 1]? :=
    List.getElem?_append_left (by omega)
  have hnext : (code ++ rest)[name.length]?.any isWord = code[name.length]?.any isWord := by
    rcases Nat.lt_or_eq_of_le h with hlt | heq
    · rw [List.getElem?_append_left hlt]
    · rw [heq, List.getElem?_append_right (Nat.le_refl _), Nat.sub_self,
        List.getElem?_eq_none (Nat.le_refl _), ← List.head?_eq_getElem?, hcut]
      rfl
  have hright : isBoundary code[name.length - 1]? (code ++ rest)[name.length]? =
      isBoundary code[name.length - 1]? code[name.length]? := by
    rw [isBoundary, isBoundary, hnext]
  rw [occursAt, occursAt, spells_append rest h, hhead, hlast, hright]

theorem occursAt_eq_false {name code : Text} (before : Option Char)
    (h : code.length < name.length) : occursAt name before code = false := by
  have hspells : spells name code = false := by
    rw [Bool.eq_false_iff]
    intro hspells
    have := (spells_iff.1 hspells).1
    omega
  rw [occursAt, hspells, Bool.false_and, Bool.false_and]

/-- The scan of a cut line lists what the scan of the line lists before the cut. -/
theorem occurrencesFrom_append {name rest : Text} (hname : name ≠ [])
    (hcut : rest.head?.any isWord = false) (before : Option Char) (column : Nat) (code : Text) :
    occurrencesFrom name before column code =
      (occurrencesFrom name before column (code ++ rest)).filter
        fun p => p + name.length ≤ column + code.length := by
  have hpos : 0 < name.length := List.length_pos_iff.2 hname
  induction code generalizing before column with
  | nil =>
    symm
    rw [List.nil_append, occurrencesFrom, List.filter_eq_nil_iff]
    intro p hp
    have := (pairwise_occurrencesFrom name before column rest).2 p hp
    simp only [List.length_nil, decide_eq_true_eq]
    omega
  | cons c code ih =>
    have hnext := ih (some c) (column + 1)
    rw [show column + 1 + code.length = column + (c :: code).length by
      rw [List.length_cons]; omega] at hnext
    have hcolumn : (column + name.length ≤ column + (c :: code).length) ↔
        name.length ≤ (c :: code).length := by omega
    rw [List.cons_append, occurrencesFrom, occurrencesFrom, hnext, ← List.cons_append]
    by_cases hfits : name.length ≤ (c :: code).length
    · rw [occursAt_append before hname hcut hfits]
      split
      · rw [List.filter_cons_of_pos (by simpa only [decide_eq_true_eq] using hcolumn.2 hfits)]
      · rfl
    · -- what is left of the code is shorter than the name
      rw [occursAt_eq_false before (Nat.lt_of_not_le hfits), if_neg Bool.false_ne_true]
      split
      · rw [List.filter_cons_of_neg (by simpa only [decide_eq_true_eq] using mt hcolumn.1 hfits)]
      · rfl

/-- A line cut in front of a character that is no word character has the matches of the whole line
that end before the cut. -/
theorem findMatches_append {code rest : Text} (hcut : rest.head?.any isWord = false)
    (name : Text) :
    findMatches code name =
      (findMatches (code ++ rest) name).filter fun m => m.stop ≤ code.length := by
  unfold findMatches
  split
  · rfl
  · rename_i hempty
    have hname : name ≠ [] := fun hnil => hempty (List.isEmpty_iff.2 hnil)
    have hscan := occurrencesFrom_append hname hcut none 0 code
    rw [Nat.zero_add] at hscan
    rw [hscan, keepApart_filter (pairwise_occurrencesFrom ..).1, List.filter_map]
    refine List.map_congr_left fun p hp => ?_
    have hfits : p + name.length ≤ code.length := by simpa using (List.mem_filter.1 hp).2
    have htext : (code.drop p).take name.length = ((code ++ rest).drop p).take name.length := by
      rw [List.drop_append_of_le_length (by omega),
        List.take_append_of_le_length (by rw [List.length_drop]; omega)]
    rw [Match.ofColumn, Match.ofColumn, htext]

/-! ## Word runs -/

/-- Every character of the line that is the same letter as a word character is one itself. -/
def IsRegular (text : Text) : Prop :=
  ∀ c ∈ text, ∀ w, isWord w = true → sameLetter w c = true → isWord c = true

theorem isRegular_of_ascii {text : Text} (h : text.all (·.toNat < 0x80) = true) :
    IsRegular text := by
  intro c hc w hw hsame
  have hascii : c.toNat < 0x80 := by simpa using List.all_eq_true.1 h c hc
  exact isWord_of_sameLetter hascii hw hsame

/-- The columns from `a` up to, not including, `b` are a maximal run of word characters. -/
structure IsWordRun (text : Text) (a b : Nat) : Prop where
  nonempty : a < b
  within : b ≤ text.length
  word : ∀ k, a ≤ k → k < b → text[k]?.any isWord = true
  left : (text.take a).getLast?.any isWord = false
  right : text[b]?.any isWord = false

/-- Where an identifier occurs on a regular line, there is a word run. -/
theorem OccursAt.isWordRun {text name : Text} {p : Nat} (h : OccursAt text name p)
    (hname : name ≠ []) (hword : ∀ c ∈ name, isWord c = true) (hline : IsRegular text) :
    IsWordRun text p (p + name.length) := by
  have hpos : 0 < name.length := List.length_pos_iff.2 hname
  have hwithin := h.within
  have hrun : ∀ k, p ≤ k → k < p + name.length → text[k]?.any isWord = true := by
    intro k hpk hk
    have hj : k - p < name.length := by omega
    have hb : text[p + (k - p)]? = some text[k] := by
      rw [show p + (k - p) = k by omega]
      exact List.getElem?_eq_getElem (by omega)
    have hletter := h.letters (k - p) _ _ (List.getElem?_eq_getElem hj) hb
    rw [List.getElem?_eq_getElem (show k < text.length by omega), Option.any_some]
    exact hline _ (List.getElem_mem _) _ (hword _ (List.getElem_mem _)) hletter
  -- a boundary next to a word character has none on its other side
  have hleft := h.left
  have hright := h.right
  rw [breaksAt, isBoundary, hrun p (Nat.le_refl p) (by omega)] at hleft
  rw [breaksAt, isBoundary, getLast?_take_of_pos (by omega) hwithin,
    hrun (p + name.length - 1) (by omega) (by omega)] at hright
  exact ⟨by omega, hwithin, hrun, by simpa using hleft, by simpa using hright⟩

/-- A word begins where a word run begins, and ends where it ends. -/
theorem IsWordRun.breaksAt_ends {text : Text} {a b : Nat} (h : IsWordRun text a b) :
    breaksAt text a = true ∧ breaksAt text b = true := by
  have hnonempty := h.nonempty
  constructor
  · rw [breaksAt, isBoundary, h.left, h.word a (Nat.le_refl a) hnonempty]
    rfl
  · rw [breaksAt, isBoundary, h.right, getLast?_take_of_pos (by omega) h.within,
      h.word (b - 1) (by omega) (by omega)]
    rfl

/-- The letters of a part of the line, one by one or taken together. -/
theorem map_letter_part_iff {text name : Text} {p : Nat} (h : p + name.length ≤ text.length) :
    ((text.drop p).take name.length).map letter = name.map letter ↔
      ∀ (j : Nat) (a b : Char), name[j]? = some a → text[p + j]? = some b →
        sameLetter a b = true := by
  have hpart : ∀ j < name.length, ((text.drop p).take name.length)[j]? = text[p + j]? := by
    intro j hj
    rw [List.getElem?_take_of_lt hj, List.getElem?_drop]
  constructor
  · intro heq j a b ha hb
    have hj := congrArg (·[j]?) heq
    simp only [List.getElem?_map, hpart j (List.getElem?_eq_some_iff.1 ha).1, ha, hb,
      Option.map_some, Option.some.injEq] at hj
    exact sameLetter_iff.2 hj.symm
  · intro hletters
    refine List.ext_getElem (by rw [List.length_map, List.length_map, length_part h]) ?_
    intro j hj hj'
    rw [List.length_map] at hj hj'
    rw [List.getElem_map, List.getElem_map, eq_comm, ← sameLetter_iff]
    refine hletters j _ _ (List.getElem?_eq_getElem hj') ?_
    rw [← hpart j hj']
    exact List.getElem?_eq_getElem hj

/-- A name occurs at a word run of its length iff the run has its letters. -/
theorem IsWordRun.occursAt_iff {text name : Text} {a : Nat}
    (h : IsWordRun text a (a + name.length)) :
    OccursAt text name a ↔ ((text.drop a).take name.length).map letter = name.map letter := by
  rw [map_letter_part_iff h.within]
  constructor
  · intro hoccurs
    exact hoccurs.letters
  · intro hletters
    exact ⟨h.within, hletters, h.breaksAt_ends.1, h.breaksAt_ends.2⟩

/-- The matches of an identifier on a regular line are word runs. -/
theorem isWordRun_of_mem_findMatches {text name : Text} {m : Match}
    (h : m ∈ findMatches text name) (hword : ∀ c ∈ name, isWord c = true)
    (hline : IsRegular text) : IsWordRun text m.start m.stop := by
  obtain ⟨hname, hoccurs, hm⟩ := occursAt_of_mem_findMatches h
  have hstop : m.stop = m.start + name.length := congrArg Match.stop hm
  rw [hstop]
  exact hoccurs.isWordRun hname hword hline

/-- Inside a word run no word begins or ends. -/
theorem IsWordRun.breaksAt_eq_false {text : Text} {a b k : Nat} (h : IsWordRun text a b)
    (hak : a < k) (hkb : k < b) : breaksAt text k = false := by
  have hwithin := h.within
  rw [breaksAt, isBoundary, getLast?_take_of_pos (by omega) (by omega),
    h.word (k - 1) (by omega) (by omega), h.word k (by omega) hkb]
  rfl

/-- A word run ends before another one begins. -/
theorem IsWordRun.le_of_lt {text : Text} {a b c d : Nat} (h : IsWordRun text a b)
    (h' : IsWordRun text c d) (hac : a < c) : b ≤ c := by
  rcases Nat.lt_or_ge c b with hcb | hbc
  · -- the second run would have a word character of the first on its left
    have hword := h.word (c - 1) (by omega) (by omega)
    have hleft := h'.left
    rw [getLast?_take_of_pos (by omega) (by have := h.within; omega), hword] at hleft
    exact absurd hleft (by simp)
  · exact hbc

/-- Where a word run begins decides where it ends. -/
theorem IsWordRun.stop_eq {text : Text} {a b d : Nat} (h : IsWordRun text a b)
    (h' : IsWordRun text a d) : b = d := by
  rcases Nat.lt_trichotomy b d with hlt | heq | hgt
  · have hword := h'.word b (Nat.le_of_lt h.nonempty) hlt
    rw [h.right] at hword
    exact absurd hword (by simp)
  · exact heq
  · have hword := h.word d (Nat.le_of_lt h'.nonempty) hgt
    rw [h'.right] at hword
    exact absurd hword (by simp)

end RenamePlan
