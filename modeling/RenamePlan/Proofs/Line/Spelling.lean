import RenamePlan.Proofs.Line.Occurrence
import RenamePlan.Proofs.Text.Folding

/-!
# Two spellings of one name

Symbols, modules and the texts that edits replace are compared by their folds (`sameName`).  A line
is searched letter by letter (`findMatches`).  Take two names made of word characters, and let the
second be all there is on a line: the search finds the first name there when the two have the same
letters (`isWholeMatch_iff`), and by fold they are the same name when their folds, each written out
as one text, are equal.

The two answers are both yes exactly when the names have the same fold at every place
(`sameName_and_isWholeMatch_iff`).  A fold of several characters can make them the same name without
a match (`STRASSE` for `straße`), and the dots of `ı` and `İ` can make a match of two names
(`i` for `ı`); nothing else parts them.
-/

namespace RenamePlan

/-- The only match of `name` on `text` is the whole line. -/
def IsWholeMatch (name text : Text) : Prop :=
  findMatches text name = [⟨0, text.length, text⟩]

instance (name text : Text) : Decidable (IsWholeMatch name text) :=
  inferInstanceAs (Decidable (_ = _))

/-- A text that can be a name: not empty, and made of word characters. -/
structure IsName (name : Text) : Prop where
  nonempty : name ≠ []
  word : ∀ c ∈ name, isWord c = true

theorem isName_iff {name : Text} :
    IsName name ↔ (!name.isEmpty && name.all isWord) = true := by
  simp only [Bool.and_eq_true, Bool.not_eq_true', List.isEmpty_eq_false_iff, List.all_eq_true]
  exact ⟨fun h => ⟨h.nonempty, h.word⟩, fun h => ⟨h.1, h.2⟩⟩

instance (name : Text) : Decidable (IsName name) :=
  decidable_of_iff _ isName_iff.symm

/-! ## Matches and letters -/

/-- A line made of word characters is one word. -/
theorem IsName.isWordRun {text : Text} (h : IsName text) : IsWordRun text 0 text.length := by
  refine ⟨List.length_pos_iff.2 h.nonempty, Nat.le_refl _, ?_, by simp, by simp⟩
  intro k _ hk
  rw [List.getElem?_eq_getElem hk]
  exact h.word _ (List.getElem_mem hk)

theorem occursAt_zero_iff {name text : Text} (hline : IsName text)
    (hlength : name.length = text.length) :
    OccursAt text name 0 ↔ name.map letter = text.map letter := by
  have hrun : IsWordRun text 0 (0 + name.length) := by
    rw [Nat.zero_add, hlength]
    exact hline.isWordRun
  rw [hrun.occursAt_iff, List.drop_zero, hlength, List.take_length, eq_comm]

/-- Matches that keep apart are one match, if they are all the same and not empty. -/
theorem eq_singleton_of_apart {m : Match} {found : List Match} (hmem : m ∈ found)
    (hall : ∀ other ∈ found, other = m) (hapart : found.Pairwise fun a b => a.stop ≤ b.start)
    (hwidth : m.start < m.stop) : found = [m] := by
  cases found with
  | nil => cases hmem
  | cons first rest =>
    cases rest with
    | nil => rw [hall first List.mem_cons_self]
    | cons second later =>
      have hle : first.stop ≤ second.start :=
        List.rel_of_pairwise_cons hapart List.mem_cons_self
      rw [hall first List.mem_cons_self,
        hall second (List.mem_cons_of_mem _ List.mem_cons_self)] at hle
      omega

/-- The search answers yes for the same letters. -/
theorem isWholeMatch_iff {name text : Text} (hname : IsName name) (hline : IsName text) :
    IsWholeMatch name text ↔ name.map letter = text.map letter := by
  have hpos : 0 < text.length := List.length_pos_iff.2 hline.nonempty
  constructor
  · intro h
    have hmem : ⟨0, text.length, text⟩ ∈ findMatches text name := h ▸ List.mem_singleton_self _
    obtain ⟨-, hoccurs, hwhole⟩ := occursAt_of_mem_findMatches hmem
    have hstop : text.length = 0 + name.length := congrArg Match.stop hwhole
    exact (occursAt_zero_iff hline (by omega)).1 hoccurs
  · intro h
    have hlength : name.length = text.length := by simpa using congrArg List.length h
    have hcolumn : Match.ofColumn text name.length 0 = ⟨0, text.length, text⟩ := by
      simp [Match.ofColumn, hlength]
    have hfound := mem_findMatches_of_occursAt hname.nonempty
      ((occursAt_zero_iff hline hlength).2 h) fun s hs => absurd hs (Nat.not_lt_zero s)
    -- a match needs as many columns as the line has, so that no other one fits
    have hall : ∀ m ∈ findMatches text name, m = ⟨0, text.length, text⟩ := by
      intro m hm
      obtain ⟨-, hoccurs, heq⟩ := occursAt_of_mem_findMatches hm
      have hstart : m.start = 0 := by
        have := hoccurs.within
        omega
      rw [heq, hstart, hcolumn]
    exact eq_singleton_of_apart (hcolumn ▸ hfound) hall (pairwise_findMatches text name) hpos

/-! ## Folds place by place -/

theorem fold_cons (c : Char) (t : Text) : fold (c :: t) = foldChar c ++ fold t := rfl

theorem head_fold_ne {t : Text} (h : ∀ c ∈ t, isWord c = true) :
    (fold t).head? ≠ some (Char.ofNat 0x307) := by
  cases t with
  | nil => simp
  | cons c t =>
    have hhead := head_foldChar_ne (h c List.mem_cons_self)
    rw [fold_cons]
    cases hfold : foldChar c with
    | nil => exact absurd hfold (foldChar_ne_nil c)
    | cons d later =>
      rw [hfold] at hhead
      exact hhead

/-- Where no dot above follows, the folds of `i` tell themselves apart. -/
theorem eq_of_mem_iFolds {u v s t : Text} (hu : u ∈ iFolds) (hv : v ∈ iFolds)
    (hs : s.head? ≠ some (Char.ofNat 0x307)) (ht : t.head? ≠ some (Char.ofNat 0x307))
    (h : u ++ s = v ++ t) : u = v := by
  simp only [iFolds, List.mem_cons, List.not_mem_nil, or_false] at hu hv
  rcases hu with rfl | rfl | rfl <;> rcases hv with rfl | rfl | rfl <;> grind

/-- Names with the same letters and the same fold have the same fold at every place. -/
theorem map_foldChar_eq {a b : Text} (ha : ∀ c ∈ a, isWord c = true)
    (hb : ∀ c ∈ b, isWord c = true) (hletters : a.map letter = b.map letter)
    (hfold : fold a = fold b) : a.map foldChar = b.map foldChar := by
  induction a generalizing b with
  | nil => rw [List.map_eq_nil_iff.1 hletters.symm]
  | cons c a ih =>
    cases b with
    | nil => cases hletters
    | cons d b =>
      rw [List.map_cons, List.map_cons, List.cons.injEq] at hletters
      have ha' : ∀ c ∈ a, isWord c = true := fun c hc => ha c (List.mem_cons_of_mem _ hc)
      have hb' : ∀ c ∈ b, isWord c = true := fun c hc => hb c (List.mem_cons_of_mem _ hc)
      rw [fold_cons, fold_cons] at hfold
      have hhead : foldChar c = foldChar d := by
        rcases foldChar_eq_or_mem_of_letter_eq hletters.1 with heq | ⟨hc, hd⟩
        · exact heq
        · exact eq_of_mem_iFolds hc hd (head_fold_ne ha') (head_fold_ne hb') hfold
      rw [hhead] at hfold
      rw [List.map_cons, List.map_cons, hhead,
        ih ha' hb' hletters.2 (List.append_cancel_left hfold)]

/-- Where each fold is one character, the places can be read off the fold. -/
theorem map_foldChar_eq_of_length {a b : Text} (ha : ∀ c ∈ a, (foldChar c).length = 1)
    (hb : ∀ c ∈ b, (foldChar c).length = 1) (hfold : fold a = fold b) :
    a.map foldChar = b.map foldChar := by
  induction a generalizing b with
  | nil =>
    cases b with
    | nil => rfl
    | cons d b => simp [fold_cons, foldChar_ne_nil] at hfold
  | cons c a ih =>
    cases b with
    | nil => simp [fold_cons, foldChar_ne_nil] at hfold
    | cons d b =>
      obtain ⟨hhead, htail⟩ := List.append_inj hfold
        ((ha c List.mem_cons_self).trans (hb d List.mem_cons_self).symm)
      rw [List.map_cons, List.map_cons, hhead,
        ih (fun c hc => ha c (List.mem_cons_of_mem _ hc))
          (fun c hc => hb c (List.mem_cons_of_mem _ hc)) htail]

theorem map_letter_eq {a b : Text} (h : a.map foldChar = b.map foldChar) :
    a.map letter = b.map letter := by
  induction a generalizing b with
  | nil => rw [List.map_eq_nil_iff.1 h.symm]
  | cons c a ih =>
    cases b with
    | nil => cases h
    | cons d b =>
      rw [List.map_cons, List.map_cons, List.cons.injEq] at h
      rw [List.map_cons, List.map_cons, letter_eq_of_foldChar_eq h.1, ih h.2]

theorem map_foldChar_letter {t : Text} (h : ∀ c ∈ t, c ≠ 'İ' ∧ c ≠ 'ı') :
    (t.map letter).map foldChar = t.map foldChar := by
  rw [List.map_map]
  exact List.map_congr_left fun c hc => foldChar_letter (h c hc).1 (h c hc).2

/-! ## The two comparisons -/

/-- The search and the fold both say yes for the same fold at every place.  Where every fold is one
character, the fold says yes only if the search does; without `ı` and `İ`, the search says yes only
if the fold does. -/
theorem sameName_and_isWholeMatch_iff {a b : Text} (ha : IsName a) (hb : IsName b) :
    (IsWholeMatch a b ↔ a.map letter = b.map letter) ∧
      (sameName a b = true ∧ IsWholeMatch a b ↔ a.map foldChar = b.map foldChar) ∧
      ((∀ c ∈ a ++ b, (foldChar c).length = 1) → sameName a b = true → IsWholeMatch a b) ∧
      ((∀ c ∈ a ++ b, c ≠ 'İ' ∧ c ≠ 'ı') → IsWholeMatch a b → sameName a b = true) := by
  have hwhole := isWholeMatch_iff ha hb
  have hboth : a.map foldChar = b.map foldChar → sameName a b = true ∧ IsWholeMatch a b := by
    intro h
    have hfold : fold a = fold b := by
      rw [fold, fold, List.flatMap_def, List.flatMap_def, h]
    exact ⟨sameName_iff.2 hfold, hwhole.2 (map_letter_eq h)⟩
  refine ⟨hwhole, ⟨fun h => ?_, hboth⟩, fun hone hsame => ?_, fun hplain hmatch => ?_⟩
  · exact map_foldChar_eq ha.word hb.word (hwhole.1 h.2) (sameName_iff.1 h.1)
  · refine (hboth (map_foldChar_eq_of_length ?_ ?_ (sameName_iff.1 hsame))).2
    · exact fun c hc => hone c (List.mem_append_left b hc)
    · exact fun c hc => hone c (List.mem_append_right a hc)
  · refine (hboth ?_).1
    rw [← map_foldChar_letter fun c hc => hplain c (List.mem_append_left b hc), hwhole.1 hmatch,
      map_foldChar_letter fun c hc => hplain c (List.mem_append_right a hc)]

/-- A sharp s and its capital: the fold of each is `ss`. -/
theorem sameName_isWholeMatch_sharpS :
    (IsName "Größe".toList ∧ IsName "GRÖẞE".toList) ∧
      sameName "Größe".toList "GRÖẞE".toList = true ∧
      IsWholeMatch "Größe".toList "GRÖẞE".toList := by
  have ha : IsName "Größe".toList := by decide +kernel
  have hb : IsName "GRÖẞE".toList := by decide +kernel
  exact ⟨⟨ha, hb⟩, (sameName_and_isWholeMatch_iff ha hb).2.1.2 (by decide +kernel)⟩

/-- The same name without a match, and a match without the same name. -/
theorem sameName_isWholeMatch_differ :
    (IsName "straße".toList ∧ IsName "STRASSE".toList ∧
        sameName "straße".toList "STRASSE".toList = true ∧
        findMatches "STRASSE".toList "straße".toList = []) ∧
      (IsName "ı".toList ∧ IsName "i".toList ∧ sameName "ı".toList "i".toList = false ∧
        IsWholeMatch "ı".toList "i".toList) := by
  decide +kernel

end RenamePlan
