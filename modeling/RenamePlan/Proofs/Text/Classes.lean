import RenamePlan.Text.Blank
import RenamePlan.Text.Letter
import RenamePlan.Text.Word

/-!
# Character classes side by side

How the tables of blanks, word characters and letters go together.

* **Blanks** are no word characters (`isWord_of_isBlank`).
* **Letters** — of the characters below `0x80`, those that are the same letter as a word character
  are word characters (`isWord_of_sameLetter`).  Further up this fails: the combining iota below is
  the same letter as iota and no word character.
-/

namespace RenamePlan

/-! ## Look-up -/

theorem exists_range_of_inRanges {ranges : List (Nat × Nat)} {n : Nat}
    (h : inRanges ranges n = true) : ∃ range ∈ ranges, range.1 ≤ n ∧ n ≤ range.2 := by
  induction ranges with
  | nil => simp [inRanges] at h
  | cons range later ih =>
    rw [inRanges] at h
    split at h
    · cases h
    · rename_i hfirst
      rcases Bool.or_eq_true_iff.1 h with hlast | hlater
      · exact ⟨range, List.mem_cons_self, by omega, by simpa using hlast⟩
      · obtain ⟨found, hmem, hbounds⟩ := ih hlater
        exact ⟨found, List.mem_cons_of_mem _ hmem, hbounds⟩

theorem Run.covers_iff {run : Run} {n : Nat} :
    run.covers n = true ↔
      (run.first ≤ n ∧ n ≤ run.last) ∧ (n - run.first) % run.stride = 0 := by
  simp [Run.covers]

/-- A code point stays where it is or goes where a run that covers it says. -/
theorem mapRuns_eq_or_covers (runs : List Run) (n : Nat) :
    mapRuns runs n = n ∨
      ∃ run ∈ runs, run.covers n = true ∧ mapRuns runs n = run.target + (n - run.first) := by
  induction runs with
  | nil => exact Or.inl rfl
  | cons run later ih =>
    rw [mapRuns]
    split
    · exact Or.inl rfl
    · split
      · rename_i hcovers
        exact Or.inr ⟨run, List.mem_cons_self, hcovers, rfl⟩
      · rcases ih with hsame | ⟨found, hfound, hcovers, hvalue⟩
        · exact Or.inl hsame
        · exact Or.inr ⟨found, List.mem_cons_of_mem _ hfound, hcovers, hvalue⟩

/-- A code point that moves goes to a place between the ends of the image of a run. -/
theorem mapRuns_cases (runs : List Run) (n : Nat) :
    mapRuns runs n = n ∨
      ∃ run ∈ runs, run.target ≤ mapRuns runs n ∧
        mapRuns runs n ≤ run.target + (run.last - run.first) := by
  rcases mapRuns_eq_or_covers runs n with hsame | ⟨run, hrun, hcovers, hvalue⟩
  · exact Or.inl hsame
  · have hbounds := (Run.covers_iff.1 hcovers).1
    exact Or.inr ⟨run, hrun, by omega, by omega⟩

/-- Runs that go upward, and that carry characters to characters. -/
structure SoundRuns (runs : List Run) : Prop where
  ordered : ∀ run ∈ runs, run.first ≤ run.last
  valid : ∀ run ∈ runs, run.target + (run.last - run.first) < 0xd800 ∨
    (0xe000 ≤ run.target ∧ run.target + (run.last - run.first) < 0x110000)

theorem letterRuns_sound : SoundRuns letterRuns := by
  constructor <;> decide +kernel

theorem isValidChar_mapRuns {runs : List Run} (h : SoundRuns runs) (c : Char) :
    (mapRuns runs c.toNat).isValidChar := by
  rcases mapRuns_cases runs c.toNat with hsame | ⟨run, hrun, hle, hlt⟩
  · rw [hsame]
    exact c.valid
  · rcases h.valid run hrun with hlow | hhigh
    · exact Or.inl (by omega)
    · exact Or.inr ⟨by omega, by omega⟩

theorem toNat_ofNat_of_isValidChar {n : Nat} (h : n.isValidChar) : (Char.ofNat n).toNat = n := by
  rw [Char.ofNat, dif_pos h]
  rfl

theorem toNat_letter (c : Char) : (letter c).toNat = mapRuns letterRuns c.toNat :=
  toNat_ofNat_of_isValidChar (isValidChar_mapRuns letterRuns_sound c)

/-! ## Blanks and word characters -/

theorem isWord_of_isBlank {c : Char} (h : isBlank c = true) : isWord c = false := by
  -- the blanks are few enough to look each of them up
  have hall : ∀ range ∈ blankRanges, ∀ n ∈ List.range' range.1 (range.2 + 1 - range.1),
      inRanges wordRanges n = false := by decide +kernel
  obtain ⟨range, hmem, hfirst, hlast⟩ := exists_range_of_inRanges h
  exact hall range hmem c.toNat (List.mem_range'_1.2 ⟨hfirst, by omega⟩)

/-! ## Letters and word characters -/

/-- No character but itself has a representative below `0x80` that is no word character. -/
theorem eq_of_letter_eq {w c : Char} (h : letter w = c) (hascii : c.toNat < 0x80)
    (hc : isWord c = false) : w = c := by
  -- the runs lead to the letters from a to z, or to characters from `0x80` on
  have htargets : ∀ run ∈ letterRuns,
      (0x61 ≤ run.target ∧ run.target + (run.last - run.first) ≤ 0x7a) ∨ 0x80 ≤ run.target := by
    decide +kernel
  have hletters : ∀ n ∈ List.range' 0x61 26, inRanges wordRanges n = true := by decide +kernel
  have hpoint := toNat_letter w
  rw [h] at hpoint
  rcases mapRuns_cases letterRuns w.toNat with hsame | ⟨run, hmem, hle, hlt⟩
  · rw [letter, hsame, Char.ofNat_toNat] at h
    exact h
  · rcases htargets run hmem with hrun | hrun
    · have hword := hletters c.toNat (List.mem_range'_1.2 ⟨by omega, by omega⟩)
      rw [isWord, hword] at hc
      cases hc
    · omega

theorem isWord_of_sameLetter {w c : Char} (hascii : c.toNat < 0x80) (hw : isWord w = true)
    (h : sameLetter w c = true) : isWord c = true := by
  have hself : ∀ n < 0x80, inRanges wordRanges n = false → mapRuns letterRuns n = n := by
    decide +kernel
  rw [sameLetter_iff] at h
  rw [← Bool.not_eq_false]
  intro hc
  have hletter : letter c = c := by rw [letter, hself c.toNat hascii hc, Char.ofNat_toNat]
  rw [hletter] at h
  rw [eq_of_letter_eq h hascii hc, hc] at hw
  cases hw

end RenamePlan
