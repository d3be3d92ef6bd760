import Mathlib.Util.CompileInductive
import RenamePlan.Proofs.Text.Classes
import RenamePlan.Text.Fold

/-!
# Letters against folds

Two tables say which characters are alike.  `letter` gives each character one representative;
`foldChar` gives it a text, of one character or of several.  This module compares them over all
characters.

* **Folds decide letters** — characters with the same fold are the same letter
  (`letter_eq_of_foldChar_eq`).
* **Letters nearly decide folds** — the same letter has the same fold, but for `ı` and `İ`, which
  are the letter `i` and fold to `ı` and to `i` with a dot above
  (`foldChar_eq_or_mem_of_letter_eq`).

Both rest on a search of the tables (`tablesSearched`): a run is compared point by point, and what
it is compared with is the rest of a table from the run on.
-/

namespace RenamePlan

/-! ## Searching a table -/

/-- The code points of a run. -/
def Run.points (run : Run) : List Nat :=
  List.range' run.first ((run.last - run.first) / run.stride + 1) run.stride

theorem Run.mem_points {run : Run} {n : Nat} (h : run.covers n = true) : n ∈ run.points := by
  obtain ⟨⟨hfirst, hlast⟩, hstride⟩ := Run.covers_iff.1 h
  refine List.mem_range'.2 ⟨(n - run.first) / run.stride, ?_, ?_⟩
  · have := Nat.div_le_div_right (c := run.stride) (Nat.sub_le_sub_right hlast run.first)
    omega
  · rw [Nat.mul_div_cancel' (Nat.dvd_of_mod_eq_zero hstride)]
    omega

/-- The runs from the first one on that does not end before `a`.  It is written with the recursor
because the kernel has to run it for each run of the tables. -/
def runsFrom (a : Nat) (runs : List Run) : List Run :=
  runs.rec [] fun run later found => bif Nat.ble a run.last then run :: later else found

theorem mapRuns_runsFrom {runs : List Run} {a n : Nat} (h : SoundRuns runs) (hn : a ≤ n) :
    mapRuns (runsFrom a runs) n = mapRuns runs n := by
  have hord := h.ordered
  clear h
  induction runs with
  | nil => rfl
  | cons run later ih =>
    have hrun := hord run List.mem_cons_self
    have hlater := ih fun run hrun => hord run (List.mem_cons_of_mem _ hrun)
    change mapRuns (bif Nat.ble a run.last then run :: later else runsFrom a later) n = _
    cases hle : Nat.ble a run.last with
    | true => rfl
    | false =>
      have hlt : run.last < a := by
        rw [← Nat.not_le, ← Nat.ble_eq, hle]
        simp
      have hpast : run.covers n = false := by
        rw [Bool.eq_false_iff, ne_eq, Run.covers_iff]
        omega
      rw [mapRuns, if_neg (by omega), hpast]
      exact hlater

/-- What a search finds at every point of every run holds wherever a run covers. -/
theorem holds_of_covers {runs : List Run} {p : Run → Nat → Bool}
    (h : (runs.all fun run => run.points.all (p run)) = true) {run : Run} {n : Nat}
    (hrun : run ∈ runs) (hn : run.covers n = true) : p run n = true :=
  List.all_eq_true.1 (List.all_eq_true.1 h run hrun) n (Run.mem_points hn)

/-- The code points that have an entry, one bit for each. -/
def keyBits (entries : List (Nat × List Nat)) : Nat :=
  entries.foldr (fun entry bits => bits ||| 1 <<< entry.1) 0

theorem testBit_keyBits (entries : List (Nat × List Nat)) (n : Nat) :
    (keyBits entries).testBit n = (entries.lookup n).isSome := by
  induction entries with
  | nil => simp [keyBits]
  | cons entry later ih =>
    have hbits : keyBits (entry :: later) = keyBits later ||| 1 <<< entry.1 := rfl
    rw [hbits, Nat.testBit_or, ih, Nat.one_shiftLeft, Nat.testBit_two_pow, List.lookup_cons]
    cases h : n == entry.1 with
    | true => simp [(beq_iff_eq.1 h).symm]
    | false => simp [Ne.symm (beq_eq_false_iff_ne.1 h)]

/-! ## What the search finds -/

/-- Facts about the two tables that are found by going through all their points. -/
structure TablesSearched : Prop where
  foldRuns_sound : SoundRuns foldRuns
  /-- A fold of one character is the same letter as the character. -/
  letter_fold : (foldRuns.all fun run => run.points.all fun n =>
    Nat.beq (mapRuns (runsFrom run.first letterRuns) n)
      (mapRuns (runsFrom run.target letterRuns) (run.target + (n - run.first)))) = true
  /-- But for `ı` and `İ`, a letter has the fold of the character. -/
  fold_letter : (letterRuns.all fun run => run.points.all fun n =>
    Nat.beq n 0x130 || Nat.beq n 0x131 ||
      bif (keyBits foldExpansions).testBit n then
        foldExpansions.lookup (run.target + (n - run.first)) == foldExpansions.lookup n
      else
        !(keyBits foldExpansions).testBit (run.target + (n - run.first)) &&
          Nat.beq (mapRuns (runsFrom run.target foldRuns) (run.target + (n - run.first)))
            (mapRuns (runsFrom run.first foldRuns) n)) = true
  /-- Characters with the same expansion are the same letter. -/
  letter_expansion : foldExpansions.Pairwise fun entry other => entry.2 = other.2 →
    mapRuns (runsFrom entry.1 letterRuns) entry.1 = mapRuns (runsFrom other.1 letterRuns) other.1
  /-- An expansion has two characters at least, and the first is no dot above. -/
  expansion : ∀ entry ∈ foldExpansions, 2 ≤ entry.2.length ∧ entry.2.head? ≠ some 0x307 ∧
    ∀ point ∈ entry.2, point < 0xd800
  /-- No run leads to the dot above, which is no word character. -/
  no_dot : (∀ run ∈ foldRuns, 0x307 < run.target ∨
    run.target + (run.last - run.first) < 0x307) ∧ inRanges wordRanges 0x307 = false
  dotted : letter 'İ' = 'i' ∧ foldChar 'İ' = ['i', Char.ofNat 0x307]
  dotless : letter 'ı' = 'i' ∧ foldChar 'ı' = ['ı'] ∧ foldChar 'i' = ['i']

theorem tablesSearched : TablesSearched where
  foldRuns_sound := by constructor <;> decide +kernel
  letter_fold := by decide +kernel
  fold_letter := by decide +kernel
  letter_expansion := by decide +kernel
  expansion := by decide +kernel
  no_dot := by decide +kernel
  dotted := by decide +kernel
  dotless := by decide +kernel

theorem foldRuns_sound : SoundRuns foldRuns :=
  TablesSearched.foldRuns_sound tablesSearched

/-- Where a fold of one character leads, the letter is the same. -/
theorem letter_of_fold_points (n : Nat) :
    mapRuns letterRuns (mapRuns foldRuns n) = mapRuns letterRuns n := by
  rcases mapRuns_eq_or_covers foldRuns n with hsame | ⟨run, hrun, hn, hvalue⟩
  · rw [hsame]
  · have hfound := holds_of_covers (TablesSearched.letter_fold tablesSearched) hrun hn
    have hequal := Nat.eq_of_beq_eq_true hfound
    rw [mapRuns_runsFrom letterRuns_sound (Run.covers_iff.1 hn).1.1,
      mapRuns_runsFrom letterRuns_sound (Nat.le_add_right ..)] at hequal
    rw [hvalue, hequal]

/-- But for two characters, the representative of a character expands as the character does. -/
theorem fold_of_letter_points {n : Nat} (hdotted : n ≠ 0x130) (hdotless : n ≠ 0x131) :
    foldExpansions.lookup (mapRuns letterRuns n) = foldExpansions.lookup n ∧
      (foldExpansions.lookup n = none →
        mapRuns foldRuns (mapRuns letterRuns n) = mapRuns foldRuns n) := by
  rcases mapRuns_eq_or_covers letterRuns n with hsame | ⟨run, hrun, hn, hvalue⟩
  · rw [hsame]
    exact ⟨rfl, fun _ => rfl⟩
  · have hfound := holds_of_covers (TablesSearched.fold_letter tablesSearched) hrun hn
    have hbeq : Nat.beq n 0x130 = false ∧ Nat.beq n 0x131 = false := by
      constructor <;> rw [Bool.eq_false_iff, ne_eq, Nat.beq_eq] <;> assumption
    rw [hbeq.1, hbeq.2, testBit_keyBits, testBit_keyBits,
      mapRuns_runsFrom foldRuns_sound (Run.covers_iff.1 hn).1.1,
      mapRuns_runsFrom foldRuns_sound (Nat.le_add_right ..)] at hfound
    rw [hvalue]
    cases hlookup : foldExpansions.lookup n with
    | some points =>
      rw [hlookup] at hfound
      exact ⟨by simpa using hfound, fun h => by cases h⟩
    | none =>
      rw [hlookup] at hfound
      simp only [Option.isSome_none, Bool.or_false, Bool.false_or, cond_false, Bool.and_eq_true,
        Bool.not_eq_true', Option.isSome_eq_false_iff, Option.isNone_iff_eq_none, Nat.beq_eq]
        at hfound
      exact ⟨hfound.1, fun _ => hfound.2⟩

theorem expansion_of_lookup {n : Nat} {points : List Nat}
    (h : foldExpansions.lookup n = some points) :
    (n, points) ∈ foldExpansions ∧ 2 ≤ points.length ∧ points.head? ≠ some 0x307 ∧
      ∀ point ∈ points, point < 0xd800 := by
  have hmem : (n, points) ∈ foldExpansions := by
    rw [List.lookup_eq_some_iff] at h
    obtain ⟨before, after, hsplit, -⟩ := h
    rw [hsplit]
    simp
  exact ⟨hmem, TablesSearched.expansion tablesSearched _ hmem⟩

/-! ## Characters -/

theorem foldChar_of_lookup {c : Char} {points : List Nat}
    (h : foldExpansions.lookup c.toNat = some points) : foldChar c = points.map Char.ofNat := by
  rw [foldChar, expandWith, h]

theorem foldChar_of_lookup_none {c : Char} (h : foldExpansions.lookup c.toNat = none) :
    foldChar c = [Char.ofNat (mapRuns foldRuns c.toNat)] := by
  rw [foldChar, expandWith, h]

theorem foldChar_ne_nil (c : Char) : foldChar c ≠ [] := by
  cases h : foldExpansions.lookup c.toNat with
  | none => simp [foldChar_of_lookup_none h]
  | some points =>
    have hlength := (expansion_of_lookup h).2.1
    rw [foldChar_of_lookup h, ne_eq, List.map_eq_nil_iff, ← List.length_eq_zero_iff]
    omega

theorem letter_of_foldChar {c d : Char} (h : foldChar c = [d]) : letter d = letter c := by
  cases hlookup : foldExpansions.lookup c.toNat with
  | none =>
    rw [foldChar_of_lookup_none hlookup, List.cons.injEq] at h
    rw [letter, letter, ← h.1, toNat_ofNat_of_isValidChar (isValidChar_mapRuns foldRuns_sound c),
      letter_of_fold_points]
  | some points =>
    have hlength := congrArg List.length (foldChar_of_lookup hlookup ▸ h)
    rw [List.length_map] at hlength
    have := (expansion_of_lookup hlookup).2.1
    simp at hlength
    omega

theorem map_ofNat_inj {points others : List Nat} (h : ∀ point ∈ points, point < 0xd800)
    (h' : ∀ point ∈ others, point < 0xd800)
    (heq : points.map Char.ofNat = others.map Char.ofNat) : points = others := by
  have hback : ∀ list : List Nat, (∀ point ∈ list, point < 0xd800) →
      (list.map Char.ofNat).map Char.toNat = list := by
    intro list hlist
    rw [List.map_map]
    refine (List.map_congr_left fun point hpoint => ?_).trans (List.map_id list)
    exact toNat_ofNat_of_isValidChar (Or.inl (hlist point hpoint))
  rw [← hback points h, heq, hback others h']

/-- Characters with the same fold are the same letter. -/
theorem letter_eq_of_foldChar_eq {c d : Char} (h : foldChar c = foldChar d) :
    letter c = letter d := by
  cases hc : foldExpansions.lookup c.toNat with
  | none =>
    have hsingle := foldChar_of_lookup_none hc
    rw [← letter_of_foldChar hsingle, letter_of_foldChar (h ▸ hsingle)]
  | some points =>
    cases hd : foldExpansions.lookup d.toNat with
    | none =>
      have hsingle := foldChar_of_lookup_none hd
      rw [← letter_of_foldChar hsingle, letter_of_foldChar (h.trans hsingle)]
    | some others =>
      rw [foldChar_of_lookup hc, foldChar_of_lookup hd] at h
      obtain ⟨hcmem, -, -, hcvalid⟩ := expansion_of_lookup hc
      obtain ⟨hdmem, -, -, hdvalid⟩ := expansion_of_lookup hd
      obtain rfl := map_ofNat_inj hcvalid hdvalid h
      have hpairs := TablesSearched.letter_expansion tablesSearched
      have hsame := hpairs.forall_of_forall_of_flip (fun _ _ _ => rfl)
        (hpairs.imp fun hone hback => (hone hback.symm).symm) hcmem hdmem rfl
      rw [mapRuns_runsFrom letterRuns_sound Nat.le.refl,
        mapRuns_runsFrom letterRuns_sound Nat.le.refl] at hsame
      rw [letter, letter, hsame]

/-- The folds of the characters that are the letter `i`. -/
def iFolds : List Text := [['i'], ['ı'], ['i', Char.ofNat 0x307]]

theorem foldChar_letter {c : Char} (hdotted : c ≠ 'İ') (hdotless : c ≠ 'ı') :
    foldChar (letter c) = foldChar c := by
  obtain ⟨hlookup, hruns⟩ := fold_of_letter_points
    (fun h => hdotted (Char.toNat_inj.1 h)) (fun h => hdotless (Char.toNat_inj.1 h))
  rw [← toNat_letter] at hlookup hruns
  cases hc : foldExpansions.lookup c.toNat with
  | none => rw [foldChar_of_lookup_none hc, foldChar_of_lookup_none (hlookup.trans hc), hruns hc]
  | some points => rw [foldChar_of_lookup hc, foldChar_of_lookup (hlookup.trans hc)]

theorem foldChar_mem_iFolds {c : Char} (h : letter c = 'i') : foldChar c ∈ iFolds := by
  have hsearched := tablesSearched
  by_cases hdotted : c = 'İ'
  · simp [hdotted, hsearched.dotted, iFolds]
  · by_cases hdotless : c = 'ı'
    · simp [hdotless, hsearched.dotless, iFolds]
    · simp [← foldChar_letter hdotted hdotless, h, hsearched.dotless, iFolds]

/-- The same letter has the same fold, unless it is the letter `i`. -/
theorem foldChar_eq_or_mem_of_letter_eq {c d : Char} (h : letter c = letter d) :
    foldChar c = foldChar d ∨ (foldChar c ∈ iFolds ∧ foldChar d ∈ iFolds) := by
  by_cases hi : letter c = 'i'
  · exact Or.inr ⟨foldChar_mem_iFolds hi, foldChar_mem_iFolds (h ▸ hi)⟩
  · have hplain : ∀ e, letter e = letter c → foldChar (letter e) = foldChar e := by
      intro e he
      refine foldChar_letter ?_ ?_
      · rintro rfl
        exact hi (he ▸ (TablesSearched.dotted tablesSearched).1)
      · rintro rfl
        exact hi (he ▸ (TablesSearched.dotless tablesSearched).1)
    refine Or.inl ?_
    rw [← hplain c rfl, ← hplain d h.symm, h]

/-- The fold of a word character does not begin with a dot above. -/
theorem head_foldChar_ne {c : Char} (h : isWord c = true) :
    (foldChar c).head? ≠ some (Char.ofNat 0x307) := by
  obtain ⟨htargets, hmark⟩ := TablesSearched.no_dot tablesSearched
  cases hlookup : foldExpansions.lookup c.toNat with
  | none =>
    rw [foldChar_of_lookup_none hlookup]
    intro hhead
    have hpoint : mapRuns foldRuns c.toNat = 0x307 := by
      have := congrArg Char.toNat (Option.some.inj hhead)
      rwa [toNat_ofNat_of_isValidChar (isValidChar_mapRuns foldRuns_sound c)] at this
    rcases mapRuns_cases foldRuns c.toNat with hsame | ⟨run, hrun, hle, hlt⟩
    · rw [isWord, ← hsame, hpoint, hmark] at h
      cases h
    · have := htargets run hrun
      omega
  | some points =>
    obtain ⟨-, -, hfirst, hvalid⟩ := expansion_of_lookup hlookup
    rw [foldChar_of_lookup hlookup, List.head?_map]
    cases points with
    | nil => simp
    | cons point later =>
      intro hhead
      have := congrArg Char.toNat (Option.some.inj hhead)
      rw [toNat_ofNat_of_isValidChar (Or.inl (hvalid point List.mem_cons_self))] at this
      exact hfirst (congrArg some this)

end RenamePlan
