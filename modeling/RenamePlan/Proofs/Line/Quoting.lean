import RenamePlan.Proofs.Line.CodePart

/-!
# Comment and literals, character by character

The searches for literals and for the comment look at two characters at a time where a quote may be
doubled.  Here a line is read one character at a time: `Quoting` is what has to be remembered
between two characters, and `Quoting.next` is the step.

* **Literals** — the texts of the closed literals (`literalTexts`) are read off the line without
  columns (`literalTexts_eq`).  A literal that is open where the line ends has no text.
* **Comment** — the comment begins at the first apostrophe that is met outside a literal
  (`comment_eq`).
* **Rewording** — a line in which words are replaced outside its closed literals and its comment has
  the same comment and the same literals (`Reworded.comment_eq`, `Reworded.literalTexts_eq`).
-/

namespace RenamePlan

/-- Where a reader of a line stands as to string literals.  Behind a quote inside a literal it is
`closing`: the quote ends the literal unless another one follows. -/
inductive Quoting where
  | outside
  | inside
  | closing
deriving DecidableEq, Repr

namespace Quoting

def next : Quoting → Char → Quoting
  | inside, c => if c = '"' then closing else inside
  | _, c => if c = '"' then inside else outside

/-- Where the reader stands behind a text. -/
def after (q : Quoting) (t : Text) : Quoting :=
  t.foldl next q

/-- Where the reader stands behind a character that is no quote. -/
def past : Quoting → Quoting
  | inside => inside
  | _ => outside

theorem next_of_ne {c : Char} (hc : c ≠ '"') (q : Quoting) : q.next c = q.past := by
  cases q <;> simp [next, past, hc]

theorem past_past (q : Quoting) : q.past.past = q.past := by
  cases q <;> rfl

theorem after_append (q : Quoting) (t u : Text) : q.after (t ++ u) = (q.after t).after u :=
  List.foldl_append

end Quoting

/-! ## Literals -/

/-- The texts of the closed literals of a line, quotes included. -/
def literalTexts (line : Text) : List Text :=
  (literalSpans line).map fun span => Text.slice line span.start span.stop

/-- What is left of the literal being read, if the text closes it. -/
def literalRest? : Quoting → Text → Option Text
  | .outside, _ => none
  | .inside, [] => none
  | .inside, c :: rest => (literalRest? (Quoting.inside.next c) rest).map (c :: ·)
  | .closing, [] => some []
  | .closing, c :: rest =>
    if c = '"' then (literalRest? .inside rest).map (c :: ·) else some []

/-- The texts of the literals that begin in the text and are closed there. -/
def literalsIn : Quoting → Text → List Text
  | _, [] => []
  | q, c :: rest =>
    (if q = .outside ∧ c = '"' then ((literalRest? .inside rest).map (c :: ·)).toList else []) ++
      literalsIn (q.next c) rest

/-- The spans that the search for literals finds from a column on.  `opened` is the column of the
quote that opened the literal being read, if one is. -/
def spansAt (column : Nat) (q : Quoting) (opened : Nat) (t : Text) : List Span :=
  match q with
  | .outside => literalSpansFrom column none t
  | .inside => literalSpansFrom column (some opened) t
  | .closing =>
    if t.head? = some '"' then literalSpansFrom (column + 1) (some opened) t.tail
    else ⟨opened, column⟩ :: literalSpansFrom column none t

/-- The search for literals, one character at a time.  A span is found behind the quote that ends
it. -/
theorem spansAt_cons (column : Nat) (q : Quoting) (opened : Nat) (c : Char) (rest : Text) :
    spansAt column q opened (c :: rest) =
      (if q = .closing ∧ c ≠ '"' then [⟨opened, column⟩] else []) ++
        spansAt (column + 1) (q.next c) (if q = .outside then column else opened) rest := by
  cases q with
  | outside =>
    by_cases hc : c = '"'
    · simp [spansAt, Quoting.next, literalSpansFrom_none_cons, hc]
    · simp [spansAt, Quoting.next, literalSpansFrom_none_cons, hc]
  | inside =>
    by_cases hc : c = '"'
    · -- only here the search looks at the next character too
      subst hc
      by_cases hhead : rest.head? = some '"'
      · obtain ⟨later, rfl⟩ := List.head?_eq_some_iff.1 hhead
        simp [spansAt, Quoting.next, literalSpansFrom_some_pair]
      · simp [spansAt, Quoting.next, literalSpansFrom_some_quote _ _ hhead, hhead]
    · simp [spansAt, Quoting.next, literalSpansFrom_some_other _ _ hc, hc]
  | closing =>
    by_cases hc : c = '"'
    · simp [spansAt, Quoting.next, hc]
    · simp [spansAt, Quoting.next, literalSpansFrom_none_cons, hc]

/-- The part of a line between two of its columns, the second one just reached. -/
theorem slice_passed (passed rest : Text) {o : Nat} (h : o ≤ passed.length) :
    Text.slice (passed ++ rest) o passed.length = passed.drop o := by
  rw [Text.slice_of_le _ h (by simp), List.drop_append_of_le_length h,
    List.take_left' (List.length_drop ..)]

/-- The spans as texts: what is left of the literal being read, behind what has been read of it, and
the literals that begin later.  The induction goes over the rest of the line, with what has been
passed in front of it. -/
theorem map_slice_spansAt (q : Quoting) {opened : Nat} (passed rest : Text)
    (hopened : opened ≤ passed.length) :
    (spansAt passed.length q opened rest).map
        (fun span => Text.slice (passed ++ rest) span.start span.stop) =
      ((literalRest? q rest).map (passed.drop opened ++ ·)).toList ++ literalsIn q rest := by
  induction rest generalizing q opened passed with
  | nil =>
    cases q with
    | outside | inside => simp [spansAt, literalSpansFrom, literalRest?, literalsIn]
    | closing =>
      have hslice := slice_passed passed [] hopened
      simpa [spansAt, literalSpansFrom, literalRest?, literalsIn] using hslice
  | cons c rest ih =>
    have hnext := fun (q : Quoting) (o : Nat) (ho : o ≤ passed.length) =>
      ih q (passed ++ [c]) (show o ≤ _ by simp; omega)
    simp only [List.length_append, List.length_singleton, List.append_assoc,
      List.singleton_append] at hnext
    rw [spansAt_cons, List.map_append]
    cases q with
    | outside =>
      by_cases hc : c = '"'
      · subst hc
        simp [hnext, literalRest?, literalsIn, Quoting.next]
      · simp [hnext, hc, literalRest?, literalsIn, Quoting.next]
    | inside =>
      simp [hnext, hopened, literalRest?, literalsIn, List.drop_append_of_le_length hopened,
        Function.comp_def]
    | closing =>
      by_cases hc : c = '"'
      · subst hc
        simp [hnext, hopened, literalRest?, literalsIn, Quoting.next,
          List.drop_append_of_le_length hopened, Function.comp_def]
      · simp [hnext, hopened, hc, literalRest?, literalsIn, Quoting.next,
          slice_passed passed (c :: rest) hopened]

/-- The texts of the literals, read without columns. -/
theorem literalTexts_eq (line : Text) : literalTexts line = literalsIn .outside line := by
  have htexts := map_slice_spansAt .outside [] line (Nat.zero_le _)
  simpa [literalTexts, literalSpans, spansAt, literalRest?] using htexts

/-- A literal that is open and gets closed has a span from where it was opened. -/
theorem mem_spansAt_of_literalRest? (column opened : Nat) {q : Quoting} {t u : Text}
    (h : literalRest? q t = some u) :
    (⟨opened, (column + u.length : Nat)⟩ : Span) ∈ spansAt column q opened t := by
  induction t generalizing column q u with
  | nil =>
    cases q with
    | outside | inside => cases h
    | closing =>
      obtain rfl : [] = u := Option.some.inj h
      simp [spansAt]
  | cons c rest ih =>
    -- the literal goes on behind `c`, or it has ended in front of it
    have hlater : ∀ v, literalRest? (q.next c) rest = some v → q ≠ .outside →
        (⟨opened, (column + (c :: v).length : Nat)⟩ : Span) ∈
          spansAt column q opened (c :: rest) := by
      intro v hv hq
      have hmem := ih (column + 1) hv
      rw [Nat.add_right_comm] at hmem
      rw [spansAt_cons, if_neg hq]
      exact List.mem_append_right _ hmem
    cases q with
    | outside => cases h
    | inside =>
      obtain ⟨v, hv, rfl⟩ := Option.map_eq_some_iff.1 h
      exact hlater v hv (by simp)
    | closing =>
      by_cases hc : c = '"'
      · rw [literalRest?, if_pos hc] at h
        obtain ⟨v, hv, rfl⟩ := Option.map_eq_some_iff.1 h
        exact hlater v (by simpa [Quoting.next, hc] using hv) (by simp)
      · obtain rfl : [] = u := by simpa [literalRest?, hc] using h
        simp [spansAt_cons, hc]

/-- Where a literal is open that gets closed, the column lies in one of the spans. -/
theorem exists_span_of_literalRest? {column opened k : Nat} {q : Quoting} {t u : Text}
    (hopened : opened ≤ column) (hinside : q.after (t.take k) = .inside)
    (hclosed : literalRest? .inside (t.drop k) = some u) :
    ∃ span ∈ spansAt column q opened t, span.contains (column + k : Nat) = true := by
  induction k generalizing column opened q t with
  | zero =>
    obtain rfl : q = .inside := hinside
    have hlength : 0 < u.length := by
      cases t with
      | nil => cases hclosed
      | cons c rest =>
        obtain ⟨v, _, rfl⟩ := Option.map_eq_some_iff.1 hclosed
        simp
    refine ⟨_, mem_spansAt_of_literalRest? column opened hclosed, ?_⟩
    simp only [Span.contains, Bool.and_eq_true, decide_eq_true_eq]
    omega
  | succ k ih =>
    cases t with
    | nil => cases hclosed
    | cons c rest =>
      have hopened' : (if q = .outside then column else opened) ≤ column + 1 := by
        split <;> omega
      obtain ⟨span, hspan, hcontains⟩ := ih hopened' hinside hclosed
      rw [Nat.add_right_comm] at hcontains
      refine ⟨span, ?_, hcontains⟩
      rw [spansAt_cons]
      exact List.mem_append_right _ hspan

/-! ## The comment -/

/-- The comment that begins in the text, if one does. -/
def commentIn : Quoting → Text → Text
  | _, [] => []
  | q, c :: rest => if c = '\'' ∧ q ≠ .inside then c :: rest else commentIn (q.next c) rest

/-- The search for the comment, one character at a time: a doubled quote ends a literal and begins
another. -/
theorem codeLength?_cons (q : Quoting) (c : Char) (rest : Text) :
    codeLength? (q = .inside) (c :: rest) =
      if c = '\'' ∧ q ≠ .inside then some 0
      else (codeLength? (q.next c = .inside) rest).map (· + 1) := by
  by_cases hq : q = .inside
  · subst hq
    by_cases hpair : c = '"' ∧ rest.head? = some '"'
    · obtain ⟨rfl, hhead⟩ := hpair
      obtain ⟨later, rfl⟩ := List.head?_eq_some_iff.1 hhead
      simp [codeLength?, Quoting.next, Function.comp_def]
    · have hsingle : codeLength? true (c :: rest) = (codeLength? (c ≠ '"') rest).map (· + 1) := by
        rw [codeLength?]
        intro later hc hrest
        exact hpair ⟨hc, by rw [hrest, List.head?_cons]⟩
      have hnext : Quoting.inside.next c = .inside ↔ c ≠ '"' := by
        by_cases hc : c = '"' <;> simp [Quoting.next, hc]
      simp [hsingle, hnext]
  · have hnext : q.next c = .inside ↔ c = '"' := by
      cases q <;> simp_all [Quoting.next]
    simp [codeLength?, hq, hnext]

theorem commentIn_eq (q : Quoting) (t : Text) :
    commentIn q t = ((codeLength? (q = .inside) t).map t.drop).getD [] := by
  induction t generalizing q with
  | nil => simp [commentIn, codeLength?]
  | cons c rest ih =>
    rw [codeLength?_cons, commentIn, ih]
    split
    · rfl
    · cases codeLength? (q.next c = .inside) rest <;> rfl

/-- The comment of a line, read one character at a time. -/
theorem comment_eq (line : Text) : (splitComment line).comment = commentIn .outside line := by
  rw [commentIn_eq, splitComment]
  show CodeAndComment.comment _ = ((codeLength? false line).map line.drop).getD []
  cases codeLength? false line <;> rfl

/-- An apostrophe outside every literal is in the comment or begins it. -/
theorem exists_codeLength?_le {q : Quoting} {t : Text} {k : Nat} (hmark : t[k]? = some '\'')
    (houtside : q.after (t.take k) ≠ .inside) :
    ∃ n, n ≤ k ∧ codeLength? (q = .inside) t = some n := by
  induction k generalizing q t with
  | zero =>
    obtain ⟨later, rfl⟩ := List.head?_eq_some_iff.1 (List.head?_eq_getElem? ▸ hmark)
    exact ⟨0, Nat.le_refl 0, by rw [codeLength?_cons, if_pos ⟨rfl, houtside⟩]⟩
  | succ k ih =>
    cases t with
    | nil => cases hmark
    | cons c rest =>
      obtain ⟨n, hn, hlength⟩ := ih (q := q.next c) (t := rest) hmark houtside
      rw [codeLength?_cons, hlength]
      split
      · exact ⟨0, Nat.zero_le _, rfl⟩
      · exact ⟨n + 1, by omega, rfl⟩

theorem length_code_le {text : Text} {k : Nat} (hmark : text[k]? = some '\'')
    (houtside : Quoting.outside.after (text.take k) ≠ .inside) :
    (splitComment text).code.length ≤ k := by
  obtain ⟨n, hn, hlength⟩ := exists_codeLength?_le hmark houtside
  replace hlength : codeLength? false text = some n := hlength
  rw [splitComment, hlength]
  exact Nat.le_trans (length_trimRight_take_le text n) hn

/-! ## Rewording -/

/-- A text that can stand for a word: it is not empty, and has neither quotes nor apostrophes. -/
inductive IsUnmarked : Text → Prop
  | single {c : Char} : c ≠ '"' → c ≠ '\'' → IsUnmarked [c]
  | cons {c : Char} {w : Text} : c ≠ '"' → c ≠ '\'' → IsUnmarked w → IsUnmarked (c :: w)

/-- The second text is the first with other words in it, outside the literals that are closed and in
front of the comment. -/
inductive Reworded : Quoting → Text → Text → Prop
  | same (q : Quoting) (t : Text) : Reworded q t t
  | char {q : Quoting} {c : Char} {t u : Text} : ¬ (c = '\'' ∧ q ≠ .inside) →
      Reworded (q.next c) t u → Reworded q (c :: t) (c :: u)
  | word {q : Quoting} {old new t u : Text} : IsUnmarked old → IsUnmarked new →
      (q = .inside → literalRest? .inside t = none) → Reworded q.past t u →
      Reworded q (old ++ t) (new ++ u)

namespace IsUnmarked

theorem of_notMem {w : Text} (hne : w ≠ []) (hquote : '"' ∉ w) (hmark : '\'' ∉ w) :
    IsUnmarked w := by
  induction w with
  | nil => exact absurd rfl hne
  | cons c w ih =>
    have hc : c ≠ '"' := fun hc => hquote (hc ▸ List.mem_cons_self)
    have hc' : c ≠ '\'' := fun hc => hmark (hc ▸ List.mem_cons_self)
    by_cases hw : w = []
    · rw [hw]
      exact single hc hc'
    · exact cons hc hc' (ih hw (mt (List.mem_cons_of_mem c) hquote)
        (mt (List.mem_cons_of_mem c) hmark))

variable {w : Text}

theorem apostrophe_notMem (h : IsUnmarked w) : '\'' ∉ w := by
  induction h with
  | single _ hmark => simp [hmark.symm]
  | cons _ hmark _ ih => simp [hmark.symm, ih]

theorem after_eq (h : IsUnmarked w) (q : Quoting) : q.after w = q.past := by
  induction h generalizing q with
  | single hquote => exact Quoting.next_of_ne hquote q
  | @cons c w hquote _ _ ih =>
    show (q.next c).after w = q.past
    rw [ih, Quoting.next_of_ne hquote, Quoting.past_past]

theorem literalsIn_append (h : IsUnmarked w) (q : Quoting) (t : Text) :
    literalsIn q (w ++ t) = literalsIn q.past t := by
  induction h generalizing q with
  | single hquote => simp [literalsIn, hquote, Quoting.next_of_ne]
  | cons hquote _ _ ih => simp [literalsIn, hquote, Quoting.next_of_ne, ih, Quoting.past_past]

theorem commentIn_append (h : IsUnmarked w) (q : Quoting) (t : Text) :
    commentIn q (w ++ t) = commentIn q.past t := by
  induction h generalizing q with
  | single hquote hmark => simp [commentIn, hquote, hmark, Quoting.next_of_ne]
  | cons hquote hmark _ ih =>
    simp [commentIn, hquote, hmark, Quoting.next_of_ne, ih, Quoting.past_past]

theorem literalRest?_inside (h : IsUnmarked w) (t : Text) :
    literalRest? .inside (w ++ t) = (literalRest? .inside t).map (w ++ ·) := by
  induction h with
  | single hquote => simp [literalRest?, hquote, Quoting.next]
  | cons hquote _ _ ih => simp [literalRest?, hquote, Quoting.next, ih, Function.comp_def]

theorem literalRest?_closing (h : IsUnmarked w) (t : Text) :
    literalRest? .closing (w ++ t) = some [] := by
  induction h with
  | single hquote => simp [literalRest?, hquote]
  | cons hquote => simp [literalRest?, hquote]

end IsUnmarked

namespace Reworded

variable {q : Quoting} {t u : Text}

theorem append_same {w : Text} (hmark : '\'' ∉ w) (h : Reworded (q.after w) t u) :
    Reworded q (w ++ t) (w ++ u) := by
  induction w generalizing q with
  | nil => exact h
  | cons c w ih =>
    obtain ⟨hc, hw⟩ := not_or.1 (mt List.mem_cons.2 hmark)
    exact char (fun hapostrophe => hc hapostrophe.1.symm) (ih hw h)

theorem literalRest?_eq (h : Reworded q t u) : literalRest? q t = literalRest? q u := by
  induction h with
  | same => rfl
  | @char q c t u _ _ ih =>
    cases q with
    | outside => rfl
    | inside => rw [literalRest?, literalRest?, ih]
    | closing =>
      by_cases hc : c = '"'
      · simpa [literalRest?, Quoting.next, hc] using congrArg (Option.map (c :: ·)) ih
      · simp [literalRest?, hc]
  | @word q old new t u hold hnew hopen _ ih =>
    cases q with
    | outside => rw [literalRest?, literalRest?]
    | inside =>
      -- the literal is never closed, so the words in it are part of no text
      have hnone : literalRest? .inside t = none := hopen rfl
      replace ih : literalRest? .inside t = literalRest? .inside u := ih
      rw [hold.literalRest?_inside, hnew.literalRest?_inside, ← ih, hnone]
      rfl
    | closing => rw [hold.literalRest?_closing, hnew.literalRest?_closing]

theorem literalsIn_eq (h : Reworded q t u) : literalsIn q t = literalsIn q u := by
  induction h with
  | same => rfl
  | @char q c t u _ hlater ih =>
    rw [literalsIn, literalsIn, ih]
    split
    · rename_i hopens
      obtain ⟨rfl, rfl⟩ := hopens
      have hrest : literalRest? .inside t = literalRest? .inside u := hlater.literalRest?_eq
      rw [hrest]
    · rfl
  | word hold hnew _ _ ih => rw [hold.literalsIn_append, hnew.literalsIn_append, ih]

theorem commentIn_eq (h : Reworded q t u) : commentIn q t = commentIn q u := by
  induction h with
  | same => rfl
  | char hmark _ ih => rw [commentIn, commentIn, if_neg hmark, if_neg hmark, ih]
  | word hold hnew _ _ ih => rw [hold.commentIn_append, hnew.commentIn_append, ih]

/-- A reworded line has the same comment. -/
theorem comment_eq (h : Reworded .outside t u) :
    (splitComment t).comment = (splitComment u).comment := by
  rw [RenamePlan.comment_eq, RenamePlan.comment_eq, h.commentIn_eq]

/-- A reworded line has the same closed literals. -/
theorem literalTexts_eq (h : Reworded .outside t u) : literalTexts t = literalTexts u := by
  rw [RenamePlan.literalTexts_eq, RenamePlan.literalTexts_eq, h.literalsIn_eq]

end Reworded

end RenamePlan
