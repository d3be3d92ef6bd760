import Mathlib.Data.List.Induction
import Mathlib.Data.Nat.Find
import RenamePlan.Proofs.Line.Quoting

/-!
# Literals by the parity of quotes

Whether a column of a line lies in a literal can be told by counting quotes: it is a quote itself,
or an odd number of quotes stands before it.  Only the literal that the line leaves open has to be
left out (`closedLength`).  The columns that remain fall into maximal runs, and these are the spans
that the search for literals finds (`literalSpans_parity`).

The search remembers where it stands (`Quoting`), and that is a matter of parity and of the last
character passed (`Quoting.after_outside`).  The argument then goes by what is remembered at each
column (`quotingAt`):

* **Spans** — a span is found for each stretch that begins outside, never comes back outside, and
  ends behind a quote that no other one follows (`IsLiteral`, `mem_literalSpans`).
* **Runs** — such stretches are the maximal runs of the columns told by parity
  (`isColumnRun_isQuoted_iff`).
-/

namespace RenamePlan

/-! ## The rule -/

/-- The number of quotes before column `k`. -/
def quotesBefore (text : Text) (k : Nat) : Nat :=
  (text.take k).count '"'

/-- Whether a maximal run of quotes begins at column `k` that has an even number of quotes before
it. -/
def opensAt (text : Text) (k : Nat) : Bool :=
  text[k]? == some '"' && (text.take k).getLast? != some '"' && quotesBefore text k % 2 == 0

/-- The column up to which all literals of the line are closed.  This is the end of the line if it
has an even number of quotes, and else the last column at which a literal opens. -/
def closedLength (text : Text) : Nat :=
  if quotesBefore text text.length % 2 = 0 then text.length
  else Nat.findGreatest (fun k => opensAt text k = true) text.length

/-- Whether column `k` lies in a closed literal, by the parity of quotes. -/
def isQuoted (text : Text) (k : Nat) : Bool :=
  k < closedLength text && (text[k]? == some '"' || quotesBefore text k % 2 == 1)

/-- The columns from `a` up to, not including, `b` are a maximal run of columns that pass the
test. -/
structure IsColumnRun (test : Nat → Bool) (a b : Nat) : Prop where
  nonempty : a < b
  passes : ∀ k, a ≤ k → k < b → test k = true
  left : ∀ k, k + 1 = a → test k = false
  right : test b = false

/-- The spans are those of the closed literals, by the parity of quotes. -/
structure ClassifiesQuotes (text : Text) (spans : List Span) : Prop where
  /-- A column is inside the spans iff parity says so. -/
  inside_iff : ∀ column : Int, insideAny spans column = true ↔
    ∃ k : Nat, column = k ∧ isQuoted text k = true
  /-- The spans are the maximal runs of such columns. -/
  mem_iff : ∀ span : Span, span ∈ spans ↔
    ∃ a b : Nat, span = ⟨a, b⟩ ∧ IsColumnRun (isQuoted text) a b
  /-- They ascend, with at least one column between two of them. -/
  ascending : spans.Pairwise fun a b => a.stop < b.start
  /-- Each of them begins with a quote and ends with another one. -/
  quotes : ∀ span ∈ spans, ∃ a b : Nat, span = ⟨a, b⟩ ∧ a + 2 ≤ b ∧
    text[a]? = some '"' ∧ text[b - 1]? = some '"'

/-! ## Parity and the reader -/

/-- Where the reader stands behind a text: by the number of quotes, and by the last character if
that number is even. -/
theorem Quoting.after_outside (t : Text) :
    Quoting.outside.after t =
      if t.count '"' % 2 = 1 then .inside
      else if t.getLast? = some '"' then .closing
      else .outside := by
  induction t using List.reverseRecOn with
  | nil => rfl
  | append_singleton t c ih =>
    have hstep : Quoting.outside.after (t ++ [c]) = (Quoting.outside.after t).next c :=
      Quoting.after_append ..
    rw [hstep, ih, List.count_append, List.count_singleton, List.getLast?_concat]
    by_cases hc : c = '"'
    · -- a quote changes the parity
      subst hc
      rcases Nat.mod_two_eq_zero_or_one (t.count '"') with heven | hodd
      · have hnext : (t.count '"' + 1) % 2 = 1 := by omega
        by_cases hlast : t.getLast? = some '"'
        · simp [heven, hnext, hlast, Quoting.next]
        · simp [heven, hnext, hlast, Quoting.next]
      · have hnext : (t.count '"' + 1) % 2 = 0 := by omega
        simp [hodd, hnext, Quoting.next]
    · rw [Quoting.next_of_ne hc]
      by_cases hodd : t.count '"' % 2 = 1
      · simp [hodd, hc, Quoting.past]
      · by_cases hlast : t.getLast? = some '"'
        · simp [hodd, hlast, hc, Quoting.past]
        · simp [hodd, hlast, hc, Quoting.past]

/-- Where a reader of the line stands at column `k`. -/
def quotingAt (text : Text) (k : Nat) : Quoting :=
  Quoting.outside.after (text.take k)

section Reader

variable {text : Text} {k : Nat}

theorem quotingAt_succ {c : Char} (h : text[k]? = some c) :
    quotingAt text (k + 1) = (quotingAt text k).next c := by
  have htake : text.take (k + 1) = text.take k ++ [c] := by
    rw [List.take_add_one, h]
    rfl
  rw [quotingAt, htake, Quoting.after_append]
  rfl

theorem quotingAt_eq_inside_iff :
    quotingAt text k = .inside ↔ quotesBefore text k % 2 = 1 := by
  rw [quotingAt, Quoting.after_outside, quotesBefore]
  split
  · simp [*]
  · split <;> simp [*]

theorem quotingAt_eq_closing_iff :
    quotingAt text k = .closing ↔
      quotesBefore text k % 2 = 0 ∧ (text.take k).getLast? = some '"' := by
  rw [quotingAt, Quoting.after_outside, quotesBefore]
  split
  · simp [*]
  · split <;> simp_all

theorem quotingAt_eq_outside_iff :
    quotingAt text k = .outside ↔
      quotesBefore text k % 2 = 0 ∧ (text.take k).getLast? ≠ some '"' := by
  rw [quotingAt, Quoting.after_outside, quotesBefore]
  split
  · simp [*]
  · split <;> simp_all

theorem opensAt_iff :
    opensAt text k = true ↔ text[k]? = some '"' ∧ quotingAt text k = .outside := by
  rw [quotingAt_eq_outside_iff]
  simp only [opensAt, Bool.and_eq_true, beq_iff_eq, bne_iff_ne]
  tauto

/-- Behind a column that is no quote, and has an even number of quotes before it, the reader is
outside; behind any other it is not. -/
theorem quotingAt_succ_ne_outside_iff (hk : k < text.length) :
    quotingAt text (k + 1) ≠ .outside ↔
      text[k]? = some '"' ∨ quotesBefore text k % 2 = 1 := by
  rw [quotingAt_succ (List.getElem?_eq_getElem hk), List.getElem?_eq_getElem hk, Option.some.injEq,
    ← quotingAt_eq_inside_iff]
  by_cases hc : text[k] = '"'
  · cases quotingAt text k <;> simp [Quoting.next, hc]
  · cases quotingAt text k <;> simp [Quoting.next, hc]

end Reader

/-! ## Stretches that the reader is not outside -/

/-- The reader is outside at column `a`, and nowhere from there on up to column `k`. -/
structure IsOpenFrom (text : Text) (a k : Nat) : Prop where
  opens : quotingAt text a = .outside
  lt : a < k
  stays : ∀ j, a < j → j ≤ k → quotingAt text j ≠ .outside

/-- A literal opens at column `a` and is closed in front of column `b`. -/
structure IsLiteral (text : Text) (a b : Nat) : Prop extends IsOpenFrom text a b where
  within : b ≤ text.length
  closes : quotingAt text b = .closing
  ends : text[b]? ≠ some '"'

theorem IsOpenFrom.unique {text : Text} {a b k : Nat} (ha : IsOpenFrom text a k)
    (hb : IsOpenFrom text b k) : a = b := by
  rcases Nat.lt_trichotomy a b with hlt | heq | hgt
  · exact absurd hb.opens (ha.stays b hlt (Nat.le_of_lt hb.lt))
  · exact heq
  · exact absurd ha.opens (hb.stays a hgt (Nat.le_of_lt ha.lt))

theorem IsOpenFrom.succ {text : Text} {a k : Nat} (h : IsOpenFrom text a k)
    (hnext : quotingAt text (k + 1) ≠ .outside) : IsOpenFrom text a (k + 1) := by
  refine ⟨h.opens, Nat.lt_succ_of_lt h.lt, ?_⟩
  intro j haj hj
  rcases Nat.lt_or_eq_of_le hj with hlt | rfl
  · exact h.stays j haj (Nat.le_of_lt_succ hlt)
  · exact hnext

/-- A reader that is outside and later is not has passed a column at which a literal opens. -/
theorem exists_opensAt {text : Text} {j n : Nat} (hjn : j ≤ n) (hn : n ≤ text.length)
    (houtside : quotingAt text j = .outside) (hlater : quotingAt text n ≠ .outside) :
    ∃ k, j ≤ k ∧ k < n ∧ opensAt text k = true := by
  induction n with
  | zero =>
    obtain rfl : j = 0 := Nat.le_zero.1 hjn
    exact absurd houtside hlater
  | succ n ih =>
    have hle : j ≤ n := by
      rcases Nat.lt_or_eq_of_le hjn with hlt | rfl
      · exact Nat.le_of_lt_succ hlt
      · exact absurd houtside hlater
    by_cases hhere : quotingAt text n = .outside
    · -- only a quote leads away from outside
      rw [quotingAt_succ_ne_outside_iff hn, ← quotingAt_eq_inside_iff, hhere] at hlater
      have hquote : text[n]? = some '"' := by simpa using hlater
      exact ⟨n, hle, Nat.lt_succ_self n, opensAt_iff.2 ⟨hquote, hhere⟩⟩
    · obtain ⟨k, hjk, hkn, hopens⟩ := ih hle (Nat.le_of_succ_le hn) hhere
      exact ⟨k, hjk, Nat.lt_succ_of_lt hkn, hopens⟩

/-- All literals are closed in front of the end of the line, or the one that opens at
`closedLength` is not. -/
theorem closedLength_cases (text : Text) :
    (quotingAt text text.length ≠ .inside ∧ closedLength text = text.length) ∨
      (quotingAt text text.length = .inside ∧
        IsOpenFrom text (closedLength text) text.length) := by
  unfold closedLength
  split
  · rename_i heven
    left
    rw [Ne, quotingAt_eq_inside_iff]
    exact ⟨by omega, rfl⟩
  · rename_i hodd
    right
    have hinside : quotingAt text text.length = .inside := quotingAt_eq_inside_iff.2 (by omega)
    have hopen : ∀ j ≤ text.length, quotingAt text j = .outside →
        ∃ k, j ≤ k ∧ k < text.length ∧ opensAt text k = true := by
      intro j hj houtside
      exact exists_opensAt hj (Nat.le_refl _) houtside (by simp [hinside])
    obtain ⟨k, _, hk, hopens⟩ := hopen 0 (Nat.zero_le _) rfl
    have hlast := Nat.findGreatest_spec (P := fun k => opensAt text k = true)
      (Nat.le_of_lt hk) hopens
    obtain ⟨hquote, houtside⟩ := opensAt_iff.1 hlast
    refine ⟨hinside, houtside, (List.getElem?_eq_some_iff.1 hquote).1, ?_⟩
    -- were the reader outside again, another literal would open behind the last one
    intro j hj hjline hagain
    obtain ⟨k, hjk, hk, hopens⟩ := hopen j hjline hagain
    exact Nat.findGreatest_is_greatest (Nat.lt_of_lt_of_le hj hjk) (Nat.le_of_lt hk) hopens

theorem closedLength_le (text : Text) : closedLength text ≤ text.length := by
  rcases closedLength_cases text with ⟨_, heq⟩ | ⟨_, hopen⟩
  · exact Nat.le_of_eq heq
  · exact Nat.le_of_lt hopen.lt

theorem isQuoted_iff {text : Text} {k : Nat} :
    isQuoted text k = true ↔ k < closedLength text ∧ quotingAt text (k + 1) ≠ .outside := by
  simp only [isQuoted, Bool.and_eq_true, Bool.or_eq_true, decide_eq_true_eq, beq_iff_eq]
  refine and_congr_right fun hk => ?_
  exact (quotingAt_succ_ne_outside_iff (Nat.lt_of_lt_of_le hk (closedLength_le text))).symm

theorem isQuoted_eq_false_iff {text : Text} {k : Nat} :
    isQuoted text k = false ↔ (k < closedLength text → quotingAt text (k + 1) = .outside) := by
  rw [← Bool.not_eq_true, isQuoted_iff, not_and, not_not]

/-! ## Spans -/

/-- Where a literal that is being read ends is decided at the column that has been reached. -/
theorem isLiteral_iff_of_open {text : Text} {a k opened : Nat} (hk : k ≤ text.length)
    (hopened : quotingAt text k ≠ .outside → IsOpenFrom text opened k) :
    IsLiteral text a k ↔ a = opened ∧ quotingAt text k = .closing ∧ text[k]? ≠ some '"' := by
  constructor
  · intro h
    have hopen := hopened (h.stays k h.lt (Nat.le_refl k))
    exact ⟨h.toIsOpenFrom.unique hopen, h.closes, h.ends⟩
  · rintro ⟨rfl, hcloses, hends⟩
    exact ⟨hopened (by simp [hcloses]), hk, hcloses, hends⟩

/-- From a column on, exactly the literals that are closed there or later are found.  The induction
goes over what is left of the line; the invariant is that a literal which is being read has opened
at `opened`. -/
theorem mem_spansAt {text : Text} {k opened : Nat} (hk : k ≤ text.length)
    (hopened : quotingAt text k ≠ .outside → IsOpenFrom text opened k) {span : Span} :
    span ∈ spansAt k (quotingAt text k) opened (text.drop k) ↔
      ∃ a b : Nat, span = ⟨a, b⟩ ∧ k ≤ b ∧ IsLiteral text a b := by
  induction hrest : text.drop k generalizing k opened with
  | nil =>
    obtain rfl : k = text.length := Nat.le_antisymm hk (List.drop_eq_nil_iff.1 hrest)
    have hend : text[text.length]? = none := List.getElem?_eq_none (Nat.le_refl _)
    constructor
    · intro hspan
      cases hstate : quotingAt text text.length with
      | outside | inside => simp [hstate, spansAt, literalSpansFrom] at hspan
      | closing =>
        obtain rfl : span = ⟨opened, text.length⟩ := by
          simpa [hstate, spansAt, literalSpansFrom] using hspan
        refine ⟨opened, text.length, rfl, Nat.le_refl _, ?_⟩
        exact (isLiteral_iff_of_open hk hopened).2 ⟨rfl, hstate, by simp⟩
    · rintro ⟨a, b, rfl, hb, hliteral⟩
      obtain rfl : b = text.length := Nat.le_antisymm hliteral.within hb
      obtain ⟨rfl, hcloses, _⟩ := (isLiteral_iff_of_open hk hopened).1 hliteral
      simp [hcloses, spansAt]
  | cons c rest ih =>
    have hchar : text[k]? = some c := by
      rw [← List.head?_drop, hrest, List.head?_cons]
    have hlater : text.drop (k + 1) = rest := by
      rw [← List.tail_drop, hrest, List.tail_cons]
    have hlt : k < text.length := (List.getElem?_eq_some_iff.1 hchar).1
    have hnext : quotingAt text (k + 1) ≠ .outside →
        IsOpenFrom text (if quotingAt text k = .outside then k else opened) (k + 1) := by
      intro hstays
      split
      · rename_i houtside
        refine ⟨houtside, Nat.lt_succ_self k, ?_⟩
        intro j hkj hj
        obtain rfl : j = k + 1 := by omega
        exact hstays
      · rename_i hinside
        exact (hopened hinside).succ hstays
    have hrec := ih hlt hnext hlater
    rw [quotingAt_succ hchar] at hrec
    rw [spansAt_cons, List.mem_append, hrec]
    constructor
    · rintro (hhere | ⟨a, b, rfl, hb, hliteral⟩)
      · split at hhere
        · rename_i hcloses
          obtain rfl : span = ⟨opened, k⟩ := List.mem_singleton.1 hhere
          refine ⟨opened, k, rfl, Nat.le_refl k, (isLiteral_iff_of_open hk hopened).2 ?_⟩
          exact ⟨rfl, hcloses.1, by simpa [hchar] using hcloses.2⟩
        · cases hhere
      · exact ⟨a, b, rfl, Nat.le_of_succ_le hb, hliteral⟩
    · rintro ⟨a, b, rfl, hb, hliteral⟩
      rcases Nat.eq_or_lt_of_le hb with rfl | hbehind
      · obtain ⟨rfl, hcloses, hends⟩ := (isLiteral_iff_of_open hk hopened).1 hliteral
        left
        rw [if_pos ⟨hcloses, by simpa [hchar] using hends⟩]
        exact List.mem_singleton_self _
      · exact Or.inr ⟨a, b, rfl, hbehind, hliteral⟩

theorem mem_literalSpans {text : Text} {span : Span} :
    span ∈ literalSpans text ↔ ∃ a b : Nat, span = ⟨a, b⟩ ∧ IsLiteral text a b := by
  have hscan : span ∈ spansAt 0 (quotingAt text 0) 0 (text.drop 0) ↔
      ∃ a b : Nat, span = ⟨a, b⟩ ∧ 0 ≤ b ∧ IsLiteral text a b :=
    mem_spansAt (Nat.zero_le _) fun hinside => absurd rfl hinside
  simpa [quotingAt, spansAt, literalSpans, Quoting.after] using hscan

/-- Spans are found from left to right, and behind each of them a column is left out. -/
theorem pairwise_spansAt (column : Nat) (q : Quoting) (opened : Nat) (t : Text) :
    (spansAt column q opened t).Pairwise fun a b => a.stop < b.start := by
  induction t generalizing column q opened with
  | nil =>
    cases q with
    | outside | inside => simp [spansAt, literalSpansFrom]
    | closing => simp [spansAt, literalSpansFrom]
  | cons c rest ih =>
    rw [spansAt_cons]
    split
    · rename_i hcloses
      obtain ⟨rfl, hc⟩ := hcloses
      refine List.pairwise_cons.2 ⟨?_, ih ..⟩
      intro span hspan
      rw [Quoting.next_of_ne hc] at hspan
      have hstart := le_start_of_mem_literalSpansFrom (b := column + 1) (Nat.le_refl _)
        (by simp) hspan
      show (column : Int) < span.start
      omega
    · exact ih ..

/-! ## Runs -/

/-- A literal begins with a quote and ends with another one. -/
theorem IsLiteral.quotes {text : Text} {a b : Nat} (h : IsLiteral text a b) :
    a + 2 ≤ b ∧ text[a]? = some '"' ∧ text[b - 1]? = some '"' := by
  have hlt := h.lt
  have hwithin := h.within
  have hfirst : text[a]? = some '"' := by
    have hleaves := h.stays (a + 1) (Nat.lt_succ_self a) hlt
    rw [quotingAt_succ_ne_outside_iff (by omega), ← quotingAt_eq_inside_iff, h.opens] at hleaves
    simpa using hleaves
  have hlast : text[b - 1]? = some '"' := by
    have hquote := (quotingAt_eq_closing_iff.1 h.closes).2
    rwa [getLast?_take_of_pos (by omega) hwithin] at hquote
  refine ⟨?_, hfirst, hlast⟩
  -- behind the quote that opens it the reader is inside, and at the end it is not
  have hinside : quotingAt text (a + 1) = .inside := by
    rw [quotingAt_succ hfirst, h.opens]
    rfl
  rcases Nat.lt_or_eq_of_le (Nat.succ_le_of_lt hlt) with hlater | heq
  · exact hlater
  · rw [← heq] at h
    have hcloses := h.closes
    rw [hinside] at hcloses
    cases hcloses

/-- Literals end where all of them are closed, or before. -/
theorem IsLiteral.le_closedLength {text : Text} {a b : Nat} (h : IsLiteral text a b) :
    b ≤ closedLength text := by
  have hwithin := h.within
  rcases closedLength_cases text with ⟨_, heq⟩ | ⟨hinside, hopen⟩
  · omega
  · refine Nat.le_of_not_lt fun hbehind => ?_
    rcases Nat.lt_or_eq_of_le hwithin with hlt | rfl
    · -- behind its end the reader is outside
      refine hopen.stays (b + 1) (by omega) hlt ?_
      have hother := h.ends
      rw [List.getElem?_eq_getElem hlt, Ne, Option.some.injEq] at hother
      rw [quotingAt_succ (List.getElem?_eq_getElem hlt), h.closes, Quoting.next_of_ne hother]
      rfl
    · rw [h.closes] at hinside
      cases hinside

theorem IsLiteral.isColumnRun {text : Text} {a b : Nat} (h : IsLiteral text a b) :
    IsColumnRun (isQuoted text) a b := by
  have hbound := h.le_closedLength
  refine ⟨h.lt, ?_, ?_, ?_⟩
  · intro k hak hkb
    exact isQuoted_iff.2 ⟨by omega, h.stays (k + 1) (by omega) hkb⟩
  · rintro k rfl
    exact isQuoted_eq_false_iff.2 fun _ => h.opens
  · refine isQuoted_eq_false_iff.2 fun hlt => ?_
    have hle := closedLength_le text
    rw [← not_ne_iff, quotingAt_succ_ne_outside_iff (by omega), not_or, ← quotingAt_eq_inside_iff,
      h.closes]
    exact ⟨h.ends, by simp⟩

/-- Behind the last column of a run the reader is not inside, and no quote follows. -/
theorem IsColumnRun.ends {text : Text} {a b : Nat} (h : IsColumnRun (isQuoted text) a b)
    (hbound : b ≤ closedLength text) (hopen : quotingAt text b ≠ .outside) :
    quotingAt text b ≠ .inside ∧ text[b]? ≠ some '"' := by
  rcases Nat.lt_or_eq_of_le hbound with hlt | heq
  · have hle := closedLength_le text
    have hright := isQuoted_eq_false_iff.1 h.right hlt
    rw [← not_ne_iff, quotingAt_succ_ne_outside_iff (by omega), not_or,
      ← quotingAt_eq_inside_iff] at hright
    exact hright.symm
  · rcases closedLength_cases text with ⟨hclosed, hend⟩ | ⟨_, hunclosed⟩
    · rw [heq, hend]
      exact ⟨hclosed, by simp⟩
    · -- the reader is outside where the literal opens that is never closed
      exact absurd (heq ▸ hunclosed.opens) hopen

theorem IsColumnRun.isLiteral {text : Text} {a b : Nat} (h : IsColumnRun (isQuoted text) a b) :
    IsLiteral text a b := by
  have hnonempty := h.nonempty
  have hle := closedLength_le text
  have hbound : b ≤ closedLength text := by
    have hlast := (isQuoted_iff.1 (h.passes (b - 1) (by omega) (by omega))).1
    omega
  have hopens : quotingAt text a = .outside := by
    cases a with
    | zero => rfl
    | succ a => exact isQuoted_eq_false_iff.1 (h.left a rfl) (by omega)
  have hstays : ∀ j, a < j → j ≤ b → quotingAt text j ≠ .outside := by
    intro j haj hjb
    have hquoted := (isQuoted_iff.1 (h.passes (j - 1) (by omega) (by omega))).2
    rwa [show j - 1 + 1 = j by omega] at hquoted
  have hopen := hstays b hnonempty (Nat.le_refl b)
  obtain ⟨hinside, hquote⟩ := h.ends hbound hopen
  refine ⟨⟨hopens, hnonempty, hstays⟩, Nat.le_trans hbound hle, ?_, hquote⟩
  cases hstate : quotingAt text b with
  | outside => exact absurd hstate hopen
  | inside => exact absurd hstate hinside
  | closing => rfl

/-- The literals are the maximal runs of the columns that parity tells. -/
theorem isColumnRun_isQuoted_iff {text : Text} {a b : Nat} :
    IsColumnRun (isQuoted text) a b ↔ IsLiteral text a b :=
  ⟨IsColumnRun.isLiteral, IsLiteral.isColumnRun⟩

/-- Columns that pass a test, from some column on up to `k`, and none in front of them. -/
theorem exists_start_of_test {test : Nat → Bool} {k : Nat} (hk : test k = true) :
    ∃ a, a ≤ k ∧ (∀ j, a ≤ j → j ≤ k → test j = true) ∧ ∀ j, j + 1 = a → test j = false := by
  induction k with
  | zero =>
    refine ⟨0, Nat.le_refl 0, ?_, by simp⟩
    intro j _ hj
    rwa [Nat.le_zero.1 hj]
  | succ k ih =>
    cases hbefore : test k with
    | false =>
      refine ⟨k + 1, Nat.le_refl _, ?_, ?_⟩
      · intro j hj hj'
        rwa [Nat.le_antisymm hj' hj]
      · intro j hj
        rwa [Nat.succ.inj hj]
    | true =>
      obtain ⟨a, ha, hpasses, hleft⟩ := ih hbefore
      refine ⟨a, Nat.le_succ_of_le ha, ?_, hleft⟩
      intro j haj hj
      rcases Nat.lt_or_eq_of_le hj with hlt | rfl
      · exact hpasses j haj (Nat.le_of_lt_succ hlt)
      · exact hk

/-- A column that passes a test lies in a maximal run of such columns, if a later one does not
pass. -/
theorem exists_isColumnRun {test : Nat → Bool} {k n : Nat} (hk : test k = true)
    (hn : test n = false) (hkn : k < n) : ∃ a b, a ≤ k ∧ k < b ∧ IsColumnRun test a b := by
  have hsome : ∃ b, k < b ∧ test b = false := ⟨n, hkn, hn⟩
  obtain ⟨a, ha, hpasses, hleft⟩ := exists_start_of_test hk
  obtain ⟨hkb, hright⟩ := Nat.find_spec hsome
  refine ⟨a, Nat.find hsome, ha, hkb, by omega, ?_, hleft, hright⟩
  intro j haj hj
  rcases Nat.lt_or_ge k j with hkj | hjk
  · -- the first column behind `k` that does not pass lies further right
    have hfirst := Nat.find_min hsome hj
    simpa [hkj] using hfirst
  · exact hpasses j haj hjk

/-- A column is inside the spans of the literals iff parity says so. -/
theorem insideAny_literalSpans {text : Text} {column : Int} :
    insideAny (literalSpans text) column = true ↔
      ∃ k : Nat, column = k ∧ isQuoted text k = true := by
  rw [insideAny, List.any_eq_true]
  constructor
  · rintro ⟨span, hspan, hcontains⟩
    obtain ⟨a, b, rfl, hliteral⟩ := mem_literalSpans.1 hspan
    simp only [Span.contains, Bool.and_eq_true, decide_eq_true_eq] at hcontains
    obtain ⟨k, rfl⟩ := Int.eq_ofNat_of_zero_le (show 0 ≤ column by omega)
    exact ⟨k, rfl, hliteral.isColumnRun.passes k (by omega) (by omega)⟩
  · rintro ⟨k, rfl, hquoted⟩
    have hbound := (isQuoted_iff.1 hquoted).1
    have hfree : isQuoted text (closedLength text) = false :=
      isQuoted_eq_false_iff.2 fun hlt => absurd hlt (Nat.lt_irrefl _)
    obtain ⟨a, b, hak, hkb, hrun⟩ := exists_isColumnRun hquoted hfree hbound
    refine ⟨⟨a, b⟩, mem_literalSpans.2 ⟨a, b, rfl, hrun.isLiteral⟩, ?_⟩
    simp only [Span.contains, Bool.and_eq_true, decide_eq_true_eq]
    omega

/-- **Literals go by parity.**  A column of a line is inside the spans of its literals iff it lies
before the literal that the line leaves open, if it leaves one open, and is a quote or has an odd
number of quotes before it.  The spans are the maximal runs of these columns, from left to right,
and each of them begins and ends with a quote. -/
theorem literalSpans_parity (text : Text) : ClassifiesQuotes text (literalSpans text) := by
  refine ⟨fun column => insideAny_literalSpans, ?_, pairwise_spansAt 0 .outside 0 text, ?_⟩
  · intro span
    simp only [mem_literalSpans, isColumnRun_isQuoted_iff]
  · intro span hspan
    obtain ⟨a, b, rfl, hliteral⟩ := mem_literalSpans.1 hspan
    exact ⟨a, b, rfl, hliteral.quotes⟩

/-- A literal that holds a quote, one that is empty, and one that stays open: of the three quotes at
its front the first opens it, and the others stand for one quote of its text. -/
example : closedLength "\"a\"\"b\" & \"\" & \"\"\"c".toList = 14 ∧
    literalSpans "\"a\"\"b\" & \"\" & \"\"\"c".toList = [⟨0, 6⟩, ⟨9, 11⟩] := by
  decide

end RenamePlan
