import RenamePlan.Proofs.Line.QuoteParity

/-!
# Where the comment begins

The comment of a line begins at its first apostrophe that has an even number of quotes before it
(`codeLength?_eq_some_iff`).  So the search for the comment and the search for literals, which count
quotes each for itself, agree on every line: the comment begins in no literal, and the literals of
the code are those of the line that begin before the comment (`splitComment_first_mark`), whatever
quotes the comment has.
-/

namespace RenamePlan

/-- Whether column `k` is an apostrophe with an even number of quotes before it. -/
def marksComment (text : Text) (k : Nat) : Bool :=
  text[k]? == some '\'' && quotesBefore text k % 2 == 0

theorem marksComment_iff {text : Text} {k : Nat} :
    marksComment text k = true ↔ text[k]? = some '\'' ∧ quotingAt text k ≠ .inside := by
  rw [Ne, quotingAt_eq_inside_iff]
  simp only [marksComment, Bool.and_eq_true, beq_iff_eq]
  refine and_congr_right fun _ => ?_
  omega

/-! ## The search for the comment -/

/-- Where a comment begins, the reader is not inside a literal. -/
theorem after_of_codeLength? {q : Quoting} {t : Text} {k : Nat}
    (h : codeLength? (q = .inside) t = some k) : q.after (t.take k) ≠ .inside := by
  induction t generalizing q k with
  | nil => simp [codeLength?] at h
  | cons c rest ih =>
    rw [codeLength?_cons] at h
    split at h
    · rename_i hmark
      obtain rfl := Option.some.inj h
      exact hmark.2
    · obtain ⟨n, hn, rfl⟩ := Option.map_eq_some_iff.1 h
      exact ih hn

/-- The code ends at the first apostrophe that marks a comment. -/
theorem codeLength?_eq_some_iff {text : Text} {k : Nat} :
    codeLength? false text = some k ↔
      marksComment text k = true ∧ ∀ j < k, marksComment text j = false := by
  have hfound : ∀ j, marksComment text j = true → ∃ n, n ≤ j ∧ codeLength? false text = some n := by
    intro j hj
    obtain ⟨happostrophe, houtside⟩ := marksComment_iff.1 hj
    exact exists_codeLength?_le happostrophe houtside
  have hsound : ∀ n, codeLength? false text = some n → marksComment text n = true := by
    intro n hn
    exact marksComment_iff.2 ⟨getElem?_of_codeLength? hn, after_of_codeLength? hn⟩
  constructor
  · intro h
    refine ⟨hsound k h, ?_⟩
    intro j hj
    rw [← Bool.not_eq_true]
    intro hmark
    obtain ⟨n, hn, hlength⟩ := hfound j hmark
    have hsame : k = n := Option.some.inj (h.symm.trans hlength)
    omega
  · rintro ⟨hmark, hfirst⟩
    obtain ⟨n, hn, hlength⟩ := hfound k hmark
    rcases Nat.lt_or_eq_of_le hn with hlt | rfl
    · have hearlier := hsound n hlength
      rw [hfirst n hlt] at hearlier
      cases hearlier
    · exact hlength

theorem codeLength?_eq_none {text : Text} (h : ∀ k, marksComment text k = false) :
    codeLength? false text = none := by
  rw [Option.eq_none_iff_forall_ne_some]
  intro k hk
  have hmark := (codeLength?_eq_some_iff.1 hk).1
  rw [h k] at hmark
  cases hmark

/-! ## The code -/

/-- A text that has been trimmed does not end with a blank. -/
theorem isBlank_getLast?_trimRight (t : Text) :
    ∀ c ∈ (trimRight t).getLast?, isBlank c = false := by
  intro c hc
  rw [trimRight, List.getLast?_reverse] at hc
  have hhead := List.head?_dropWhile_not isBlank t.reverse
  rw [hc] at hhead
  exact hhead

/-- Whether a column marks a comment is decided by the line up to that column. -/
theorem marksComment_append {code : Text} (rest : Text) {j : Nat} (hj : j < code.length) :
    marksComment (code ++ rest) j = marksComment code j := by
  rw [marksComment, marksComment, quotesBefore, quotesBefore, List.getElem?_append_left hj,
    List.take_append_of_le_length (Nat.le_of_lt hj)]

/-- No column of the code marks a comment. -/
theorem marksComment_code (text : Text) (j : Nat) :
    marksComment (splitComment text).code j = false := by
  rw [← Bool.not_eq_true]
  intro hmark
  have hlt := (List.getElem?_eq_some_iff.1 (marksComment_iff.1 hmark).1).1
  obtain ⟨rest, hline, _⟩ := exists_code_append text
  have hsame := marksComment_append rest hlt
  rw [← hline, hmark] at hsame
  -- the column marks a comment of the line too, and the code of the line ends before it
  obtain ⟨hapostrophe, houtside⟩ := marksComment_iff.1 hsame
  have hle := length_code_le hapostrophe houtside
  omega

/-- The literals of the code are those of the line that begin in front of the comment. -/
theorem literalSpans_code_eq_filter {text : Text} {k : Nat} (h : codeLength? false text = some k) :
    literalSpans (trimRight (text.take k)) =
      (literalSpans text).filter fun span => span.start < (k : Int) := by
  have hcode : ∀ span ∈ literalSpans (trimRight (text.take k)), span.start < k := by
    intro span hspan
    obtain ⟨a, b, rfl, hliteral⟩ := mem_literalSpans.1 hspan
    have hlt := hliteral.lt
    have hwithin := hliteral.within
    have hlength := length_trimRight_take_le text k
    exact Int.ofNat_lt.2 (by omega)
  have hcomment : ∀ span ∈ literalSpansFrom k none (text.drop k), ¬ span.start < k := by
    intro span hspan
    exact Int.not_lt.2 (le_start_of_mem_literalSpansFrom (Nat.le_refl k) (by simp) hspan)
  rw [literalSpans_of_codeLength? h, List.filter_append,
    List.filter_eq_self.2 fun span hspan => decide_eq_true (hcode span hspan),
    List.filter_eq_nil_iff.2 fun span hspan => by simpa using hcomment span hspan,
    List.append_nil]

/-- **The comment begins at the first mark.**  A line in which no apostrophe has an even number of
quotes before it is all code.  Any other line is cut in front of the first such apostrophe: what
follows is the comment, and what stands before it, without the blanks at its end, is the code.  The
apostrophe lies in no literal of the line, and those that begin before it are the literals of the
code.  Always the line is the code, blanks and the comment, and the code has no comment of its
own. -/
theorem splitComment_first_mark (text : Text) :
    ((∀ k, marksComment text k = false) → splitComment text = ⟨text, []⟩) ∧
      (∀ k, marksComment text k = true → (∀ j < k, marksComment text j = false) →
        splitComment text = ⟨trimRight (text.take k), text.drop k⟩ ∧
          (∀ c ∈ (splitComment text).code.getLast?, isBlank c = false) ∧
          insideAny (literalSpans text) k = false ∧
          literalSpans (splitComment text).code =
            (literalSpans text).filter fun span => span.start < (k : Int)) ∧
      (∃ blanks : Text, (∀ c ∈ blanks, isBlank c = true) ∧
        text = (splitComment text).code ++ blanks ++ (splitComment text).comment) ∧
      splitComment (splitComment text).code = ⟨(splitComment text).code, []⟩ := by
  have hwhole : ∀ line : Text, (∀ k, marksComment line k = false) →
      splitComment line = ⟨line, []⟩ := by
    intro line hnone
    rw [splitComment, codeLength?_eq_none hnone]
  refine ⟨hwhole text, ?_, splitComment_eq text, hwhole _ (marksComment_code text)⟩
  intro k hmark hfirst
  have hlength := codeLength?_eq_some_iff.2 ⟨hmark, hfirst⟩
  have hsplit : splitComment text = ⟨trimRight (text.take k), text.drop k⟩ := by
    rw [splitComment, hlength]
  rw [hsplit]
  refine ⟨rfl, isBlank_getLast?_trimRight _, ?_, literalSpans_code_eq_filter hlength⟩
  -- an apostrophe is no quote, and parity puts it outside
  rw [← Bool.not_eq_true, insideAny_literalSpans]
  rintro ⟨j, hj, hquoted⟩
  obtain rfl : k = j := Int.ofNat_inj.1 hj
  obtain ⟨hbound, hstays⟩ := isQuoted_iff.1 hquoted
  have hlt := Nat.lt_of_lt_of_le hbound (closedLength_le text)
  obtain ⟨hapostrophe, houtside⟩ := marksComment_iff.1 hmark
  rw [quotingAt_succ_ne_outside_iff hlt, ← quotingAt_eq_inside_iff, hapostrophe] at hstays
  rcases hstays with hquote | hinside
  · cases hquote
  · exact houtside hinside

end RenamePlan
