import RenamePlan.Edit.Request
import RenamePlan.Line.Comment
import RenamePlan.Proofs.Line.Occurrence
import RenamePlan.Proofs.Text.Classes

/-!
# The code part of a line

The code part of a line has the columns of the line, and a rename finds in it what it finds in the
line before the comment (`selectIn_code`).  Three scans have to agree at the cut:

* the search for matches, as no word goes on behind the cut (`findMatches_code`);
* the search for literals, as none is open where a comment begins (`literalSpans_code`);
* the choice of an occurrence, as the matches before the cut come first
  (`pickOccurrence_filter`).
-/

namespace RenamePlan

/-! ## The scans, step by step -/

section Scans

variable (column opened : Nat) (c : Char) (rest : Text)

theorem literalSpansFrom_none_cons :
    literalSpansFrom column none (c :: rest) =
      literalSpansFrom (column + 1) (if c = '"' then some column else none) rest := by
  rw [literalSpansFrom]
  split <;> rfl

theorem literalSpansFrom_some_pair :
    literalSpansFrom column (some opened) ('"' :: '"' :: rest) =
      literalSpansFrom (column + 2) (some opened) rest := by
  rw [literalSpansFrom]

variable {c rest}

theorem literalSpansFrom_some_quote (h : rest.head? ≠ some '"') :
    literalSpansFrom column (some opened) ('"' :: rest) =
      ⟨opened, column + 1⟩ :: literalSpansFrom (column + 1) none rest := by
  rw [literalSpansFrom, if_pos rfl]
  intro later _ heq
  exact h (by rw [heq, List.head?_cons])

theorem literalSpansFrom_some_other (h : c ≠ '"') :
    literalSpansFrom column (some opened) (c :: rest) =
      literalSpansFrom (column + 1) (some opened) rest := by
  rw [literalSpansFrom, if_neg h]
  intro later heq
  exact absurd heq h

end Scans

/-! ## Literals in front of a comment -/

/-- A comment begins with an apostrophe. -/
theorem getElem?_of_codeLength? {inside : Bool} {t : Text} {k : Nat}
    (h : codeLength? inside t = some k) : t[k]? = some '\'' := by
  fun_induction codeLength? inside t generalizing k with
  | case1 => cases h
  | case2 rest =>
    obtain rfl := Option.some.inj h
    rfl
  | case3 c rest hc ih =>
    obtain ⟨j, hj, rfl⟩ := Option.map_eq_some_iff.1 h
    exact ih hj
  | case4 rest ih =>
    obtain ⟨j, hj, rfl⟩ := Option.map_eq_some_iff.1 h
    exact ih hj
  | case5 c rest hpair ih =>
    obtain ⟨j, hj, rfl⟩ := Option.map_eq_some_iff.1 h
    exact ih hj

/-- Where a comment begins no literal is open, so the search for literals starts there anew. -/
theorem literalSpansFrom_of_codeLength? {inside : Bool} {t : Text} {k : Nat}
    (h : codeLength? inside t = some k) (column : Nat) (opened : Option Nat)
    (hopened : opened.isSome = inside) :
    literalSpansFrom column opened t =
      literalSpansFrom column opened (t.take k) ++
        literalSpansFrom (column + k) none (t.drop k) := by
  fun_induction codeLength? inside t generalizing k column opened with
  | case1 => cases h
  | case2 rest =>
    obtain rfl := Option.some.inj h
    have hnone : opened = none := by simpa using hopened
    rw [hnone, List.take_zero, literalSpansFrom]
    rfl
  | case3 c rest hc ih =>
    obtain ⟨j, hj, rfl⟩ := Option.map_eq_some_iff.1 h
    have hnone : opened = none := by simpa using hopened
    have hstate : (if c = '"' then some column else none).isSome = decide (c = '"') := by
      split <;> simp_all
    rw [hnone, List.take_succ_cons, List.drop_succ_cons, literalSpansFrom_none_cons,
      literalSpansFrom_none_cons, ih hj (column + 1) _ hstate, Nat.add_assoc, Nat.add_comm 1 j]
  | case4 rest ih =>
    obtain ⟨j, hj, rfl⟩ := Option.map_eq_some_iff.1 h
    obtain ⟨o, rfl⟩ := Option.isSome_iff_exists.1 hopened
    rw [List.take_succ_cons, List.take_succ_cons, List.drop_succ_cons, List.drop_succ_cons,
      literalSpansFrom_some_pair, literalSpansFrom_some_pair, ih hj (column + 2) (some o) rfl,
      Nat.add_assoc, Nat.add_comm 2 j]
  | case5 c rest hpair ih =>
    obtain ⟨j, hj, rfl⟩ := Option.map_eq_some_iff.1 h
    obtain ⟨o, rfl⟩ := Option.isSome_iff_exists.1 hopened
    rw [List.take_succ_cons, List.drop_succ_cons]
    by_cases hc : c = '"'
    · -- the quote closes the literal, in the whole text and in its front part
      subst hc
      have hrest : rest.head? ≠ some '"' := by
        intro hhead
        cases rest with
        | nil => cases hhead
        | cons d later => exact hpair later rfl (by rw [Option.some.inj hhead])
      have hfront : (rest.take j).head? ≠ some '"' := by
        rw [List.head?_take]
        split
        · simp
        · exact hrest
      rw [literalSpansFrom_some_quote column o hrest, literalSpansFrom_some_quote column o hfront,
        ih hj (column + 1) none (by simp), Nat.add_assoc, Nat.add_comm 1 j, List.cons_append]
    · rw [literalSpansFrom_some_other column o hc, literalSpansFrom_some_other column o hc,
        ih hj (column + 1) (some o) (by simp [hc]), Nat.add_assoc, Nat.add_comm 1 j]

/-- Text without quotes closes no literal. -/
theorem literalSpansFrom_eq_nil {t : Text} (h : '"' ∉ t) (column : Nat) (opened : Option Nat) :
    literalSpansFrom column opened t = [] := by
  induction t generalizing column opened with
  | nil => rw [literalSpansFrom]
  | cons c t ih =>
    obtain ⟨hc, ht⟩ := not_or.1 (mt List.mem_cons.2 h)
    cases opened with
    | none => rw [literalSpansFrom_none_cons, ih ht]
    | some o => rw [literalSpansFrom_some_other column o (Ne.symm hc), ih ht]

/-- Text without quotes at the end of a line changes no literal. -/
theorem literalSpansFrom_append {code later : Text} (h : '"' ∉ later) (column : Nat)
    (opened : Option Nat) :
    literalSpansFrom column opened (code ++ later) = literalSpansFrom column opened code := by
  fun_induction literalSpansFrom column opened code with
  | case1 => exact literalSpansFrom_eq_nil h ..
  | case2 column rest ih =>
    rw [List.cons_append, literalSpansFrom_none_cons, if_pos rfl, ih]
  | case3 column c rest hc ih =>
    rw [List.cons_append, literalSpansFrom_none_cons, if_neg hc, ih]
  | case4 column o rest ih =>
    rw [List.cons_append, List.cons_append, literalSpansFrom_some_pair, ih]
  | case5 column o rest hpair ih =>
    have hhead : (rest ++ later).head? ≠ some '"' := by
      cases rest with
      | nil => exact fun hhead => h (List.mem_of_mem_head? hhead)
      | cons d rest => exact fun hhead => hpair rest rfl (by rw [Option.some.inj hhead])
    rw [List.cons_append, literalSpansFrom_some_quote column o hhead, ih]
  | case6 column o c rest hpair hc ih =>
    rw [List.cons_append, literalSpansFrom_some_other column o hc, ih]

/-- A literal that is not open yet begins at the column that has been reached, or behind it. -/
theorem le_start_of_mem_literalSpansFrom {t : Text} {column : Nat} {opened : Option Nat} {b : Nat}
    (hcolumn : b ≤ column) (hopened : ∀ o ∈ opened, b ≤ o) {span : Span}
    (h : span ∈ literalSpansFrom column opened t) : (b : Int) ≤ span.start := by
  fun_induction literalSpansFrom column opened t with
  | case1 => cases h
  | case2 column rest ih =>
    exact ih (by omega) (fun o ho => by rw [← Option.some.inj ho]; exact hcolumn) h
  | case3 column c rest hc ih => exact ih (by omega) (fun o ho => by cases ho) h
  | case4 column o rest ih => exact ih (by omega) hopened h
  | case5 column o rest hpair ih =>
    rcases List.mem_cons.1 h with rfl | h
    · exact Int.ofNat_le.2 (hopened o rfl)
    · exact ih (by omega) (fun o ho => by cases ho) h
  | case6 column o c rest hpair hc ih => exact ih (by omega) hopened h

/-! ## The cut between code and comment -/

theorem quote_notMem_of_isBlank {blanks : Text} (h : ∀ c ∈ blanks, isBlank c = true) :
    '"' ∉ blanks := by
  intro hmem
  exact absurd (h _ hmem) (by decide)

/-- A comment begins with no word character. -/
theorem head?_comment (line : Text) :
    (splitComment line).comment.head?.any isWord = false := by
  unfold splitComment
  cases h : codeLength? false line with
  | none => rfl
  | some k =>
    show (line.drop k).head?.any isWord = false
    rw [List.head?_drop, getElem?_of_codeLength? h]
    rfl

/-- The code part is the front of the line, and no word goes on behind it. -/
theorem exists_code_append (line : Text) :
    ∃ rest : Text, line = (splitComment line).code ++ rest ∧
      rest.head?.any isWord = false := by
  obtain ⟨blanks, hblanks, hline⟩ := splitComment_eq line
  refine ⟨blanks ++ (splitComment line).comment, by rwa [← List.append_assoc], ?_⟩
  -- behind the code stands a blank or, where there is none, the comment
  cases blanks with
  | nil => exact head?_comment line
  | cons c blanks => exact isWord_of_isBlank (hblanks c List.mem_cons_self)

theorem length_trimRight_take_le (line : Text) (k : Nat) :
    (trimRight (line.take k)).length ≤ k := by
  obtain ⟨blanks, hcode, _⟩ := exists_trimRight_append (line.take k)
  have htake : (line.take k).length ≤ k := List.length_take_le ..
  rw [hcode, List.length_append] at htake
  omega

/-- In front of a comment there are the literals of the code, and behind it others. -/
theorem literalSpans_of_codeLength? {line : Text} {k : Nat} (h : codeLength? false line = some k) :
    literalSpans line =
      literalSpans (trimRight (line.take k)) ++ literalSpansFrom k none (line.drop k) := by
  obtain ⟨blanks, hcode, hblanks⟩ := exists_trimRight_append (line.take k)
  have hfront : literalSpansFrom 0 none (line.take k) =
      literalSpansFrom 0 none (trimRight (line.take k)) :=
    (congrArg (literalSpansFrom 0 none) hcode).trans
      (literalSpansFrom_append (quote_notMem_of_isBlank hblanks) 0 none)
  rw [literalSpans, literalSpansFrom_of_codeLength? h 0 none rfl, hfront, Nat.zero_add]
  rfl

/-- The literals of the line are those of its code, and others that begin behind it. -/
theorem literalSpans_splitComment (line : Text) :
    ∃ k, (splitComment line).code.length ≤ k ∧
      literalSpans line = literalSpans (splitComment line).code ++
        literalSpansFrom k none (splitComment line).comment := by
  unfold splitComment
  cases h : codeLength? false line with
  | none => exact ⟨line.length, Nat.le_refl _, by rw [literalSpansFrom, List.append_nil]⟩
  | some k => exact ⟨k, length_trimRight_take_le line k, literalSpans_of_codeLength? h⟩

/-- A column of the code part lies in a literal of the code as in one of the line. -/
theorem literalSpans_code (line : Text) {column : Nat}
    (h : column < (splitComment line).code.length) :
    insideAny (literalSpans (splitComment line).code) column =
      insideAny (literalSpans line) column := by
  obtain ⟨k, hk, hspans⟩ := literalSpans_splitComment line
  -- the other literals begin behind the code part
  have hlater : insideAny (literalSpansFrom k none (splitComment line).comment) column = false := by
    rw [insideAny, List.any_eq_false]
    intro span hspan hcontains
    have hstart := le_start_of_mem_literalSpansFrom (Nat.le_refl k) (by simp) hspan
    rw [Span.contains, Bool.and_eq_true, decide_eq_true_eq] at hcontains
    omega
  rw [hspans, insideAny, insideAny, List.any_append, ← insideAny, ← insideAny, hlater,
    Bool.or_false]

/-! ## Matches in the code part -/

/-- The matches in the code part are those of the line that end there. -/
theorem findMatches_code (line name : Text) :
    findMatches (splitComment line).code name =
      (findMatches line name).filter fun m => m.stop ≤ (splitComment line).code.length := by
  obtain ⟨rest, hline, hcut⟩ := exists_code_append line
  rw [findMatches_append hcut, ← hline]

/-- Leaving out matches in literals commutes with cutting the line. -/
theorem eligibleMatches_code (line name : Text) (skipLiterals : Bool) :
    eligibleMatches (splitComment line).code name skipLiterals =
      (eligibleMatches line name skipLiterals).filter
        fun m => m.stop ≤ (splitComment line).code.length := by
  cases skipLiterals with
  | false => exact findMatches_code line name
  | true =>
    show (findMatches (splitComment line).code name).filter _ =
      ((findMatches line name).filter _).filter _
    rw [findMatches_code, List.filter_filter, List.filter_filter]
    refine List.filter_congr fun m hm => ?_
    by_cases hstop : m.stop ≤ (splitComment line).code.length
    · have hlt := start_lt_stop_of_mem_findMatches hm
      rw [literalSpans_code line (by omega), Bool.and_comm]
    · rw [decide_eq_false hstop, Bool.and_false, Bool.false_and]

/-- Where an entry that passes a test has only such entries before it, the index of an entry does
not change when the others are left out. -/
theorem getElem?_filter_of_pairwise {α : Type} {p : α → Bool} {entries : List α}
    (h : entries.Pairwise fun a b => p b = true → p a = true) (i : Nat) :
    (entries.filter p)[i]? = entries[i]?.filter p := by
  induction entries generalizing i with
  | nil => rfl
  | cons entry later ih =>
    obtain ⟨hfirst, hlater⟩ := List.pairwise_cons.1 h
    by_cases hentry : p entry = true
    · rw [List.filter_cons_of_pos hentry]
      cases i with
      | zero => exact (if_pos hentry).symm
      | succ i => exact ih hlater i
    · have hnone : (entry :: later).filter p = [] := by
        rw [List.filter_eq_nil_iff]
        intro x hx hpx
        rcases List.mem_cons.1 hx with rfl | hx
        · exact hentry hpx
        · exact hentry (hfirst x hx hpx)
      rw [hnone, List.getElem?_nil, eq_comm, Option.filter_eq_none_iff]
      intro x hx hpx
      exact List.filter_eq_nil_iff.1 hnone x (List.mem_of_getElem? hx) hpx

/-- Such entries keep their number when one of them is picked. -/
theorem pickOccurrence_filter {α : Type} {p : α → Bool} {entries : List α}
    (h : entries.Pairwise fun a b => p b = true → p a = true) (occurrence : Int) :
    pickOccurrence occurrence (entries.filter p) =
      (pickOccurrence occurrence entries).filter p := by
  unfold pickOccurrence
  split
  · rw [getElem?_filter_of_pairwise h]
    cases entries[occurrence.toNat - 1]? with
    | none => rfl
    | some entry => by_cases hentry : p entry = true <;> simp [hentry]
  · rfl

theorem pairwise_stop_eligibleMatches (line name : Text) (skipLiterals : Bool) (bound : Nat) :
    (eligibleMatches line name skipLiterals).Pairwise
      fun a b => decide (b.stop ≤ bound) = true → decide (a.stop ≤ bound) = true := by
  have hmatches : (findMatches line name).Pairwise
      fun a b => decide (b.stop ≤ bound) = true → decide (a.stop ≤ bound) = true := by
    refine (pairwise_findMatches line name).imp_of_mem fun {a b} _ hb hle hbound => ?_
    have hlt := start_lt_stop_of_mem_findMatches hb
    rw [decide_eq_true_eq] at hbound ⊢
    omega
  unfold eligibleMatches
  split
  · exact hmatches.sublist List.filter_sublist
  · exact hmatches

/-- A rename selects in the code part what it selects in the line before the comment. -/
theorem selectMatches_code (line old new : Text) (occurrence : Int) (skipLiterals : Bool) :
    selectMatches (splitComment line).code old new occurrence skipLiterals =
      (selectMatches line old new occurrence skipLiterals).filter
        fun m => m.stop ≤ (splitComment line).code.length := by
  unfold selectMatches
  split
  · rfl
  · rw [eligibleMatches_code, pickOccurrence_filter (pairwise_stop_eligibleMatches ..)]

/-- **Code and line agree.**  Whatever a rename asks for, in the code part of a line it selects the
matches that it selects in the whole line and that end in the code part, with their columns and
texts.  Taking the comment away moves no column, opens or closes no literal and renumbers no
occurrence. -/
theorem selectIn_code (line old new : Text) (occurrence : Int) (skipLiterals : Bool) :
    ∃ whole : List Match,
      selectIn (.text line) (.text old) (.text new) (.int occurrence) skipLiterals = .ok whole ∧
      selectIn (.text (splitComment line).code) (.text old) (.text new) (.int occurrence)
          skipLiterals =
        .ok (whole.filter fun m => m.stop ≤ (splitComment line).code.length) := by
  refine ⟨selectMatches line old new occurrence skipLiterals, selectIn_plain .., ?_⟩
  rw [selectIn_plain, selectMatches_code]

end RenamePlan
