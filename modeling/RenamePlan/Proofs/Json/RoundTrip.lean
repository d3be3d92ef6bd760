import Mathlib.Data.List.Basic
import Mathlib.Tactic.IntervalCases
import RenamePlan.Json.Reader
import RenamePlan.Json.Writer

/-!
# Written values can be read

`Json.parse?` reads from a written value that value, whatever characters its texts hold and whatever
size its numbers have (`parse?_render`).  Fractions are left out: `Json.isWhole` says that a value
holds none.

* **Texts** — a character is read from the way in which it is written (`readChar_escapeChar`), so a
  text is read up to the quote that closes it (`readText_escaped`).
* **Numbers** — a whole number is read from its digits, if what follows cannot be part of a number
  (`readNumber_decimal`).
* **Values** — the readers of values, items and fields take what was written and leave what follows
  (`readsBack`, by induction on their steps).  They never run out of steps: a value has more
  characters than its reading has steps.
-/

namespace RenamePlan

/-- Whether the lines of the layout begin with blanks only. -/
def Layout.IsBlank : Layout → Prop
  | oneLine => True
  | broken unit => unit.all Json.isSpace = true

theorem Layout.isBlank_spaces (width : Nat) : (broken (List.replicate width ' ')).IsBlank := by
  simp [IsBlank, Json.isSpace]

namespace Json

/-! ## Blanks -/

theorem skipSpace_append {blanks : Text} (h : blanks.all isSpace = true) (t : Text) :
    skipSpace (blanks ++ t) = skipSpace t :=
  List.dropWhile_append_of_pos (List.all_eq_true.1 h)

theorem skipSpace_cons {c : Char} (h : isSpace c = false) (t : Text) :
    skipSpace (c :: t) = c :: t :=
  List.dropWhile_cons_of_neg (by simp [h])

theorem all_isSpace_lineStart {layout : Layout} (h : layout.IsBlank) (depth : Nat) :
    (layout.lineStart depth).all isSpace = true := by
  cases layout with
  | oneLine => rfl
  | broken unit =>
    simp only [Layout.lineStart, List.all_cons, List.all_flatten, List.all_replicate]
    rw [show unit.all isSpace = true from h]
    cases depth <;> rfl

/-- Behind its comma a separator is blank. -/
theorem exists_separator {layout : Layout} (h : layout.IsBlank) (depth : Nat) :
    ∃ gap, layout.separator depth = ',' :: gap ∧ gap.all isSpace = true := by
  cases layout with
  | oneLine => exact ⟨[' '], rfl, rfl⟩
  | broken unit => exact ⟨_, rfl, all_isSpace_lineStart h depth⟩

/-! ## Texts -/

theorem readUnit_hexDigits {n : Nat} (h : n < 0x20) (rest : Text) :
    readUnit (hexDigits 4 n ++ rest) = some (n, rest) := by
  interval_cases n <;> rfl

/-- A character is read from the way in which it is written. -/
theorem readChar_escapeChar (c : Char) (rest : Text) :
    readChar (escapeChar c ++ rest) = some (c, rest) := by
  have hpoint : ∀ {n : Nat}, c.toNat = n → Char.ofNat n = c := by
    rintro n rfl
    exact Char.ofNat_toNat c
  unfold escapeChar
  split
  · rename_i hquoted
    rw [Bool.or_eq_true, decide_eq_true_iff, decide_eq_true_iff] at hquoted
    rcases hquoted with rfl | rfl <;> rfl
  split
  · rename_i hc
    rw [hc]
    rfl
  split
  · rename_i hc
    rw [hc]
    rfl
  split
  · rename_i hc
    rw [hc]
    rfl
  split
  · rename_i hc
    rw [← hpoint hc]
    rfl
  split
  · rename_i hc
    rw [← hpoint hc]
    rfl
  split
  · rename_i hcontrol
    show readCode (hexDigits 4 c.toNat ++ rest) = some (c, rest)
    have hlow : (c.toNat < 0xd800 || 0xe000 ≤ c.toNat) = true := by
      simp only [Bool.or_eq_true, decide_eq_true_iff]
      omega
    simp only [readCode, readUnit_hexDigits hcontrol, Option.bind_eq_bind, Option.bind_some, hlow,
      if_true, hpoint rfl]
  · rename_i hquoted _ _ _ _ _ hcontrol
    rw [Bool.or_eq_true, decide_eq_true_iff, decide_eq_true_iff, not_or] at hquoted
    have hplain : (c = '\\' || c.toNat < 0x20) = false := by
      simp [hquoted.2, hcontrol]
    rw [List.singleton_append, readChar, hplain, if_neg Bool.false_ne_true]
    · exact fun _ hc _ => hquoted.2 hc
    · exact fun _ _ hc _ => hquoted.2 hc

/-- No character is written with a quote in front. -/
theorem head?_escapeChar (c : Char) (rest : Text) :
    (escapeChar c ++ rest).head? ≠ some '"' := by
  unfold escapeChar
  split
  · simp
  · rename_i hquoted
    rw [Bool.or_eq_true, decide_eq_true_iff, decide_eq_true_iff, not_or] at hquoted
    repeat' split
    all_goals simp [hquoted.1]

theorem readText_cons {t more after rest : Text} {c : Char} {fuel : Nat}
    (hhead : t.head? ≠ some '"') (hc : readChar t = some (c, after))
    (hmore : readText fuel after = some (more, rest)) :
    readText (fuel + 1) t = some (c :: more, rest) := by
  rw [readText]
  · simp [hc, hmore]
  · rintro quoted rfl
    exact hhead rfl

/-- A text is read up to the quote that closes it. -/
theorem readText_escaped (t rest : Text) {fuel : Nat} (h : t.length < fuel) :
    readText fuel (t.flatMap escapeChar ++ '"' :: rest) = some (t, rest) := by
  induction t generalizing fuel with
  | nil =>
    cases fuel with
    | zero => cases h
    | succ fuel => rfl
  | cons c t ih =>
    cases fuel with
    | zero => cases h
    | succ fuel =>
      rw [List.flatMap_cons, List.append_assoc]
      exact readText_cons (head?_escapeChar c _) (readChar_escapeChar c _)
        (ih (Nat.lt_of_succ_lt_succ h))

theorem length_le_escaped (t : Text) : t.length ≤ (t.flatMap escapeChar).length := by
  induction t with
  | nil => exact Nat.le_refl 0
  | cons c t ih =>
    have hpos : 0 < (escapeChar c).length := by
      unfold escapeChar
      repeat' split
      all_goals simp
    rw [List.flatMap_cons, List.length_append, List.length_cons]
    omega

/-! ## Numbers -/

/-- Whether what follows a number cannot be part of it. -/
def endsNumber (rest : Text) : Bool :=
  rest.head?.all fun c => !(c.isDigit || c = '.' || c = 'e' || c = 'E')

theorem digitsValue_toDigits (n : Nat) : digitsValue (Nat.toDigits 10 n) = n := by
  have hvalue : ∀ (digits : Text) (value : Nat),
      digits.foldl (fun value c => value * 10 + (c.toNat - '0'.toNat)) value =
        Nat.ofDigitChars 10 digits value := by
    intro digits value
    simp only [Nat.ofDigitChars, Nat.mul_comm 10]
  rw [digitsValue, hvalue, Nat.ofDigitChars_ten_toDigits]

/-- No number but zero has a zero in front. -/
theorem head?_toDigits (n : Nat) (h : (Nat.toDigits 10 n).head? = some '0') : n = 0 := by
  induction n using Nat.strongRecOn with
  | ind n ih =>
    rcases Nat.lt_or_ge n 10 with hsmall | hlarge
    · rw [Nat.toDigits_of_lt_base hsmall, List.head?_cons, Option.some.injEq,
        Nat.digitChar_eq_zero] at h
      exact h
    · rw [Nat.toDigits_of_base_le (by omega) hlarge,
        List.head?_append_of_ne_nil _ Nat.toDigits_ne_nil] at h
      have hrest := ih (n / 10) (by omega) h
      omega

/-- What ends a number is no digit, no point and no exponent. -/
theorem endsNumber_cons {c : Char} {rest : Text} (h : endsNumber (c :: rest) = true) :
    c.isDigit = false ∧ c ≠ '.' ∧ c ≠ 'e' ∧ c ≠ 'E' := by
  simpa [endsNumber, and_assoc] using h

theorem readDigits_append {digits rest : Text} (hne : digits ≠ [])
    (hdigits : ∀ c ∈ digits, c.isDigit = true) (hrest : endsNumber rest = true) :
    readDigits (digits ++ rest) = some (digits, rest) := by
  have hstop : rest.takeWhile Char.isDigit = [] := by
    cases rest with
    | nil => rfl
    | cons c rest => exact List.takeWhile_cons_of_neg (by simp [(endsNumber_cons hrest).1])
  have htake : (digits ++ rest).takeWhile Char.isDigit = digits := by
    rw [List.takeWhile_append_of_pos hdigits, hstop, List.append_nil]
  simp [readDigits, htake, hne]

theorem readPlaces_of_endsNumber {rest : Text} (h : endsNumber rest = true) :
    readPlaces rest = some (none, rest) := by
  rw [readPlaces]
  rintro more rfl
  exact (endsNumber_cons h).2.1 rfl

theorem readPower_of_endsNumber {rest : Text} (h : endsNumber rest = true) :
    readPower rest = some (none, rest) := by
  cases rest with
  | nil => rfl
  | cons c rest =>
    obtain ⟨-, -, hlower, hupper⟩ := endsNumber_cons h
    simp [readPower, hlower, hupper]

theorem isDigit_of_mem {k : Nat} {c : Char} (h : c ∈ Nat.toDigits 10 k) : c.isDigit = true :=
  Nat.isDigit_of_mem_toDigits (by decide) (by decide) h

theorem exists_toDigits_cons (k : Nat) :
    ∃ c more, Nat.toDigits 10 k = c :: more ∧ c.isDigit = true := by
  obtain ⟨c, more, hcons⟩ := List.exists_cons_of_ne_nil (@Nat.toDigits_ne_nil k 10)
  exact ⟨c, more, hcons, isDigit_of_mem (hcons ▸ List.mem_cons_self)⟩

/-- A whole number is read from its digits. -/
theorem readNumber_decimal (n : Int) {rest : Text} (h : endsNumber rest = true) :
    readNumber (decimal n ++ rest) = some (.int n, rest) := by
  have hread : ∀ k : Nat, readDigits (Nat.toDigits 10 k ++ rest) =
      some (Nat.toDigits 10 k, rest) := by
    intro k
    exact readDigits_append Nat.toDigits_ne_nil (fun c hc => isDigit_of_mem hc) h
  have hzero : ∀ k : Nat, ¬ ((Nat.toDigits 10 k).head? = some '0' &&
      (Nat.toDigits 10 k).length ≠ 1) = true := by
    intro k hk
    rw [Bool.and_eq_true, decide_eq_true_iff, decide_eq_true_iff] at hk
    obtain ⟨hhead, hlength⟩ := hk
    rw [head?_toDigits k hhead] at hlength
    exact hlength rfl
  cases n with
  | ofNat k =>
    rw [decimal, readNumber]
    · simp only [hread, Option.bind_eq_bind, Option.bind_some, if_neg (hzero k),
        readPlaces_of_endsNumber h, readPower_of_endsNumber h, digitsValue_toDigits]
      rfl
    · -- no digit is a minus sign
      intro more heq
      obtain ⟨c, others, hcons, hdigit⟩ := exists_toDigits_cons k
      rw [hcons] at heq
      obtain ⟨rfl, -⟩ := List.cons.inj heq
      cases hdigit
  | negSucc k =>
    rw [decimal, List.cons_append, readNumber]
    simp only [hread, Option.bind_eq_bind, Option.bind_some, if_neg (hzero (k + 1)),
      readPlaces_of_endsNumber h, readPower_of_endsNumber h, digitsValue_toDigits]
    rfl

/-! ## Values -/

mutual

/-- Whether the value holds no fraction. -/
def isWhole : Json → Bool
  | fraction _ => false
  | list items => areWhole items
  | object fields => haveWhole fields
  | _ => true

/-- Whether none of the values holds a fraction. -/
def areWhole : List Json → Bool
  | [] => true
  | x :: rest => isWhole x && areWhole rest

/-- Whether no value of the fields holds a fraction. -/
def haveWhole : List (Text × Json) → Bool
  | [] => true
  | (_, x) :: rest => isWhole x && haveWhole rest

end

theorem areWhole_map {α : Type} {f : α → Json} {entries : List α}
    (h : ∀ a ∈ entries, (f a).isWhole = true) : areWhole (entries.map f) = true := by
  induction entries with
  | nil => rfl
  | cons a rest ih =>
    rw [List.map_cons, areWhole, Bool.and_eq_true]
    exact ⟨h a List.mem_cons_self, ih fun b hb => h b (List.mem_cons_of_mem a hb)⟩

theorem isSpace_of_isDigit {c : Char} (h : c.isDigit = true) : isSpace c = false := by
  rw [Bool.eq_false_iff]
  intro hspace
  simp only [isSpace, Bool.or_eq_true, beq_iff_eq] at hspace
  rcases hspace with ((rfl | rfl) | rfl) | rfl <;> cases h

theorem exists_decimal_cons (n : Int) :
    ∃ c more, decimal n = c :: more ∧ (c.isDigit = true ∨ c = '-') := by
  cases n with
  | ofNat k =>
    obtain ⟨c, more, hcons, hdigit⟩ := exists_toDigits_cons k
    exact ⟨c, more, hcons, .inl hdigit⟩
  | negSucc k => exact ⟨_, _, rfl, .inr rfl⟩

/-- What a value is written with in front is neither a blank nor a closing bracket. -/
theorem exists_write_cons (layout : Layout) (depth : Nat) {v : Json} (h : v.isWhole = true) :
    ∃ c more, v.write layout depth = c :: more ∧ isSpace c = false ∧ c ≠ ']' := by
  cases v with
  | null => exact ⟨_, _, rfl, rfl, by decide⟩
  | bool b => cases b <;> exact ⟨_, _, rfl, rfl, by decide⟩
  | int n =>
    obtain ⟨c, more, hcons, hdigit | rfl⟩ := exists_decimal_cons n
    · refine ⟨c, more, hcons, isSpace_of_isDigit hdigit, ?_⟩
      rintro rfl
      cases hdigit
    · exact ⟨_, _, hcons, rfl, by decide⟩
  | fraction x => cases h
  | text t => exact ⟨_, _, rfl, rfl, by decide⟩
  | list items => cases items <;> exact ⟨_, _, rfl, rfl, by decide⟩
  | object fields => cases fields <;> exact ⟨_, _, rfl, rfl, by decide⟩

/-! ### What the readers do -/

section Readers

variable {blanks t u after more rest : Text} {fuel : Nat}

/-- Blanks in front do not count. -/
theorem readValue_blanks (h : blanks.all isSpace = true) (fuel : Nat) (t : Text) :
    readValue fuel (blanks ++ t) = readValue fuel t := by
  cases fuel with
  | zero => simp only [readValue]
  | succ fuel => simp only [readValue, skipSpace_append h]

theorem readItems_blanks (h : blanks.all isSpace = true) (fuel : Nat) (t : Text) :
    readItems fuel (blanks ++ t) = readItems fuel t := by
  cases fuel with
  | zero => simp only [readItems]
  | succ fuel => simp only [readItems, readValue_blanks h]

theorem readFields_blanks (h : blanks.all isSpace = true) (fuel : Nat) (t : Text) :
    readFields fuel (blanks ++ t) = readFields fuel t := by
  cases fuel with
  | zero => simp only [readFields]
  | succ fuel => simp only [readFields, skipSpace_append h]

/-- A digit or a minus sign begins a number. -/
theorem readValue_number {c : Char} (hc : c.isDigit = true ∨ c = '-') :
    readValue (fuel + 1) (c :: t) = readNumber (c :: t) := by
  have hspace : isSpace c = false := by
    rcases hc with hc | rfl
    · exact isSpace_of_isDigit hc
    · rfl
  rw [readValue, skipSpace_cons hspace]
  split
  all_goals first
    | rfl
    | rename_i heq
      rw [(List.cons.inj heq).1] at hc
      exact absurd hc (by decide)

theorem readValue_list {c : Char} {items : List Json} (hblanks : blanks.all isSpace = true)
    (hspace : isSpace c = false) (hc : c ≠ ']')
    (hitems : readItems fuel (c :: t) = some (items, rest)) :
    readValue (fuel + 1) ('[' :: (blanks ++ c :: t)) = some (.list items, rest) := by
  rw [readValue, skipSpace_cons rfl]
  simp only [skipSpace_append hblanks, skipSpace_cons hspace]
  split
  · rename_i heq
    exact absurd (List.cons.inj heq).1 hc
  · rw [hitems]
    rfl

theorem readValue_object {fields : List (Text × Json)} (hblanks : blanks.all isSpace = true)
    (hfields : readFields fuel ('"' :: t) = some (fields, rest)) :
    readValue (fuel + 1) ('\x7b' :: (blanks ++ '"' :: t)) = some (.object fields, rest) := by
  rw [readValue, skipSpace_cons rfl]
  simp only [skipSpace_append hblanks]
  show (readFields fuel ('"' :: t)).map _ = _
  rw [hfields]
  rfl

theorem readItems_comma {item : Json} {items : List Json}
    (hitem : readValue fuel t = some (item, after)) (hafter : skipSpace after = ',' :: more)
    (hitems : readItems fuel more = some (items, rest)) :
    readItems (fuel + 1) t = some (item :: items, rest) := by
  simp [readItems, hitem, hafter, hitems]

theorem readItems_close {item : Json} (hitem : readValue fuel t = some (item, after))
    (hafter : skipSpace after = ']' :: rest) :
    readItems (fuel + 1) t = some ([item], rest) := by
  simp [readItems, hitem, hafter]

theorem readFields_comma {key : Text} {value : Json} {fields : List (Text × Json)}
    (hkey : readText fuel t = some (key, ':' :: u))
    (hvalue : readValue fuel u = some (value, after))
    (hafter : skipSpace after = ',' :: more)
    (hfields : readFields fuel more = some (fields, rest)) :
    readFields (fuel + 1) ('"' :: t) = some ((key, value) :: fields, rest) := by
  simp [readFields, skipSpace_cons (rfl : isSpace '"' = false), hkey,
    skipSpace_cons (rfl : isSpace ':' = false), hvalue, hafter, hfields]

theorem readFields_close {key : Text} {value : Json}
    (hkey : readText fuel t = some (key, ':' :: u))
    (hvalue : readValue fuel u = some (value, after))
    (hafter : skipSpace after = '\x7d' :: rest) :
    readFields (fuel + 1) ('"' :: t) = some ([(key, value)], rest) := by
  simp [readFields, skipSpace_cons (rfl : isSpace '"' = false), hkey,
    skipSpace_cons (rfl : isSpace ':' = false), hvalue, hafter]

end Readers

/-! ### Reading what was written -/

/-- What follows a written value cannot be part of a number. -/
theorem endsNumber_lineStart (layout : Layout) (depth : Nat) {c : Char} {rest : Text}
    (h : endsNumber (c :: rest) = true) :
    endsNumber (layout.lineStart depth ++ c :: rest) = true := by
  cases layout with
  | oneLine => exact h
  | broken unit => rfl

theorem endsNumber_separator (layout : Layout) (depth : Nat) (rest : Text) :
    endsNumber (layout.separator depth ++ rest) = true := by
  cases layout <;> rfl

/-- What the readers can do in so many steps: a part that is shorter is read, and what follows it is
left. -/
structure ReadsBack (layout : Layout) (fuel : Nat) : Prop where
  value : ∀ (v : Json) (depth : Nat) (rest : Text), v.isWhole = true → endsNumber rest = true →
    (v.write layout depth).length < fuel →
      readValue fuel (v.write layout depth ++ rest) = some (v, rest)
  items : ∀ (x : Json) (xs : List Json) (depth : Nat) (rest : Text),
    x.isWhole = true → areWhole xs = true →
    (x.write layout (depth + 1) ++ writeItems layout (depth + 1) xs).length + 1 < fuel →
      readItems fuel (x.write layout (depth + 1) ++ (writeItems layout (depth + 1) xs ++
        (layout.lineStart depth ++ ']' :: rest))) = some (x :: xs, rest)
  fields : ∀ (k : Text) (x : Json) (others : List (Text × Json)) (depth : Nat) (rest : Text),
    x.isWhole = true → haveWhole others = true →
    (writeText k ++ x.write layout (depth + 1) ++
      writeFields layout (depth + 1) others).length + 1 < fuel →
      readFields fuel (writeText k ++ (':' :: ' ' :: (x.write layout (depth + 1) ++
        (writeFields layout (depth + 1) others ++ (layout.lineStart depth ++ '\x7d' :: rest))))) =
          some ((k, x) :: others, rest)

namespace ReadsBack

variable {layout : Layout} {fuel : Nat}

theorem value_succ (hblank : layout.IsBlank) (h : ReadsBack layout fuel) (v : Json) (depth : Nat)
    (rest : Text) (hwhole : v.isWhole = true) (hrest : endsNumber rest = true)
    (hlength : (v.write layout depth).length < fuel + 1) :
    readValue (fuel + 1) (v.write layout depth ++ rest) = some (v, rest) := by
  cases v with
  | null => rfl
  | bool b => cases b <;> rfl
  | int n =>
    obtain ⟨c, more, hcons, hc⟩ := exists_decimal_cons n
    rw [write, ← readNumber_decimal n hrest, hcons]
    exact readValue_number hc
  | fraction x => cases hwhole
  | text t =>
    have hshort : t.length < fuel := by
      have := length_le_escaped t
      simp only [write, writeText, List.length_cons, List.length_append] at hlength
      omega
    have hread := readText_escaped t rest hshort
    simp only [write, writeText, List.cons_append, List.append_assoc, List.nil_append]
    simp [readValue, skipSpace_cons (rfl : isSpace '"' = false), hread]
  | list items =>
    cases items with
    | nil => rfl
    | cons x xs =>
      rw [isWhole, areWhole, Bool.and_eq_true] at hwhole
      have hitems := h.items x xs depth rest hwhole.1 hwhole.2 (by
        simp only [write, List.length_cons, List.length_append] at hlength ⊢
        omega)
      -- the reader looks at the first character of the first item to see that there is one
      obtain ⟨c, more, hcons, hspace, hc⟩ := exists_write_cons layout (depth + 1) hwhole.1
      rw [hcons, List.cons_append] at hitems
      have hlist := readValue_list (all_isSpace_lineStart hblank (depth + 1)) hspace hc hitems
      simpa [write, hcons] using hlist
  | object fields =>
    cases fields with
    | nil => rfl
    | cons field others =>
      obtain ⟨k, x⟩ := field
      rw [isWhole, haveWhole, Bool.and_eq_true] at hwhole
      have hfields := h.fields k x others depth rest hwhole.1 hwhole.2 (by
        simp only [write, List.length_cons, List.length_append] at hlength ⊢
        omega)
      rw [writeText, List.cons_append, List.cons_append] at hfields
      have hobject := readValue_object (all_isSpace_lineStart hblank (depth + 1)) hfields
      simpa [write, writeText] using hobject

theorem items_succ (hblank : layout.IsBlank) (h : ReadsBack layout fuel) (x : Json) (xs : List Json)
    (depth : Nat) (rest : Text) (hx : x.isWhole = true) (hxs : areWhole xs = true)
    (hlength : (x.write layout (depth + 1) ++ writeItems layout (depth + 1) xs).length + 1 <
      fuel + 1) :
    readItems (fuel + 1) (x.write layout (depth + 1) ++ (writeItems layout (depth + 1) xs ++
      (layout.lineStart depth ++ ']' :: rest))) = some (x :: xs, rest) := by
  rw [List.length_append] at hlength
  cases xs with
  | nil =>
    have hitem := h.value x (depth + 1) (layout.lineStart depth ++ ']' :: rest) hx
      (endsNumber_lineStart layout depth rfl) (by omega)
    refine readItems_close hitem ?_
    rw [skipSpace_append (all_isSpace_lineStart hblank depth), skipSpace_cons rfl]
  | cons y ys =>
    rw [areWhole, Bool.and_eq_true] at hxs
    obtain ⟨gap, hseparator, hgap⟩ := exists_separator hblank (depth + 1)
    simp only [writeItems, hseparator, List.length_append, List.length_cons] at hlength
    have hitem := fun after => h.value x (depth + 1) (layout.separator (depth + 1) ++ after) hx
      (endsNumber_separator layout (depth + 1) after) (by omega)
    have hitems := h.items y ys depth rest hxs.1 hxs.2 (by
      rw [List.length_append]
      omega)
    rw [← readItems_blanks hgap] at hitems
    simp only [writeItems, List.append_assoc]
    refine readItems_comma (hitem _) ?_ hitems
    rw [hseparator]
    exact skipSpace_cons rfl _

theorem fields_succ (hblank : layout.IsBlank) (h : ReadsBack layout fuel) (k : Text) (x : Json)
    (others : List (Text × Json)) (depth : Nat) (rest : Text) (hx : x.isWhole = true)
    (hothers : haveWhole others = true)
    (hlength : (writeText k ++ x.write layout (depth + 1) ++
      writeFields layout (depth + 1) others).length + 1 < fuel + 1) :
    readFields (fuel + 1) (writeText k ++ (':' :: ' ' :: (x.write layout (depth + 1) ++
      (writeFields layout (depth + 1) others ++ (layout.lineStart depth ++ '\x7d' :: rest))))) =
        some ((k, x) :: others, rest) := by
  rw [List.length_append, List.length_append] at hlength
  have hkey := readText_escaped k (':' :: ' ' :: (x.write layout (depth + 1) ++
      (writeFields layout (depth + 1) others ++ (layout.lineStart depth ++ '\x7d' :: rest))))
    (show k.length < fuel by
      have := length_le_escaped k
      simp only [writeText, List.length_cons, List.length_append] at hlength
      omega)
  -- a space stands between the colon and the value
  have hvalue : ∀ after, endsNumber after = true →
      readValue fuel (' ' :: (x.write layout (depth + 1) ++ after)) = some (x, after) := by
    intro after hafter
    refine (readValue_blanks (rfl : [' '].all isSpace = true) fuel _).trans ?_
    exact h.value x (depth + 1) after hx hafter (by omega)
  simp only [writeText, List.cons_append, List.append_assoc, List.nil_append]
  cases others with
  | nil =>
    simp only [writeFields, List.nil_append] at hkey ⊢
    refine readFields_close hkey (hvalue _ (endsNumber_lineStart layout depth rfl)) ?_
    rw [skipSpace_append (all_isSpace_lineStart hblank depth), skipSpace_cons rfl]
  | cons field others =>
    obtain ⟨l, y⟩ := field
    rw [haveWhole, Bool.and_eq_true] at hothers
    obtain ⟨gap, hseparator, hgap⟩ := exists_separator hblank (depth + 1)
    simp only [writeFields, hseparator, List.length_append, List.length_cons] at hlength
    have hfields := h.fields l y others depth rest hothers.1 hothers.2 (by
      rw [List.length_append, List.length_append]
      omega)
    rw [← readFields_blanks hgap] at hfields
    simp only [writeFields, List.append_assoc] at hkey ⊢
    refine readFields_comma hkey (hvalue _ (endsNumber_separator layout (depth + 1) _)) ?_ hfields
    rw [hseparator]
    exact skipSpace_cons rfl _

end ReadsBack

/-- The readers take what was written, whatever number of steps they are given. -/
theorem readsBack {layout : Layout} (hblank : layout.IsBlank) (fuel : Nat) :
    ReadsBack layout fuel := by
  induction fuel with
  | zero => constructor <;> intros <;> omega
  | succ fuel ih =>
    exact ⟨ReadsBack.value_succ hblank ih, ReadsBack.items_succ hblank ih,
      ReadsBack.fields_succ hblank ih⟩

/-- **What is written can be read.**  Reading a written value gives the value. -/
theorem parse?_render {layout : Layout} (hblank : layout.IsBlank) {v : Json}
    (hwhole : v.isWhole = true) : parse? (v.render layout) = some v := by
  have hread := (readsBack hblank (2 * (v.render layout).length + 2)).value v 0 [] hwhole rfl
    (by rw [render]; omega)
  rw [List.append_nil] at hread
  rw [parse?, show readValue (2 * (v.render layout).length + 2) (v.render layout) = _ from hread]
  rfl

end Json

end RenamePlan
