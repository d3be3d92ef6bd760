import RenamePlan.File.Path

/-!
# Where a report goes

The place of a report is resolved from a path in any form: with repeated slashes, single and double
dots, and `~` in front.  What comes out is canonical, and resolving it again gives the same place
(`Path.output_canonical`).

* **Reading and writing** — a path from the root whose parts could come from reading one is read as
  it was written (`Path.parse_text`).
* **Places** — resolving leads to a place, all parts of which are file names
  (`Path.exists_resolve`), and a place resolves to itself (`Path.resolve_text`).
* **Extensions** — a name that has got an extension has it (`Path.suffix_concat`).
-/

namespace RenamePlan

/-! ## Reading and writing -/

theorem slashPieces_eq_splitOn (t : Text) : slashPieces t = t.splitOn '/' := by
  induction t with
  | nil => rfl
  | cons c rest ih =>
    unfold List.splitOn at ih ⊢
    rw [slashPieces, ih, List.splitOnP_cons_eq_if_modifyHead]
    by_cases hc : c = '/'
    · simp [hc]
    · simp only [hc, if_false, beq_iff_eq]
      cases hrest : List.splitOnP (· == '/') rest with
      | nil => exact absurd hrest (List.splitOnP_ne_nil _ _)
      | cons piece pieces => rfl

theorem slash_notMem_of_mem_slashPieces {t piece : Text} (h : piece ∈ slashPieces t) :
    '/' ∉ piece := by
  induction t generalizing piece with
  | nil =>
    rw [slashPieces, List.mem_singleton] at h
    simp [h]
  | cons c rest ih =>
    rw [slashPieces] at h
    split at h
    · rcases List.mem_cons.1 h with rfl | h
      · simp
      · exact ih h
    · rename_i hc
      split at h
      · rw [List.mem_singleton] at h
        simp [h, Ne.symm hc]
      · rename_i first pieces heq
        rcases List.mem_cons.1 h with rfl | h
        · have hfirst : '/' ∉ first := ih (heq ▸ List.mem_cons_self)
          simp [hfirst, Ne.symm hc]
        · exact ih (heq ▸ List.mem_cons_of_mem first h)

/-- What reading a path can give as a part. -/
def IsPart (part : Text) : Prop :=
  part ≠ [] ∧ part ≠ ['.'] ∧ '/' ∉ part

/-- What can be the name of a file: a part that leads down, without null characters. -/
def IsFileName (name : Text) : Prop :=
  IsPart name ∧ name ≠ upward ∧ '\x00' ∉ name

instance (part : Text) : Decidable (IsPart part) :=
  inferInstanceAs (Decidable (_ ∧ _ ∧ _))

instance (name : Text) : Decidable (IsFileName name) :=
  inferInstanceAs (Decidable (_ ∧ _ ∧ _))

namespace Path

theorem isPart_parse (t : Text) : ∀ part ∈ (parse t).parts, IsPart part := by
  intro part hpart
  obtain ⟨hpiece, hkept⟩ := List.mem_filter.1 hpart
  simp only [Bool.and_eq_true, bne_iff_ne] at hkept
  exact ⟨hkept.1, hkept.2, slash_notMem_of_mem_slashPieces hpiece⟩

variable {parts : List Text}

/-- The text of a path from the root has one piece for each part, and an empty one in front. -/
theorem slashPieces_text (hne : parts ≠ []) (h : ∀ part ∈ parts, IsPart part) :
    slashPieces (text ⟨.root, parts⟩) = [] :: parts := by
  show slashPieces ('/' :: ['/'].intercalate parts) = _
  rw [slashPieces, if_pos rfl, slashPieces_eq_splitOn,
    List.splitOn_intercalate '/' (fun part hpart => (h part hpart).2.2) hne]

/-- The text of a path from the root begins with one slash. -/
theorem takeWhile_text (h : ∀ part ∈ parts, IsPart part) :
    (text ⟨.root, parts⟩).takeWhile (· == '/') = ['/'] := by
  show ('/' :: ['/'].intercalate parts).takeWhile (· == '/') = ['/']
  cases parts with
  | nil => rfl
  | cons first rest =>
    have hfirst := h first List.mem_cons_self
    cases first with
    | nil => exact absurd rfl hfirst.1
    | cons c name =>
      have hc : c ≠ '/' := fun heq => hfirst.2.2 (heq ▸ List.mem_cons_self)
      cases rest with
      | nil => simp [List.intercalate, hc]
      | cons second rest => simp [List.intercalate, hc]

/-- A path from the root is read as it was written. -/
theorem parse_text (h : ∀ part ∈ parts, IsPart part) :
    parse (text ⟨.root, parts⟩) = ⟨.root, parts⟩ := by
  have hkept : parts.filter (fun piece => piece != [] && piece != ['.']) = parts := by
    apply List.filter_eq_self.2
    intro part hpart
    simp [(h part hpart).1, (h part hpart).2.1]
  have hpieces : (slashPieces (text ⟨.root, parts⟩)).filter
      (fun piece => piece != [] && piece != ['.']) = parts := by
    by_cases hne : parts = []
    · subst hne
      rfl
    · rw [slashPieces_text hne h, List.filter_cons_of_neg (by simp), hkept]
  rw [parse, takeWhile_text h, hpieces]
  rfl

end Path

/-! ## Places -/

/-- Whether the directories are named from the root.  The current directory is a place; a home
directory may be given with double dots. -/
structure Surroundings.AreAbsolute (here : Surroundings) : Prop where
  current : ∀ name ∈ here.current, IsFileName name
  home : ∀ part ∈ here.home, IsPart part
  homes : ∀ user ∈ here.homes, ∀ part ∈ user.2, IsPart part

namespace Path

variable {parts : List Text}

theorem isFileName_step {location : Location} {part : Text}
    (hlocation : ∀ name ∈ location, IsFileName name) (hpart : IsPart part)
    (hnull : '\x00' ∉ part) : ∀ name ∈ step location part, IsFileName name := by
  intro name hname
  unfold step at hname
  split at hname
  · exact hlocation name ((List.dropLast_sublist location).subset hname)
  · rename_i hdown
    rcases List.mem_append.1 hname with hname | hname
    · exact hlocation name hname
    · rw [List.mem_singleton.1 hname]
      exact ⟨hpart, hdown, hnull⟩

/-- Going on from a place leads to a place. -/
theorem isFileName_foldl_step {location : Location}
    (hlocation : ∀ name ∈ location, IsFileName name)
    (hparts : ∀ part ∈ parts, IsPart part ∧ '\x00' ∉ part) :
    ∀ name ∈ parts.foldl step location, IsFileName name := by
  induction parts generalizing location with
  | nil => exact hlocation
  | cons part rest ih =>
    obtain ⟨hpart, hnull⟩ := hparts part List.mem_cons_self
    apply ih (isFileName_step hlocation hpart hnull)
    intro later hlater
    exact hparts later (List.mem_cons_of_mem part hlater)

/-- File names lead down. -/
theorem foldl_step_eq_append (location : Location) (h : ∀ part ∈ parts, IsFileName part) :
    parts.foldl step location = location ++ parts := by
  induction parts generalizing location with
  | nil => simp
  | cons part rest ih =>
    have hdown : step location part = location ++ [part] := if_neg (h part List.mem_cons_self).2.1
    rw [List.foldl_cons, hdown, ih _ fun later hlater => h later (List.mem_cons_of_mem part hlater),
      List.append_assoc, List.singleton_append]

section Resolve

variable {here : Surroundings} (hhere : here.AreAbsolute)

include hhere

theorem isPart_expandHome {path expanded : Path} (hparts : ∀ part ∈ path.parts, IsPart part)
    (h : path.expandHome here = .ok expanded) : ∀ part ∈ expanded.parts, IsPart part := by
  -- a home directory goes in front of the parts behind the first
  have hbehind {first : Text} {rest home : List Text} (heq : path.parts = first :: rest)
      (hhome : ∀ part ∈ home, IsPart part) : ∀ part ∈ home ++ rest, IsPart part := by
    intro part hpart
    rcases List.mem_append.1 hpart with hpart | hpart
    · exact hhome part hpart
    · exact hparts part (heq ▸ List.mem_cons_of_mem first hpart)
  unfold expandHome at h
  split at h
  · rename_i first rest hanchor heq
    split at h
    · split at h
      · obtain rfl := Except.ok.inj h
        exact hbehind heq hhere.home
      · split at h
        · cases h
        · split at h
          · rename_i home hlookup
            obtain rfl := Except.ok.inj h
            obtain ⟨others, more, hhomes, -⟩ := List.lookup_eq_some_iff.1 hlookup
            exact hbehind heq (hhere.homes (first.drop 1, home) (by simp [hhomes]))
          · cases h
    · obtain rfl := Except.ok.inj h
      exact hparts
  · obtain rfl := Except.ok.inj h
    exact hparts

/-- Resolving leads to a place. -/
theorem exists_resolve {t : Option Text} {path : Path} (h : resolve here t = .ok path) :
    ∃ location, path = ofLocation location ∧ ∀ name ∈ location, IsFileName name := by
  unfold resolve at h
  simp only [bind, Except.bind, pure, Except.pure] at h
  split at h
  · cases h
  · cases hexpand : (parse (t.getD [])).expandHome here with
    | error fault =>
      rw [hexpand] at h
      cases h
    | ok expanded =>
      rw [hexpand] at h
      simp only at h
      split at h
      · cases h
      · rename_i hnull
        obtain rfl := Except.ok.inj h
        refine ⟨_, rfl, ?_⟩
        have hparts : ∀ part ∈ expanded.parts, IsPart part ∧ '\x00' ∉ part := by
          intro part hpart
          refine ⟨isPart_expandHome hhere (isPart_parse _) hexpand part hpart, ?_⟩
          intro hmem
          apply hnull
          exact List.any_eq_true.2 ⟨part, hpart, List.contains_iff_mem.2 hmem⟩
        unfold locate
        split
        · exact isFileName_foldl_step hhere.current hparts
        · exact isFileName_foldl_step (by simp) hparts
        · exact isFileName_foldl_step (by simp) hparts

end Resolve

/-- A place resolves to itself. -/
theorem resolve_text (here : Surroundings) {location : Location}
    (h : ∀ name ∈ location, IsFileName name) :
    resolve here (some (ofLocation location).text) = .ok (ofLocation location) := by
  have hblank : (ofLocation location).text.all isBlank = false := by
    show ('/' :: ['/'].intercalate location).all isBlank = false
    rw [List.all_cons, show isBlank '/' = false by decide, Bool.false_and]
  have hparse : parse (ofLocation location).text = ofLocation location :=
    parse_text fun name hname => (h name hname).1
  have hnull : location.any (·.contains '\x00') = false := by
    apply List.any_eq_false.2
    intro name hname hcontains
    exact (h name hname).2.2 (List.contains_iff_mem.1 hcontains)
  have hlocate : (ofLocation location).locate here = location := by
    show location.foldl step [] = location
    rw [foldl_step_eq_append [] h, List.nil_append]
  unfold resolve
  simp only [Option.getD_some, hblank, hparse, bind, Except.bind, pure, Except.pure]
  show (if location.any (·.contains '\x00') = true then Except.error PathFault.nullCharacter
    else Except.ok (ofLocation ((ofLocation location).locate here))) = _
  rw [hnull, hlocate]
  rfl

/-! ## Extensions -/

/-- What can be the extension of a report: some characters, with or without a dot in front, none of
which is a dot, a slash or null. -/
def IsExtension (extension : Text) : Prop :=
  ∃ letters, (extension = letters ∨ extension = '.' :: letters) ∧ letters ≠ [] ∧
    '.' ∉ letters ∧ '/' ∉ letters ∧ '\x00' ∉ letters

theorem dotted_of_isExtension {extension : Text} (h : IsExtension extension) :
    ∃ letters, dotted extension = '.' :: letters ∧ letters ≠ [] ∧ '.' ∉ letters ∧
      '/' ∉ letters ∧ '\x00' ∉ letters := by
  obtain ⟨letters, hextension, hne, hdot, hslash, hnull⟩ := h
  refine ⟨letters, ?_, hne, hdot, hslash, hnull⟩
  rcases hextension with rfl | rfl
  · apply if_neg
    intro hhead
    exact hdot (List.mem_of_head? hhead)
  · exact if_pos rfl

/-- A name that has got an extension has it. -/
theorem suffix_concat {front : List Text} {name letters : Text} (hname : name ≠ [])
    (hne : letters ≠ []) (hdot : '.' ∉ letters) :
    suffix ⟨.root, front ++ [name ++ '.' :: letters]⟩ = '.' :: letters := by
  have hlast : Path.name ⟨.root, front ++ [name ++ '.' :: letters]⟩ = name ++ '.' :: letters := by
    simp [Path.name]
  have hbehind : ((name ++ '.' :: letters).reverse.takeWhile (· != '.')).reverse = letters := by
    rw [List.reverse_append, List.reverse_cons, List.append_assoc,
      List.takeWhile_append_of_pos]
    · simp
    · intro c hc
      rw [List.mem_reverse] at hc
      exact bne_iff_ne.2 fun heq => hdot (heq ▸ hc)
  have hbefore : (name ++ '.' :: letters).take
      ((name ++ '.' :: letters).length - letters.length - 1) = name := by
    have hlength : (name ++ '.' :: letters).length - letters.length - 1 = name.length := by
      rw [List.length_append, List.length_cons]
      omega
    rw [hlength, List.take_left]
  unfold suffix
  simp only [hlast, hbehind, hbefore]
  simp [hname, hne]

theorem isFileName_concat {name letters : Text} (hname : IsFileName name) (hne : letters ≠ [])
    (hslash : '/' ∉ letters) (hnull : '\x00' ∉ letters) :
    IsFileName (name ++ '.' :: letters) := by
  obtain ⟨⟨hname, -, hslash'⟩, -, hnull'⟩ := hname
  have hlength : 2 < (name ++ '.' :: letters).length := by
    have hfront := List.length_pos_iff.2 hname
    have hback := List.length_pos_iff.2 hne
    simp only [List.length_append, List.length_cons]
    omega
  refine ⟨⟨?_, ?_, ?_⟩, ?_, ?_⟩
  · intro heq
    simp at heq
  · intro heq
    rw [heq] at hlength
    simp at hlength
  · simp [hslash, hslash']
  · intro heq
    rw [heq] at hlength
    simp [upward] at hlength
  · simp [hnull, hnull']

/-- The name of a place with the extension is the name of a place, and has the extension. -/
theorem exists_withExtension {location : Location} (hlocation : ∀ name ∈ location, IsFileName name)
    {extension : Text} (hextension : IsExtension extension) {path : Path}
    (h : (ofLocation location).withExtension extension = .ok path) :
    ∃ found : Location, path = ofLocation found ∧ (∀ name ∈ found, IsFileName name) ∧
      lower path.suffix = lower (dotted extension) := by
  obtain ⟨letters, hdotted, hne, hdot, hslash, hnull⟩ := dotted_of_isExtension hextension
  unfold withExtension at h
  dsimp only at h
  split at h
  · rename_i hsuffix
    obtain rfl := Except.ok.inj h
    exact ⟨location, rfl, hlocation, hsuffix⟩
  · unfold withName at h
    split at h
    · cases h
    · split at h
      · rename_i hname _
        obtain rfl := Except.ok.inj h
        rw [hdotted]
        refine ⟨location.dropLast ++ [(ofLocation location).name ++ '.' :: letters], rfl, ?_, ?_⟩
        · have hlast : (ofLocation location).name ∈ location := by
            unfold Path.name at hname ⊢
            cases hget : (ofLocation location).parts.getLast? with
            | none => simp [hget] at hname
            | some last => exact List.mem_of_getLast? hget
          intro name hmem
          rcases List.mem_append.1 hmem with hmem | hmem
          · exact hlocation name ((List.dropLast_sublist location).subset hmem)
          · rw [List.mem_singleton.1 hmem]
            exact isFileName_concat (hlocation _ hlast) hne hslash hnull
        · exact congrArg lower (suffix_concat (by simpa using hname) hne hdot)
      · cases h

theorem lower_dot_ne_nil (t : Text) : lower ('.' :: t) ≠ [] := by
  have hdot : lowerChar [] '.' t = ['.'] := by
    show expandWith lowerExpansions lowerRuns '.' = ['.']
    decide
  show lowerChar [] '.' t ++ lowerFrom ['.'] t ≠ []
  rw [hdot]
  exact List.cons_ne_nil _ _

/-- **The place of a report is canonical.**  Whatever path is given, if it leads to a place for a
report with the extension, then that place is named from the root, with one slash in front and one
between two parts; all its parts are file names; its name has the extension, in some mixture of
cases; and its text leads to the same place. -/
theorem output_canonical {here : Surroundings} (hhere : here.AreAbsolute) {t : Option Text}
    {extension : Text} (hextension : IsExtension extension) {path : Path}
    (h : output here t extension = .ok path) :
    path.anchor = .root ∧ slashPieces path.text = [] :: path.parts ∧
      (∀ part ∈ path.parts, IsFileName part) ∧
      lower path.suffix = lower (dotted extension) ∧
      output here (some path.text) extension = .ok path := by
  unfold output at h
  cases hresolve : resolve here t with
  | error fault =>
    rw [hresolve] at h
    cases h
  | ok resolved =>
    rw [hresolve] at h
    obtain ⟨location, rfl, hlocation⟩ := exists_resolve hhere hresolve
    obtain ⟨found, rfl, hfound, hsuffix⟩ := exists_withExtension hlocation hextension h
    have hne : found ≠ [] := by
      rintro rfl
      obtain ⟨letters, hdotted, -⟩ := dotted_of_isExtension hextension
      rw [hdotted] at hsuffix
      exact lower_dot_ne_nil letters hsuffix.symm
    refine ⟨rfl, slashPieces_text hne fun name hname => (hfound name hname).1, hfound, hsuffix, ?_⟩
    unfold output
    rw [resolve_text here hfound]
    exact if_pos hsuffix

/-- A desk in a home directory. -/
def homeDesk : Surroundings where
  current := ["home".toList, "ann".toList, "desk".toList]
  home := ["home".toList, "ann".toList]

/-- From the home directory up, through an empty part and a single dot, to a name that ends in a
dot. -/
theorem output_canonical_homeDesk :
    homeDesk.AreAbsolute ∧ IsExtension "json".toList ∧
      output homeDesk (some "~/../eve//./notes.".toList) "json".toList =
        .ok ⟨.root, ["home".toList, "eve".toList, "notes..json".toList]⟩ ∧
      output homeDesk (some "/home/eve/notes..json".toList) "json".toList =
        .ok ⟨.root, ["home".toList, "eve".toList, "notes..json".toList]⟩ := by
  have hdesk : homeDesk.AreAbsolute := ⟨by decide, by decide, by decide⟩
  have hjson : IsExtension "json".toList := ⟨"json".toList, Or.inl rfl, by decide⟩
  have houtput : output homeDesk (some "~/../eve//./notes.".toList) "json".toList =
      .ok ⟨.root, ["home".toList, "eve".toList, "notes..json".toList]⟩ := rfl
  obtain ⟨-, -, -, -, hagain⟩ := output_canonical hdesk hjson houtput
  exact ⟨hdesk, hjson, houtput, hagain⟩

end Path

end RenamePlan
