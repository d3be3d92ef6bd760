import RenamePlan.Profile.Saved

/-!
# Saving and loading a profile keeps what it means

A profile may give its options in any order, leave some out and have others that are not known.
Loading puts what was saved over the defaults, which gives another list of options: the known ones
in their fixed order, with the values in force, and behind them those that are not known, as they
stood (`Profile.load_saved`).  The rest follows from that shape.

* **Keys** — options are a mapping, so no two of them have the same key (`Options.KeysApart`); to
  set options and to take them away keeps it so.
* **Checks** — validation stops at the first fault in the order of the options, and then looks at
  two values in force.  Whether it succeeds does not depend on the order (`passes_iff_isValid`).
* **Loading** — what is loaded has the same values in force, is valid iff what was saved is, and is
  loaded again as it is (`load_saved_sameMeaning`).
-/

namespace RenamePlan

/-! ## Keys -/

namespace OptionName

theorem mem_all (option : OptionName) : option ∈ all := by
  cases option <;> decide

theorem ofKey?_eq_some_iff {key : Json} {option : OptionName} :
    ofKey? key = some option ↔ key = .text option.key := by
  constructor
  · intro h
    rw [ofKey?] at h
    have hkey := List.find?_some h
    exact Json.eq_text_of_beq hkey
  · rintro rfl
    exact ofKey?_key option

theorem key_inj {option other : OptionName} (h : option.key = other.key) : option = other := by
  have hfound := ofKey?_key option
  rw [h, ofKey?_key] at hfound
  exact (Option.some.inj hfound).symm

/-- A key that is not known is apart from those that are. -/
theorem key_beq_of_ofKey? {key : Json} (h : ofKey? key = none) (option : OptionName) :
    (Json.text option.key == key) = false := by
  rw [Json.text_beq_comm]
  simpa using List.find?_eq_none.1 h option (mem_all option)

end OptionName

namespace Options

/-- Whether no two options have the same key. -/
def KeysApart (options : Options) : Prop :=
  options.Pairwise fun former later => (former.1 == later.1) = false

/-- Setting an option passes by those with other keys. -/
theorem put_append {options : Options} {key : Json}
    (h : ∀ pair ∈ options, (pair.1 == key) = false) (rest : Options) (value : Json) :
    (options ++ rest).put key value = options ++ rest.put key value := by
  induction options with
  | nil => rfl
  | cons pair others ih =>
    obtain ⟨hpair, hothers⟩ := List.forall_mem_cons.1 h
    simp [put, hpair, ih hothers]

theorem put_of_apart {options : Options} {key : Json}
    (h : ∀ pair ∈ options, (pair.1 == key) = false) (value : Json) :
    options.put key value = options ++ [(key, value)] := by
  have happend := put_append h [] value
  rwa [List.append_nil] at happend

/-- The keys after an option is set are those before and the one that is set. -/
theorem forall_key_put {options : Options} {key : Json} {P : Json → Prop}
    (hold : ∀ pair ∈ options, P pair.1) (hnew : P key) (value : Json) :
    ∀ pair ∈ options.put key value, P pair.1 := by
  induction options with
  | nil => exact List.forall_mem_singleton.2 hnew
  | cons first rest ih =>
    obtain ⟨hfirst, hrest⟩ := List.forall_mem_cons.1 hold
    unfold put
    split
    · exact List.forall_mem_cons.2 ⟨hfirst, hrest⟩
    · exact List.forall_mem_cons.2 ⟨hfirst, ih hrest⟩

theorem keysApart_put {options : Options} (h : options.KeysApart) (key value : Json) :
    (options.put key value).KeysApart := by
  induction options with
  | nil => exact List.pairwise_singleton _ _
  | cons first rest ih =>
    obtain ⟨hfirst, hrest⟩ := List.pairwise_cons.1 h
    unfold put
    split
    · exact List.pairwise_cons.2 ⟨hfirst, hrest⟩
    · rename_i hkey
      have hnew : (first.1 == key) = false := Bool.eq_false_iff.2 hkey
      exact List.pairwise_cons.2
        ⟨forall_key_put (P := fun later => (first.1 == later) = false) hfirst hnew value, ih hrest⟩

theorem keysApart_putAll {options : Options} (h : options.KeysApart) (pairs : List (Json × Json)) :
    (options.putAll pairs).KeysApart := by
  induction pairs generalizing options with
  | nil => exact h
  | cons pair rest ih => exact ih (keysApart_put h pair.1 pair.2)

theorem keysApart_delete {options rest : Options} (h : options.KeysApart) {key : Json}
    (hdelete : options.delete key = .ok rest) : rest.KeysApart := by
  unfold delete at hdelete
  split at hdelete
  · obtain rfl := Except.ok.inj hdelete
    exact h.sublist List.filter_sublist
  · cases hdelete

/-- What is found under a text stands there. -/
theorem mem_of_lookup {options : Options} {key : Text} {value : Json}
    (h : options.lookup (.text key) = some value) : (.text key, value) ∈ options := by
  induction options with
  | nil => cases h
  | cons pair rest ih =>
    obtain ⟨k, v⟩ := pair
    rw [List.lookup_cons] at h
    split at h
    · rename_i hkey
      rw [Json.text_beq_comm] at hkey
      rw [Json.eq_text_of_beq hkey, ← Option.some.inj h]
      exact List.mem_cons_self
    · exact List.mem_cons_of_mem _ (ih h)

/-- What stands under a text is found, since no other option has the key. -/
theorem lookup_of_mem {options : Options} (h : options.KeysApart) {key : Text} {value : Json}
    (hmem : (.text key, value) ∈ options) : options.lookup (.text key) = some value := by
  induction options with
  | nil => cases hmem
  | cons pair rest ih =>
    obtain ⟨hfirst, hrest⟩ := List.pairwise_cons.1 h
    rw [List.lookup_cons]
    rcases List.mem_cons.1 hmem with rfl | hlater
    · simp
    · have hkey := hfirst _ hlater
      rw [← Json.text_beq_comm] at hkey
      rw [hkey]
      exact ih hrest hlater

theorem lookup_eq_none {options : Options} {key : Text}
    (h : ∀ pair ∈ options, (Json.text key == pair.1) = false) :
    options.lookup (.text key) = none := by
  cases hlookup : options.lookup (.text key) with
  | none => rfl
  | some value =>
    have hself := h _ (mem_of_lookup hlookup)
    simp at hself

/-! ## All known options, and what is put over them -/

/-- The known options in their order, each with its value. -/
def listing (value : OptionName → Json) : Options :=
  OptionName.all.map fun option => (.text option.key, value option)

/-- The options that are not known. -/
def unknown (options : Options) : Options :=
  options.filter fun pair => (OptionName.ofKey? pair.1).isNone

theorem mem_listing {value : OptionName → Json} {pair : Json × Json} :
    pair ∈ listing value ↔ ∃ option : OptionName, pair = (.text option.key, value option) := by
  constructor
  · intro h
    obtain ⟨option, -, rfl⟩ := List.mem_map.1 h
    exact ⟨option, rfl⟩
  · rintro ⟨option, rfl⟩
    exact List.mem_map.2 ⟨option, option.mem_all, rfl⟩

theorem mem_unknown {options : Options} {pair : Json × Json} :
    pair ∈ options.unknown ↔ pair ∈ options ∧ OptionName.ofKey? pair.1 = none := by
  rw [unknown, List.mem_filter, Option.isNone_iff_eq_none]

theorem keysApart_listing (value : OptionName → Json) : (listing value).KeysApart := by
  have hkeys : ∀ option other : OptionName, option ≠ other →
      (Json.text option.key == Json.text other.key) = false := by
    intro option other hne
    rw [Json.beq_text]
    exact beq_false_of_ne fun h => hne (OptionName.key_inj h)
  have hall : OptionName.all.Pairwise (· ≠ ·) := by decide
  exact hall.map _ hkeys

theorem keysApart_listing_append {options : Options} (h : options.KeysApart)
    (value : OptionName → Json) : (listing value ++ options.unknown).KeysApart := by
  refine List.pairwise_append.2 ⟨keysApart_listing value, h.sublist List.filter_sublist, ?_⟩
  intro former hformer later hlater
  obtain ⟨option, rfl⟩ := mem_listing.1 hformer
  exact OptionName.key_beq_of_ofKey? (mem_unknown.1 hlater).2 option

/-- A known option is set at its place. -/
theorem put_listing (value : OptionName → Json) (rest : Options) (option : OptionName)
    (new : Json) :
    (listing value ++ rest).put (.text option.key) new =
      listing (fun other => if other = option then new else value other) ++ rest := by
  cases option <;> rfl

/-- Options with keys apart are put over all the known ones: each of these takes the value that is
given under its key, and what is not known is added at the end. -/
theorem putAll_listing (rest : Options) {given : Options} (h : (rest ++ given).KeysApart)
    (value : OptionName → Json) :
    (listing value ++ rest).putAll given =
      listing (fun option => (given.lookup (.text option.key)).getD (value option)) ++
        (rest ++ given.unknown) := by
  -- by induction on what is given; `rest` collects what was not known so far
  induction given generalizing value rest with
  | nil => simp [putAll, unknown]
  | cons pair later ih =>
    obtain ⟨key, new⟩ := pair
    obtain ⟨hrest, hgiven, hcross⟩ := List.pairwise_append.1 h
    obtain ⟨hkey, hlater⟩ := List.pairwise_cons.1 hgiven
    show ((listing value ++ rest).put key new).putAll later = _
    cases hoption : OptionName.ofKey? key with
    | some option =>
      obtain rfl := OptionName.ofKey?_eq_some_iff.1 hoption
      have hskip : (rest ++ later).KeysApart := h.sublist
        (List.Sublist.append_left (List.sublist_cons_self _ _) rest)
      have hnone : later.lookup (.text option.key) = none := lookup_eq_none hkey
      have hunknown : unknown ((.text option.key, new) :: later) = unknown later := by
        simp [unknown, hoption]
      rw [put_listing, ih rest hskip, hunknown]
      congr 2
      funext other
      by_cases hother : other = option
      · subst hother
        simp [hnone, List.lookup_cons]
      · have hne : (Json.text other.key == Json.text option.key) = false := by
          rw [Json.beq_text]
          exact beq_false_of_ne fun hkeys => hother (OptionName.key_inj hkeys)
        rw [if_neg hother, List.lookup_cons, hne]
    | none =>
      have hknown : ∀ pair ∈ listing value, (pair.1 == key) = false := by
        intro pair hpair
        obtain ⟨option, rfl⟩ := mem_listing.1 hpair
        exact OptionName.key_beq_of_ofKey? hoption option
      have hnew : ∀ pair ∈ rest, (pair.1 == key) = false :=
        fun pair hpair => hcross pair hpair (key, new) List.mem_cons_self
      have hmoved : (rest ++ [(key, new)] ++ later).KeysApart := by
        rwa [List.append_assoc]
      have hunknown : unknown ((key, new) :: later) = (key, new) :: unknown later := by
        simp [unknown, hoption]
      have hlookup : ∀ option : OptionName, later.lookup (.text option.key) =
          List.lookup (.text option.key) ((key, new) :: later) := by
        intro option
        rw [List.lookup_cons, OptionName.key_beq_of_ofKey? hoption]
      rw [put_append hknown, put_of_apart hnew, ih _ hmoved, hunknown, List.append_assoc,
        List.singleton_append]
      simp only [hlookup]

end Options

/-! ## Checks -/

/-- Whether a value is of the kind that an option takes.  A truth value is no number. -/
inductive OptionType.Takes : OptionType → Json → Prop
  | bool (b : Bool) : Takes .bool (.bool b)
  | int (n : Int) : Takes .int (.int n)
  | str (t : Text) : Takes .str (.text t)

theorem OptionType.admits_iff_takes {type : OptionType} {value : Json} :
    type.admits value = true ↔ type.Takes value := by
  constructor
  · intro h
    cases type <;> cases value <;> first | constructor | cases h
  · rintro (_ | _ | _) <;> rfl

/-- Whether all options are known and have values of their kinds. -/
def Options.AreTyped (options : Options) : Prop :=
  ∀ pair ∈ options, ∃ option : OptionName,
    pair.1 = .text option.key ∧ option.type.Takes pair.2

theorem OptionName.takes_default (option : OptionName) : option.type.Takes option.default := by
  cases option <;> constructor

theorem Level.isSome_ofText?_iff {t : Text} :
    (ofText? t).isSome = true ↔ ∃ level : Level, upper t = level.word := by
  have hall : ∀ level : Level, level ∈ all := by
    intro level
    cases level <;> decide
  rw [ofText?, List.find?_isSome]
  constructor
  · rintro ⟨level, -, hlevel⟩
    exact ⟨level, (beq_iff_eq.1 hlevel).symm⟩
  · rintro ⟨level, hlevel⟩
    exact ⟨level, hall level, beq_iff_eq.2 hlevel.symm⟩

namespace Profile

/-- Whether validation succeeds. -/
def Passes (profile : Profile) : Prop :=
  ∃ noted, profile.validate = .ok noted

/-- What makes a profile valid, in no order. -/
structure IsValid (profile : Profile) : Prop where
  version_eq : profile.version = .text profileVersion
  /-- Every option given is known and has a value of its kind. -/
  areTyped : profile.options.AreTyped
  /-- The indentation in force is not negative. -/
  indent : ∃ n : Int, profile.get .exportIndent = .int n ∧ 0 ≤ n
  /-- The log level in force is the word for a level, but for cases. -/
  logLevel : ∃ t level, profile.get .logLevel = .text t ∧ upper t = Level.word level

theorem andThen_eq_ok_iff {first second : Except ProfileFault Unit} :
    (do first; second) = .ok () ↔ first = .ok () ∧ second = .ok () := by
  cases first with
  | error fault => simp [bind, Except.bind]
  | ok u => simp [bind, Except.bind]

theorem checkVersion_eq_ok_iff {version : Json} :
    checkVersion version = .ok () ↔ version = .text profileVersion := by
  cases version with
  | text t =>
    rw [checkVersion]
    by_cases h : t = profileVersion <;> simp [h]
  | _ => simp [checkVersion]

theorem checkOption_eq_ok_iff {key value : Json} :
    checkOption key value = .ok () ↔
      ∃ option : OptionName, key = .text option.key ∧ option.type.Takes value := by
  unfold checkOption
  cases hoption : OptionName.ofKey? key with
  | none =>
    constructor
    · intro h
      cases h
    · rintro ⟨option, rfl, -⟩
      rw [OptionName.ofKey?_key] at hoption
      cases hoption
  | some option =>
    obtain rfl := OptionName.ofKey?_eq_some_iff.1 hoption
    have hchosen : (∃ other : OptionName, Json.text option.key = .text other.key ∧
        other.type.Takes value) ↔ option.type.Takes value := by
      constructor
      · rintro ⟨other, hkey, htakes⟩
        rw [Json.text.injEq] at hkey
        rwa [OptionName.key_inj hkey]
      · intro htakes
        exact ⟨option, rfl, htakes⟩
    rw [hchosen, ← OptionType.admits_iff_takes]
    dsimp only
    split
    · rename_i hadmits
      exact iff_of_true rfl hadmits
    · rename_i hadmits
      refine iff_of_false (fun h => ?_) hadmits
      split at h <;> cases h

theorem checkOptions_eq_ok_iff {options : Options} :
    checkOptions options = .ok () ↔ options.AreTyped := by
  induction options with
  | nil => simp [checkOptions, Options.AreTyped]
  | cons pair rest ih =>
    rw [checkOptions, andThen_eq_ok_iff, checkOption_eq_ok_iff, ih, Options.AreTyped,
      Options.AreTyped, List.forall_mem_cons]

/-- Where the options given have the right kinds, so have the values in force. -/
theorem takes_get {profile : Profile} (h : profile.options.AreTyped) (option : OptionName) :
    option.type.Takes (profile.get option) := by
  unfold get
  cases hlookup : profile.options.lookup (.text option.key) with
  | none => exact option.takes_default
  | some value =>
    obtain ⟨other, hkey, htakes⟩ := h _ (Options.mem_of_lookup hlookup)
    obtain rfl := OptionName.key_inj (Json.text.inj hkey)
    exact htakes

theorem checkIndent_eq_ok_iff {value : Json} (h : OptionType.int.Takes value) :
    checkIndent value = .ok () ↔ ∃ n : Int, value = .int n ∧ 0 ≤ n := by
  cases h with
  | int n =>
    rw [checkIndent]
    by_cases hneg : n < 0
    · simp [hneg]
    · simp [hneg, Int.not_lt.1 hneg]

theorem checkLogLevel_eq_ok_iff {value : Json} (h : OptionType.str.Takes value) :
    checkLogLevel value = .ok () ↔ ∃ t level, value = .text t ∧ upper t = Level.word level := by
  cases h with
  | str t =>
    have hnamed : (∃ s level, Json.text t = .text s ∧ upper s = Level.word level) ↔
        (Level.ofText? t).isSome = true := by
      rw [Level.isSome_ofText?_iff]
      simp
    rw [hnamed, checkLogLevel]
    cases (Level.ofText? t).isSome <;> simp

theorem check_eq_ok_iff {profile : Profile} : profile.check = .ok () ↔ profile.IsValid := by
  unfold check
  rw [andThen_eq_ok_iff, andThen_eq_ok_iff, andThen_eq_ok_iff, checkVersion_eq_ok_iff,
    checkOptions_eq_ok_iff]
  -- the values in force are looked at only after the options have the right kinds
  constructor
  · rintro ⟨hversion, htyped, hindent, hlevel⟩
    exact ⟨hversion, htyped, (checkIndent_eq_ok_iff (takes_get htyped .exportIndent)).1 hindent,
      (checkLogLevel_eq_ok_iff (takes_get htyped .logLevel)).1 hlevel⟩
  · rintro ⟨hversion, htyped, hindent, hlevel⟩
    exact ⟨hversion, htyped, (checkIndent_eq_ok_iff (takes_get htyped .exportIndent)).2 hindent,
      (checkLogLevel_eq_ok_iff (takes_get htyped .logLevel)).2 hlevel⟩

theorem passes_iff_isValid {profile : Profile} : profile.Passes ↔ profile.IsValid := by
  rw [← check_eq_ok_iff, Passes, validate]
  cases profile.check with
  | error fault => simp [Except.map]
  | ok u => simp [Except.map]

/-! ## Loading what was saved -/

/-- The profile with all known options given, and those that are not known behind them. -/
def inFull (profile : Profile) : Profile :=
  { profile with options := Options.listing profile.get ++ profile.options.unknown }

theorem load_saved {profile : Profile} (h : profile.options.KeysApart) :
    profile.saved.load = .ok ⟨profile.inFull, [SavedProfile.loaded profile.inFull]⟩ := by
  have hoptions : Options.defaults.putAll profile.options =
      Options.listing profile.get ++ profile.options.unknown := by
    have hput := Options.putAll_listing [] h OptionName.default
    rwa [List.append_nil, List.nil_append] at hput
  have hfull : { profile with options := Options.defaults.putAll profile.options } =
      profile.inFull := by
    rw [hoptions]
    rfl
  rw [← hfull]
  rfl

theorem lookup_inFull (profile : Profile) (option : OptionName) :
    profile.inFull.options.lookup (.text option.key) = some (profile.get option) := by
  cases option <;> rfl

theorem get_inFull (profile : Profile) (option : OptionName) :
    profile.inFull.get option = profile.get option := by
  rw [get, lookup_inFull, Option.getD_some]

theorem getKey?_key (profile : Profile) (option : OptionName) :
    profile.getKey? (.text option.key) = some (profile.get option) := by
  rw [getKey?, get, OptionName.ofKey?_key]
  cases profile.options.lookup (.text option.key) with
  | none => rfl
  | some value => rfl

theorem keysApart_inFull {profile : Profile} (h : profile.options.KeysApart) :
    profile.inFull.options.KeysApart :=
  Options.keysApart_listing_append h profile.get

theorem inFull_inFull (profile : Profile) : profile.inFull.inFull = profile.inFull := by
  have hget : profile.inFull.get = profile.get := funext profile.get_inFull
  have hknown : Options.unknown (Options.listing profile.get) = [] := by
    refine List.filter_eq_nil_iff.2 fun pair hpair => ?_
    obtain ⟨option, rfl⟩ := Options.mem_listing.1 hpair
    simp [OptionName.ofKey?_key]
  have hunknown : profile.inFull.options.unknown = profile.options.unknown := by
    have hsplit : profile.inFull.options.unknown =
        Options.unknown (Options.listing profile.get) ++ profile.options.unknown.unknown :=
      List.filter_append ..
    rw [hsplit, hknown, List.nil_append, Options.unknown, Options.unknown, List.filter_filter]
    simp
  rw [inFull, hget, hunknown]
  rfl

/-- The options in full have the right kinds iff those given have. -/
theorem areTyped_inFull_iff {profile : Profile} (h : profile.options.KeysApart) :
    profile.inFull.options.AreTyped ↔ profile.options.AreTyped := by
  constructor
  · rintro htyped ⟨key, value⟩ hpair
    cases hoption : OptionName.ofKey? key with
    | some option =>
      obtain rfl := OptionName.ofKey?_eq_some_iff.1 hoption
      have hget : profile.get option = value := by
        rw [get, Options.lookup_of_mem h hpair, Option.getD_some]
      have htakes := takes_get htyped option
      rw [get_inFull, hget] at htakes
      exact ⟨option, rfl, htakes⟩
    | none => exact htyped _ (List.mem_append_right _ (Options.mem_unknown.2 ⟨hpair, hoption⟩))
  · intro htyped pair hpair
    rcases List.mem_append.1 hpair with hknown | hunknown
    · obtain ⟨option, rfl⟩ := Options.mem_listing.1 hknown
      exact ⟨option, rfl, takes_get htyped option⟩
    · exact htyped pair (Options.mem_unknown.1 hunknown).1

theorem isValid_inFull_iff {profile : Profile} (h : profile.options.KeysApart) :
    profile.inFull.IsValid ↔ profile.IsValid := by
  constructor
  · rintro ⟨hversion, htyped, hindent, hlevel⟩
    rw [get_inFull] at hindent hlevel
    exact ⟨hversion, (areTyped_inFull_iff h).1 htyped, hindent, hlevel⟩
  · rintro ⟨hversion, htyped, hindent, hlevel⟩
    rw [← get_inFull] at hindent hlevel
    exact ⟨hversion, (areTyped_inFull_iff h).2 htyped, hindent, hlevel⟩

/-- What a profile that has been saved and loaded has in common with the one that was saved. -/
structure SameMeaning (profile loaded : Profile) : Prop where
  name_eq : loaded.name = profile.name
  version_eq : loaded.version = profile.version
  /-- Every known option has the same value in force. -/
  get_eq : ∀ option : OptionName, loaded.get option = profile.get option
  getKey?_eq : ∀ option : OptionName,
    loaded.getKey? (.text option.key) = profile.getKey? (.text option.key)
  passes_iff : loaded.Passes ↔ profile.Passes

/-- **Saving and loading keeps what a profile means.**  A profile with any name, version and options
is loaded from what it saves, with the same values in force, and passes validation iff it did
before.  Saved and loaded once more it stays as it is.  It passes iff the version is the one that is
supported, every option given is known and of its kind, and the indentation and the log level in
force are what they have to be. -/
theorem load_saved_sameMeaning (profile : Profile) (h : profile.options.KeysApart) :
    (∃ loaded log, profile.saved.load = .ok ⟨loaded, log⟩ ∧ SameMeaning profile loaded ∧
      ∃ relog, loaded.saved.load = .ok ⟨loaded, relog⟩) ∧
    (profile.Passes ↔ profile.IsValid) := by
  refine ⟨⟨profile.inFull, _, load_saved h, ?_, ?_⟩, passes_iff_isValid⟩
  · refine ⟨rfl, rfl, profile.get_inFull, ?_, ?_⟩
    · intro option
      rw [getKey?_key, getKey?_key, get_inFull]
    · rw [passes_iff_isValid, passes_iff_isValid]
      exact isValid_inFull_iff h
  · have hagain := load_saved (keysApart_inFull h)
    rw [inFull_inFull] at hagain
    exact ⟨_, hagain⟩

/-- Two of the known options, not in their order, and two that are not known, one of them under a
number. -/
def patchyProfile : Profile where
  name := .text "patchy".toList
  options := Options.putAll [] [
    (.int 1, .null),
    (.text OptionName.logLevel.key, .text "ınfo".toList),
    (.text "colour".toList, .bool true),
    (.text OptionName.exportIndent.key, .int 4)]

/-- What the patchy profile saves is loaded with its values in force, and is no more valid than it
was: one option is not known. -/
theorem load_saved_patchyProfile :
    patchyProfile.options.KeysApart ∧
      ∃ loaded log, patchyProfile.saved.load = .ok ⟨loaded, log⟩ ∧
        loaded.get .exportIndent = .int 4 ∧ loaded.get .stripComments = .bool true ∧
        ¬ loaded.Passes := by
  have happart : patchyProfile.options.KeysApart :=
    Options.keysApart_putAll List.Pairwise.nil _
  obtain ⟨⟨loaded, log, hload, hsame, -⟩, hvalid⟩ := load_saved_sameMeaning patchyProfile happart
  refine ⟨happart, loaded, log, hload, hsame.get_eq .exportIndent, hsame.get_eq .stripComments, ?_⟩
  rw [hsame.passes_iff, hvalid]
  rintro ⟨-, htyped, -, -⟩
  obtain ⟨option, hkey, -⟩ := htyped (.int 1, .null) List.mem_cons_self
  cases hkey

end Profile

end RenamePlan
