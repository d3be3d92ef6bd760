import RenamePlan.Log.Tree

/-!
# What setting up one logger changes in the tree

Setting up a logger is about its level and its handlers (`Settings`).  Those of the logger that is
set up become a function of what they were and of the level and log file that are asked for
(`Logger.settings_setup`); those of every other logger stay (`LoggerTree.settings_setupAt`).

To set up a logger may also make it, which gives other loggers a new parent, and it forgets what was
found for levels.  Neither is seen in settings, whence they are looked up by name, and a logger that
is not there yet has none.  The root goes by two names, and no other logger has one of these
(`LoggerTree.IsNamed`).
-/

namespace RenamePlan

/-- The level of a logger and its handlers. -/
structure Settings where
  level : Option Level := none
  handlers : List Handler := []
deriving DecidableEq

/-! ## Levels and handlers -/

namespace Handler

@[simp] theorem isFile_setConsole (level : Level) (handler : Handler) :
    (handler.setConsole level).isFile = handler.isFile := by
  cases handler <;> rfl

@[simp] theorem isConsole_setConsole (level : Level) (handler : Handler) :
    (handler.setConsole level).isConsole = handler.isConsole := by
  cases handler <;> rfl

/-- A file keeps its level: it is a stream, but no console. -/
theorem setConsole_of_isFile {handler : Handler} (h : handler.isFile = true) (level : Level) :
    handler.setConsole level = handler := by
  cases handler with
  | file => rfl
  | _ => cases h

theorem setConsole_of_isConsole {handler : Handler} (h : handler.isConsole = true) (level : Level) :
    handler.setConsole level = .console level := by
  cases handler with
  | console => rfl
  | _ => cases h

theorem setConsole_eq_self_iff {handler : Handler} {level : Level} :
    handler.setConsole level = handler ↔
      (handler.isConsole = true → handler = .console level) := by
  constructor
  · intro h hconsole
    rw [← h, setConsole_of_isConsole hconsole]
  · intro h
    cases hconsole : handler.isConsole with
    | true => rw [setConsole_of_isConsole hconsole, h hconsole]
    | false => rw [setConsole, hconsole, if_neg Bool.false_ne_true]

end Handler

namespace Settings

/-- The settings at a level, which the consoles get too; a console is added if there is none. -/
def atLevel (settings : Settings) (level : Level) : Settings where
  level := some level
  handlers :=
    if settings.handlers.any Handler.isConsole then
      settings.handlers.map (Handler.setConsole level)
    else settings.handlers ++ [.console level]

/-- There are as many consoles as before, but at least one, and all have the level. -/
theorem consoles_atLevel (settings : Settings) (level : Level) :
    (settings.atLevel level).handlers.filter Handler.isConsole =
      List.replicate (max 1 (settings.handlers.filter Handler.isConsole).length)
        (.console level) := by
  unfold atLevel
  dsimp only
  split
  · rename_i hany
    have hcomm : Handler.isConsole ∘ Handler.setConsole level = Handler.isConsole :=
      funext (Handler.isConsole_setConsole level)
    have hset : (settings.handlers.filter Handler.isConsole).map (Handler.setConsole level) =
        (settings.handlers.filter Handler.isConsole).map fun _ => .console level :=
      List.map_congr_left fun handler hhandler =>
        Handler.setConsole_of_isConsole (List.mem_filter.1 hhandler).2 level
    have hpos : 0 < (settings.handlers.filter Handler.isConsole).length := by
      obtain ⟨handler, hhandler, hconsole⟩ := List.any_eq_true.1 hany
      exact List.length_pos_of_mem (List.mem_filter.2 ⟨hhandler, hconsole⟩)
    rw [List.filter_map, hcomm, hset, List.map_const', Nat.max_eq_right hpos]
  · rename_i hnone
    have hempty : settings.handlers.filter Handler.isConsole = [] :=
      List.filter_eq_nil_iff.2 fun handler hhandler hconsole =>
        hnone (List.any_eq_true.2 ⟨handler, hhandler, hconsole⟩)
    rw [List.filter_append, hempty]
    rfl

/-- The files stay as they are, though they are streams like the consoles. -/
theorem files_atLevel (settings : Settings) (level : Level) :
    (settings.atLevel level).handlers.filter Handler.isFile =
      settings.handlers.filter Handler.isFile := by
  unfold atLevel
  dsimp only
  split
  · have hcomm : Handler.isFile ∘ Handler.setConsole level = Handler.isFile :=
      funext (Handler.isFile_setConsole level)
    have hset : (settings.handlers.filter Handler.isFile).map (Handler.setConsole level) =
        (settings.handlers.filter Handler.isFile).map id :=
      List.map_congr_left fun handler hhandler =>
        Handler.setConsole_of_isFile (List.mem_filter.1 hhandler).2 level
    rw [List.filter_map, hcomm, hset, List.map_id]
  · rw [List.filter_append]
    exact List.append_nil _

/-- Whether there is a console, and the level and the consoles are at the given one. -/
structure IsAt (settings : Settings) (level : Level) : Prop where
  level_eq : settings.level = some level
  any_console : settings.handlers.any Handler.isConsole = true
  consoles_eq : ∀ handler ∈ settings.handlers, handler.isConsole = true → handler = .console level

theorem atLevel_eq_self_iff {settings : Settings} {level : Level} :
    settings.atLevel level = settings ↔ settings.IsAt level := by
  obtain ⟨former, handlers⟩ := settings
  have hmap : handlers.map (Handler.setConsole level) = handlers ↔
      ∀ handler ∈ handlers, handler.isConsole = true → handler = .console level := by
    have hid := List.map_inj_left (l := handlers) (f := Handler.setConsole level) (g := id)
    simp only [List.map_id, id, Handler.setConsole_eq_self_iff] at hid
    exact hid
  unfold atLevel
  dsimp only
  constructor
  · intro h
    obtain ⟨hlevel, hhandlers⟩ := Settings.mk.inj h
    split at hhandlers
    · rename_i hany
      exact ⟨hlevel.symm, hany, hmap.1 hhandlers⟩
    · -- a console has been added
      simp at hhandlers
  · rintro ⟨hlevel, hany, hconsoles⟩
    rw [if_pos hany, hmap.2 hconsoles]
    exact congrArg (Settings.mk · handlers) hlevel.symm

/-- The settings with one more file. -/
def withFile (settings : Settings) (path : Path) : Settings :=
  { settings with handlers := settings.handlers ++ [.file fileLevel path] }

/-- The settings after a logger is set up at a level, when `opened` is the log file that it asks for
and that can be opened.  A logger that has a file gets no other. -/
def setUp (settings : Settings) (level : Level) (opened : Option Path) : Settings :=
  match opened with
  | some path =>
    if settings.handlers.any Handler.isFile then settings.atLevel level
    else (settings.atLevel level).withFile path
  | none => settings.atLevel level

theorem setUp_of_isFile (settings : Settings)
    (h : settings.handlers.any Handler.isFile = true) (level : Level) (opened : Option Path) :
    settings.setUp level opened = settings.atLevel level := by
  cases opened with
  | none => rfl
  | some path => exact if_pos h

theorem setUp_some (settings : Settings) (h : settings.handlers.any Handler.isFile = false)
    (level : Level) (path : Path) :
    settings.setUp level (some path) = (settings.atLevel level).withFile path :=
  if_neg (Bool.eq_false_iff.1 h)

end Settings

/-! ## One logger -/

/-- Where a log file is opened, if its folder is there or can be made and the file can be opened. -/
def FileSystem.opened? (files : FileSystem) (here : Surroundings) (path : Path) : Option Path :=
  let attempt := files.ensureFolder here path.parent
  match attempt.fault, attempt.files.openForLines here (Logger.logPath here path) with
  | none, .ok _ => some (Logger.logPath here path)
  | _, _ => none

namespace Logger

/-- The settings of the logger. -/
def settings (logger : Logger) : Settings :=
  ⟨logger.level, logger.handlers⟩

/-- The logger with one more file. -/
def withFile (logger : Logger) (path : Path) : Logger :=
  { logger with handlers := logger.handlers ++ [.file fileLevel path] }

/-- What opening a log file leaves. -/
theorem openFile_cases (logger : Logger) (files : FileSystem) (here : Surroundings) (path : Path) :
    (∃ fault, (logger.openFile files here path).fault = some fault ∧
      (logger.openFile files here path).logger = logger ∧ files.opened? here path = none) ∨
    ∃ opened, (logger.openFile files here path).fault = none ∧
      (logger.openFile files here path).logger = logger.withFile opened ∧
      files.opened? here path = some opened := by
  unfold openFile FileSystem.opened?
  dsimp only
  cases (files.ensureFolder here path.parent).fault with
  | some fault => exact .inl ⟨fault, rfl, rfl, rfl⟩
  | none =>
    cases (files.ensureFolder here path.parent).files.openForLines here (logPath here path) with
    | error fault => exact .inl ⟨fault, rfl, rfl, rfl⟩
    | ok _ => exact .inr ⟨logPath here path, rfl, rfl, rfl⟩

/-- What setting up a logger can come to.  It fails if it has to open a file and cannot; else it has
a file already or asks for none, or it opens one. -/
theorem setup_cases (logger : Logger) (files : FileSystem) (here : Surroundings) (level : Level)
    (logFile : Option Path) :
    (∃ fault, (logger.setup files here level logFile).fault = some fault ∧
      (logger.setup files here level logFile).logger = logger.atLevel level ∧
      logger.handlers.any Handler.isFile = false ∧ logFile.bind (files.opened? here) = none) ∨
    ((logger.setup files here level logFile).fault = none ∧
      (logger.setup files here level logFile).logger = logger.atLevel level ∧
      (logger.handlers.any Handler.isFile = true ∨ logFile.bind (files.opened? here) = none)) ∨
    ∃ opened, (logger.setup files here level logFile).fault = none ∧
      (logger.setup files here level logFile).logger = (logger.atLevel level).withFile opened ∧
      logger.handlers.any Handler.isFile = false ∧
      logFile.bind (files.opened? here) = some opened := by
  unfold setup
  cases logFile with
  | none => exact .inr (.inl ⟨rfl, rfl, .inr rfl⟩)
  | some path =>
    rw [Option.bind_some]
    cases hfile : logger.handlers.any Handler.isFile with
    | true => exact .inr (.inl ⟨rfl, rfl, .inl rfl⟩)
    | false =>
      rcases openFile_cases (logger.atLevel level) files here path with
        ⟨fault, hfault, hlogger, hopened⟩ | ⟨opened, hfault, hlogger, hopened⟩
      · exact .inl ⟨fault, hfault, hlogger, rfl, hopened⟩
      · exact .inr (.inr ⟨opened, hfault, hlogger, rfl, hopened⟩)

theorem settings_setup (logger : Logger) (files : FileSystem) (here : Surroundings) (level : Level)
    (logFile : Option Path) :
    (logger.setup files here level logFile).logger.settings =
      logger.settings.setUp level (logFile.bind (files.opened? here)) := by
  rcases logger.setup_cases files here level logFile with ⟨_, -, hlogger, -, hopened⟩ |
    ⟨-, hlogger, hfile | hopened⟩ | ⟨opened, -, hlogger, hfile, hopened⟩
  · rw [hlogger, hopened]
    rfl
  · rw [hlogger]
    exact (logger.settings.setUp_of_isFile hfile level _).symm
  · rw [hlogger, hopened]
    rfl
  · rw [hlogger, hopened]
    exact (logger.settings.setUp_some hfile level opened).symm

theorem name_setup (logger : Logger) (files : FileSystem) (here : Surroundings) (level : Level)
    (logFile : Option Path) :
    (logger.setup files here level logFile).logger.name = logger.name := by
  rcases logger.setup_cases files here level logFile with ⟨_, -, hlogger, -⟩ | ⟨-, hlogger, -⟩ |
    ⟨_, -, hlogger, -⟩ <;> rw [hlogger] <;> rfl

/-- A logger cannot be set up only if it has to open a file; it is then set up without. -/
theorem setup_of_fault {logger : Logger} {files : FileSystem} {here : Surroundings} {level : Level}
    {logFile : Option Path} {fault : FileFault}
    (h : (logger.setup files here level logFile).fault = some fault) :
    (logger.setup files here level logFile).logger = logger.atLevel level ∧
      logger.handlers.any Handler.isFile = false := by
  rcases logger.setup_cases files here level logFile with ⟨_, -, hlogger, hfile, -⟩ | ⟨hnone, -⟩ |
    ⟨_, hnone, -⟩
  · exact ⟨hlogger, hfile⟩
  · rw [hnone] at h
    cases h
  · rw [hnone] at h
    cases h

end Logger

/-! ## Loggers by name -/

namespace LoggerTree

/-- Whether the root, and no other logger, goes by the names of the root. -/
structure IsNamed (tree : LoggerTree) : Prop where
  root_name : tree.root.name = rootName
  others : ∀ logger ∈ tree.named, isRootName logger.name = false

/-- Whether two names are those of one logger. -/
def sameLogger (name other : Text) : Bool :=
  name == other || isRootName name && isRootName other

/-- The settings of the logger with the given name.  A logger that is not there has neither a level
nor handlers. -/
def settings (tree : LoggerTree) (name : Text) : Settings :=
  if isRootName name then tree.root.settings
  else ((tree.find? name).map Logger.settings).getD {}

theorem sameLogger_of_isRootName {name : Text} (h : isRootName name = true) (other : Text) :
    sameLogger name other = isRootName other := by
  rw [sameLogger, h, Bool.true_and]
  cases hother : isRootName other with
  | true => exact Bool.or_true _
  | false =>
    rw [Bool.or_false]
    refine beq_false_of_ne ?_
    rintro rfl
    rw [h] at hother
    cases hother

theorem sameLogger_of_other {name : Text} (h : isRootName name = false) (other : Text) :
    sameLogger name other = (name == other) := by
  rw [sameLogger, h, Bool.false_and, Bool.or_false]

/-- The root is the same logger under any of its names. -/
theorem sameLogger_rootName (name other : Text) :
    sameLogger (if isRootName name then rootName else name) other = sameLogger name other := by
  cases h : isRootName name with
  | true =>
    rw [sameLogger_of_isRootName h]
    exact sameLogger_of_isRootName rfl other
  | false => rfl

theorem settings_congr (tree : LoggerTree) {name other : Text}
    (h : sameLogger name other = true) : tree.settings other = tree.settings name := by
  cases hroot : isRootName name with
  | true =>
    rw [sameLogger_of_isRootName hroot] at h
    rw [settings, settings, if_pos hroot, if_pos h]
  | false =>
    rw [sameLogger_of_other hroot] at h
    rw [beq_iff_eq.1 h]

theorem isNamed_initial : initial.IsNamed :=
  ⟨rfl, by decide⟩

theorem find?_of_isRootName {tree : LoggerTree} (h : tree.IsNamed) {name : Text}
    (hroot : isRootName name = true) : tree.find? name = none := by
  refine List.find?_eq_none.2 fun logger hlogger hname => ?_
  rw [← beq_iff_eq.1 hname, h.others logger hlogger] at hroot
  cases hroot

theorem name_of_find? {tree : LoggerTree} {name : Text} {logger : Logger}
    (h : tree.find? name = some logger) : logger.name = name := by
  rw [find?] at h
  have hname := List.find?_some h
  exact beq_iff_eq.1 hname

/-- Loggers that are changed one by one and keep their names are found as before. -/
theorem find?_map {f : Logger → Logger} (hname : ∀ logger, (f logger).name = logger.name)
    (loggers : List Logger) (name : Text) :
    (loggers.map f).find? (·.name == name) = (loggers.find? (·.name == name)).map f := by
  rw [List.find?_map]
  congr 2
  funext logger
  exact congrArg (· == name) (hname logger)

/-! ### Making a logger -/

theorem name_placeBelow (name : Text) (logger : Logger) :
    (placeBelow name logger).name = logger.name := by
  unfold placeBelow
  split <;> rfl

theorem settings_placeBelow (name : Text) (logger : Logger) :
    (placeBelow name logger).settings = logger.settings := by
  unfold placeBelow
  split <;> rfl

theorem isNamed_register {tree : LoggerTree} (h : tree.IsNamed) (name : Text) :
    (tree.register name).IsNamed := by
  unfold register
  split
  · exact h
  · rename_i hnew
    refine ⟨h.root_name, fun logger hlogger => ?_⟩
    rcases List.mem_append.1 hlogger with hold | hmade
    · obtain ⟨former, hformer, rfl⟩ := List.mem_map.1 hold
      rw [name_placeBelow]
      exact h.others former hformer
    · obtain rfl := List.mem_singleton.1 hmade
      simp only [Bool.or_eq_true, not_or, Bool.not_eq_true] at hnew
      exact hnew.1

/-- A logger that is made has the settings of one that is not there. -/
theorem settings_register (tree : LoggerTree) (name other : Text) :
    (tree.register name).settings other = tree.settings other := by
  unfold register
  split
  · rfl
  · simp only [settings, find?, List.find?_append]
    split
    · rfl
    · rw [find?_map (name_placeBelow name)]
      cases tree.named.find? (·.name == other) with
      | some logger => exact settings_placeBelow name logger
      | none =>
        simp only [Option.map_none, Option.none_or, Option.getD_none, List.find?_cons,
          List.find?_nil]
        split <;> rfl

/-- The logger that is looked up once it has been made, unless it is the root. -/
theorem exists_find?_register (tree : LoggerTree) {name : Text} (h : isRootName name = false) :
    ∃ logger, (tree.register name).find? name = some logger ∧ logger.name = name := by
  have hfound : ((tree.register name).find? name).isSome = true := by
    unfold register
    rw [h, Bool.false_or]
    split
    · assumption
    · simp [find?]
  obtain ⟨logger, hlogger⟩ := Option.isSome_iff_exists.1 hfound
  exact ⟨logger, hlogger, name_of_find? hlogger⟩

/-! ### Putting a logger in its place -/

theorem isNamed_put {tree : LoggerTree} (h : tree.IsNamed) {logger : Logger}
    (hname : isRootName logger.name = true → logger.name = rootName) :
    (tree.put logger).IsNamed := by
  unfold put
  split
  · rename_i hroot
    exact ⟨hname hroot, h.others⟩
  · rename_i hother
    refine ⟨h.root_name, fun l hl => ?_⟩
    obtain ⟨former, hformer, rfl⟩ := List.mem_map.1 hl
    split
    · exact Bool.eq_false_iff.2 hother
    · exact h.others former hformer

/-- Only the settings of the logger that is put in its place change. -/
theorem settings_put {tree : LoggerTree} {logger : Logger}
    (hthere : isRootName logger.name = true ∨ (tree.find? logger.name).isSome = true)
    (other : Text) :
    (tree.put logger).settings other =
      if sameLogger logger.name other then logger.settings else tree.settings other := by
  cases hroot : isRootName logger.name with
  | true =>
    rw [put, if_pos hroot, sameLogger_of_isRootName hroot, settings, settings]
    split <;> rfl
  | false =>
    have hput : tree.put logger = { tree with
        named := tree.named.map fun l => if l.name = logger.name then logger else l } :=
      if_neg (Bool.eq_false_iff.1 hroot)
    have hfind : ∀ name, (tree.put logger).find? name =
        (tree.find? name).map fun l => if l.name = logger.name then logger else l := by
      intro name
      rw [hput]
      refine find?_map (fun l => ?_) tree.named name
      split
      · rename_i hname
        exact hname.symm
      · rfl
    rw [sameLogger_of_other hroot]
    by_cases hother : logger.name = other
    · subst hother
      obtain ⟨former, hformer⟩ : ∃ former, tree.find? logger.name = some former := by
        rcases hthere with hcontra | hsome
        · rw [hroot] at hcontra
          cases hcontra
        · exact Option.isSome_iff_exists.1 hsome
      rw [settings, hroot, hfind, hformer, Option.map_some, if_pos (name_of_find? hformer)]
      simp
    · have hkept : (tree.put logger).find? other = tree.find? other := by
        rw [hfind]
        cases hl : tree.find? other with
        | none => rfl
        | some l =>
          have hlname : ¬ l.name = logger.name := fun hname =>
            hother (hname.symm.trans (name_of_find? hl))
          rw [Option.map_some, if_neg hlname]
      have hroots : (tree.put logger).root = tree.root := by rw [hput]
      rw [beq_false_of_ne hother, settings, hkept, hroots]
      rfl

/-! ### Setting up a logger -/

theorem isNamed_forget {tree : LoggerTree} (h : tree.IsNamed) : tree.forget.IsNamed := by
  refine ⟨h.root_name, fun logger hlogger => ?_⟩
  obtain ⟨former, hformer, rfl⟩ := List.mem_map.1 hlogger
  exact h.others former hformer

theorem settings_forget (tree : LoggerTree) (name : Text) :
    tree.forget.settings name = tree.settings name := by
  unfold settings
  split
  · rfl
  · have hfind : tree.forget.find? name =
        (tree.find? name).map fun logger => { logger with verdicts := [] } :=
      find?_map (f := fun logger => { logger with verdicts := [] }) (fun _ => rfl) tree.named name
    rw [hfind, Option.map_map]
    rfl

/-- The logger that is set up has its name, or that of the root, and the settings found under the
name. -/
theorem get_register {tree : LoggerTree} (h : tree.IsNamed) (name : Text) :
    ((tree.register name).get name).settings = tree.settings name ∧
      ((tree.register name).get name).name = if isRootName name then rootName else name := by
  have hnamed := isNamed_register h name
  rw [← settings_register tree name name]
  cases hroot : isRootName name with
  | true =>
    have hget : (tree.register name).get name = (tree.register name).root := by
      rw [get, find?_of_isRootName hnamed hroot, Option.getD_none]
    rw [hget, settings, hroot]
    exact ⟨rfl, hnamed.root_name⟩
  | false =>
    obtain ⟨logger, hfind, hname⟩ := exists_find?_register tree hroot
    rw [get, hfind, settings, hroot, hfind]
    exact ⟨rfl, hname⟩

theorem isNamed_setupAt {tree : LoggerTree} (h : tree.IsNamed) (files : FileSystem)
    (here : Surroundings) (name : Text) (level : Level) (logFile : Option Path) :
    (tree.setupAt files here name level logFile).tree.IsNamed := by
  refine isNamed_forget (isNamed_put (isNamed_register h name) fun hroot => ?_)
  rw [Logger.name_setup, (get_register h name).2] at hroot ⊢
  split
  · rfl
  · rename_i hother
    rw [if_neg hother] at hroot
    exact absurd hroot hother

/-- Setting up a logger fails only at a file, for a logger without one, and then leaves what it
leaves without a log file. -/
theorem setupAt_of_fault {tree : LoggerTree} (h : tree.IsNamed) {files : FileSystem}
    {here : Surroundings} {name : Text} {level : Level} {logFile : Option Path} {fault : SetupFault}
    (hfault : (tree.setupAt files here name level logFile).fault = some fault) :
    (tree.setupAt files here name level logFile).tree =
        (tree.setupAt files here name level none).tree ∧
      (tree.settings name).handlers.any Handler.isFile = false ∧ ∃ f, fault = .file f := by
  obtain ⟨f, hf, rfl⟩ := Option.map_eq_some_iff.1 hfault
  obtain ⟨hlogger, hfile⟩ := Logger.setup_of_fault hf
  refine ⟨?_, ?_, f, rfl⟩
  · unfold setupAt
    dsimp only
    rw [hlogger]
    rfl
  · rw [← (get_register h name).1]
    exact hfile

/-- **Setting up a logger** gives it the settings that were asked for, and leaves those of all
others. -/
theorem settings_setupAt {tree : LoggerTree} (h : tree.IsNamed) (files : FileSystem)
    (here : Surroundings) (name : Text) (level : Level) (logFile : Option Path) (other : Text) :
    (tree.setupAt files here name level logFile).tree.settings other =
      if sameLogger name other then
        (tree.settings other).setUp level (logFile.bind (files.opened? here))
      else tree.settings other := by
  obtain ⟨hsettings, hname⟩ := get_register h name
  unfold setupAt
  dsimp only
  generalize hdone : ((tree.register name).get name).setup files here level logFile = done
  have hdoneName : done.logger.name = if isRootName name then rootName else name := by
    rw [← hdone, Logger.name_setup, hname]
  have hdoneSettings : done.logger.settings =
      (tree.settings name).setUp level (logFile.bind (files.opened? here)) := by
    rw [← hdone, Logger.settings_setup, hsettings]
  have hthere : isRootName done.logger.name = true ∨
      ((tree.register name).find? done.logger.name).isSome = true := by
    rw [hdoneName]
    cases hroot : isRootName name with
    | true => exact .inl rfl
    | false =>
      obtain ⟨logger, hfind, -⟩ := exists_find?_register tree hroot
      exact .inr (Option.isSome_iff_exists.2 ⟨logger, hfind⟩)
  rw [settings_forget, settings_put hthere, settings_register, hdoneName, sameLogger_rootName,
    hdoneSettings]
  split
  · rename_i hsame
    rw [settings_congr tree hsame]
  · rfl

end LoggerTree

end RenamePlan
