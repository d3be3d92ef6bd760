import RenamePlan.Proofs.Log.Settings

/-!
# Setting up loggers again and again

A program may set up a logger any number of times, at words that are levels or not, with log files
that can be opened or not, and other loggers in between.

* **One call** — the settings of the logger after a call are a function of those before it
  (`SetupCall.settle`), and those of other loggers stay (`SetupCall.settings_perform`).
* **All calls** — a logger that began without streams has at most one console and one file.  Its
  level and that of its console come from the last call with a level, and its file from the first
  call that opened one (`isSetUpBy_afterSetups`).
* **Calls that fail** — a word that is no level changes nothing.  A log file that cannot be opened
  is found out late, when the level and the console are already set (`perform_of_fault`).
-/

namespace RenamePlan

/-- A call that sets up a logger, with the file system that it finds. -/
structure SetupCall where
  /-- What stands for the logger. -/
  name : Json
  /-- What names the level. -/
  level : Json
  logFile : Option Path := none
  files : FileSystem := {}
  here : Surroundings

namespace SetupCall

/-- Carries out the call. -/
def perform (call : SetupCall) (tree : LoggerTree) : LoggerTree.Change :=
  tree.setup call.files call.here call.name call.level call.logFile

/-- Whether the call is for the logger with the given name. -/
def isFor (call : SetupCall) (name : Text) : Bool :=
  match LoggerTree.nameOf call.name with
  | .ok own => LoggerTree.sameLogger own name
  | .error _ => false

/-- The level that the call names, if it names one. -/
def level? (call : SetupCall) : Option Level :=
  (LoggerTree.levelOf call.level).toOption

/-- Where the call opens a log file for a logger without one: it names a level and asks for a file
that can be opened. -/
def opened? (call : SetupCall) : Option Path :=
  call.level?.bind fun _ => call.logFile.bind (call.files.opened? call.here)

/-- What the call makes of the settings of its logger. -/
def settle (call : SetupCall) (settings : Settings) : Settings :=
  match call.level? with
  | some level => settings.setUp level call.opened?
  | none => settings

/-! ## One call -/

/-- What a call can come to, whatever log file it asks for: it stops at the level or at the name, or
it sets up the logger. -/
theorem perform_cases (call : SetupCall) (tree : LoggerTree) :
    (∃ fault, (∀ f, fault ≠ .file f) ∧ (call.level? = none ∨ ∀ name, call.isFor name = false) ∧
      ∀ logFile, { call with logFile }.perform tree = ⟨tree, call.files, some fault⟩) ∨
    ∃ level own, LoggerTree.levelOf call.level = .ok level ∧
      LoggerTree.nameOf call.name = .ok own ∧ ∀ logFile,
        { call with logFile }.perform tree =
          tree.setupAt call.files call.here own level logFile := by
  unfold perform LoggerTree.setup level? isFor
  dsimp only
  cases hlevel : LoggerTree.levelOf call.level with
  | error fault =>
    refine .inl ⟨fault, ?_, .inl rfl, fun _ => rfl⟩
    rintro f rfl
    unfold LoggerTree.levelOf at hlevel
    split at hlevel
    · split at hlevel <;> cases hlevel
    · cases hlevel
  | ok level =>
    cases LoggerTree.nameOf call.name with
    | error fault =>
      refine .inl ⟨.value fault, fun f hf => ?_, .inr fun _ => rfl, fun _ => rfl⟩
      cases hf
    | ok own => exact .inr ⟨level, own, rfl, rfl, fun _ => rfl⟩

theorem isNamed_perform (call : SetupCall) {tree : LoggerTree} (h : tree.IsNamed) :
    (call.perform tree).tree.IsNamed := by
  rcases call.perform_cases tree with ⟨_, -, -, hdone⟩ | ⟨level, own, -, -, hdone⟩
  · rw [hdone call.logFile]
    exact h
  · rw [hdone call.logFile]
    exact LoggerTree.isNamed_setupAt h ..

theorem settings_perform (call : SetupCall) {tree : LoggerTree} (h : tree.IsNamed) (name : Text) :
    (call.perform tree).tree.settings name =
      if call.isFor name then call.settle (tree.settings name) else tree.settings name := by
  rcases call.perform_cases tree with ⟨_, -, hlevel | hname, hdone⟩ |
    ⟨level, own, hlevel, hname, hdone⟩
  · rw [hdone call.logFile, settle, hlevel]
    exact (ite_self _).symm
  · rw [hdone call.logFile, hname name]
    rfl
  · rw [hdone call.logFile, settle, opened?, level?, isFor, hlevel, hname]
    exact LoggerTree.settings_setupAt h ..

end SetupCall

/-! ## All calls -/

/-- The loggers after the calls. -/
def LoggerTree.afterSetups (tree : LoggerTree) (calls : List SetupCall) : LoggerTree :=
  calls.foldl (fun tree call => (call.perform tree).tree) tree

/-- The level that the last call with a level named. -/
def lastLevel? (calls : List SetupCall) : Option Level :=
  (calls.filterMap SetupCall.level?).getLast?

/-- The log file of the first call that opened one. -/
def firstOpened? (calls : List SetupCall) : Option Path :=
  calls.findSome? SetupCall.opened?

theorem lastLevel?_cons (call : SetupCall) (calls : List SetupCall) :
    lastLevel? (call :: calls) = (lastLevel? calls).or call.level? := by
  unfold lastLevel?
  cases hlevel : call.level? with
  | none => rw [List.filterMap_cons_none hlevel, Option.or_none]
  | some level =>
    rw [List.filterMap_cons_some hlevel, List.getLast?_cons]
    cases (calls.filterMap SetupCall.level?).getLast? <;> rfl

theorem firstOpened?_cons (call : SetupCall) (calls : List SetupCall) :
    firstOpened? (call :: calls) = call.opened?.or (firstOpened? calls) := by
  unfold firstOpened?
  rw [List.findSome?_cons]
  cases call.opened? <;> rfl

namespace Settings

/-- Settings with a level, at most one console and at most one file, which has the level of
files. -/
structure Shows (settings : Settings) (level console : Option Level) (file : Option Path) :
    Prop where
  level_eq : settings.level = level
  consoles_eq : settings.handlers.filter Handler.isConsole = console.toList.map Handler.console
  files_eq : settings.handlers.filter Handler.isFile = file.toList.map (Handler.file fileLevel)

theorem Shows.withFile {settings : Settings} {level console : Option Level}
    (h : settings.Shows level console none) (path : Path) :
    (settings.withFile path).Shows level console (some path) := by
  refine ⟨h.level_eq, ?_, ?_⟩
  · rw [Settings.withFile, List.filter_append, h.consoles_eq]
    exact List.append_nil _
  · rw [Settings.withFile, List.filter_append, h.files_eq]
    rfl

section

variable {settings : Settings} {level console : Option Level} {file : Option Path}
  (h : settings.Shows level console file)

include h

theorem Shows.atLevel (new : Level) :
    (settings.atLevel new).Shows (some new) (some new) file := by
  refine ⟨rfl, ?_, ?_⟩
  · rw [consoles_atLevel, h.consoles_eq]
    cases console <;> rfl
  · rw [files_atLevel, h.files_eq]

theorem Shows.any_isFile : settings.handlers.any Handler.isFile = file.isSome := by
  have hany : settings.handlers.any Handler.isFile =
      !(settings.handlers.filter Handler.isFile).isEmpty := by
    rw [Bool.eq_iff_iff]
    simp
  rw [hany, h.files_eq]
  cases file <;> rfl

/-- One call: what it says about level and console counts, and a file that is there stays. -/
theorem Shows.settle (call : SetupCall) :
    (call.settle settings).Shows (call.level?.or level) (call.level?.or console)
      (file.or call.opened?) := by
  unfold SetupCall.settle
  cases hlevel : call.level? with
  | none =>
    have hopened : call.opened? = none := by
      rw [SetupCall.opened?, hlevel, Option.bind_none]
    rw [hopened, Option.or_none]
    exact h
  | some new =>
    dsimp only
    cases hfile : file with
    | some former =>
      rw [hfile] at h
      rw [settings.setUp_of_isFile h.any_isFile, Option.some_or]
      exact h.atLevel new
    | none =>
      rw [hfile] at h
      rw [Option.none_or]
      cases call.opened? with
      | none => exact h.atLevel new
      | some path =>
        rw [settings.setUp_some h.any_isFile]
        exact (h.atLevel new).withFile path

end

theorem Shows.foldl_settle {settings : Settings} {level console : Option Level}
    {file : Option Path} (h : settings.Shows level console file) (calls : List SetupCall) :
    (calls.foldl (fun settings call => call.settle settings) settings).Shows
      ((lastLevel? calls).or level) ((lastLevel? calls).or console)
      (file.or (firstOpened? calls)) := by
  induction calls generalizing settings level console file with
  | nil =>
    rw [firstOpened?, List.findSome?_nil, Option.or_none]
    exact h
  | cons call rest ih =>
    simpa only [lastLevel?_cons, firstOpened?_cons, Option.or_assoc, List.foldl_cons] using
      ih (h.settle call)

/-- What a logger that began with `start` owes to the calls that have set it up. -/
structure IsSetUpBy (settings start : Settings) (calls : List SetupCall) : Prop where
  consoles_le : (settings.handlers.filter Handler.isConsole).length ≤ 1
  files_le : (settings.handlers.filter Handler.isFile).length ≤ 1
  /-- The level is that of the last call with a level. -/
  level_eq : settings.level = (lastLevel? calls).or start.level
  /-- Once a call has named a level there is one console, at the same level. -/
  consoles_eq :
    settings.handlers.filter Handler.isConsole = (lastLevel? calls).toList.map Handler.console
  /-- Once a call has opened a log file there is one file handler, for that file and all
  messages. -/
  files_eq :
    settings.handlers.filter Handler.isFile = (firstOpened? calls).toList.map (Handler.file .debug)

theorem length_toList_map_le {α β : Type} (found : Option α) (f : α → β) :
    (found.toList.map f).length ≤ 1 := by
  cases found with
  | none => exact Nat.zero_le 1
  | some value => exact Nat.le_refl 1

/-- Settings without streams have no console and no file. -/
theorem shows_of_bare {settings : Settings}
    (h : ∀ handler ∈ settings.handlers, handler.isStream = false) :
    settings.Shows settings.level none none := by
  refine ⟨rfl, ?_, ?_⟩
  · refine List.filter_eq_nil_iff.2 fun handler hhandler => ?_
    rw [Handler.isConsole, h handler hhandler]
    exact Bool.false_ne_true
  · refine List.filter_eq_nil_iff.2 fun handler hhandler => ?_
    have hbare := h handler hhandler
    cases handler with
    | silent => exact Bool.false_ne_true
    | _ => cases hbare

end Settings

namespace LoggerTree

theorem settings_afterSetups {tree : LoggerTree} (h : tree.IsNamed) (name : Text)
    (calls : List SetupCall) :
    (tree.afterSetups calls).settings name =
      (calls.filter (·.isFor name)).foldl (fun settings call => call.settle settings)
        (tree.settings name) := by
  induction calls generalizing tree with
  | nil => rfl
  | cons call rest ih =>
    have hrest := ih (call.isNamed_perform h)
    rw [call.settings_perform h] at hrest
    rw [List.filter_cons]
    cases hfor : call.isFor name <;> rw [hfor] at hrest <;> exact hrest

/-- **Setting up never stacks handlers.**  Let a logger begin without streams, and let any calls set
up loggers, this one and others, at words that are levels or not and with log files that can be
opened or not.  The logger then has at most one console and at most one file.  Once one of its calls
has named a level there is a console, at the level of the logger, which is that of the last such
call; whether that call could open its file does not matter.  Its file, once there, is that of the
first call that opened one, and takes all messages. -/
theorem isSetUpBy_afterSetups (tree : LoggerTree) (hnamed : tree.IsNamed) (name : Text)
    (hbare : ∀ handler ∈ (tree.settings name).handlers, handler.isStream = false)
    (calls : List SetupCall) :
    ((tree.afterSetups calls).settings name).IsSetUpBy (tree.settings name)
      (calls.filter (·.isFor name)) := by
  have hshows := (Settings.shows_of_bare hbare).foldl_settle (calls.filter (·.isFor name))
  rw [← settings_afterSetups hnamed, Option.or_none, Option.none_or] at hshows
  obtain ⟨hlevel, hconsoles, hfiles⟩ := hshows
  refine ⟨?_, ?_, hlevel, hconsoles, hfiles⟩
  · rw [hconsoles]
    exact Settings.length_toList_map_le _ _
  · rw [hfiles]
    exact Settings.length_toList_map_le _ _

end LoggerTree

/-- A directory to log in. -/
def logDesk : Surroundings where
  current := ["desk".toList]
  home := ["home".toList]

/-- A file system with nothing in the way of a log file. -/
def freeFolder : FileSystem :=
  ⟨[(["desk".toList], .folder)]⟩

/-- A file system in which a file takes the place of a log folder. -/
def takenFolder : FileSystem :=
  freeFolder.put ["desk".toList, "logs".toList] (.file [])

/-- A call for the logger `app`. -/
def appCall (level : String) (logFile : Option String) (files : FileSystem) : SetupCall where
  name := .text "app".toList
  level := .text level.toList
  logFile := logFile.map fun path => .parse path.toList
  files
  here := logDesk

/-- Five calls.  The first cannot open its file, the second names no level, and the last two ask for
a file when there is one. -/
def fiveCalls : List SetupCall := [
  appCall "ERROR" (some "logs/a.log") takenFolder,
  appCall "loud" (some "b.log") freeFolder,
  appCall "info" (some "c.log") freeFolder,
  appCall "DEBUG" (some "d.log") freeFolder,
  appCall "Warning" (some "logs/e.log") takenFolder]

/-- After the five calls the logger is at the level of the last and writes to the file of the
third. -/
theorem isSetUpBy_fiveCalls :
    LoggerTree.initial.IsNamed ∧ (LoggerTree.initial.settings "app".toList).handlers = [] ∧
      ((LoggerTree.initial.afterSetups fiveCalls).settings "app".toList).level = some .warning ∧
      ((LoggerTree.initial.afterSetups fiveCalls).settings "app".toList).handlers.filter
        Handler.isConsole = [.console .warning] ∧
      ((LoggerTree.initial.afterSetups fiveCalls).settings "app".toList).handlers.filter
        Handler.isFile = [.file .debug ⟨.root, ["desk".toList, "c.log".toList]⟩] := by
  have hbare : ∀ handler ∈ (LoggerTree.initial.settings "app".toList).handlers,
      handler.isStream = false := by decide
  have hset := LoggerTree.isSetUpBy_afterSetups .initial LoggerTree.isNamed_initial "app".toList
    hbare fiveCalls
  exact ⟨LoggerTree.isNamed_initial, rfl, hset.level_eq, hset.consoles_eq, hset.files_eq⟩

/-! ## Calls that fail -/

/-- One logger is at a level, with its consoles, and has a console.  The level and the handlers of
every other logger are as they were. -/
structure LoggerTree.OnlyAtLevel (before after : LoggerTree) (own : Text) (level : Level) :
    Prop where
  settings_eq : ∀ name, after.settings name =
    if sameLogger own name then (before.settings name).atLevel level else before.settings name
  /-- The logger has no file. -/
  no_file : (before.settings own).handlers.any Handler.isFile = false
  /-- Its level, its handlers and their levels are the same iff it was at the level. -/
  unchanged_iff : after.settings own = before.settings own ↔ (before.settings own).IsAt level

namespace SetupCall

/-- **What a call that fails leaves.**  It leaves the loggers as the same call without a log file
does.  If what it names is no level, or stands for no logger, they are as they were.  If the log
file could not be opened, the logger has been set to the level, with its console, and the level and
the handlers of every other logger are as they were. -/
theorem perform_of_fault (call : SetupCall) (tree : LoggerTree) (hnamed : tree.IsNamed)
    (fault : SetupFault) (h : (call.perform tree).fault = some fault) :
    (call.perform tree).tree = ({ call with logFile := none }.perform tree).tree ∧
    ((∀ f, fault ≠ .file f) → (call.perform tree).tree = tree) ∧
    ∀ f, fault = .file f → ∃ own level, LoggerTree.nameOf call.name = .ok own ∧
      LoggerTree.levelOf call.level = .ok level ∧
      tree.OnlyAtLevel (call.perform tree).tree own level := by
  rcases call.perform_cases tree with ⟨found, hfound, -, hdone⟩ | ⟨level, own, hlevel, hname, hdone⟩
  · rw [hdone call.logFile] at h ⊢
    rw [hdone none]
    obtain rfl := Option.some.inj h
    exact ⟨rfl, fun _ => rfl, fun f hf => absurd hf (hfound f)⟩
  · rw [hdone call.logFile] at h ⊢
    obtain ⟨htree, hfile, f, rfl⟩ := LoggerTree.setupAt_of_fault hnamed h
    rw [htree, hdone none]
    have hsettings : ∀ name, (tree.setupAt call.files call.here own level none).tree.settings name =
        if LoggerTree.sameLogger own name then (tree.settings name).atLevel level
        else tree.settings name :=
      LoggerTree.settings_setupAt hnamed call.files call.here own level none
    have hown : LoggerTree.sameLogger own own = true := by simp [LoggerTree.sameLogger]
    refine ⟨rfl, fun hother => absurd rfl (hother f), fun _ _ => ⟨own, level, hname, hlevel,
      hsettings, hfile, ?_⟩⟩
    rw [hsettings own, if_pos hown]
    exact Settings.atLevel_eq_self_iff

/-- The loggers once `app` is at the level of warnings. -/
def warned : LoggerTree :=
  LoggerTree.initial.afterSetups [appCall "WARNING" none takenFolder]

/-- A call for more messages of `app`, in a log file whose folder cannot be made. -/
def blockedCall : SetupCall :=
  appCall "DEBUG" (some "logs/app.log") takenFolder

/-- The call fails at the folder, and has set the console. -/
theorem perform_of_fault_blockedCall :
    warned.IsNamed ∧
      (blockedCall.perform warned).fault = some (.file (.blocked .taken "logs".toList)) ∧
      warned.OnlyAtLevel (blockedCall.perform warned).tree "app".toList .debug := by
  have hnamed : warned.IsNamed := isNamed_perform _ LoggerTree.isNamed_initial
  obtain ⟨-, -, hset⟩ := perform_of_fault blockedCall warned hnamed _ rfl
  obtain ⟨own, level, hname, hlevel, honly⟩ := hset _ rfl
  obtain rfl := Except.ok.inj hname
  obtain rfl := Except.ok.inj hlevel
  exact ⟨hnamed, rfl, honly⟩

/-- A call that fails may change the logger: its level and that of its console are no longer the
same. -/
theorem blockedCall_changes_level :
    (blockedCall.perform warned).fault = some (.file (.blocked .taken "logs".toList)) ∧
      warned.settings "app".toList = ⟨some .warning, [.console .warning]⟩ ∧
      (blockedCall.perform warned).tree.settings "app".toList =
        ⟨some .debug, [.console .debug]⟩ :=
  ⟨rfl, rfl, rfl⟩

end SetupCall

end RenamePlan
