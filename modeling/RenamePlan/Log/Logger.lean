import RenamePlan.File.Folders
import RenamePlan.Json.Kind
import RenamePlan.Log.Record

/-!
Loggers: where log messages go.

Setting up a logger gives it a level and a console, and a log file if one is asked for, at most one
of each.
-/

namespace RenamePlan

/-- Where messages are written.  A handler takes messages of its level and graver ones. -/
inductive Handler where
  /-- The console. -/
  | console (level : Level)
  /-- A file. -/
  | file (level : Level) (path : Path)
  /-- Nowhere that shows; the handler is there all the same. -/
  | silent
deriving DecidableEq, Repr

/-- Log files roll over at this number of bytes. -/
def rolloverBytes : Nat := 10 * 1024 * 1024

/-- The number of full log files that are kept. -/
def rolloverFiles : Nat := 5

/-- The level of a file handler: it takes all messages. -/
def fileLevel : Level := .debug

namespace Handler

/-- Whether the handler writes to a stream, as the console and files do. -/
def isStream : Handler → Bool
  | silent => false
  | _ => true

/-- Whether the handler is a file. -/
def isFile : Handler → Bool
  | file _ _ => true
  | _ => false

/-- Whether the handler is a console: a stream that is no file. -/
def isConsole (handler : Handler) : Bool :=
  handler.isStream && !handler.isFile

/-- Gives the handler another level. -/
def setLevel (level : Level) : Handler → Handler
  | console _ => console level
  | file _ path => file level path
  | silent => silent

/-- Gives a console another level. -/
def setConsole (level : Level) (handler : Handler) : Handler :=
  if handler.isConsole then handler.setLevel level else handler

end Handler

/-- The name of the root of all loggers. -/
def rootName : Text := "root".toList

/-- A logger.  Without a level of its own it goes by those above it. -/
structure Logger where
  name : Text
  /-- The name of the logger that it stands below. -/
  parent : Text := rootName
  level : Option Level := none
  handlers : List Handler := []
  /-- Whether messages go on to the loggers above. -/
  passesOn : Bool := true
  /-- Levels that messages to the logger have had since a level was last set anywhere, and whether
  they passed. -/
  verdicts : List (Level × Bool) := []
deriving DecidableEq, Repr

/-- Why a logger could not be set up. -/
inductive SetupFault where
  /-- The text names no level. -/
  | level (found : Text)
  /-- What should name the level or the logger cannot. -/
  | value (fault : ValueFault)
  /-- The log file cannot be written. -/
  | file (fault : FileFault)
deriving DecidableEq, Repr

/-- The text of the fault. -/
def SetupFault.message : SetupFault → String
  | level found => Text.string (
      "Invalid log level: ".toList ++ found ++ ". Must be one of ".toList ++
      quotedList (Level.all.map Level.word))
  | value fault => fault.message
  | file fault => fault.message

namespace Logger

/-- Gives the logger and its console the level; it gets a console if it has none. -/
def atLevel (logger : Logger) (level : Level) : Logger :=
  { logger with
    level := some level
    handlers :=
      if logger.handlers.any Handler.isConsole then logger.handlers.map (Handler.setConsole level)
      else logger.handlers ++ [.console level] }

/-- The path of a log file from the root. -/
def logPath (here : Surroundings) (path : Path) : Path where
  anchor := match path.anchor with
    | .doubleRoot => .doubleRoot
    | _ => .root
  parts := path.locate here

/-- A logger and the file system after it has been set up, and what went wrong. -/
structure Setup where
  logger : Logger
  files : FileSystem
  fault : Option FileFault := none
deriving DecidableEq, Repr

/-- Gives the logger a log file, in a folder that is made if it is missing. -/
def openFile (logger : Logger) (files : FileSystem) (here : Surroundings) (path : Path) : Setup :=
  let attempt := files.ensureFolder here path.parent
  match attempt.fault with
  | some fault => ⟨logger, attempt.files, some fault⟩
  | none =>
    match attempt.files.openForLines here (logPath here path) with
    | .error fault => ⟨logger, attempt.files, some fault⟩
    | .ok opened =>
      let handler := .file fileLevel (logPath here path)
      ⟨{ logger with handlers := logger.handlers ++ [handler] }, opened, none⟩

/-- Sets up a logger: its level, its console, and then its log file, unless it has one.  A log file
that cannot be opened leaves the level and the console as they were set. -/
def setup (logger : Logger) (files : FileSystem) (here : Surroundings) (level : Level)
    (logFile : Option Path) : Setup :=
  match logFile with
  | some path =>
    if logger.handlers.any Handler.isFile then ⟨logger.atLevel level, files, none⟩
    else (logger.atLevel level).openFile files here path
  | none => ⟨logger.atLevel level, files, none⟩

end Logger

end RenamePlan
