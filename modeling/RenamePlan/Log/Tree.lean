import RenamePlan.Log.Logger

/-!
The tree of loggers.

Loggers have dotted names.  A new logger stands below the nearest logger that its name continues, or
below the root, and takes its place above those that continue its own name (`register`).  A message
passes if it is as grave as the level in force, which is the logger's own or that of the nearest
logger above with one; it then goes to the handlers of the logger and of those above it, each of
which has a level of its own.  Whether messages of a level pass is found once and kept until a level
is set, also when a new logger comes between (`passes`).
-/

namespace RenamePlan

/-- The loggers there are: the root, and the others by name. -/
structure LoggerTree where
  root : Logger
  named : List Logger := []
deriving DecidableEq, Repr

/-- The names above a name, given in reverse: what stands before its dots, the nearest first.  Of
two neighbouring dots only the right one counts, and a dot in front does not. -/
def namesAboveReversed : Text → List Text
  | [] => []
  | '.' :: c :: before => (c :: before).reverse :: namesAboveReversed before
  | _ :: before => namesAboveReversed before

/-- The names above a name, the nearest first. -/
def namesAbove (name : Text) : List Text :=
  namesAboveReversed name.reverse

/-- A message on its way to the handlers. -/
structure Message where
  logger : Text
  level : Level
  text : Text
  /-- When it was made. -/
  time : Text
  /-- Which place in which file made it. -/
  source : Text
deriving DecidableEq, Repr

namespace Message

/-- The message as a line on the console. -/
def consoleLine (m : Message) : Text :=
  m.level.word ++ ": ".toList ++ m.text ++ ['\n']

/-- The message as a line in a log file. -/
def fileLine (m : Message) : Text :=
  " - ".toList.intercalate [m.time, m.logger, m.level.word, m.source, m.text] ++ ['\n']

/-- The message as a line on the console when no handler is there for it. -/
def bareLine (m : Message) : Text :=
  m.text ++ ['\n']

end Message

namespace LoggerTree

/-- Before anything is set up: the root lets warnings pass, and the logger of the package keeps all
messages to itself. -/
def initial : LoggerTree where
  root := { name := rootName, level := some .warning }
  named := [
    { name := packageLogger, level := some .debug, handlers := [.silent], passesOn := false }]

/-- Whether the name is that of the root, which also goes without one. -/
def isRootName (name : Text) : Bool :=
  name.isEmpty || name == rootName

/-- The logger with the given name other than the root, if there is one. -/
def find? (tree : LoggerTree) (name : Text) : Option Logger :=
  tree.named.find? (·.name == name)

/-- The logger with the given name, or the root if there is none. -/
def get (tree : LoggerTree) (name : Text) : Logger :=
  (tree.find? name).getD tree.root

/-- Puts a logger in the place of the one with its name. -/
def put (tree : LoggerTree) (logger : Logger) : LoggerTree :=
  if isRootName logger.name then { tree with root := logger }
  else { tree with named := tree.named.map fun l => if l.name = logger.name then logger else l }

/-! ## New loggers -/

/-- Places a logger below a new one whose name is above its own, unless the name of its parent
begins with that of the new one.  The parent is then nearer; or it is the root, which keeps what it
has when its own name begins so. -/
def placeBelow (name : Text) (logger : Logger) : Logger :=
  if (namesAbove logger.name).contains name && !name.isPrefixOf logger.parent then
    { logger with parent := name }
  else logger

/-- Makes the logger with the given name if it is not there.  It stands below the nearest logger
that is there, and takes over those that belong below it. -/
def register (tree : LoggerTree) (name : Text) : LoggerTree :=
  if isRootName name || (tree.find? name).isSome then tree
  else
    let parent := ((namesAbove name).find? fun above => (tree.find? above).isSome).getD rootName
    { tree with named := tree.named.map (placeBelow name) ++ [{ name, parent }] }

/-! ## Passing -/

/-- The loggers from the one with the given name up to the root.  `fuel` bounds their number. -/
def lineageFrom (tree : LoggerTree) : Nat → Text → List Logger
  | 0, _ => [tree.root]
  | fuel + 1, name =>
    match tree.find? name with
    | none => [tree.root]
    | some logger => logger :: tree.lineageFrom fuel logger.parent

/-- The logger with the given name and those above it, up to the root.  The name of a parent is
shorter, unless it is the root. -/
def lineage (tree : LoggerTree) (name : Text) : List Logger :=
  tree.lineageFrom name.length name

/-- The level in force: the first one that a logger of the lineage has. -/
def levelInForce (tree : LoggerTree) (name : Text) : Option Level :=
  (tree.lineage name).findSome? Logger.level

/-- Whether a message of the level passes the logger with the given name.  What has been found for
the level before still holds. -/
def passes (tree : LoggerTree) (name : Text) (level : Level) : Bool :=
  match (tree.get name).verdicts.lookup level with
  | some verdict => verdict
  | none =>
    match tree.levelInForce name with
    | some least => least.severity ≤ level.severity
    | none => true

/-- Keeps what has been found for a level. -/
def remember (tree : LoggerTree) (name : Text) (level : Level) (verdict : Bool) : LoggerTree :=
  let logger := tree.get name
  tree.put { logger with verdicts := (level, verdict) :: logger.verdicts }

/-- Keeps nothing of what has been found for levels. -/
def forget (tree : LoggerTree) : LoggerTree where
  root := { tree.root with verdicts := [] }
  named := tree.named.map fun logger => { logger with verdicts := [] }

/-- The handlers of the loggers, as far as messages go on. -/
def handlersAlong : List Logger → List Handler
  | [] => []
  | logger :: above =>
    logger.handlers ++ (if logger.passesOn then handlersAlong above else [])

/-- The handlers that a message to the logger with the given name goes to. -/
def handlersFor (tree : LoggerTree) (name : Text) : List Handler :=
  handlersAlong (tree.lineage name)

/-- The tree and the file system after a logger has been set up, and what went wrong. -/
structure Change where
  tree : LoggerTree
  files : FileSystem
  fault : Option SetupFault := none
deriving DecidableEq, Repr

/-- Sets up the logger with the given name at a level. -/
def setupAt (tree : LoggerTree) (files : FileSystem) (here : Surroundings) (name : Text)
    (level : Level) (logFile : Option Path) : Change :=
  let known := tree.register name
  let done := (known.get name).setup files here level logFile
  ⟨(known.put done.logger).forget, done.files, done.fault.map .file⟩

/-- The name of the logger that a value stands for: the root if it does not count as set. -/
def nameOf (value : Json) : Except ValueFault Text :=
  match value with
  | .text t => .ok t
  | value => if value.isSet then .error .misfit else .ok []

/-- The level that a value names. -/
def levelOf (value : Json) : Except SetupFault Level :=
  match value with
  | .text t =>
    match Level.ofText? t with
    | some level => .ok level
    | none => .error (.level t)
  | _ => .error (.value .notText)

/-- Sets up the logger that a value stands for, at the level that another names.  What names no
level or no logger changes nothing; the level is looked at first. -/
def setup (tree : LoggerTree) (files : FileSystem) (here : Surroundings) (name level : Json)
    (logFile : Option Path) : Change :=
  match levelOf level with
  | .error fault => ⟨tree, files, some fault⟩
  | .ok level =>
    match nameOf name with
    | .error fault => ⟨tree, files, some (.value fault)⟩
    | .ok name => tree.setupAt files here name level logFile

/-- Makes sure that messages to the logger with the given name go somewhere: it gets a console
unless it, or a logger above it, has a handler. -/
def reach (tree : LoggerTree) (files : FileSystem) (here : Surroundings) (name : Text) : Change :=
  let known := tree.register name
  if (known.handlersFor name).isEmpty then known.setupAt files here name .info none
  else ⟨known, files, none⟩

/-- The console text that a handler makes of a message. -/
def consoleText (m : Message) : Handler → Text
  | .console level => if level.severity ≤ m.level.severity then m.consoleLine else []
  | _ => []

/-- Writes a message to the log file of a handler. -/
def writeLine (m : Message) (files : FileSystem) : Handler → FileSystem
  | .file level path =>
    if level.severity ≤ m.level.severity then files.append path.parts m.fileLine else files
  | _ => files

/-- What a message leaves behind: the loggers, the file system, and what was written to the
console. -/
structure Delivery where
  tree : LoggerTree
  files : FileSystem
  console : Text
deriving DecidableEq, Repr

/-- Sends a message to the logger with the given name.  A message that passes and finds no handler
is written to the console as it is if it is a warning or graver. -/
def send (tree : LoggerTree) (files : FileSystem) (name : Text) (level : Level)
    (text time source : Text) : Delivery :=
  let known := tree.register name
  let verdict := known.passes name level
  let after := known.remember name level verdict
  if verdict then
    let m : Message := { logger := (known.get name).name, level, text, time, source }
    let handlers := known.handlersFor name
    if handlers.isEmpty then
      ⟨after, files, if Level.warning.severity ≤ level.severity then m.bareLine else []⟩
    else
      ⟨after, handlers.foldl (writeLine m) files, handlers.flatMap (consoleText m)⟩
  else
    ⟨after, files, []⟩

/-- Whether a record of the library passes. -/
def admits (tree : LoggerTree) (record : Record) : Bool :=
  (tree.register record.channel.logger).passes record.channel.logger record.level

end LoggerTree

end RenamePlan
