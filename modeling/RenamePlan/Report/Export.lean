import RenamePlan.Audit.Table
import RenamePlan.File.Encoding
import RenamePlan.File.Folders
import RenamePlan.Report.Document

/-!
Writing reports to files.

A report is first written to a temporary file beside its target, which is then moved over the
target: a reader of the target sees the old report or the new one.  If the device fails to write or
to move the temporary file, the file is removed.  If the report holds a character that no file can
hold, the temporary file is left as it was made: it stays, and is empty.
-/

namespace RenamePlan

/-- Failures of the device that an export meets.  An operation for which a text is given fails with
that text. -/
structure DeviceFailures where
  /-- The greatest number of spaces for which there is memory, if there is not memory for all. -/
  room : Option Nat := none
  /-- Characters that stand for halves of surrogate pairs, which no file can hold. -/
  halves : List Char := []
  /-- Making the temporary file. -/
  create : Option Text := none
  /-- Writing the temporary file, after so many characters. -/
  write : Option (Nat × Text) := none
  /-- Moving the temporary file. -/
  move : Option Text := none
  /-- Removing the temporary file. -/
  remove : Option Text := none
deriving DecidableEq, Repr

/-- Why a report could not be written. -/
inductive ExportFault where
  | path (fault : PathFault)
  | value (fault : ValueFault)
  | indent (fault : IndentFault)
  | encoding (fault : EncodingFault)
  | file (fault : FileFault)
deriving DecidableEq, Repr

/-- The text of the fault. -/
def ExportFault.message : ExportFault → String
  | path fault => fault.message
  | value fault => fault.message
  | indent fault => fault.message
  | encoding fault => fault.message
  | file fault => fault.message

/-- What an export leaves: the file system, and the path of the report or why there is none. -/
abbrev Export := Outcome FileSystem ExportFault Path

/-! ## The temporary file -/

/-- The name of the temporary file with number `i`. -/
def temporaryName (suffix : Text) (i : Nat) : Text :=
  let digits := Nat.toDigits 10 i
  "tmp".toList ++ List.replicate (8 - digits.length) '0' ++ digits ++ suffix

/-- Whether no entry of any folder has the name. -/
def isFresh (files : FileSystem) (name : Text) : Bool :=
  files.entries.all fun (location, _) => location.getLast? != some name

/-- A name that no entry has, so that a file keeps it wherever it is moved.  There are fewer entries
than names to try. -/
def freshName (files : FileSystem) (suffix : Text) : Text :=
  let names := (List.range (files.entries.length + 1)).map (temporaryName suffix)
  (names.find? (isFresh files)).getD (temporaryName suffix 0)

/-- Moves a file to a place, over the file that is there.  If the place is a folder, the file goes
into it under its own name. -/
def moveFile (files : FileSystem) (folder : Location) (name content : Text) (target : Path) :
    Except FileFault FileSystem :=
  let goal := if files.isFolder target.parts then .ofLocation (target.parts ++ [name]) else target
  if goal.isTooLong || isTooLong goal.name then .error (.blocked .nameTooLong goal.text)
  else .ok ((files.remove (folder ++ [name])).put goal.parts (.file content))

/-- A note or complaint about an export. -/
def exportNote (level : Level) (message : Text) : Record :=
  { level, channel := .reports, message := Text.string message }

/-- The complaint that a report could not be written. -/
def writeFailed (target : Path) (fault : FileFault) : Record :=
  exportNote .error
    ("Atomic write failed for ".toList ++ target.text ++ ": ".toList ++ fault.message.toList)

/-- What is left after the device has failed to write or to move the temporary file, which is
removed if the device lets it be. -/
def giveUp (files : FileSystem) (failures : DeviceFailures) (target temporary : Path)
    (fault : FileFault) : Export :=
  match failures.remove with
  | some _ =>
    ⟨files, .error (.file fault), [writeFailed target fault, exportNote .error
      ("Failed to clean up temp file: ".toList ++ temporary.text)]⟩
  | none => ⟨files.remove temporary.parts, .error (.file fault), [writeFailed target fault]⟩

/-- Writes a report to its target, a path from the root.  The folder of the target is made if it is
missing, and what that meets is not logged. -/
def writeReport (files : FileSystem) (here : Surroundings) (failures : DeviceFailures)
    (target : Path) (content : Text) : Export :=
  let attempt := files.ensureFolder here target.parent
  match attempt.fault with
  | some fault => ⟨attempt.files, .error (.file fault), []⟩
  | none =>
    let folder := target.parent.parts
    let name := freshName attempt.files target.suffix
    let temporary := Path.ofLocation (folder ++ [name])
    let holding (text : Text) := attempt.files.put temporary.parts (.file text)
    let refusal : Option FileFault :=
      if temporary.isTooLong then some (.blocked .nameTooLong temporary.text)
      else failures.create.map .device
    match refusal with
    | some fault => ⟨attempt.files, .error (.file fault), [writeFailed target fault]⟩
    | none =>
      match encodingFault? failures.halves content with
      | some fault => ⟨holding [], .error (.encoding fault), []⟩
      | none =>
        match failures.write with
        | some (count, text) =>
          giveUp (holding (content.take count)) failures target temporary (.device text)
        | none =>
          let outcome : Except FileFault FileSystem := match failures.move with
            | some text => .error (.device text)
            | none => moveFile (holding content) folder name content target
          match outcome with
          | .ok moved =>
            ⟨moved, .ok target, [exportNote .debug
              ("Atomic write: renamed ".toList ++ temporary.text ++ " -> ".toList ++
                target.text)]⟩
          | .error fault => giveUp (holding content) failures target temporary fault

/-- Notes that an export has been done. -/
def Export.noting (done : Export) (note : Path → Text) : Export :=
  match done.result with
  | .ok path => { done with log := done.log ++ [exportNote .info (note path)] }
  | .error _ => done

/-- Writes a report to the place that a text leads to, with the given extension.  The path is looked
at first, and then the content. -/
def exportText (files : FileSystem) (here : Surroundings) (failures : DeviceFailures)
    (path : Option Text) (extension : Text) (content : Except ExportFault Text)
    (note : Path → Text) : Export :=
  match Path.output here path extension with
  | .error fault => ⟨files, .error (.path fault), []⟩
  | .ok target =>
    match content with
    | .error fault => ⟨files, .error fault, []⟩
    | .ok content => Export.noting (writeReport files here failures target content) note

/-- A document as text, indented as a value asks.  The document is made first. -/
def documentText (failures : DeviceFailures) (document : Except ValueFault Json) (indent : Json) :
    Except ExportFault Text :=
  match document with
  | .error fault => .error (.value fault)
  | .ok document =>
    match layoutOf failures.room indent with
    | .ok layout => .ok (document.render layout)
    | .error fault => .error (.indent fault)

/-! ## The three reports -/

/-- The indentation of a document when none is asked for. -/
def standardIndent : Json := .int 2

/-- Writes all symbols with their usages. -/
def exportUsages (files : FileSystem) (here : Surroundings) (failures : DeviceFailures)
    (path : Option Text) (symbols : SymbolTable) (indent : Json) : Export :=
  exportText files here failures path ".json".toList
    (documentText failures (usagesDocument symbols) indent)
    fun target => "Exported references of ".toList ++ decimal symbols.size ++
      " symbols to ".toList ++ target.text

/-- Writes all planned edits.  If the indentation is null the report takes that of the profile. -/
def exportEdits (files : FileSystem) (here : Surroundings) (failures : DeviceFailures)
    (path : Option Text) (planner : Planner) (indent : Json) : Export :=
  let indent := match indent with
    | .null => planner.profile.get .exportIndent
    | indent => indent
  exportText files here failures path ".json".toList
    (documentText failures (editsDocument planner) indent)
    fun target => "Exported ".toList ++ decimal planner.editCount ++ " edits for ".toList ++
      decimal planner.modules.length ++ " modules to ".toList ++ target.text

/-- Writes the audit. -/
def exportAudit (files : FileSystem) (here : Surroundings) (failures : DeviceFailures)
    (path : Option Text) (quoting : FieldQuoting) (rows : List AuditRow) : Export :=
  exportText files here failures path ".csv".toList ((auditTable quoting rows).mapError .value)
    fun target => "Exported ".toList ++ decimal rows.length ++ " start-char checks to ".toList ++
      target.text

end RenamePlan
