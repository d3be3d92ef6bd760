import Mathlib.Data.List.Nodup
import Mathlib.Data.List.Perm.Subperm
import Mathlib.Data.List.TakeWhile
import RenamePlan.Proofs.File.Folders
import RenamePlan.Report.Export

/-!
# Where a report ends up

An export makes the folder of its target, writes a temporary file there and moves it to the target.

* **After a failure** nothing that was there has changed, and no file has come unless the report
  holds a character that no file can hold (`Workspace.write_error`).  The folders that were made
  stay.  The temporary file is removed if the device fails, but left behind, empty, if the report
  cannot be encoded.
* **After a success** exactly one file has been written (`Workspace.write_ok`).  It is the file at
  the path that the export gives back, unless that path is a folder: the temporary file then goes
  into the folder, keeps its name, and the path is a folder as before.
-/

namespace RenamePlan

/-! ## Fresh names -/

theorem temporaryName_injective (suffix : Text) : (temporaryName suffix).Injective := by
  -- the zeros in front of the digits do not change the number that they write
  have hnumber : ∀ i, Nat.ofDigitChars 10
      (List.replicate (8 - (Nat.toDigits 10 i).length) '0' ++ Nat.toDigits 10 i) 0 = i := by
    intro i
    rw [Nat.ofDigitChars_append, Nat.ofDigitChars_replicate_zero, Nat.mul_zero,
      Nat.ofDigitChars_ten_toDigits]
  intro i j h
  simp only [temporaryName, List.append_assoc] at h
  have hdigits := List.append_cancel_left h
  rw [← List.append_assoc, ← List.append_assoc] at hdigits
  rw [← hnumber i, List.append_cancel_right hdigits, hnumber j]

/-- Some name that is tried is fresh: there are more of them than entries. -/
theorem isFresh_freshName (files : FileSystem) (suffix : Text) :
    isFresh files (freshName files suffix) = true := by
  unfold freshName
  dsimp only
  cases hfound : ((List.range (files.entries.length + 1)).map (temporaryName suffix)).find?
      (isFresh files) with
  | some name => exact List.find?_some hfound
  | none =>
    have hnames : ((List.range (files.entries.length + 1)).map (temporaryName suffix)).Nodup :=
      List.Nodup.map (temporaryName_injective suffix) List.nodup_range
    have htaken : (List.range (files.entries.length + 1)).map (temporaryName suffix) ⊆
        files.entries.filterMap fun entry => entry.1.getLast? := by
      intro name hname
      have hnot := List.find?_eq_none.1 hfound name hname
      simp only [isFresh, List.all_eq_true, not_forall, bne_iff_ne, ne_eq, not_not] at hnot
      obtain ⟨entry, hentry, hlast⟩ := hnot
      exact List.mem_filterMap.2 ⟨entry, hentry, hlast⟩
    have hlength := (List.subperm_of_subset hnames htaken).length_le
    rw [List.length_map, List.length_range] at hlength
    have := List.length_filterMap_le (fun entry : Location × Entry => entry.1.getLast?)
      files.entries
    omega

theorem get?_eq_none_of_isFresh {files : FileSystem} {name : Text}
    (h : isFresh files name = true) (folder : Location) :
    files.get? (folder ++ [name]) = none := by
  rw [FileSystem.get?, if_neg (by simp), List.lookup_eq_none_iff]
  intro entry hentry
  have hlast : (entry.1.getLast? != some name) = true := List.all_eq_true.1 h entry hentry
  rw [bne_iff_ne]
  intro hplace
  rw [← hplace] at hlast
  simp at hlast

/-! ## One file has been written -/

/-- The place holds a file with the text, and all other files are as before. -/
def WrittenAt (before after : FileSystem) (place : Location) (text : Text) : Prop :=
  after.content? place = some text ∧
    ∀ other, other ≠ place → after.content? other = before.content? other

theorem content?_congr {before after : FileSystem} {place : Location}
    (h : after.get? place = before.get? place) : after.content? place = before.content? place := by
  rw [FileSystem.content?, FileSystem.content?, h]

/-- A file that was written to an empty place and removed again leaves no trace. -/
theorem get?_remove_put {files : FileSystem} {temporary : Location}
    (hnone : files.get? temporary = none) (entry : Entry) (place : Location) :
    ((files.put temporary entry).remove temporary).get? place = files.get? place := by
  have hne : temporary ≠ [] := by
    rintro rfl
    cases hnone
  by_cases hplace : place = temporary
  · rw [hplace, FileSystem.get?_remove_self _ hne, hnone]
  · rw [FileSystem.get?_remove_of_ne _ hplace, FileSystem.get?_put_of_ne _ _ hplace]

/-- A file that was moved has been written where it went. -/
theorem writtenAt_move {files : FileSystem} {temporary place : Location}
    (hnone : files.get? temporary = none) (hplace : place ≠ []) (entry : Entry) (text : Text) :
    WrittenAt files (((files.put temporary entry).remove temporary).put place (.file text))
      place text := by
  constructor
  · rw [FileSystem.content?, FileSystem.get?_put_self _ _ hplace]
  · intro other hother
    refine content?_congr ?_
    rw [FileSystem.get?_put_of_ne _ _ hother, get?_remove_put hnone]

/-- A file that was written to an empty place, after folders were made. -/
theorem writtenAt_put {depth : Nat} {files made : FileSystem} {folder : Location} {name : Text}
    (hadds : files.AddsFolders depth made) (text : Text) :
    WrittenAt files (made.put (folder ++ [name]) (.file text)) (folder ++ [name]) text := by
  constructor
  · rw [FileSystem.content?, FileSystem.get?_put_self _ _ (by simp)]
  · intro other hother
    rw [content?_congr (FileSystem.get?_put_of_ne _ _ hother), hadds.content?_eq]

theorem get?_put_eq_some {files : FileSystem} {temporary location : Location}
    (hnone : files.get? temporary = none) {entry : Entry}
    (h : files.get? location = some entry) (new : Entry) :
    (files.put temporary new).get? location = some entry := by
  have hne : location ≠ temporary := by
    rintro rfl
    rw [hnone] at h
    cases h
  rw [FileSystem.get?_put_of_ne _ _ hne, h]

/-! ## Writing a report -/

/-- The report is at its target, or in the folder that the target is. -/
structure Delivered (before after : FileSystem) (target : Location) (text : Text) : Prop where
  atTarget : before.isFolder target = false → WrittenAt before after target text
  inFolder : before.isFolder target = true → after.isFolder target = true ∧
    ∃ name, before.get? (target ++ [name]) = none ∧
      WrittenAt before after (target ++ [name]) text

/-- A folder in the way is the only thing that keeps a report from its target. -/
theorem Delivered.writtenAt_iff {before after : FileSystem} {target : Location} {text : Text}
    (h : Delivered before after target text) :
    WrittenAt before after target text ↔ before.isFolder target = false := by
  refine ⟨fun hwritten => ?_, h.atTarget⟩
  rw [Bool.eq_false_iff]
  intro hfolder
  -- the folder is still one, and holds no text
  have hstays := (h.inFolder hfolder).1
  have htext := hwritten.1
  rw [FileSystem.isFolder, beq_iff_eq] at hstays
  rw [FileSystem.content?, hstays] at htext
  cases htext

/-- Folders that were made on the way do not count. -/
theorem Delivered.of_addsFolders {depth : Nat} {before between after : FileSystem}
    {target : Location} {text : Text} (h : Delivered between after target text)
    (hadds : before.AddsFolders depth between) (hdepth : depth < target.length) :
    Delivered before after target text := by
  have hwritten : ∀ {place}, WrittenAt between after place text →
      WrittenAt before after place text := fun h =>
    ⟨h.1, fun other hother => (h.2 other hother).trans (hadds.content?_eq other)⟩
  have hfolder := hadds.isFolder_eq hdepth
  constructor
  · intro hno
    exact hwritten (h.atTarget (hfolder.trans hno))
  · intro hyes
    obtain ⟨hstays, name, hnone, hinside⟩ := h.inFolder (hfolder.trans hyes)
    exact ⟨hstays, name, hadds.get?_eq_none hnone, hwritten hinside⟩

/-- Moving a temporary file, whose name no entry had. -/
theorem delivered_moveFile {files moved : FileSystem} {folder : Location} {name text : Text}
    {target : Path} (hfresh : isFresh files name = true) (hparts : target.parts ≠ [])
    (h : moveFile (files.put (folder ++ [name]) (.file text)) folder name text target =
      .ok moved) : Delivered files moved target.parts text := by
  have hnone := get?_eq_none_of_isFresh hfresh folder
  -- the temporary file does not decide whether the target is a folder
  have hfolder : (files.put (folder ++ [name]) (.file text)).isFolder target.parts =
      files.isFolder target.parts := by
    rw [FileSystem.isFolder, FileSystem.isFolder]
    by_cases hsame : target.parts = folder ++ [name]
    · rw [hsame, FileSystem.get?_put_self _ _ (by simp), hnone]
      rfl
    · rw [FileSystem.get?_put_of_ne _ _ hsame]
  unfold moveFile at h
  rw [hfolder] at h
  dsimp only at h
  cases hkind : files.isFolder target.parts with
  | false =>
    simp only [hkind, Bool.false_eq_true, if_false] at h
    split at h
    · cases h
    · cases h
      refine ⟨fun _ => writtenAt_move hnone hparts _ _, fun hyes => ?_⟩
      cases hkind.symm.trans hyes
  | true =>
    simp only [hkind, if_true] at h
    split at h
    · cases h
    · cases h
      refine ⟨fun hno => ?_, fun _ => ⟨?_, name, ?_, ?_⟩⟩
      · cases hkind.symm.trans hno
      · rw [FileSystem.isFolder, FileSystem.get?_put_of_ne _ _ (by simp [Path.ofLocation]),
          get?_remove_put hnone]
        exact hkind
      · exact get?_eq_none_of_isFresh hfresh target.parts
      · exact writtenAt_move hnone (by simp [Path.ofLocation]) _ _

/-- A text can be written iff none of its characters stands for half of a pair. -/
theorem encodingFault?_eq_none_iff {halves : List Char} {t : Text} :
    encodingFault? halves t = none ↔ ∀ c ∈ t, c ∉ halves := by
  have hdropped : (t.dropWhile fun c => !halves.contains c) = [] ↔ ∀ c ∈ t, c ∉ halves := by
    simp [List.dropWhile_eq_nil_iff]
  rw [← hdropped, encodingFault?]
  cases t.dropWhile fun c => !halves.contains c with
  | nil => exact ⟨fun _ => rfl, fun _ => rfl⟩
  | cons c rest => simp

/-- One file has come to the folder, under a new name.  It is empty, and all that was there is as it
was. -/
def LeavesEmptyFile (before after : FileSystem) (folder : Location) : Prop :=
  ∃ name, before.get? (folder ++ [name]) = none ∧ WrittenAt before after (folder ++ [name]) [] ∧
    ∀ location entry, before.get? location = some entry → after.get? location = some entry

/-- What an export can do.  The fault that leaves a file behind is told from the others. -/
inductive ExportCase (before : FileSystem) (failures : DeviceFailures) (target : Path)
    (text : Text) : FileSystem → Except ExportFault Path → Prop
  /-- The report is delivered. -/
  | delivered {after : FileSystem} (h : Delivered before after target.parts text) :
      ExportCase before failures target text after (.ok target)
  /-- The report cannot be encoded, and an empty file stays. -/
  | unencodable {after : FileSystem} {fault : EncodingFault}
      (hhalf : ∃ c ∈ text, c ∈ failures.halves)
      (h : LeavesEmptyFile before after target.parent.parts) :
      ExportCase before failures target text after (.error (.encoding fault))
  /-- Something else fails.  If the temporary file can be removed, only folders have come. -/
  | failed {after : FileSystem} {fault : ExportFault} (hother : ∀ e, fault ≠ .encoding e)
      (h : failures.remove = none → ∃ depth, before.AddsFolders depth after) :
      ExportCase before failures target text after (.error fault)

/-- After a failure of the device only folders have come, if the temporary file can be removed. -/
theorem ExportCase.giveUp {files made : FileSystem} {depth : Nat}
    (hadds : files.AddsFolders depth made) (failures : DeviceFailures) (target : Path)
    {temporary : Path} (hnone : made.get? temporary.parts = none) (entry : Entry)
    (fault : FileFault) (text : Text) :
    ExportCase files failures target text
      (RenamePlan.giveUp (made.put temporary.parts entry) failures target temporary fault).state
      (RenamePlan.giveUp (made.put temporary.parts entry) failures target temporary
        fault).result := by
  unfold RenamePlan.giveUp
  split
  · rename_i hremove
    refine .failed (fun e he => by cases he) fun hnot => ?_
    rw [hremove] at hnot
    cases hnot
  · refine .failed (fun e he => by cases he) fun _ => ⟨depth, fun location => ?_⟩
    show ((made.put temporary.parts entry).remove temporary.parts).get? location = _ ∨ _
    rw [get?_remove_put hnone]
    exact hadds location

/-- What writing a report can do. -/
theorem writeReport_case (files : FileSystem) (here : Surroundings) (failures : DeviceFailures)
    {target : Path} (hroot : target.anchor = .root) (hparts : target.parts ≠ []) (text : Text) :
    ExportCase files failures target text (writeReport files here failures target text).state
      (writeReport files here failures target text).result := by
  have hpos : 0 < target.parts.length := List.length_pos_iff.2 hparts
  have hadds : files.AddsFolders (target.parts.length - 1)
      (files.ensureFolder here target.parent).files := by
    have hdepth : FileSystem.depthOf here target.parent.anchor target.parent.parts =
        target.parts.length - 1 := by
      simp [FileSystem.depthOf, FileSystem.startOf, Path.parent, hroot]
    exact hdepth ▸ files.addsFolders_ensureFolder here target.parent
  have hfresh := isFresh_freshName (files.ensureFolder here target.parent).files target.suffix
  have hnone := get?_eq_none_of_isFresh hfresh target.parent.parts
  unfold writeReport
  dsimp only
  split
  · exact .failed (fun e he => by cases he) fun _ => ⟨_, hadds⟩
  · split
    · exact .failed (fun e he => by cases he) fun _ => ⟨_, hadds⟩
    · split
      · rename_i fault hfault
        refine .unencodable ?_ ⟨_, hadds.get?_eq_none hnone, ?_, ?_⟩
        · -- were there no such character, there would be no fault
          by_contra hnohalf
          rw [encodingFault?_eq_none_iff.2 fun c hc hhalf => hnohalf ⟨c, hc, hhalf⟩] at hfault
          cases hfault
        · exact writtenAt_put hadds []
        · intro location entry hentry
          exact get?_put_eq_some hnone (hadds.get?_eq_some hentry) _
      · split
        · exact .giveUp hadds failures target hnone _ _ text
        · split
          · rename_i moved hmoved
            refine .delivered ?_
            split at hmoved
            · cases hmoved
            · exact (delivered_moveFile hfresh hparts hmoved).of_addsFolders hadds (by omega)
          · exact .giveUp hadds failures target hnone _ _ text

/-! ## Exports -/

theorem anchor_of_resolve {here : Surroundings} {path : Option Text} {resolved : Path}
    (h : Path.resolve here path = .ok resolved) : resolved.anchor = .root := by
  unfold Path.resolve at h
  simp only [bind, Except.bind, pure, Except.pure] at h
  split at h
  · cases h
  · split at h
    · cases h
    · split at h
      · cases h
      · cases h
        rfl

/-- The target of an export is a path from the root that names a file. -/
theorem output_rooted {here : Surroundings} {path : Option Text} {extension : Text} {target : Path}
    (h : Path.output here path extension = .ok target)
    (hextension : lower (Path.dotted extension) ≠ []) :
    target.anchor = .root ∧ target.parts ≠ [] := by
  unfold Path.output at h
  cases hresolve : Path.resolve here path with
  | error fault =>
    rw [hresolve] at h
    cases h
  | ok resolved =>
    rw [hresolve] at h
    change resolved.withExtension extension = .ok target at h
    have hroot := anchor_of_resolve hresolve
    unfold Path.withExtension at h
    dsimp only at h
    split at h
    · rename_i hsuffix
      obtain rfl : resolved = target := Except.ok.inj h
      refine ⟨hroot, fun hempty => hextension ?_⟩
      have hnone : resolved.suffix = [] := by simp [Path.suffix, Path.name, hempty]
      rw [← hsuffix, hnone]
      rfl
    · unfold Path.withName at h
      split at h
      · cases h
      · split at h
        · cases h
          exact ⟨hroot, by simp⟩
        · cases h

/-- An export looks at its path and makes its text, and then writes the report.  Notes in the log
change neither the files nor the result. -/
theorem exportText_cases (files : FileSystem) (here : Surroundings) (failures : DeviceFailures)
    (path : Option Text) {extension : Text} (hextension : lower (Path.dotted extension) ≠ [])
    (content : Except ExportFault Text) (note : Path → Text) :
    (∃ target text, Path.output here path extension = .ok target ∧ content = .ok text ∧
        ExportCase files failures target text
          (exportText files here failures path extension content note).state
          (exportText files here failures path extension content note).result) ∨
      ∃ fault, (exportText files here failures path extension content note).result =
          .error fault ∧
        (exportText files here failures path extension content note).state = files ∧
        (content = .error fault ∨ ∃ e, fault = .path e) := by
  unfold exportText
  split
  · exact Or.inr ⟨_, rfl, rfl, Or.inr ⟨_, rfl⟩⟩
  · rename_i target houtput
    split
    · exact Or.inr ⟨_, rfl, rfl, Or.inl rfl⟩
    · rename_i text
      obtain ⟨hroot, hparts⟩ := output_rooted houtput hextension
      have hnoted : ∀ done : Export, (Export.noting done note).state = done.state ∧
          (Export.noting done note).result = done.result := by
        intro done
        unfold Export.noting
        split
        · exact ⟨rfl, rfl⟩
        · exact ⟨rfl, rfl⟩
      rw [(hnoted _).1, (hnoted _).2]
      exact Or.inl ⟨target, text, houtput, rfl,
        writeReport_case files here failures hroot hparts text⟩

/-- An export that succeeds has delivered its text. -/
theorem delivered_of_exportText {files : FileSystem} {here : Surroundings}
    {failures : DeviceFailures} {path : Option Text} {extension : Text}
    (hextension : lower (Path.dotted extension) ≠ []) {content : Except ExportFault Text}
    {note : Path → Text} {target : Path}
    (h : (exportText files here failures path extension content note).result = .ok target) :
    ∃ text, Path.output here path extension = .ok target ∧ content = .ok text ∧
      Delivered files (exportText files here failures path extension content note).state
        target.parts text := by
  rcases exportText_cases files here failures path hextension content note with
    ⟨found, text, houtput, htext, hcase⟩ | ⟨fault, hfault, -⟩
  · rw [h] at hcase
    cases hcase with
    | delivered hdelivered => exact ⟨text, houtput, htext, hdelivered⟩
  · cases hfault.symm.trans h

/-- The reports. -/
inductive ReportKind where
  /-- All symbols with their usages. -/
  | usages (indent : Json)
  /-- All planned edits. -/
  | edits (indent : Json)
  /-- The audit, with some fields between quotes without need. -/
  | audit (quoting : FieldQuoting)

namespace ReportKind

/-- The extension of the files of a report. -/
def extension : ReportKind → Text
  | usages _ | edits _ => ".json".toList
  | audit _ => ".csv".toList

/-- The text of a report on a planner. -/
def text (failures : DeviceFailures) (planner : Planner) : ReportKind → Except ExportFault Text
  | usages indent => documentText failures (usagesDocument planner.symbols) indent
  | edits .null =>
    documentText failures (editsDocument planner) (planner.profile.get .exportIndent)
  | edits indent => documentText failures (editsDocument planner) indent
  | audit quoting => (auditTable quoting planner.audit).mapError .value

theorem lower_extension_ne_nil (kind : ReportKind) :
    lower (Path.dotted kind.extension) ≠ [] := by
  have hjson : lower (Path.dotted ".json".toList) ≠ [] := by decide +kernel
  have hcsv : lower (Path.dotted ".csv".toList) ≠ [] := by decide +kernel
  cases kind with
  | usages indent => exact hjson
  | edits indent => exact hjson
  | audit quoting => exact hcsv

/-- Whether a text can be encoded is not seen when it is made. -/
theorem text_ne_encoding (kind : ReportKind) (failures : DeviceFailures) (planner : Planner)
    (e : EncodingFault) : kind.text failures planner ≠ .error (.encoding e) := by
  have hdocument (document : Except ValueFault Json) (indent : Json) :
      documentText failures document indent ≠ .error (.encoding e) := by
    unfold documentText
    intro h
    split at h
    · cases h
    · split at h
      · cases h
      · cases h
  unfold ReportKind.text
  split
  · exact hdocument _ _
  · exact hdocument _ _
  · exact hdocument _ _
  · rename_i quoting
    cases auditTable quoting planner.audit with
    | error fault => exact fun h => by cases h
    | ok table => exact fun h => by cases h

end ReportKind

/-- A planner and the files around it. -/
structure Workspace where
  planner : Planner
  files : FileSystem

namespace Workspace

/-- Writes a report on the planner. -/
def write (w : Workspace) (here : Surroundings) (failures : DeviceFailures) (path : Option Text)
    (kind : ReportKind) : Outcome Workspace ExportFault Path :=
  let done := match kind with
    | .usages indent => exportUsages w.files here failures path w.planner.symbols indent
    | .edits indent => exportEdits w.files here failures path w.planner indent
    | .audit quoting => exportAudit w.files here failures path quoting w.planner.audit
  done.mapState ({ w with files := · })

theorem exists_write_eq (w : Workspace) (here : Surroundings) (failures : DeviceFailures)
    (path : Option Text) (kind : ReportKind) :
    ∃ note, w.write here failures path kind =
      (exportText w.files here failures path kind.extension (kind.text failures w.planner)
        note).mapState ({ w with files := · }) := by
  cases kind with
  | usages indent => exact ⟨_, rfl⟩
  | edits indent => cases indent <;> exact ⟨_, rfl⟩
  | audit quoting => exact ⟨_, rfl⟩

/-- A report that has been written is the file at the path that the export gives back, and all other
files are as before, unless the path is a folder.  The folder then has one file more. -/
theorem write_ok {w : Workspace} {here : Surroundings} {failures : DeviceFailures}
    {path : Option Text} {kind : ReportKind} {target : Path}
    (h : (w.write here failures path kind).result = .ok target) :
    ∃ text, Path.output here path kind.extension = .ok target ∧
      kind.text failures w.planner = .ok text ∧
      (WrittenAt w.files (w.write here failures path kind).state.files target.parts text ↔
        w.files.isFolder target.parts = false) ∧
      (w.files.isFolder target.parts = true →
        (w.write here failures path kind).state.files.isFolder target.parts = true ∧
          ∃ name, w.files.get? (target.parts ++ [name]) = none ∧
            WrittenAt w.files (w.write here failures path kind).state.files
              (target.parts ++ [name]) text) := by
  obtain ⟨note, hwrite⟩ := w.exists_write_eq here failures path kind
  rw [hwrite] at h ⊢
  obtain ⟨text, houtput, htext, hdelivered⟩ :=
    delivered_of_exportText kind.lower_extension_ne_nil h
  exact ⟨text, houtput, htext, hdelivered.writtenAt_iff, hdelivered.inFolder⟩

/-- A directory to work in. -/
def desk : Surroundings where
  current := ["desk".toList]
  home := ["home".toList]

/-- A workspace that holds one entry where the audit goes. -/
def withAudit (entry : Entry) : Workspace where
  planner := { profile := Planner.defaultProfile }
  files := ⟨[(["desk".toList], .folder), (["desk".toList, "audit.csv".toList], entry)]⟩

/-- The audit with no more quotes than there have to be. -/
def bareAudit : ReportKind :=
  .audit fun _ => false

/-- The audit is written over a file. -/
theorem writtenAt_over_file :
    ∃ text, bareAudit.text {} (withAudit (.file "old".toList)).planner = .ok text ∧
      WrittenAt (withAudit (.file "old".toList)).files
        ((withAudit (.file "old".toList)).write desk {} (some "audit".toList)
          bareAudit).state.files
        ["desk".toList, "audit.csv".toList] text := by
  have h : ((withAudit (.file "old".toList)).write desk {} (some "audit".toList)
      bareAudit).result = .ok ⟨.root, ["desk".toList, "audit.csv".toList]⟩ := by decide +kernel
  obtain ⟨text, -, htext, hwritten, -⟩ := write_ok h
  exact ⟨text, htext, hwritten.2 (by decide +kernel)⟩

/-- The audit is written into a folder, and the path that the export gives back is no file. -/
theorem write_into_folder :
    ((withAudit .folder).write desk {} (some "audit".toList) bareAudit).result =
        .ok ⟨.root, ["desk".toList, "audit.csv".toList]⟩ ∧
      ((withAudit .folder).write desk {} (some "audit".toList) bareAudit).state.files.content?
        ["desk".toList, "audit.csv".toList] = none ∧
      ((withAudit .folder).write desk {} (some "audit".toList) bareAudit).state.files.content?
          ["desk".toList, "audit.csv".toList, "tmp00000000.csv".toList] =
        (bareAudit.text {} (withAudit .folder).planner).toOption := by
  decide +kernel

/-- A report that could not be written has changed nothing: the planner is as it was, and so is all
that was in the file system.  It has made no file either, unless what failed is the encoding.  The
report then holds a character that no file can hold, and the temporary file stays: it is empty, is
in the folder of the target, and is the only file that has come. -/
theorem write_error {w : Workspace} {here : Surroundings} {failures : DeviceFailures}
    {path : Option Text} {kind : ReportKind} {fault : ExportFault}
    (hremove : failures.remove = none)
    (h : (w.write here failures path kind).result = .error fault) :
    (w.write here failures path kind).state.planner = w.planner ∧
      (∀ location entry, w.files.get? location = some entry →
        (w.write here failures path kind).state.files.get? location = some entry) ∧
      ((∀ location, (w.write here failures path kind).state.files.content? location =
        w.files.content? location) ↔ ∀ e, fault ≠ .encoding e) ∧
      ∀ e, fault = .encoding e → ∃ target text name,
        Path.output here path kind.extension = .ok target ∧
        kind.text failures w.planner = .ok text ∧ (∃ c ∈ text, c ∈ failures.halves) ∧
        w.files.get? (target.parent.parts ++ [name]) = none ∧
        WrittenAt w.files (w.write here failures path kind).state.files
          (target.parent.parts ++ [name]) [] := by
  obtain ⟨note, hwrite⟩ := w.exists_write_eq here failures path kind
  rw [hwrite] at h ⊢
  refine ⟨rfl, ?_⟩
  rcases exportText_cases w.files here failures path kind.lower_extension_ne_nil
      (kind.text failures w.planner) note with
    ⟨target, text, houtput, htext, hcase⟩ | ⟨found, hfound, hfiles, hcause⟩
  · rw [show (exportText ..).result = .error fault from h] at hcase
    cases hcase with
    | @unencodable encoding hhalf hleft =>
      obtain ⟨name, hnone, hwritten, hkept⟩ := hleft
      refine ⟨hkept, ⟨fun hsame => ?_, fun hother => absurd rfl (hother encoding)⟩, fun _ _ =>
        ⟨target, text, name, houtput, htext, hhalf, hnone, hwritten⟩⟩
      -- the new file holds a text where there was none
      have hcontent := hwritten.1.symm.trans (hsame (target.parent.parts ++ [name]))
      rw [FileSystem.content?, hnone] at hcontent
      cases hcontent
    | failed hother hadds =>
      obtain ⟨depth, hadds⟩ := hadds hremove
      exact ⟨fun _ _ => hadds.get?_eq_some, ⟨fun _ => hother, fun _ => hadds.content?_eq⟩,
        fun e he => absurd he (hother e)⟩
  · obtain rfl : found = fault := Except.error.inj (hfound.symm.trans h)
    have hother : ∀ e, found ≠ .encoding e := by
      rintro e rfl
      rcases hcause with hcontent | ⟨other, hother⟩
      · exact kind.text_ne_encoding failures w.planner e hcontent
      · cases hother
    have hsame (location : Location) : (exportText w.files here failures path kind.extension
        (kind.text failures w.planner) note).state.get? location = w.files.get? location := by
      rw [hfiles]
    exact ⟨fun location _ hentry => (hsame location).trans hentry,
      ⟨fun _ => hother, fun _ location => content?_congr (hsame location)⟩,
      fun e he => absurd he (hother e)⟩

/-- A move that fails leaves the old audit. -/
theorem write_error_keeps_file :
    ((withAudit (.file "old".toList)).write desk { move := some "no space".toList }
        (some "audit".toList) bareAudit).state.files.content?
      ["desk".toList, "audit.csv".toList] = some "old".toList := by
  have h : ((withAudit (.file "old".toList)).write desk { move := some "no space".toList }
      (some "audit".toList) bareAudit).result = .error (.file (.device "no space".toList)) := by
    decide +kernel
  rw [(write_error rfl h).2.2.1.2 fun e he => by cases he]
  decide +kernel

/-- A character that stands for half of a pair. -/
def half : Char := Char.ofNat 0xe000

/-- A workspace with nothing but a folder, and one row in the audit, in a category that no file can
hold. -/
def withHalf : Workspace where
  planner := {
    profile := Planner.defaultProfile
    audit := [⟨.text "M".toList, .text [], .int 1, .int 0, .int 1, .text "a".toList,
      .text "b".toList, .text [half]⟩] }
  files := ⟨[(["desk".toList], .folder)]⟩

/-- The audit cannot be written, and an empty file stays in a folder that had none. -/
theorem write_half_leaves_file :
    (withHalf.write desk { halves := [half] } (some "audit".toList) bareAudit).result =
        .error (.encoding ⟨half, 92, 92⟩) ∧
      withHalf.files.content? ["desk".toList, "tmp00000000.csv".toList] = none ∧
      (withHalf.write desk { halves := [half] } (some "audit".toList)
        bareAudit).state.files.content? ["desk".toList, "tmp00000000.csv".toList] = some [] := by
  decide +kernel

end Workspace

end RenamePlan
