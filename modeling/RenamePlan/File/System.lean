import RenamePlan.File.Path
import RenamePlan.Text.Decimal

/-!
A file system without symbolic links, and the few operations that reports and log files need.

Operations take a path as its reader sees it, follow it from the current directory through folders
that exist, and fail as the system does: a double dot leaves a folder only if that folder is there.
-/

namespace RenamePlan

/-- What a place in the file system holds. -/
inductive Entry where
  | folder
  | file (content : Text)
deriving DecidableEq, Repr

/-- What places hold; the root is a folder, and a place that is not listed holds nothing. -/
structure FileSystem where
  entries : List (Location × Entry) := []
deriving DecidableEq, Repr

/-- What stands in the way of an operation. -/
inductive Obstacle where
  | missing
  | taken
  | notFolder
  | isFolder
  | nameTooLong
deriving DecidableEq, Repr

namespace Obstacle

/-- The number of the obstacle. -/
def code : Obstacle → Nat
  | missing => 2
  | taken => 17
  | notFolder => 20
  | isFolder => 21
  | nameTooLong => 36

/-- The obstacle in words. -/
def phrase : Obstacle → Text
  | missing => "No such file or directory".toList
  | taken => "File exists".toList
  | notFolder => "Not a directory".toList
  | isFolder => "Is a directory".toList
  | nameTooLong => "File name too long".toList

end Obstacle

/-- Why an operation failed. -/
inductive FileFault where
  /-- Something stands in the way at the path. -/
  | blocked (obstacle : Obstacle) (path : Text)
  /-- The path holds a character that no file name can hold. -/
  | nullCharacter
  /-- The device failed, with a text of its own. -/
  | device (text : Text)
deriving DecidableEq, Repr

/-- The text of the fault. -/
def FileFault.message : FileFault → String
  | blocked obstacle path => Text.string (
      "[Errno ".toList ++ decimal obstacle.code ++ "] ".toList ++ obstacle.phrase ++
      ": ".toList ++ quoted path)
  | nullCharacter => "embedded null byte"
  | device text => Text.string text

/-- The greatest number of bytes that a name can have. -/
def longestName : Nat := 255

/-- The number of bytes that a text takes. -/
def byteCount (t : Text) : Nat :=
  t.foldl (fun count c => count + c.utf8Size) 0

/-- Whether a name has more bytes than a name can have. -/
def isTooLong (name : Text) : Bool :=
  longestName < byteCount name

/-- The greatest number of bytes that the text of a path can have. -/
def longestPath : Nat := 4095

/-- Whether the text of a path has more bytes than it can have. -/
def Path.isTooLong (path : Path) : Bool :=
  longestPath < byteCount path.text

namespace FileSystem

/-- What a place holds. -/
def get? (files : FileSystem) (location : Location) : Option Entry :=
  if location.isEmpty then some .folder else files.entries.lookup location

/-- Whether the place is a folder. -/
def isFolder (files : FileSystem) (location : Location) : Bool :=
  files.get? location == some .folder

/-- The content of the file at the place, if it holds one. -/
def content? (files : FileSystem) (location : Location) : Option Text :=
  match files.get? location with
  | some (.file content) => some content
  | _ => none

/-- Empties a place. -/
def remove (files : FileSystem) (location : Location) : FileSystem :=
  ⟨files.entries.filter (·.1 != location)⟩

/-- Puts an entry at a place, over what is there. -/
def put (files : FileSystem) (location : Location) (entry : Entry) : FileSystem :=
  ⟨(location, entry) :: (files.remove location).entries⟩

theorem lookup_filter_ne {entries : List (Location × Entry)} {location other : Location}
    (hne : other ≠ location) :
    (entries.filter (·.1 != location)).lookup other = entries.lookup other := by
  induction entries with
  | nil => rfl
  | cons pair rest ih =>
    obtain ⟨place, entry⟩ := pair
    by_cases h : place = location
    · have hplace : (other == location) = false := by simp [hne]
      simp only [List.filter, h, bne_self_eq_false, List.lookup_cons, hplace, ih]
    · have hkeep : (place != location) = true := by simp [h]
      simp only [List.filter, hkeep, List.lookup_cons]
      cases other == place with
      | true => rfl
      | false => exact ih

theorem get?_remove_of_ne (files : FileSystem) {location other : Location}
    (hne : other ≠ location) : (files.remove location).get? other = files.get? other := by
  simp only [get?, remove, lookup_filter_ne hne]

theorem get?_remove_self (files : FileSystem) {location : Location} (h : location ≠ []) :
    (files.remove location).get? location = none := by
  have gone : (files.remove location).entries.lookup location = none := by
    simp only [remove]
    induction files.entries with
    | nil => rfl
    | cons pair rest ih =>
      obtain ⟨place, entry⟩ := pair
      by_cases hp : place = location
      · simpa [List.filter, hp] using ih
      · have hlp : (location == place) = false := by simp [Ne.symm hp]
        have hkeep : (place != location) = true := by simp [hp]
        simp only [List.filter, hkeep, List.lookup_cons, hlp, ih]
  simp [get?, h, gone]

theorem get?_put_self (files : FileSystem) {location : Location} (entry : Entry)
    (h : location ≠ []) : (files.put location entry).get? location = some entry := by
  simp [get?, put, h]

theorem get?_put_of_ne (files : FileSystem) {location other : Location} (entry : Entry)
    (hne : other ≠ location) : (files.put location entry).get? other = files.get? other := by
  have hop : (other == location) = false := by simp [hne]
  simp only [get?, put, remove, List.lookup_cons, hop, lookup_filter_ne hne]

/-- Follows the parts from a place.  All places on the way have to be folders; the last one need not
exist. -/
def walk (files : FileSystem) : Location → List Text → Except Obstacle Location
  | location, [] => .ok location
  | location, part :: rest =>
    match files.get? location with
    | none => .error .missing
    | some (.file _) => .error .notFolder
    | some .folder =>
      if part = upward then files.walk location.dropLast rest
      else if isTooLong part then .error .nameTooLong
      else files.walk (location ++ [part]) rest

/-- Where following a path starts. -/
def startOf (here : Surroundings) (path : Path) : Location :=
  match path.anchor with
  | .relative => here.current
  | .root | .doubleRoot => []

/-- Follows a path, whose text must not be too long. -/
def follow (files : FileSystem) (here : Surroundings) (path : Path) : Except Obstacle Location :=
  if path.isTooLong then .error .nameTooLong else files.walk (startOf here path) path.parts

/-- Where a file can be written: in a folder that is there, and not in place of a folder. -/
def fileAt (files : FileSystem) (here : Surroundings) (path : Path) : Except FileFault Location :=
  if path.parts.any (·.contains '\x00') then .error .nullCharacter
  else match files.follow here path with
    | .error obstacle => .error (.blocked obstacle path.text)
    | .ok location =>
      if files.isFolder location then .error (.blocked .isFolder path.text) else .ok location

/-- Writes a file over what is there. -/
def write (files : FileSystem) (here : Surroundings) (path : Path) (content : Text) :
    Except FileFault FileSystem := do
  let location ← files.fileAt here path
  pure (files.put location (.file content))

/-- Opens a file for lines to be added, which makes an empty one if there is none. -/
def openForLines (files : FileSystem) (here : Surroundings) (path : Path) :
    Except FileFault FileSystem := do
  let location ← files.fileAt here path
  pure (files.put location (.file ((files.content? location).getD [])))

/-- Adds text to the file at a place. -/
def append (files : FileSystem) (location : Location) (more : Text) : FileSystem :=
  files.put location (.file ((files.content? location).getD [] ++ more))

/-! ## Listings -/

/-- The files below a folder with their contents, by the parts of their paths from the folder. -/
def filesBelow (files : FileSystem) (folder : Location) : List (Location × Text) :=
  let below := files.entries.filterMap fun (location, entry) =>
    match entry with
    | .file content =>
      if folder.isPrefixOf location then some (location.drop folder.length, content) else none
    | .folder => none
  below.mergeSort fun a b => (compare a.1 b.1).isLE

/-- The folders below a folder, as texts of their paths from it, in order. -/
def foldersBelow (files : FileSystem) (folder : Location) : List Text :=
  let below := files.entries.filterMap fun (location, entry) =>
    if entry = .folder && folder.isPrefixOf location && location != folder then
      some (Path.text ⟨.relative, location.drop folder.length⟩)
    else none
  below.mergeSort fun a b => (compare a b).isLE

end FileSystem

end RenamePlan
