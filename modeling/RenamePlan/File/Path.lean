import RenamePlan.Text.Blank
import RenamePlan.Text.Lower
import RenamePlan.Text.Quoted

/-!
Paths of files: reading, writing, resolving, and the extension of a file name.

A path is read into its parts; empty parts and single dots are dropped, double dots are kept until
the path is resolved.  Resolving goes by the text alone, as there are no symbolic links: `~` gives
the home directory, a relative path continues the current directory, and a double dot takes back the
part before it.
-/

namespace RenamePlan

/-- Where a path starts. -/
inductive Anchor where
  /-- At the current directory. -/
  | relative
  /-- At the root. -/
  | root
  /-- At the root, written with two slashes. -/
  | doubleRoot
deriving DecidableEq, Repr

/-- A path: where it starts, and its parts. -/
structure Path where
  anchor : Anchor
  parts : List Text
deriving DecidableEq, Repr

/-- A place in the file system: the parts of its path from the root. -/
abbrev Location := List Text

/-- The directories that a path may refer to without naming them. -/
structure Surroundings where
  /-- The current directory. -/
  current : Location
  /-- The home directory. -/
  home : Location
  /-- The home directories of other users that are known, by their names. -/
  homes : List (Text × Location) := []
deriving DecidableEq, Repr

/-- Why a path cannot be used. -/
inductive PathFault where
  /-- There is no path, or it is blank. -/
  | blank
  /-- The path begins with a home directory that is not known. -/
  | noHome
  /-- The path holds a character that no file name can hold. -/
  | nullCharacter
  /-- The path names no file. -/
  | emptyName (path : Text)
  /-- A text is no file name. -/
  | badName (name : Text)
deriving DecidableEq, Repr

/-- The text of the fault. -/
def PathFault.message : PathFault → String
  | blank => "Path cannot be None or empty"
  | noHome => "Could not determine home directory."
  | nullCharacter => "embedded null byte"
  | emptyName path => Text.string (
      "PosixPath(".toList ++ quoted path ++ ") has an empty name".toList)
  | badName name => Text.string ("Invalid name ".toList ++ quoted name)

/-- The pieces of a text between slashes. -/
def slashPieces : Text → List Text
  | [] => [[]]
  | c :: rest =>
    if c = '/' then [] :: slashPieces rest
    else match slashPieces rest with
      | [] => [[c]]
      | piece :: pieces => (c :: piece) :: pieces

/-- The part that stands for the directory above. -/
def upward : Text := ['.', '.']

namespace Path

/-- Reads a path. -/
def parse (t : Text) : Path where
  anchor := match (t.takeWhile (· == '/')).length with
    | 0 => .relative
    | 2 => .doubleRoot
    | _ => .root
  parts := (slashPieces t).filter fun piece => piece != [] && piece != ['.']

/-- The path of a place. -/
def ofLocation (location : Location) : Path :=
  ⟨.root, location⟩

/-- The text of a path. -/
def text (path : Path) : Text :=
  let joined := ['/'].intercalate path.parts
  match path.anchor with
  | .relative => if path.parts.isEmpty then ['.'] else joined
  | .root => '/' :: joined
  | .doubleRoot => '/' :: '/' :: joined

/-- The last part, or nothing if there are none. -/
def name (path : Path) : Text :=
  path.parts.getLast?.getD []

/-- The path without its last part. -/
def parent (path : Path) : Path :=
  { path with parts := path.parts.dropLast }

/-- The last dot of the name and what follows it, unless the dot begins or ends the name. -/
def suffix (path : Path) : Text :=
  let behind := (path.name.reverse.takeWhile (· != '.')).reverse
  let before := path.name.take (path.name.length - behind.length - 1)
  if path.name.contains '.' && !before.isEmpty && !behind.isEmpty then '.' :: behind else []

/-- Whether a text can take the place of a name: it has one part, does not start at the root and
does not end in a slash. -/
def isName (t : Text) : Bool :=
  (parse t).anchor == .relative && (parse t).parts.length == 1 && t.getLast? != some '/'

/-- The path with another name. -/
def withName (path : Path) (name : Text) : Except PathFault Path :=
  if path.name.isEmpty then .error (.emptyName path.text)
  else if isName name then .ok { path with parts := path.parts.dropLast ++ [name] }
  else .error (.badName name)

/-- The extension with its dot, which may be left out. -/
def dotted (extension : Text) : Text :=
  if extension.head? = some '.' then extension else '.' :: extension

/-- The path with the extension behind its name, unless the name has it in any mixture of cases. -/
def withExtension (path : Path) (extension : Text) : Except PathFault Path :=
  let extension := dotted extension
  if lower path.suffix = lower extension then .ok path
  else path.withName (path.name ++ extension)

/-- One step from a place: up for a double dot, and otherwise down. -/
def step (location : Location) (part : Text) : Location :=
  if part = upward then location.dropLast else location ++ [part]

/-- Where the path leads, going by its text alone. -/
def locate (here : Surroundings) (path : Path) : Location :=
  match path.anchor with
  | .relative => path.parts.foldl step here.current
  | .root | .doubleRoot => path.parts.foldl step []

/-- Puts the home directory in place of a `~` in front, and that of a user in place of a `~` with
the name of the user. -/
def expandHome (here : Surroundings) (path : Path) : Except PathFault Path :=
  match path.anchor, path.parts with
  | .relative, first :: rest =>
    if first.head? = some '~' then
      if first = ['~'] then .ok ⟨.root, here.home ++ rest⟩
      else if first.contains '\x00' then .error .nullCharacter
      else match here.homes.lookup (first.drop 1) with
        | some home => .ok ⟨.root, home ++ rest⟩
        | none => .error .noHome
    else .ok path
  | _, _ => .ok path

/-- The place that a text leads to.  It must not be blank. -/
def resolve (here : Surroundings) (t : Option Text) : Except PathFault Path := do
  let t := t.getD []
  if t.all isBlank then throw .blank
  let path ← (parse t).expandHome here
  if path.parts.any (·.contains '\x00') then throw .nullCharacter
  pure (ofLocation (path.locate here))

/-- The place where a report with the given extension goes. -/
def output (here : Surroundings) (t : Option Text) (extension : Text) : Except PathFault Path := do
  let path ← resolve here t
  path.withExtension extension

end Path

end RenamePlan
