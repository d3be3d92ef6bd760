import RenamePlan.File.System

/-!
Making folders, with those above them that are missing.
-/

namespace RenamePlan.FileSystem

/-- Makes one folder, in a folder that is there. -/
def makeFolder (files : FileSystem) (here : Surroundings) (path : Path) :
    Except Obstacle FileSystem := do
  let location ← files.follow here path
  if path.parts.getLast? = some upward || (files.get? location).isSome then throw .taken
  pure (files.put location .folder)

/-- What is left after an operation that may have failed half-way. -/
structure Attempt where
  files : FileSystem
  fault : Option FileFault := none
deriving DecidableEq, Repr

/-- A folder that could not be made is no fault if it is there. -/
def acceptFolder (files : FileSystem) (here : Surroundings) (path : Path) (obstacle : Obstacle) :
    Attempt :=
  match files.follow here path with
  | .ok location =>
    if files.isFolder location then ⟨files, none⟩ else ⟨files, some (.blocked obstacle path.text)⟩
  | .error _ => ⟨files, some (.blocked obstacle path.text)⟩

/-- Makes the folder whose parts, last one first, are given, and those above it that are missing. -/
def makeFoldersUp (files : FileSystem) (here : Surroundings) (anchor : Anchor) :
    List Text → Attempt
  | [] =>
    match files.makeFolder here ⟨anchor, []⟩ with
    | .ok made => ⟨made, none⟩
    | .error obstacle => files.acceptFolder here ⟨anchor, []⟩ obstacle
  | part :: above =>
    let path : Path := ⟨anchor, (part :: above).reverse⟩
    match files.makeFolder here path with
    | .ok made => ⟨made, none⟩
    | .error .missing =>
      let attempt := files.makeFoldersUp here anchor above
      match attempt.fault with
      | some _ => attempt
      | none =>
        match attempt.files.makeFolder here path with
        | .ok made => ⟨made, none⟩
        | .error .missing => ⟨attempt.files, some (.blocked .missing path.text)⟩
        | .error obstacle => attempt.files.acceptFolder here path obstacle
    | .error obstacle => files.acceptFolder here path obstacle

/-- Makes a folder and those above it that are missing.  A folder that is there is left as it is;
folders made before a failure stay. -/
def ensureFolder (files : FileSystem) (here : Surroundings) (path : Path) : Attempt :=
  if path.parts.any (·.contains '\x00') then ⟨files, some .nullCharacter⟩
  else files.makeFoldersUp here path.anchor path.parts.reverse

/-- Makes a folder that is not there yet, and those above it that are missing; folders made before a
failure stay. -/
def createFolder (files : FileSystem) (here : Surroundings) (path : Path) : Attempt :=
  if path.parts.any (·.contains '\x00') then ⟨files, some .nullCharacter⟩
  else
    let attempt := match files.makeFolder here path with
      | .error .missing => files.ensureFolder here path.parent
      | _ => ⟨files, none⟩
    match attempt.fault with
    | some _ => attempt
    | none =>
      match attempt.files.makeFolder here path with
      | .ok made => ⟨made, none⟩
      | .error obstacle => ⟨attempt.files, some (.blocked obstacle path.text)⟩

end RenamePlan.FileSystem
