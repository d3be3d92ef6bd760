import RenamePlan.File.Folders

/-!
# What making folders changes

Making a folder with those above it can fail at any of them, and folders made before the failure
stay.  Either way the only change is that some places that held nothing are folders now, none of
them deeper than the path that was asked for (`addsFolders_ensureFolder`).  No file is touched, and
a place below that path is as it was.
-/

namespace RenamePlan.FileSystem

/-- The only change from one state to the other is that places which held nothing, and which have
no more than `depth` parts, have become folders. -/
def AddsFolders (depth : Nat) (before after : FileSystem) : Prop :=
  ∀ location, after.get? location = before.get? location ∨
    (location.length ≤ depth ∧ before.get? location = none ∧ after.get? location = some .folder)

namespace AddsFolders

theorem refl (depth : Nat) (files : FileSystem) : AddsFolders depth files files :=
  fun _ => Or.inl rfl

theorem trans {depth deeper : Nat} {first second third : FileSystem}
    (h : AddsFolders depth first second) (h' : AddsFolders deeper second third)
    (hdepth : depth ≤ deeper) : AddsFolders deeper first third := by
  intro location
  rcases h' location with hsame | ⟨hle, hnone, hmade⟩
  · rcases h location with hsame' | ⟨hle, hnone, hmade⟩
    · exact Or.inl (hsame.trans hsame')
    · exact Or.inr ⟨Nat.le_trans hle hdepth, hnone, hsame.trans hmade⟩
  · rcases h location with hsame' | ⟨-, -, hmade'⟩
    · exact Or.inr ⟨hle, hsame'.symm.trans hnone, hmade⟩
    · rw [hmade'] at hnone
      cases hnone

variable {depth : Nat} {before after : FileSystem} (h : AddsFolders depth before after)

include h

theorem content?_eq (location : Location) : after.content? location = before.content? location := by
  rcases h location with hsame | ⟨-, hnone, hmade⟩
  · rw [content?, content?, hsame]
  · rw [content?, content?, hnone, hmade]

theorem isFolder_eq {location : Location} (hdeep : depth < location.length) :
    after.isFolder location = before.isFolder location := by
  rcases h location with hsame | ⟨hle, -⟩
  · rw [isFolder, isFolder, hsame]
  · omega

theorem get?_eq_none {location : Location} (hnone : after.get? location = none) :
    before.get? location = none := by
  rcases h location with hsame | ⟨-, hbefore, -⟩
  · exact hsame.symm.trans hnone
  · exact hbefore

theorem get?_eq_some {location : Location} {entry : Entry}
    (hsome : before.get? location = some entry) : after.get? location = some entry := by
  rcases h location with hsame | ⟨-, hnone, -⟩
  · exact hsame.trans hsome
  · rw [hnone] at hsome
    cases hsome

end AddsFolders

/-- Each part leads down one folder at most. -/
theorem length_walk_le {files : FileSystem} {start location : Location} {parts : List Text}
    (h : files.walk start parts = .ok location) :
    location.length ≤ start.length + parts.length := by
  induction parts generalizing start with
  | nil =>
    cases h
    exact Nat.le_refl _
  | cons part rest ih =>
    rw [walk] at h
    split at h
    · cases h
    · cases h
    · split at h
      · have := ih h
        simp only [List.length_dropLast, List.length_cons] at *
        omega
      · split at h
        · cases h
        · have := ih h
          simp only [List.length_append, List.length_cons, List.length_nil] at *
          omega

/-- The greatest number of parts that a place can have to which a path leads. -/
def depthOf (here : Surroundings) (anchor : Anchor) (parts : List Text) : Nat :=
  (startOf here ⟨anchor, parts⟩).length + parts.length

theorem length_follow_le {files : FileSystem} {here : Surroundings} {path : Path}
    {location : Location} (h : files.follow here path = .ok location) :
    location.length ≤ depthOf here path.anchor path.parts := by
  unfold follow at h
  split at h
  · cases h
  · exact length_walk_le h

/-- Making one folder. -/
theorem addsFolders_makeFolder {files made : FileSystem} {here : Surroundings} {path : Path}
    (h : files.makeFolder here path = .ok made) :
    AddsFolders (depthOf here path.anchor path.parts) files made := by
  unfold makeFolder at h
  cases hfollow : files.follow here path with
  | error obstacle =>
    rw [hfollow] at h
    cases h
  | ok location =>
    simp only [hfollow, bind, Except.bind, pure, Except.pure] at h
    split at h
    · cases h
    · rename_i hfree
      cases h
      have hnone : files.get? location = none := by
        cases hget : files.get? location with
        | none => rfl
        | some entry => simp [hget] at hfree
      have hne : location ≠ [] := by
        rintro rfl
        cases hnone
      intro other
      by_cases hother : other = location
      · subst hother
        exact Or.inr ⟨length_follow_le hfollow, hnone, get?_put_self files .folder hne⟩
      · exact Or.inl (get?_put_of_ne files .folder hother)

theorem acceptFolder_files (files : FileSystem) (here : Surroundings) (path : Path)
    (obstacle : Obstacle) : (files.acceptFolder here path obstacle).files = files := by
  unfold acceptFolder
  split
  · split <;> rfl
  · rfl

/-- Making a folder and those above it: the ones above come first, and are less deep. -/
theorem addsFolders_makeFoldersUp (files : FileSystem) (here : Surroundings) (anchor : Anchor)
    (parts : List Text) :
    AddsFolders (depthOf here anchor parts) files
      (files.makeFoldersUp here anchor parts).files := by
  induction parts with
  | nil =>
    unfold makeFoldersUp
    split
    · rename_i made hmake
      exact addsFolders_makeFolder hmake
    · rw [acceptFolder_files]
      exact .refl _ _
  | cons part above ih =>
    have hdepth : depthOf here anchor above ≤ depthOf here anchor (part :: above) :=
      Nat.add_le_add_left (Nat.le_succ _) _
    have hmade : ∀ {first second : FileSystem},
        first.makeFolder here ⟨anchor, (part :: above).reverse⟩ = .ok second →
          AddsFolders (depthOf here anchor (part :: above)) first second := by
      intro first second hmake
      have hadds := addsFolders_makeFolder hmake
      rwa [depthOf, List.length_reverse] at hadds
    have habove : AddsFolders (depthOf here anchor (part :: above)) files
        (files.makeFoldersUp here anchor above).files := ih.trans (.refl _ _) hdepth
    unfold makeFoldersUp
    dsimp only
    split
    · rename_i made hmake
      exact hmade hmake
    · split
      · exact habove
      · split
        · rename_i made hmake
          exact habove.trans (hmade hmake) (Nat.le_refl _)
        · exact habove
        · rw [acceptFolder_files]
          exact habove
    · rw [acceptFolder_files]
      exact .refl _ _

theorem addsFolders_ensureFolder (files : FileSystem) (here : Surroundings) (path : Path) :
    AddsFolders (depthOf here path.anchor path.parts) files
      (files.ensureFolder here path).files := by
  unfold ensureFolder
  split
  · exact .refl _ _
  · have hadds := addsFolders_makeFoldersUp files here path.anchor path.parts.reverse
    rwa [depthOf, List.length_reverse] at hadds

end RenamePlan.FileSystem
