import Mathlib.Data.List.Infix
import AwesomeNetwork.Extensions.URL

/-! # What the file operations change

Each operation on the files of the library changes them at known paths only: on the way to
a folder that is created, at the place of a file that is moved, and at or below the item
that is removed. Only a move brings a file.
-/

namespace AwesomeNetwork

namespace Removal

variable {item path : FilePath} {removal : Removal}

/-- A removal that goes through takes what is at or below the item. -/
theorem takes_succeeds : Removal.succeeds.takes item path = true ↔ item <+: path := by
  unfold takes
  exact List.isPrefixOf_iff_prefix

/-- A removal takes nothing that is not at or below the item. -/
theorem prefix_of_takes (taken : removal.takes item path = true) : item <+: path := by
  cases removal with
  | succeeds => exact takes_succeeds.mp taken
  | fails removed =>
      obtain ⟨below, _, both⟩ := List.any_eq_true.mp taken
      simp only [Bool.and_eq_true, List.isPrefixOf_iff_prefix] at both
      exact both.1.1.trans both.2

/-- A removal that fails leaves the item itself. -/
theorem takes_fails_self (removed : List FilePath) :
    (Removal.fails removed).takes item item = false := by
  rw [← Bool.not_eq_true]
  intro taken
  obtain ⟨below, _, both⟩ := List.any_eq_true.mp taken
  simp only [Bool.and_eq_true, List.isPrefixOf_iff_prefix, bne_iff_ne] at both
  obtain ⟨⟨inside, different⟩, above⟩ := both
  exact different (inside.eq_of_length_le above.length_le)

end Removal

namespace FileSystem

variable {before middle after files moved : FileSystem} {path target : FilePath}
  {contents : Data} {creates : FilePath → Prop} {removal : Removal}

/-- Creating a directory changes nothing but what is on the way to it. -/
theorem nodes_createDirectory (files : FileSystem) (directory : FilePath)
    (elsewhere : ¬ path <+: directory.resolved) :
    (files.createDirectory directory).nodes path = files.nodes path := by
  unfold createDirectory
  split
  · rfl
  · simp only [List.isPrefixOf_iff_prefix, elsewhere, ↓reduceIte]

/-- A move that is possible puts the file at its target. -/
theorem moveItem_eq_some (moves : files.moveItem contents target = some moved) :
    moved.nodes = Function.update files.nodes target.resolved (some (.file contents)) := by
  unfold moveItem at moves
  split at moves
  · cases moves
    rfl
  · cases moves

/-- A file is moved only to where nothing is. -/
theorem missing_of_moveItem (moves : files.moveItem contents target = some moved) :
    files.nodes target.resolved = none := by
  unfold moveItem at moves
  split at moves
  · next free => exact Option.isNone_iff_eq_none.mp (Option.isSome_eq_false_iff.mp free.1)
  · cases moves

/-- A removal leaves what is not at or below the item. -/
theorem nodes_removeItem_of_outside (files : FileSystem) (item : FilePath) (removal : Removal)
    (outside : ¬ item.resolved <+: path) :
    (files.removeItem item removal).nodes path = files.nodes path :=
  if_neg fun taken => outside (Removal.prefix_of_takes taken)

/-- A removal leaves a path as it is, or leaves nothing there. -/
theorem nodes_removeItem (files : FileSystem) (item : FilePath) (removal : Removal)
    (path : FilePath) :
    (files.removeItem item removal).nodes path = files.nodes path ∨
      (files.removeItem item removal).nodes path = none := by
  unfold removeItem
  dsimp only
  split
  · exact Or.inr rfl
  · exact Or.inl rfl

/-- A removal that goes through removes the item and everything below it. -/
theorem nodes_removeItem_succeeds (files : FileSystem) (item path : FilePath) :
    (files.removeItem item .succeeds).nodes path =
      if item.resolved <+: path then none else files.nodes path :=
  if_congr Removal.takes_succeeds rfl rfl

/-- A removal that fails leaves the item itself. -/
theorem nodes_removeItem_fails_self (files : FileSystem) (item : FilePath)
    (removed : List FilePath) :
    (files.removeItem item (.fails removed)).nodes item.resolved = files.nodes item.resolved :=
  if_neg (Bool.eq_false_iff.mp (Removal.takes_fails_self removed))

/-- The path is as before, or a missing folder of those that may be created is there. -/
def KeptOrCreated (before after : FileSystem) (creates : FilePath → Prop) (path : FilePath) :
    Prop :=
  after.nodes path = before.nodes path ∨
    (before.nodes path = none ∧ after.nodes path = some .directory ∧ creates path)

/-- What is kept or created twice is kept or created. -/
theorem KeptOrCreated.trans (first : before.KeptOrCreated middle creates path)
    (second : middle.KeptOrCreated after creates path) :
    before.KeptOrCreated after creates path := by
  rcases first with kept | ⟨missing, created, may⟩
  · rcases second with kept' | ⟨missing, created, may⟩
    · exact Or.inl (kept'.trans kept)
    · exact Or.inr ⟨kept.symm.trans missing, created, may⟩
  · rcases second with kept' | ⟨missing', _⟩
    · exact Or.inr ⟨missing, kept'.trans created, may⟩
    · cases created.symm.trans missing'

/-- Creating a directory changes only what is missing on the way to it. -/
theorem keptOrCreated_createDirectory (files : FileSystem) (directory path : FilePath) :
    files.KeptOrCreated (files.createDirectory directory) (· <+: directory.resolved) path := by
  by_cases above : path <+: directory.resolved
  · unfold createDirectory
    split
    · exact Or.inl rfl
    · next free =>
        have created : (if path.isPrefixOf directory.resolved = true then some FileNode.directory
            else files.nodes path) = some .directory :=
          if_pos (List.isPrefixOf_iff_prefix.mpr above)
        cases present : files.nodes path with
        | none => exact Or.inr ⟨present, created, above⟩
        | some node =>
            cases node with
            | directory => exact Or.inl (created.trans present.symm)
            | file contents =>
                refine (free (List.any_eq_true.mpr ⟨path, ?_, ?_⟩)).elim
                · exact (List.mem_inits ..).mpr above
                · rw [present]
  · exact Or.inl (nodes_createDirectory files directory above)

/-- A directory is created around the files there are. -/
theorem file_createDirectory_iff (files : FileSystem) (directory : FilePath) :
    (files.createDirectory directory).nodes path = some (.file contents) ↔
      files.nodes path = some (.file contents) := by
  rcases files.keptOrCreated_createDirectory directory path with kept | ⟨missing, created, _⟩
  · rw [kept]
  · rw [missing, created]
    exact iff_of_false nofun nofun

end FileSystem

namespace URL

variable {url : URL} {files moved : FileSystem} {path target : FilePath} {folder : Option String}
  {contents stored : Data} {goesThrough : Bool} {removal : Removal}

/-- A file does not exist when nothing is at its place. -/
theorem offlineFileExists_eq_false_iff :
    url.offlineFileExists files folder = false ↔
      files.nodes (url.offlineFileDestination folder).resolved = none := by
  unfold offlineFileExists FileSystem.fileExists
  rw [Option.isSome_eq_false_iff, Option.isNone_iff_eq_none]

/-- A move changes nothing but its target. -/
theorem nodes_moveOfflineFile (elsewhere : path ≠ target.resolved) :
    (moveOfflineFile contents target files goesThrough).2.nodes path = files.nodes path := by
  unfold moveOfflineFile
  split
  · next moved moves =>
      split
      · rw [FileSystem.moveItem_eq_some moves, Function.update_of_ne elsewhere]
      · rfl
  · rfl

/-- A file that was stored is there. -/
theorem nodes_of_stored
    (stored : moveOfflineFile contents target files goesThrough = (true, moved)) :
    moved.nodes target.resolved = some (.file contents) := by
  unfold moveOfflineFile at stored
  split at stored
  · next placed moves =>
      split at stored
      · cases stored
        rw [FileSystem.moveItem_eq_some moves, Function.update_self]
      · cases stored
  · cases stored

/-- A move that fails changes nothing. -/
theorem files_of_failed_move
    (failed : moveOfflineFile contents target files goesThrough = (false, moved)) :
    moved = files := by
  unfold moveOfflineFile at failed
  split at failed
  · split at failed <;> cases failed
    rfl
  · cases failed
    rfl

/-- A file is there after a move when it was before, or when it is the one moved. -/
theorem file_moveOfflineFile_iff :
    (moveOfflineFile stored target files goesThrough).2.nodes path = some (.file contents) ↔
      files.nodes path = some (.file contents) ∨
        ((moveOfflineFile stored target files goesThrough).1 = true ∧ path = target.resolved ∧
          stored = contents) := by
  unfold moveOfflineFile
  split
  · next moved moves =>
      have missing := FileSystem.missing_of_moveItem moves
      split
      · dsimp only
        rw [FileSystem.moveItem_eq_some moves]
        by_cases same : path = target.resolved
        · subst same
          rw [Function.update_self, missing]
          simp
        · rw [Function.update_of_ne same]
          simp [same]
      · simp
  · simp

/-- A deletion leaves what is not at or below the place of its URL. -/
theorem nodes_deleteOfflineFile_of_outside (removal : Removal)
    (outside : ¬ (url.offlineFileDestination folder).resolved <+: path) :
    (url.deleteOfflineFile files folder removal).2.nodes path = files.nodes path := by
  unfold deleteOfflineFile
  split
  · exact files.nodes_removeItem_of_outside _ removal outside
  · rfl

/-- A deletion leaves a path as it is, or leaves nothing there. -/
theorem nodes_deleteOfflineFile (url : URL) (files : FileSystem) (folder : Option String)
    (removal : Removal) (path : FilePath) :
    (url.deleteOfflineFile files folder removal).2.nodes path = files.nodes path ∨
      (url.deleteOfflineFile files folder removal).2.nodes path = none := by
  unfold deleteOfflineFile
  split
  · exact files.nodes_removeItem _ removal path
  · exact Or.inl rfl

end URL

end AwesomeNetwork
