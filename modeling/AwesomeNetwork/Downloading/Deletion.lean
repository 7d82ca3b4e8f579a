import AwesomeNetwork.Downloading.FileSteps
import AwesomeNetwork.Extensions.OfflineDestination

/-! # What a deletion removes

The destination of a URL is checked for existence and removed with everything below it,
whatever the last path component of the URL is; a removal that fails may have removed a part
of what is below. A deletion is confined to one file, whatever comes of it, when that
component names a file.
-/

namespace AwesomeNetwork

namespace FileSystem

/-- Nothing is gone but what was at the path. -/
def RemovesAtMost (before after : FileSystem) (target : FilePath) : Prop :=
  ∀ path, after.nodes path = before.nodes path ∨ (path = target ∧ after.nodes path = none)

/-- Nothing is stored below a place. -/
def NothingBelow (files : FileSystem) (target : FilePath) : Prop :=
  ∀ path, target <+: path → path ≠ target → files.nodes path = none

variable {files before after : FileSystem} {target path : FilePath}

theorem RemovesAtMost.refl (files : FileSystem) (target : FilePath) :
    files.RemovesAtMost files target :=
  fun _ => Or.inl rfl

/-- Every other path is as it was. -/
theorem RemovesAtMost.kept (removes : before.RemovesAtMost after target)
    (different : path ≠ target) : after.nodes path = before.nodes path := by
  rcases removes path with kept | ⟨same, _⟩
  · exact kept
  · exact (different same).elim

/-- Removing an item takes away no more than the target, however the removal ends, exactly
when the item is the target, with nothing below it. -/
theorem removesAtMost_removeItem_iff {item : FilePath} (present : files.fileExists item = true) :
    (∀ removal, files.RemovesAtMost (files.removeItem item removal) target) ↔
      item.resolved = target ∧ files.NothingBelow target := by
  obtain ⟨node, found⟩ := Option.isSome_iff_exists.mp present
  constructor
  · intro each
    have removes := each .succeeds
    have gone : (files.removeItem item .succeeds).nodes item.resolved = none := by
      rw [nodes_removeItem_succeeds, if_pos (List.prefix_refl _)]
    have same : item.resolved = target := by
      by_contra different
      have kept := removes.kept different
      rw [gone, found] at kept
      cases kept
    refine ⟨same, fun path below different => ?_⟩
    rw [← removes.kept different, nodes_removeItem_succeeds, same, if_pos below]
  · rintro ⟨rfl, nothing⟩ removal path
    rcases files.nodes_removeItem item removal path with kept | gone
    · exact Or.inl kept
    · by_cases same : path = item.resolved
      · exact Or.inr ⟨same, gone⟩
      · by_cases below : item.resolved <+: path
        · exact Or.inl (gone.trans (nothing path below same).symm)
        · exact Or.inl (files.nodes_removeItem_of_outside item removal below)

end FileSystem

namespace URL

/-- The deletion has nothing to remove, or the last path component names a file with
nothing below it. -/
def DeletesOneFile (url : URL) (files : FileSystem) (folder : Option String) : Prop :=
  url.offlineFileExists files folder = false ∨
    (url.HasFileName ∧ files.NothingBelow (url.filePath folder))

/-- A deletion is confined to its file, whatever comes of the removal, exactly when it
deletes one file. -/
theorem deleteOfflineFile_removesAtMost_iff (url : URL) (files : FileSystem)
    (folder : Option String) :
    (∀ removal, files.RemovesAtMost (url.deleteOfflineFile files folder removal).2
        (url.filePath folder)) ↔ url.DeletesOneFile files folder := by
  unfold deleteOfflineFile DeletesOneFile
  cases present : url.offlineFileExists files folder with
  | false => exact iff_of_true (fun _ => .refl files _) (Or.inl rfl)
  | true =>
      simp only [↓reduceIte, Bool.true_eq_false, false_or]
      rw [FileSystem.removesAtMost_removeItem_iff present, resolved_destination_eq_filePath_iff]

end URL

namespace AwesomeDownload

/-- **Deletions.** However its removal ends, deleting the offline file of a URL, by itself,
through `delete` or in a forced download, removes no more than the file of that name in the
folder exactly when nothing is at its place, or the last component of the URL names a file
with nothing below. Files of other names in the folder are left then. -/
theorem deletion_removesAtMost_iff (url : URL) (folder : Option String) :
    (∀ files : FileSystem,
      (∀ removal, files.RemovesAtMost (url.deleteOfflineFile files folder removal).2
        (url.filePath folder)) ↔ url.DeletesOneFile files folder) ∧
    (∀ downloads (deletion : Removal → Label),
      (∀ removal, Deletes downloads url folder removal (deletion removal)) →
      ((∀ removal next, step downloads (deletion removal) = some next →
        downloads.files.RemovesAtMost next.files (url.filePath folder)) ↔
          url.DeletesOneFile downloads.files folder)) ∧
    ∀ (before after : FileSystem) (other : URL),
      before.RemovesAtMost after (url.filePath folder) →
      other.lastPathComponent ≠ url.lastPathComponent →
      after.nodes (other.filePath folder) = before.nodes (other.filePath folder) := by
  refine ⟨fun files => url.deleteOfflineFile_removesAtMost_iff files folder, ?_, ?_⟩
  · intro downloads deletion deletes
    rw [← url.deleteOfflineFile_removesAtMost_iff]
    refine forall_congr' fun removal => ⟨fun each => ?_, fun removes next taken => ?_⟩
    · obtain ⟨next, taken, files⟩ := exists_of_deletes (deletes removal)
      exact files ▸ each next taken
    · rw [files_of_deletes taken (deletes removal)]
      exact removes
  · intro before after other confined different
    exact confined.kept fun same => different (URL.filePath_inj.mp same)

/-- A URL without a path. -/
def hostURL : URL := ⟨some "https", some "a.example", "", none⟩

/-- The download folder with the file of another URL. -/
def storedFiles : FileSystem where
  nodes path :=
    if path = ["Documents", "aaNetworking", "b.pdf"] then some (.file [1])
    else if path <+: ["Documents", "aaNetworking"] then some .directory else none

/-- Deleting the file of a URL without a path removes the file of another URL. -/
theorem host_deletion_removes_folder :
    ¬ ∀ (url : URL) (files : FileSystem),
      files.RemovesAtMost (url.deleteOfflineFile files (some "aaNetworking") .succeeds).2
        (url.filePath (some "aaNetworking")) := by
  intro confined
  rcases confined hostURL storedFiles ["Documents", "aaNetworking", "b.pdf"] with kept | ⟨same, _⟩
  · revert kept
    decide
  · revert same
    decide

/-- An escaped slash leads out of the folder, to a file that no component of it names. -/
example : let url : URL := ⟨some "https", some "a.example", "/x/..%2Fsecret", none⟩
    url.lastPathComponent = "../secret" ∧
      (url.offlineFileDestination (some "aaNetworking")).resolved = ["Documents", "secret"] := by
  decide

/-- The URL of a file that is stored. -/
def storedURL : URL := ⟨some "https", some "a.example", "/files/b.pdf", none⟩

/-- The stored file is removed as a whole, and nothing else is, whatever comes of it. -/
theorem deletion_removesAtMost_iff_stored :
    ∀ removal next, step (initial storedFiles)
        (.delete (some storedURL) (some "aaNetworking") removal) = some next →
      storedFiles.RemovesAtMost next.files ["Documents", "aaNetworking", "b.pdf"] := by
  refine ((deletion_removesAtMost_iff storedURL (some "aaNetworking")).2.1
    (initial storedFiles) (fun removal => .delete (some storedURL) (some "aaNetworking") removal)
      fun _ => .delete).mpr (Or.inr ⟨by decide, fun path below different => ?_⟩)
  have deeper : ¬ path <+: ["Documents", "aaNetworking"] := by
    intro above
    exact absurd (below.length_le.trans above.length_le) (by decide)
  have other : path ≠ ["Documents", "aaNetworking", "b.pdf"] := different
  change (if path = ["Documents", "aaNetworking", "b.pdf"] then _ else _) = none
  rw [if_neg other, if_neg deeper]

end AwesomeDownload

end AwesomeNetwork
