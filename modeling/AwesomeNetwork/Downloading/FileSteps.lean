import AwesomeNetwork.Downloading.Moves
import AwesomeNetwork.Extensions.FileOperations

/-! # What a step does to the files

A step leaves the files as they are unless it deletes the offline file of a URL or is one of
the two statements of the delegate that create a folder and move a file.
-/

namespace AwesomeNetwork.AwesomeDownload

/-- The step deletes the offline file of the URL: a call of `delete`, or the deletion of
a forced download. -/
inductive Deletes (downloads : AwesomeDownload) (url : URL) (folder : Option String)
    (removal : Removal) : Label → Prop
  | delete : Deletes downloads url folder removal (.delete (some url) folder removal)
  | force (name : Nat) (call : DownloadCall) : downloads.calls.get? name = some call →
      call.stage = .deleting → call.url = some url → call.folder = folder →
      Deletes downloads url folder removal (.advance name removal)

/-- The files after a step. -/
inductive FileStep (downloads : AwesomeDownload) : Label → FileSystem → Prop
  | same (label : Label) : FileStep downloads label downloads.files
  | delete (label : Label) (url : URL) (folder : Option String) (removal : Removal) :
      Deletes downloads url folder removal label →
      FileStep downloads label (url.deleteOfflineFile downloads.files folder removal).2
  | createFolder (name : Nat) (goesThrough : Bool) (transfer : Transfer) (url : URL)
      (folder : String) : downloads.transfers.get? name = some transfer →
      transfer.status = .creatingFolder url → downloads.downloadFolder = some folder →
      FileStep downloads (.deliver name goesThrough)
        (URL.createFolder (URL.destination folder) downloads.files)
  | move (name : Nat) (goesThrough : Bool) (transfer : Transfer) (url : URL) :
      downloads.transfers.get? name = some transfer → transfer.status = .moving url →
      FileStep downloads (.deliver name goesThrough)
        (URL.moveOfflineFile transfer.bytes
          (url.offlineFileDestination downloads.downloadFolder) downloads.files goesThrough).2

variable {downloads next : AwesomeDownload} {label : Label} {name : Nat} {call : DownloadCall}
  {transfer : Transfer} {path : FilePath} {contents : Data}

theorem files_cancelTask (downloads : AwesomeDownload) :
    downloads.cancelTask.files = downloads.files := by
  unfold cancelTask
  split <;> rfl

theorem files_invalidateAndCancel (downloads : AwesomeDownload) :
    downloads.invalidateAndCancel.files = downloads.files := by
  unfold invalidateAndCancel
  split <;> rfl

theorem files_finishTasksAndInvalidate (downloads : AwesomeDownload) :
    downloads.finishTasksAndInvalidate.files = downloads.files := by
  unfold finishTasksAndInvalidate
  split <;> rfl

theorem files_runProgress (downloads : AwesomeDownload) (progress : DownloadProgress) :
    (downloads.runProgress progress).files = downloads.files := by
  unfold runProgress
  split <;> rfl

theorem files_runDownloaded (downloads : AwesomeDownload) (transfer : Nat) (success : Bool) :
    (downloads.runDownloaded transfer success).files = downloads.files := by
  unfold runDownloaded
  split <;> rfl

/-- The statements of a call that write leave the files. -/
theorem Writes.files {stage stage' : DownloadStage} {effect : AwesomeDownload}
    (writes : Writes downloads name call stage stage' effect) :
    effect.files = downloads.files := by
  cases writes with
  | cancelTask => exact files_cancelTask downloads
  | cancelSession => exact files_invalidateAndCancel downloads
  | _ => rfl

/-- A step that leaves the files. -/
theorem FileStep.of_eq {files : FileSystem} (same : files = downloads.files) :
    FileStep downloads label files :=
  same ▸ .same label

/-- A statement of a call changes the files by its deletion only. -/
theorem fileStep_advance {removal : Removal} (present : downloads.calls.get? name = some call)
    (taken : downloads.advance name call removal = some next) :
    FileStep downloads (.advance name removal) next.files := by
  by_cases deleting : call.stage = .deleting
  · unfold advance at taken
    rw [deleting] at taken
    dsimp only at taken
    split at taken
    · cases taken
    · next url requested =>
        cases taken
        exact .delete _ url call.folder removal (.force name call present deleting requested rfl)
  · rcases advance_cases taken with ⟨files, changed, checks, rfl⟩ | ⟨stage, effect, writes, rfl⟩
    · cases checks with
      | deleted files reached => exact (deleting reached).elim
      | _ => exact .same _
    · exact .of_eq writes.files

/-- A statement of the delegate changes the files by its folder or its move only. -/
theorem fileStep_deliver {goesThrough : Bool}
    (present : downloads.transfers.get? name = some transfer)
    (taken : downloads.deliver name transfer goesThrough = some next) :
    FileStep downloads (.deliver name goesThrough) next.files := by
  unfold deliver at taken
  split at taken
  · cases taken
    exact .of_eq (files_finishTasksAndInvalidate downloads)
  · cases taken
    exact .same _
  · cases taken
    exact .of_eq (files_cancelTask downloads)
  · cases taken
    exact .same _
  · split at taken <;> cases taken <;> exact .same _
  · next url creating =>
      split at taken
      · cases taken
        exact .same _
      · next folder written =>
          cases taken
          cases goesThrough with
          | false => exact .same _
          | true => exact .createFolder name true transfer url folder present creating written
  · next url moving =>
      cases taken
      exact .move name goesThrough transfer url present moving
  · cases taken
    exact .same _
  · cases taken

/-- What a step does to the files. -/
theorem fileStep (taken : step downloads label = some next) :
    FileStep downloads label next.files := by
  cases label with
  | advance name removal =>
      obtain ⟨call, present, advanced⟩ := Option.bind_eq_some_iff.mp taken
      exact fileStep_advance present advanced
  | deliver name goesThrough =>
      obtain ⟨transfer, present, delivered⟩ := Option.bind_eq_some_iff.mp taken
      exact fileStep_deliver present delivered
  | delete url folder removal =>
      cases url with
      | none =>
          cases taken
          exact .same _
      | some url =>
          cases taken
          exact .delete _ url folder removal .delete
  | download url folder force | cancelDownload =>
      cases taken
      exact .same _
  | advanceCancel cancel =>
      cases stepCases taken with
      | cancelTask => exact .of_eq (files_cancelTask downloads)
      | cancelSession => exact .of_eq (files_invalidateAndCancel downloads)
  | finish name bytes | fail name | writeData name progress =>
      obtain ⟨transfer, _, _, rfl⟩ := Table.when_eq_some.mp taken
      exact .same _
  | runMain =>
      cases stepCases taken with
      | runProgress progress rest queued => exact .of_eq (files_runProgress _ progress)
      | runDownloaded transfer success rest queued =>
          exact .of_eq (files_runDownloaded _ transfer success)

/-- A step that deletes is enabled, and deletes. -/
theorem exists_of_deletes {url : URL} {folder : Option String} {removal : Removal}
    (deletes : Deletes downloads url folder removal label) :
    ∃ next, step downloads label = some next ∧
      next.files = (url.deleteOfflineFile downloads.files folder removal).2 := by
  cases deletes with
  | delete => exact ⟨_, rfl, rfl⟩
  | force name call present deleting requested inside =>
      have advanced : downloads.advance name call removal = some (({ downloads with
          files := (url.deleteOfflineFile downloads.files call.folder removal).2 } :
            AwesomeDownload).setCall name { call with force := false, stage := .checking }) := by
        unfold advance
        rw [deleting]
        dsimp only
        rw [requested]
      refine ⟨_, Option.bind_eq_some_iff.mpr ⟨call, present, advanced⟩, ?_⟩
      rw [← inside]
      rfl

/-- The files after a deletion. -/
theorem files_of_deletes {url : URL} {folder : Option String} {removal : Removal}
    (taken : step downloads label = some next)
    (deletes : Deletes downloads url folder removal label) :
    next.files = (url.deleteOfflineFile downloads.files folder removal).2 := by
  obtain ⟨after, reached, files⟩ := exists_of_deletes deletes
  cases Option.some.inj (taken.symm.trans reached)
  exact files

/-- A file that a step brings is the one that the delegate moves for a transfer. -/
theorem new_file_step (taken : step downloads label = some next)
    (file : next.files.nodes path = some (.file contents)) :
    downloads.files.nodes path = some (.file contents) ∨
      ∃ name goesThrough transfer url, label = .deliver name goesThrough ∧
        downloads.transfers.get? name = some transfer ∧ transfer.status = .moving url ∧
        (URL.moveOfflineFile transfer.bytes (url.offlineFileDestination downloads.downloadFolder)
          downloads.files goesThrough).1 = true ∧
        path = (url.offlineFileDestination downloads.downloadFolder).resolved ∧
        transfer.bytes = contents := by
  have moved := fileStep taken
  generalize next.files = files at moved file
  cases moved with
  | same => exact Or.inl file
  | delete _ url folder removal deletes =>
      rcases url.nodes_deleteOfflineFile downloads.files folder removal path with kept | gone
      · exact Or.inl (kept.symm.trans file)
      · cases gone.symm.trans file
  | createFolder => exact Or.inl ((FileSystem.file_createDirectory_iff ..).mp file)
  | move name goesThrough transfer url present moving =>
      rcases URL.file_moveOfflineFile_iff.mp file with old | ⟨stored, same, whole⟩
      · exact Or.inl old
      · exact Or.inr ⟨name, goesThrough, transfer, url, rfl, present, moving, stored, same, whole⟩

end AwesomeNetwork.AwesomeDownload
