import AwesomeNetwork.Downloading.FileFrame

/-! # What stored files hold

A move stores the whole of what a finished transfer has brought, and only where nothing
is. So every file was there from the beginning or is one transfer as a whole, and it stays
until something at or above it is deleted, whatever else is going on.
-/

namespace AwesomeNetwork

namespace AwesomeDownload

variable {downloads next : AwesomeDownload} {label : Label} {name : Nat} {path : FilePath}
  {contents : Data}

/-- A transfer that brought these contents was moved to the path. -/
def MovedTo (downloads : AwesomeDownload) (path : FilePath) (contents : Data) : Prop :=
  ∃ name transfer destination, downloads.transfers.get? name = some transfer ∧
    transfer.status.handling = true ∧ transfer.bytes = contents ∧
    FileMove.mk name destination true ∈ downloads.moves ∧ destination.resolved = path

/-- The step deletes nothing at or above the path. -/
def DeletesElsewhere (path : FilePath) (downloads : AwesomeDownload) (label : Label) : Prop :=
  ∀ url folder removal, Deletes downloads url folder removal label →
    ¬ (url.offlineFileDestination folder).resolved <+: path

/-- A transfer keeps its bytes once the delegate handles it. -/
theorem TransferMoves.bytes_eq {before after : Transfer}
    (moves : TransferMoves downloads label name before after)
    (handling : before.status.handling = true) :
    after.status.handling = true ∧ after.bytes = before.bytes := by
  cases moves with
  | stay => exact ⟨handling, rfl⟩
  | cancel =>
      unfold Transfer.cancel
      split
      · next early => rcases early with early | early <;> rw [early] at handling <;> cases handling
      · exact ⟨handling, rfl⟩
  | resume =>
      unfold Transfer.resume
      split
      · next early =>
          rw [early] at handling
          cases handling
      · exact ⟨handling, rfl⟩
  | finish bytes finishes running | fail fails running =>
      rw [running] at handling
      cases handling
  | handle goesThrough status effect delivers handles =>
      refine ⟨?_, rfl⟩
      generalize before.status = current at handles handling
      cases handles <;> rfl

/-- A move that was made has been made for good. -/
theorem MovedTo.step (moved : downloads.MovedTo path contents)
    (taken : step downloads label = some next) : next.MovedTo path contents := by
  obtain ⟨name, transfer, destination, present, handling, bytes, logged, resolved⟩ := moved
  obtain ⟨after, found, moves⟩ := step_transfer taken present
  obtain ⟨handling', bytes'⟩ := moves.bytes_eq handling
  refine ⟨name, after, destination, found, handling', bytes'.trans bytes, ?_, resolved⟩
  rcases step_moves taken with same | ⟨_, _, _, _, _, _, _, _, _, grown⟩
  · rw [same]
    exact logged
  · rw [grown]
    exact List.mem_append_left _ logged

/-- A step leaves a file unless it deletes something at or above it. -/
theorem file_kept_step (taken : step downloads label = some next)
    (elsewhere : downloads.DeletesElsewhere path label)
    (file : downloads.files.nodes path = some (.file contents)) :
    next.files.nodes path = some (.file contents) := by
  have moved := fileStep taken
  generalize next.files = files at moved
  cases moved with
  | same => exact file
  | delete _ url folder removal deletes =>
      exact (URL.nodes_deleteOfflineFile_of_outside removal
        (elsewhere url folder removal deletes)).trans file
  | createFolder => exact (FileSystem.file_createDirectory_iff ..).mpr file
  | move => exact URL.file_moveOfflineFile_iff.mpr (Or.inl file)

/-- A new file is one that is moved, and the move is logged. -/
theorem file_moved_step (taken : step downloads label = some next)
    (file : next.files.nodes path = some (.file contents)) :
    downloads.files.nodes path = some (.file contents) ∨ next.MovedTo path contents := by
  rcases new_file_step taken file with
    old | ⟨name, goesThrough, transfer, url, rfl, present, moving, stored, same, whole⟩
  · exact Or.inl old
  · right
    rw [step_deliver_eq present] at taken
    unfold deliver at taken
    rw [moving] at taken
    cases taken
    have logged : FileMove.mk name (url.offlineFileDestination downloads.downloadFolder) true ∈
        [FileMove.mk name (url.offlineFileDestination downloads.downloadFolder)
          (URL.moveOfflineFile transfer.bytes
            (url.offlineFileDestination downloads.downloadFolder) downloads.files
              goesThrough).1] := by
      rw [stored]
      exact List.mem_singleton_self _
    exact ⟨name, _, _, (get?_setStatus ..).trans ((if_pos rfl).trans
      (congrArg (Option.map _) present)), rfl, whole, List.mem_append_right _ logged, same.symm⟩

variable {files : FileSystem} {labels later : List Label} {middle target : AwesomeDownload}

/-- **What stored files hold.** In every run, overlapping downloads included, a file was
there at the beginning or holds the whole of one transfer that was moved to its place; and
from then on it stays as it is until something at or above it is deleted. -/
theorem stored_file_whole (begins : Transition.Run step (initial files) labels middle)
    (continues : Transition.Run step middle later target)
    (present : middle.files.nodes path = some (.file contents)) :
    (files.nodes path = some (.file contents) ∨ middle.MovedTo path contents) ∧
      (Transition.Meets step (DeletesElsewhere path) middle later →
        target.files.nodes path = some (.file contents)) := by
  constructor
  · have whole : middle.files.nodes path = some (.file contents) →
        files.nodes path = some (.file contents) ∨ middle.MovedTo path contents := by
      apply begins.preserves _ Or.inl
      intro downloads label next whole taken file
      rcases file_moved_step taken file with old | moved
      · exact (whole old).imp_right fun moved => moved.step taken
      · exact Or.inr moved
    exact whole present
  · intro elsewhere
    exact continues.preserves_of_meets elsewhere
      (fun _ _ _ file met taken => file_kept_step taken met file) present

/-- A download that stores its file. -/
def storesEpisode : List Label :=
  startDownload 0 (episode "a.mp4") ++ [.finish 0 [1]] ++ handleFinish 0

/-- The downloads after `storesEpisode`. -/
def afterEpisode : AwesomeDownload :=
  (Transition.execute step (initial .empty) storesEpisode).getD (initial .empty)

/-- A deletion of another file. -/
def deletesOther : Label := .delete (some (episode "b.mp4")) (some "aaNetworking") .succeeds

/-- A stored file outlives the deletion of another one. -/
theorem stored_file_whole_other :
    afterEpisode.MovedTo ["Documents", "aaNetworking", "a.mp4"] [1] ∧
      ∃ target, Transition.Run step afterEpisode [deletesOther] target ∧
        target.files.nodes ["Documents", "aaNetworking", "a.mp4"] = some (.file [1]) := by
  have begins : Transition.Run step (initial .empty) storesEpisode afterEpisode :=
    Transition.run_iff_execute.mpr rfl
  have continues := Transition.run_iff_execute.mpr
    (rfl : Transition.execute step afterEpisode [deletesOther] = some _)
  have present : afterEpisode.files.nodes ["Documents", "aaNetworking", "a.mp4"] =
      some (.file [1]) := by decide
  have whole := stored_file_whole begins continues present
  have absent : FileSystem.empty.nodes ["Documents", "aaNetworking", "a.mp4"] ≠
      some (.file [1]) := by decide
  refine ⟨whole.1.resolve_left absent, _, continues, whole.2 ⟨?_, fun _ _ => trivial⟩⟩
  rintro url folder removal ⟨⟩
  decide

end AwesomeDownload

end AwesomeNetwork
