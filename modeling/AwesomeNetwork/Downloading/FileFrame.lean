import AwesomeNetwork.Downloading.OfflineFiles

/-! # What the downloads leave alone

However the calls, the transfers and the deletions interleave, the files of the application
that are not at or below a place of a requested URL stay what they are. The only other change
is that a folder that was missing is created.
-/

namespace AwesomeNetwork

namespace AwesomeDownload

/-- The URLs and the folders that the downloads and the deletions are for. -/
def Label.IsFor (urls : URL → Prop) (folders : Option String → Prop) : Label → Prop
  | .download url folder _ | .delete url folder _ =>
      (∀ requested, url = some requested → urls requested) ∧ folders folder
  | _ => True

/-- The path is neither at nor below the place of a URL in a folder, whichever of the two
were asked for together. -/
def Outside (urls : URL → Prop) (folders : Option String → Prop) (path : FilePath) : Prop :=
  ∀ url folder, urls url → folders folder →
    ¬ (url.offlineFileDestination folder).resolved <+: path

/-- The directories on the way to a folder. -/
def OnTheWay (folders : Option String → Prop) (path : FilePath) : Prop :=
  ∃ folder, folders (some folder) ∧ path <+: (URL.destination folder).resolved

variable {downloads next : AwesomeDownload} {label : Label} {path : FilePath}
  {urls : URL → Prop} {folders : Option String → Prop}

/-- A step for these requests asks for nothing else. -/
theorem Label.IsFor.requests (isFor : label.IsFor urls folders) :
    label.Requests urls folders := by
  cases label with
  | download => exact isFor
  | _ => trivial

/-- What a step that is for the given URLs and folders deletes is at the place of one. -/
theorem Label.IsFor.deletes {url : URL} {folder : Option String} {removal : Removal}
    (isFor : label.IsFor urls folders) (requested : Requested urls folders downloads)
    (deletes : Deletes downloads url folder removal label) : urls url ∧ folders folder := by
  cases deletes with
  | delete => exact ⟨isFor.1 url rfl, isFor.2⟩
  | force name call present deleting asked inside =>
      obtain ⟨own, within, _⟩ := requested.calls name call present
      exact ⟨own url asked, inside ▸ within⟩

/-- A step for the given URLs and folders leaves a path outside their places, or creates it as
a folder. -/
theorem keptOrCreated_step (requested : Requested urls folders downloads)
    (outside : Outside urls folders path) (isFor : label.IsFor urls folders)
    (taken : step downloads label = some next) :
    downloads.files.KeptOrCreated next.files (OnTheWay folders) path := by
  have moved := fileStep taken
  generalize next.files = files at moved
  cases moved with
  | same => exact Or.inl rfl
  | delete _ url folder removal deletes =>
      obtain ⟨asked, inside⟩ := isFor.deletes requested deletes
      exact Or.inl (URL.nodes_deleteOfflineFile_of_outside removal
        (outside url folder asked inside))
  | createFolder name goesThrough transfer url folder present creating written =>
      obtain ⟨_, begun⟩ := requested.transfers name transfer present url (Or.inl creating)
      have asked := requested.folder begun
      rw [written] at asked
      rcases downloads.files.keptOrCreated_createDirectory (URL.destination folder) path with
        kept | ⟨missing, created, above⟩
      · exact Or.inl kept
      · exact Or.inr ⟨missing, created, folder, asked, above⟩
  | move name goesThrough transfer url present moving =>
      obtain ⟨asked, begun⟩ := requested.transfers name transfer present url (Or.inr moving)
      refine Or.inl (URL.nodes_moveOfflineFile fun same => ?_)
      exact outside url _ asked (requested.folder begun) (same ▸ List.prefix_refl _)

variable {files : FileSystem} {labels : List Label} {target : AwesomeDownload}

/-- **What is left alone.** In every run of downloads and deletions of the given URLs in the
given folders, overlapping or not, a path outside all their places is as at the beginning,
or it was missing and is a directory now, on the way to one of the folders. -/
theorem files_outside_kept (run : Transition.Run step (initial files) labels target)
    (isFor : ∀ label ∈ labels, label.IsFor urls folders) (outside : Outside urls folders path) :
    files.KeptOrCreated target.files (OnTheWay folders) path := by
  have meets : Transition.Meets step (fun _ label => label.IsFor urls folders) (initial files)
      labels :=
    Transition.Meets.of_forall_mem (fun label member _ => isFor label member) _
  have kept : Requested urls folders target ∧
      files.KeptOrCreated target.files (OnTheWay folders) path := by
    apply run.preserves_of_meets meets _ ⟨requested_initial files, Or.inl rfl⟩
    rintro downloads label next ⟨requested, kept⟩ asks taken
    exact ⟨requested_step requested asks.requests taken,
      kept.trans (keptOrCreated_step requested outside asks taken)⟩
  exact kept.2

/-- A download and the folder that it creates. -/
theorem files_outside_kept_folder : ∃ target,
    Transition.Run step (initial .empty)
        (startDownload 0 (episode "a.mp4") ++ [.finish 0 [1]] ++ handleFinish 0) target ∧
      FileSystem.KeptOrCreated .empty target.files (OnTheWay (· = some "aaNetworking"))
        ["Documents", "aaNetworking"] := by
  have run := Transition.run_iff_execute.mpr (rfl : Transition.execute step (initial .empty)
    (startDownload 0 (episode "a.mp4") ++ [.finish 0 [1]] ++ handleFinish 0) = some _)
  have isFor : ∀ label ∈ startDownload 0 (episode "a.mp4") ++ [.finish 0 [1]] ++ handleFinish 0,
      label.IsFor (· = episode "a.mp4") (· = some "aaNetworking") := by
    intro label member
    simp only [startDownload, handleFinish, List.mem_append, List.mem_cons, List.mem_replicate,
      List.not_mem_nil, or_false] at member
    rcases member with ((rfl | ⟨_, rfl⟩) | rfl) | ⟨_, rfl⟩
    · exact ⟨fun _ same => (Option.some.inj same).symm, rfl⟩
    all_goals trivial
  refine ⟨_, run, files_outside_kept run isFor ?_⟩
  rintro url folder rfl rfl
  decide

end AwesomeDownload

end AwesomeNetwork
