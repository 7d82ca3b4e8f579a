import AwesomeNetwork.Downloading.Attribution
import AwesomeNetwork.Downloading.Deletion

/-! # Which downloads make a URL count as downloaded

A download puts a file at one place and may create the directories above it. A URL that
is not downloaded stays absent as long as its place is none of these, which inside one
folder means that no downloaded URL has its last path component.
-/

namespace AwesomeNetwork

namespace AwesomeDownload

variable {downloads next : AwesomeDownload} {label : Label} {name : Nat} {path : FilePath}

/-- A step lets a file appear only where the delegate creates a folder or moves one. -/
theorem step_nodes (absent : downloads.files.nodes path = none)
    (taken : step downloads label = some next) :
    next.files.nodes path = none ∨
      (∃ name goesThrough transfer url folder, label = .deliver name goesThrough ∧
        downloads.transfers.get? name = some transfer ∧ transfer.status = .creatingFolder url ∧
        downloads.downloadFolder = some folder ∧ path <+: (URL.destination folder).resolved) ∨
      ∃ name goesThrough transfer url, label = .deliver name goesThrough ∧
        downloads.transfers.get? name = some transfer ∧ transfer.status = .moving url ∧
        path = (url.offlineFileDestination downloads.downloadFolder).resolved := by
  have moved := fileStep taken
  generalize next.files = files at moved
  cases moved with
  | same => exact Or.inl absent
  | delete _ url folder removal deletes =>
      rcases url.nodes_deleteOfflineFile downloads.files folder removal path with kept | gone
      · exact Or.inl (kept.trans absent)
      · exact Or.inl gone
  | createFolder name goesThrough transfer url folder present creating written =>
      by_cases above : path <+: (URL.destination folder).resolved
      · exact Or.inr (Or.inl ⟨name, goesThrough, transfer, url, folder, rfl, present, creating,
          written, above⟩)
      · exact Or.inl ((FileSystem.nodes_createDirectory _ _ above).trans absent)
  | move name goesThrough transfer url present moving =>
      by_cases same : path = (url.offlineFileDestination downloads.downloadFolder).resolved
      · exact Or.inr (Or.inr ⟨name, goesThrough, transfer, url, rfl, present, moving, same⟩)
      · exact Or.inl ((URL.nodes_moveOfflineFile same).trans absent)

/-- The downloads asked for are of the given URLs, into the given folders. -/
def Label.Requests (urls : URL → Prop) (folders : Option String → Prop) : Label → Prop
  | .download url folder _ => (∀ requested, url = some requested → urls requested) ∧ folders folder
  | _ => True

/-- The shared fields and the transfers are those of requested downloads. -/
structure Requested (urls : URL → Prop) (folders : Option String → Prop)
    (downloads : AwesomeDownload) : Prop where
  calls : downloads.calls.All fun _ call =>
    (∀ url, call.url = some url → urls url) ∧ folders call.folder ∧
      (call.stage.writing = true → downloads.starts ≠ [])
  url : ∀ url, downloads.downloadUrl = some url → urls url ∧ downloads.starts ≠ []
  folder : downloads.starts ≠ [] → folders downloads.downloadFolder
  transfers : downloads.transfers.All fun _ transfer => ∀ url,
    transfer.status = .creatingFolder url ∨ transfer.status = .moving url →
      urls url ∧ downloads.starts ≠ []

variable {urls : URL → Prop} {folders : Option String → Prop}

/-- Nothing was requested at first. -/
theorem requested_initial (files : FileSystem) : Requested urls folders (initial files) where
  calls := Table.All.empty
  url := nofun
  folder begun := (begun rfl).elim
  transfers := Table.All.empty

/-- Once a call has begun to write, one has for good. -/
theorem starts_step (begun : downloads.starts ≠ []) (taken : step downloads label = some next) :
    next.starts ≠ [] := by
  rcases step_starts taken with same | ⟨caller, removal, call, rfl, found, begins⟩
  · rw [same]
    exact begun
  · rw [step_writingFolder taken found begins]
    exact List.append_ne_nil_of_right_ne_nil _ (List.cons_ne_nil _ _)

/-- A call that is writing has begun. -/
theorem writing_step (requested : Requested urls folders downloads)
    (taken : step downloads label = some next) {call : DownloadCall}
    (present : next.calls.get? name = some call) (writing : call.stage.writing = true) :
    next.starts ≠ [] := by
  rcases step_call_inv taken present with ⟨before, found, moves⟩ | ⟨_, _, _, _, _, rfl⟩
  · have begun := (requested.calls name before found).2.2
    cases moves with
    | stay => exact starts_step (begun writing) taken
    | check removal files changed advances checks => cases checks <;> cases writing
    | write removal stage effect advances writes =>
        by_cases begins : before.stage = .writingFolder
        · subst advances
          rw [step_writingFolder taken found begins]
          exact List.append_ne_nil_of_right_ne_nil _ (List.cons_ne_nil _ _)
        · exact starts_step (begun (writes.writing begins)) taken
    | answer => exact starts_step (begun writing) taken
  · cases writing

/-- The URL that the shared object holds was requested. -/
theorem url_step (requested : Requested urls folders downloads)
    (taken : step downloads label = some next) {url : URL} (read : next.downloadUrl = some url) :
    urls url ∧ next.starts ≠ [] := by
  have earlier (same : next.downloadUrl = downloads.downloadUrl) :
      urls url ∧ next.starts ≠ [] := by
    obtain ⟨asked, begun⟩ := requested.url url (same.symm.trans read)
    exact ⟨asked, starts_step begun taken⟩
  rcases step_fields taken with
    ⟨same, _⟩ | ⟨caller, removal, call, stage, effect, rfl, found, writes, rfl⟩
  · exact earlier same.url
  · obtain ⟨asked, _, begun⟩ := requested.calls caller call found
    generalize reached : call.stage = current at writes
    cases writes with
    | url => exact ⟨asked url read, starts_step (begun (reached ▸ rfl)) taken⟩
    | cancelTask => exact earlier (cancelTask_fields downloads).url
    | cancelSession => exact earlier (invalidateAndCancel_fields downloads).url
    | _ => exact earlier rfl

/-- The folder that the shared object holds was requested. -/
theorem folder_step (requested : Requested urls folders downloads)
    (taken : step downloads label = some next) (begun : next.starts ≠ []) :
    folders next.downloadFolder := by
  have earlier (starts : next.starts = downloads.starts)
      (same : next.downloadFolder = downloads.downloadFolder) : folders next.downloadFolder := by
    rw [same]
    exact requested.folder (starts ▸ begun)
  rcases step_fields taken with
    ⟨same, _⟩ | ⟨caller, removal, call, stage, effect, rfl, found, writes, rfl⟩
  · exact earlier same.starts same.folder
  · generalize reached : call.stage = current at writes
    cases writes with
    | folder => exact (requested.calls caller call found).2.1
    | cancelTask =>
        have fields := cancelTask_fields downloads
        exact earlier fields.starts fields.folder
    | cancelSession =>
        have fields := invalidateAndCancel_fields downloads
        exact earlier fields.starts fields.folder
    | _ => exact earlier rfl rfl

/-- Every step keeps what is stored within what was requested. -/
theorem requested_step (requested : Requested urls folders downloads)
    (asks : label.Requests urls folders) (taken : step downloads label = some next) :
    Requested urls folders next where
  calls name call present := by
    refine ⟨?_, ?_, writing_step requested taken present⟩
    all_goals
      rcases step_call_inv taken present with ⟨before, found, moves⟩ | ⟨_, _, _, rfl, _, rfl⟩
    · rw [moves.url_folder_eq.1]
      exact (requested.calls name before found).1
    · exact asks.1
    · rw [moves.url_folder_eq.2]
      exact (requested.calls name before found).2.1
    · exact asks.2
  url _ read := url_step requested taken read
  folder begun := folder_step requested taken begun
  transfers name transfer present url reading := by
    rcases step_transfer_inv taken present with
      ⟨before, found, moves⟩ | ⟨_, _, _, _, _, _, _, _, rfl⟩
    · have earlier (reached : before.status = .creatingFolder url ∨
          before.status = .moving url) : urls url ∧ next.starts ≠ [] := by
        obtain ⟨asked, begun⟩ := requested.transfers name before found url reached
        exact ⟨asked, starts_step begun taken⟩
      have handling : transfer.status.handling = true := by
        rcases reading with reading | reading <;> rw [reading] <;> rfl
      rcases moves.handling handling with same | ⟨goesThrough, effect, rfl, handles⟩
      · rw [← same] at reading
        exact earlier reading
      · generalize reached : before.status = current at handles earlier
        rcases reading with reading | reading
        · rw [reading] at handles
          cases handles with
          | readUrl _ read =>
              obtain ⟨asked, begun⟩ := requested.url url read
              exact ⟨asked, starts_step begun taken⟩
        · rw [reading] at handles
          cases handles with
          | createFolder _ files => exact earlier (Or.inl rfl)
    · rcases reading with reading | reading <;> cases reading

/-- The path is neither a place of a requested download nor a folder above it. -/
def Spared (requests : URL → Option String → Prop) (path : FilePath) : Prop :=
  ∀ url folder, requests url folder → ¬ path <+: (URL.folderDirectory folder).resolved ∧
    path ≠ (url.offlineFileDestination folder).resolved

/-- Requested downloads leave a path absent that is spared whichever URL and folder of theirs
come together. -/
theorem absent_step (requested : Requested urls folders downloads)
    (spared : Spared (fun url folder => urls url ∧ folders folder) path)
    (absent : downloads.files.nodes path = none) (taken : step downloads label = some next) :
    next.files.nodes path = none := by
  rcases step_nodes absent taken with
    still | ⟨name, _, transfer, url, folder, _, present, creating, written, above⟩ |
      ⟨name, _, transfer, url, _, present, moving, same⟩
  · exact still
  · obtain ⟨asked, begun⟩ := requested.transfers name transfer present url (Or.inl creating)
    have inside := requested.folder begun
    rw [written] at inside
    exact ((spared url (some folder) ⟨asked, inside⟩).1 above).elim
  · obtain ⟨asked, begun⟩ := requested.transfers name transfer present url (Or.inr moving)
    exact ((spared url _ ⟨asked, requested.folder begun⟩).2 same).elim

/-- Each download asked for is among the given ones, by its URL and its folder. -/
def Label.Asks (requests : URL → Option String → Prop) : Label → Prop
  | .download url folder _ => ∀ asked, url = some asked → requests asked folder
  | _ => True

/-- The calls that may write ask for given downloads, and the folder of the shared object is
that of one of them. -/
structure Asked (requests : URL → Option String → Prop) (downloads : AwesomeDownload) : Prop where
  calls : downloads.calls.All fun _ call =>
    ∀ url, call.url = some url → requests url call.folder
  named : downloads.calls.All fun _ call => call.stage = .writingFolder → call.url ≠ none
  folder : ∀ folder, downloads.downloadFolder = some folder → ∃ url, requests url (some folder)

variable {requests : URL → Option String → Prop}

/-- Nothing was asked for at first. -/
theorem asked_initial (files : FileSystem) : Asked requests (initial files) where
  calls := Table.All.empty
  named := Table.All.empty
  folder := nofun

/-- Every step keeps the places within the pairs that were asked for. -/
theorem asked_step (asked : Asked requests downloads) (asks : label.Asks requests)
    (taken : step downloads label = some next) : Asked requests next where
  calls name call present url given := by
    rcases step_call_inv taken present with ⟨before, found, moves⟩ | ⟨_, _, _, rfl, _, rfl⟩
    · obtain ⟨sameUrl, sameFolder⟩ := moves.url_folder_eq
      rw [sameFolder]
      exact asked.calls name before found url (sameUrl.symm.trans given)
    · exact asks url given
  named name call present writing := by
    rcases step_call_inv taken present with ⟨before, found, moves⟩ | ⟨_, _, _, _, _, rfl⟩
    · cases moves with
      | stay => exact asked.named name _ found writing
      | check removal files changed advances checks =>
          cases checks with
          | toWrite url checking given =>
              intro absent
              cases given.symm.trans absent
          | _ => cases writing
      | write removal stage effect advances writes =>
          have begins : stage = .writingFolder := writing
          subst begins
          generalize before.stage = current at writes
          cases writes
      | answer => exact asked.named name before found writing
    · cases writing
  folder folder written := by
    rcases step_fields taken with
      ⟨same, _⟩ | ⟨caller, removal, call, stage, effect, rfl, found, writes, rfl⟩
    · exact asked.folder folder (same.folder.symm.trans written)
    · generalize reached : call.stage = current at writes
      cases writes with
      | folder =>
          obtain ⟨url, given⟩ :=
            Option.ne_none_iff_exists'.mp (asked.named caller call found reached)
          have inside : call.folder = some folder := written
          exact ⟨url, inside ▸ asked.calls caller call found url given⟩
      | cancelTask =>
          exact asked.folder folder ((cancelTask_fields downloads).folder.symm.trans written)
      | cancelSession =>
          exact asked.folder folder
            ((invalidateAndCancel_fields downloads).folder.symm.trans written)
      | _ => exact asked.folder folder written

/-- Downloads that read what they wrote leave a path absent that each of them spares. -/
theorem absent_step_of_kept (asked : Asked requests downloads) (placing : Placing downloads)
    (kept : FieldsKept downloads label) (spared : Spared requests path)
    (absent : downloads.files.nodes path = none) (taken : step downloads label = some next) :
    next.files.nodes path = none := by
  rcases step_nodes absent taken with
    still | ⟨_, _, _, _, folder, _, _, _, written, above⟩ |
      ⟨name, _, transfer, url, rfl, present, moving, same⟩
  · exact still
  · obtain ⟨url, given⟩ := asked.folder folder written
    exact ((spared url (some folder) given).1 above).elim
  · obtain ⟨call, owner, reads⟩ := placing.owned name transfer present
    have sameFolder := kept transfer present call owner
    rw [moving] at sameFolder
    have given := asked.calls transfer.call call owner url (reads url (Or.inr moving))
    exact ((spared url call.folder given).2 (sameFolder ▸ same)).elim

/-- A call of `download`, up to its return. -/
def callDownload (name : Nat) (url : URL) (folder : Option String) (force : Bool) : List Label :=
  .download (some url) folder force :: List.replicate 10 (.advance name .succeeds)

/-- The call has started a transfer, and its completion has not been called. -/
def StartedTransfer (downloads : AwesomeDownload) (name transfer : Nat) : Prop :=
  (∃ call, downloads.calls.get? name = some call ∧ call.stage = .returned ∧ call.answers = []) ∧
    ∃ started, downloads.transfers.get? transfer = some started ∧ started.call = name ∧
      started.status = .running

/-- The URL counts as one that has not been downloaded into the folder. -/
structure CountsAbsent (url : URL) (folder : Option String) (downloads : AwesomeDownload) :
    Prop where
  missing : url.offlineFileExists downloads.files folder = false
  state : downloadState (some url) downloads.files folder = .none
  original : url.offlineURLIfAvailable downloads.files folder = .inl url
  starts : ∀ force, ∃ target,
    Transition.Run step downloads (callDownload downloads.calls.size url folder force) target ∧
      target.StartedTransfer downloads.calls.size downloads.transfers.size

/-- A statement of a call that makes no transfer. -/
theorem step_advance {call : DownloadCall} {effect : AwesomeDownload} {stage : DownloadStage}
    (present : downloads.calls.get? name = some call)
    (advanced : downloads.advance name call .succeeds =
      some (effect.setCall name (call.moveTo stage)))
    (calls : effect.calls = downloads.calls)
    (transfers : effect.transfers.size = downloads.transfers.size) :
    ∃ next, step downloads (.advance name .succeeds) = some next ∧
      next.calls.get? name = some (call.moveTo stage) ∧
      next.transfers.size = downloads.transfers.size := by
  refine ⟨_, Option.bind_eq_some_iff.mpr ⟨call, present, advanced⟩, ?_, transfers⟩
  rw [← calls] at present
  exact get?_setCall_self present _

/-- A call makes its session. -/
theorem step_makingSession {call : DownloadCall}
    (present : downloads.calls.get? name = some call) (making : call.stage = .makingSession) :
    ∃ next, step downloads (.advance name .succeeds) = some next ∧
      next.calls.get? name = some (call.moveTo .makingTask) ∧
      next.session = some downloads.sessions.size ∧
      next.sessions.get? downloads.sessions.size = some false ∧
      next.transfers = downloads.transfers := by
  refine ⟨({ downloads with
    session := some downloads.sessions.size
    sessions := downloads.sessions.push false } : AwesomeDownload).setCall name
      (call.moveTo .makingTask), ?_, get?_setCall_self present _, rfl,
    Table.get?_push_self .., rfl⟩
  refine Option.bind_eq_some_iff.mpr ⟨call, present, ?_⟩
  unfold advance
  rw [making]

/-- A call gets its task from a session that is valid. -/
theorem step_makingTask {call : DownloadCall} {session : Nat}
    (present : downloads.calls.get? name = some call) (making : call.stage = .makingTask)
    (current : downloads.session = some session)
    (valid : downloads.sessions.get? session = some false) :
    ∃ next, step downloads (.advance name .succeeds) = some next ∧
      next.calls.get? name = some (call.moveTo .resuming) ∧
      next.downloadTask = some downloads.transfers.size ∧
      next.transfers = downloads.transfers.push ⟨name, session, [], .suspended⟩ := by
  refine ⟨({ downloads with
    downloadTask := some downloads.transfers.size
    transfers := downloads.transfers.push ⟨name, session, [], .suspended⟩ } :
      AwesomeDownload).setCall name (call.moveTo .resuming), ?_, ?_, rfl, rfl⟩
  · refine Option.bind_eq_some_iff.mpr ⟨call, present, ?_⟩
    unfold advance
    rw [making]
    dsimp only
    rw [current]
    dsimp only
    rw [if_pos valid]
  · exact get?_setCall_self present _

/-- The task that a call has made is resumed, and the call returns. -/
theorem resume_starts {call : DownloadCall} {task : Nat} {made : Transfer}
    (present : downloads.calls.get? name = some call) (resuming : call.stage = .resuming)
    (unanswered : call.answers = []) (current : downloads.downloadTask = some task)
    (found : downloads.transfers.get? task = some made) (own : made.call = name)
    (suspended : made.status = .suspended) :
    ∃ target, step downloads (.advance name .succeeds) = some target ∧
      target.StartedTransfer name task := by
  refine ⟨({ downloads with
    transfers := downloads.transfers.modify task Transfer.resume } :
      AwesomeDownload).setCall name (call.moveTo .returned), ?_,
    ⟨call.moveTo .returned, ?_, rfl, unanswered⟩, made.resume, ?_, ?_, ?_⟩
  · refine Option.bind_eq_some_iff.mpr ⟨call, present, ?_⟩
    unfold advance
    rw [resuming]
    dsimp only
    rw [current]
  · exact get?_setCall_self present _
  · exact (Table.get?_modify_self ..).trans (congrArg (Option.map _) found)
  · unfold Transfer.resume
    split <;> exact own
  · unfold Transfer.resume
    rw [if_pos suspended]

/-- A call makes a session of its own and resumes its task there. -/
theorem session_starts {call : DownloadCall} (making : call.stage = .makingSession)
    (unanswered : call.answers = []) (present : downloads.calls.get? name = some call) :
    ∃ target, Transition.Run step downloads (List.replicate 3 (.advance name .succeeds)) target ∧
      target.StartedTransfer name downloads.transfers.size := by
  obtain ⟨opened, opens, present, current, valid, same⟩ := step_makingSession present making
  obtain ⟨middle, makes, present, task, transfers⟩ := step_makingTask present rfl current valid
  rw [same] at task transfers
  have found : middle.transfers.get? downloads.transfers.size =
      some ⟨name, downloads.sessions.size, [], .suspended⟩ := by
    rw [transfers]
    exact Table.get?_push_self ..
  obtain ⟨target, resumes, started⟩ := resume_starts present rfl unanswered task found rfl rfl
  exact ⟨target, .cons opens (.cons makes (.single resumes)), started⟩

/-- A call that has passed its check starts a transfer. -/
theorem writes_start {url : Option URL} {folder : Option String} {force : Bool}
    (present : downloads.calls.get? name = some ⟨url, folder, force, .writingFolder, []⟩) :
    ∃ target, Transition.Run step downloads (List.replicate 9 (.advance name .succeeds)) target ∧
      target.StartedTransfer name downloads.transfers.size := by
  obtain ⟨_, writesFolder, present, first⟩ := step_advance present rfl rfl rfl
  obtain ⟨_, writesProgress, present, second⟩ := step_advance present rfl rfl rfl
  obtain ⟨_, writesDownloaded, present, third⟩ := step_advance present rfl rfl rfl
  obtain ⟨_, writesUrl, present, fourth⟩ := step_advance present rfl rfl rfl
  obtain ⟨_, cancelsTask, present, fifth⟩ :=
    step_advance present rfl (cancelTask_records _).calls (size_cancelTask _)
  obtain ⟨_, cancelsSession, present, sixth⟩ :=
    step_advance present rfl (invalidateAndCancel_records _).calls (size_invalidateAndCancel _)
  obtain ⟨target, run, started⟩ := session_starts rfl rfl present
  rw [sixth, fifth, fourth, third, second, first] at started
  exact ⟨target, .cons writesFolder (.cons writesProgress (.cons writesDownloaded
    (.cons writesUrl (.cons cancelsTask (.cons cancelsSession run))))), started⟩

/-- A URL whose file is missing counts as absent. -/
theorem countsAbsent_of_missing {url : URL} {folder : Option String}
    (missing : url.offlineFileExists downloads.files folder = false) :
    CountsAbsent url folder downloads where
  missing := missing
  state := by
    unfold downloadState
    dsimp only
    rw [missing]
    rfl
  original := by
    unfold URL.offlineURLIfAvailable
    rw [missing]
    rfl
  starts force := by
    let called : AwesomeDownload :=
      { downloads with calls := downloads.calls.push ⟨some url, folder, force, .checking, []⟩ }
    have present : called.calls.get? downloads.calls.size = some _ := Table.get?_push_self ..
    have checked : called.advance downloads.calls.size ⟨some url, folder, force, .checking, []⟩
        .succeeds = some (called.setCall downloads.calls.size
          (DownloadCall.moveTo ⟨some url, folder, force, .checking, []⟩ .writingFolder)) := by
      unfold advance
      dsimp only
      rw [missing]
      rfl
    obtain ⟨_, checks, present, same⟩ := step_advance present checked rfl rfl
    obtain ⟨target, run, started⟩ := writes_start present
    rw [same] at started
    exact ⟨target, .cons rfl (.cons checks run), started⟩

variable {url : URL} {folder : Option String}

/-- Inside one folder, and for URLs without escaped slashes, the place of a URL is spared
when its last path component names a file and differs from that of every requested URL. -/
theorem spared_same_folder_iff {urls : URL → Prop}
    (single : ∀ requested, urls requested → requested.NamesOneComponent)
    (named : url.HasFileName) :
    Spared (fun requested other => urls requested ∧ other = folder)
        (url.offlineFileDestination folder).resolved ↔
      ∀ requested, urls requested → requested.lastPathComponent ≠ url.lastPathComponent := by
  constructor
  · intro spared requested asked same
    refine (spared requested folder ⟨asked, rfl⟩).2 ?_
    rw [URL.offlineFileDestination_eq, URL.offlineFileDestination_eq, same]
  · rintro apart requested inside ⟨asked, rfl⟩
    rw [URL.resolved_destination named]
    refine ⟨url.filePath_not_prefix _, fun same => ?_⟩
    by_cases other : requested.HasFileName
    · rw [URL.resolved_destination other] at same
      exact apart requested asked (URL.filePath_inj.mp same).symm
    · have above := URL.resolved_destination_of_unnamed (single requested asked) other inside
      rw [← same] at above
      exact url.filePath_not_prefix _ above

/-- In an empty folder no file is there. -/
theorem missing_of_empty {files : FileSystem}
    (empty : files.NothingBelow (URL.folderDirectory folder).resolved)
    (named : url.HasFileName) : url.offlineFileExists files folder = false := by
  rw [URL.offlineFileExists_eq_false_iff, URL.resolved_destination named]
  refine empty _ (List.prefix_append _ _) fun same => ?_
  exact url.filePath_not_prefix folder (same ▸ List.prefix_refl _)

/-- A stored file makes exactly the URLs of its place exist. -/
theorem missing_after_move_iff {files moved : FileSystem} {target : FilePath} {contents : Data}
    {goesThrough : Bool} (missing : url.offlineFileExists files folder = false)
    (stored : URL.moveOfflineFile contents target files goesThrough = (true, moved)) :
    url.offlineFileExists moved folder = false ↔
      (url.offlineFileDestination folder).resolved ≠ target.resolved := by
  rw [URL.offlineFileExists_eq_false_iff] at missing ⊢
  constructor
  · intro absent same
    rw [same, URL.nodes_of_stored stored] at absent
    cases absent
  · intro elsewhere
    have kept : (URL.moveOfflineFile contents target files goesThrough).2.nodes
        (url.offlineFileDestination folder).resolved =
          files.nodes (url.offlineFileDestination folder).resolved :=
      URL.nodes_moveOfflineFile elsewhere
    rw [stored] at kept
    exact kept.trans missing

/-- **Offline files of different URLs.** In an empty folder, a URL whose last path component
names a file is absent. A URL that is absent at first counts as absent throughout every run of
downloads that take turns and each spare its place; when they overlap, every URL of theirs has
to spare it in every folder of theirs. In the folder itself a download of a URL without escaped
slashes spares it when the last path components differ. A stored file makes exactly the URLs
of its place count as downloaded. -/
theorem countsAbsent_of_spared (url : URL) (folder : Option String) (files : FileSystem) :
    (files.NothingBelow (URL.folderDirectory folder).resolved → url.HasFileName →
      url.offlineFileExists files folder = false) ∧
    (url.offlineFileExists files folder = false → ∀ requests,
      Spared requests (url.offlineFileDestination folder).resolved →
      ∀ labels, Transition.Meets step (fun _ label => label.Asks requests) (initial files) labels →
        Transition.Meets step InTurn (initial files) labels →
        Transition.Always step (CountsAbsent url folder) (initial files) labels) ∧
    (url.offlineFileExists files folder = false →
      ∀ (urls : URL → Prop) (folders : Option String → Prop),
      Spared (fun requested other => urls requested ∧ folders other)
        (url.offlineFileDestination folder).resolved →
      ∀ labels, Transition.Meets step (fun _ label => label.Requests urls folders)
          (initial files) labels →
        Transition.Always step (CountsAbsent url folder) (initial files) labels) ∧
    (url.HasFileName → ∀ urls : URL → Prop,
      (∀ requested, urls requested → requested.NamesOneComponent) →
      (Spared (fun requested other => urls requested ∧ other = folder)
          (url.offlineFileDestination folder).resolved ↔
        ∀ requested, urls requested → requested.lastPathComponent ≠ url.lastPathComponent)) ∧
    ∀ (moved : FileSystem) (requested : URL) (other : Option String) (contents : Data)
      (goesThrough : Bool), url.offlineFileExists files folder = false →
      URL.moveOfflineFile contents (requested.offlineFileDestination other) files goesThrough =
        (true, moved) →
      (url.offlineFileExists moved folder = false ↔
        (url.offlineFileDestination folder).resolved ≠
          (requested.offlineFileDestination other).resolved) := by
  refine ⟨missing_of_empty, fun missing requests spared labels asks turns => ?_,
    fun missing urls folders spared labels asks => ?_,
    fun named urls single => spared_same_folder_iff single named,
    fun _ _ _ _ _ missing stored => missing_after_move_iff missing stored⟩
  · have absent : Transition.Always step
        (fun downloads => Asked requests downloads ∧ TakingTurns downloads ∧ Placing downloads ∧
          downloads.files.nodes (url.offlineFileDestination folder).resolved = none)
        (initial files) labels := by
      apply (asks.and turns).always _ ⟨asked_initial files, takingTurns_initial files,
        placing_initial files, URL.offlineFileExists_eq_false_iff.mp missing⟩
      rintro downloads label next ⟨asked, turning, placing, absent⟩ ⟨asks, turn⟩ taken
      have kept := fieldsKept_of_inTurn turning turn
      exact ⟨asked_step asked asks taken, takingTurns_step turning turn taken,
        placing_step placing kept taken,
        absent_step_of_kept asked placing kept spared absent taken⟩
    exact absent.mono fun _ valid =>
      countsAbsent_of_missing (URL.offlineFileExists_eq_false_iff.mpr valid.2.2.2)
  · have absent : Transition.Always step
        (fun downloads => Requested urls folders downloads ∧
          downloads.files.nodes (url.offlineFileDestination folder).resolved = none)
        (initial files) labels :=
      asks.always
        (fun _ _ _ valid asked taken => ⟨requested_step valid.1 asked taken,
          absent_step valid.1 spared valid.2 taken⟩)
        ⟨requested_initial files, URL.offlineFileExists_eq_false_iff.mp missing⟩
    exact absent.mono fun _ valid =>
      countsAbsent_of_missing (URL.offlineFileExists_eq_false_iff.mpr valid.2)

/-- In the empty file system there is nothing below the folder. -/
theorem empty_nothingBelow :
    FileSystem.empty.NothingBelow (URL.folderDirectory (some "aaNetworking")).resolved := by
  intro path below _
  have long : 2 ≤ path.length := below.length_le
  refine if_neg ?_
  rintro (rfl | rfl)
  · exact absurd long (by decide)
  · exact absurd long (by decide)

/-- An episode of the same name on another host. -/
def otherEpisode (name : String) : URL := ⟨some "https", some "b.example", "/" ++ name, none⟩

/-- The download of a URL, into an empty folder, up to its completion. -/
def downloadOnce (url : URL) : List Label :=
  startDownload 0 url ++ [.finish 0 [1]] ++ handleFinish 0 ++ [.runMain]

/-- The download of one URL makes the URL of that name on another host count as
downloaded. -/
theorem same_name_counts_downloaded :
    episode "a.mp4" ≠ otherEpisode "a.mp4" ∧ (otherEpisode "a.mp4").HasFileName ∧
      FileSystem.empty.NothingBelow (URL.folderDirectory (some "aaNetworking")).resolved ∧
      ∃ target, Transition.Run step (initial .empty) (downloadOnce (episode "a.mp4")) target ∧
        (target.calls.get? 0).map DownloadCall.answers = some [.transferred 0 true] ∧
        ¬ CountsAbsent (otherEpisode "a.mp4") (some "aaNetworking") target := by
  refine ⟨by decide, by decide, empty_nothingBelow, _, Transition.run_iff_execute.mpr rfl, rfl,
    fun absent => ?_⟩
  cases absent.missing

/-- One download into the folder, and another one, of the same name as the URL that is looked
at, into a different folder. -/
def downloadElsewhere : List Label :=
  downloadOnce (episode "a.mp4") ++
    callDownload 1 (episode "b.mp4") (some "movies") false ++ [.finish 1 [2]] ++
    handleFinish 1 ++ [.runMain]

/-- Downloads under another name and into another folder. -/
theorem countsAbsent_of_spared_other_name :
    Transition.Always step (CountsAbsent (otherEpisode "b.mp4") (some "aaNetworking"))
      (initial .empty) downloadElsewhere := by
  obtain ⟨missing, absent, _⟩ :=
    countsAbsent_of_spared (otherEpisode "b.mp4") (some "aaNetworking") .empty
  refine absent (missing empty_nothingBelow (by decide))
    (fun url folder => (url = episode "a.mp4" ∧ folder = some "aaNetworking") ∨
      (url = episode "b.mp4" ∧ folder = some "movies")) ?_ _
    (Transition.Meets.of_forall_mem (fun label member _ => ?_) _) (by decide)
  · rintro url folder (⟨rfl, rfl⟩ | ⟨rfl, rfl⟩) <;> decide
  · cases label with
    | download url folder force =>
        have either : (url = some (episode "a.mp4") ∧ folder = some "aaNetworking") ∨
            (url = some (episode "b.mp4") ∧ folder = some "movies") := by
          simp only [downloadElsewhere, downloadOnce, startDownload, callDownload, handleFinish,
            List.mem_append, List.mem_cons, List.mem_replicate, Label.download.injEq,
            reduceCtorEq, List.not_mem_nil, and_false, or_false] at member
          grind
        intro asked given
        subst given
        simpa using either
    | _ => trivial

end AwesomeDownload

end AwesomeNetwork
