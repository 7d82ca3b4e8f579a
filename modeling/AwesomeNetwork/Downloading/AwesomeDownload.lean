import AwesomeNetwork.Extensions.URL
import AwesomeNetwork.Library.Table
import AwesomeNetwork.Library.Transition

/-! # Downloads

All downloads share the fields of `AwesomeDownload.shared`. A step is one
statement of a call of `download`, of the delegate's handling of a finish message
or of `cancelDownload`, one move of a transfer of the session, or one block of the
main queue.
-/

namespace AwesomeNetwork

/-- `AwesomeDownloadState`. -/
inductive AwesomeDownloadState where
  | downloading
  | downloaded
  | none
deriving DecidableEq, Repr

/-- The next statement of a call of `download`. -/
inductive DownloadStage where
  | checking
  | deleting
  | writingFolder
  | writingProgress
  | writingDownloaded
  | writingUrl
  | cancellingTask
  | cancellingSession
  | makingSession
  | makingTask
  | resuming
  | returned
deriving DecidableEq, Repr

/-- An invocation of the completion of a call: there was no URL, the file existed, or
a transfer ended with the given result. -/
inductive DownloadAnswer where
  | noUrl
  | existed
  | transferred (transfer : Nat) (success : Bool)
deriving DecidableEq, Repr

/-- The argument of the completion. -/
def DownloadAnswer.value : DownloadAnswer → Bool
  | .noUrl => false
  | .existed => true
  | .transferred _ success => success

/-- A call of `download` with how far it has come and what its completion was called with.
-/
structure DownloadCall where
  url : Option URL
  folder : Option String
  force : Bool
  stage : DownloadStage
  answers : List DownloadAnswer
deriving DecidableEq, Repr

/-- Where a transfer stands. From `finished` on, the session has its file and the
delegate is at the named statement of `didFinishDownloadingTo`. -/
inductive TransferStatus where
  | suspended
  | running
  | cancelled
  | failed
  | finished
  | clearingSession
  | cancellingTask
  | clearingTask
  | readingUrl
  | creatingFolder (url : URL)
  | moving (url : URL)
  | enqueuing (success : Bool)
  | handled
  | dropped
deriving DecidableEq, Repr

/-- A download task of a session, made by one of the calls. -/
structure Transfer where
  call : Nat
  session : Nat
  bytes : Data
  status : TransferStatus
deriving DecidableEq, Repr

/-- A progress message, by the counts it carries. -/
structure DownloadProgress where
  totalBytesWritten : Int
  totalBytesExpectedToWrite : Int
deriving DecidableEq, Repr

/-- A block that the delegate hands to the main queue. -/
inductive MainBlock where
  | progress (progress : DownloadProgress)
  | downloaded (transfer : Nat) (success : Bool)
deriving DecidableEq, Repr

/-- The next statement of a call of `cancelDownload`. -/
inductive CancelStage where
  | cancellingTask
  | cancellingSession
  | returned
deriving DecidableEq, Repr

/-- A move of the file of a transfer. -/
structure FileMove where
  transfer : Nat
  destination : FilePath
  stored : Bool
deriving DecidableEq, Repr

/-- The shared object with everything that acts on it. Callbacks are named by their
call, sessions by their order, with whether they were invalidated. The starts, the
moves and the progress reported are logs. -/
structure AwesomeDownload where
  session : Option Nat
  downloadTask : Option Nat
  downloadUrl : Option URL
  downloadFolder : Option String
  progressCallback : Option Nat
  downloadedCallback : Option Nat
  sessions : Table Bool
  calls : Table DownloadCall
  transfers : Table Transfer
  cancels : Table CancelStage
  mainQueue : List MainBlock
  files : FileSystem
  starts : List Nat
  moves : List FileMove
  progressed : List (Nat × DownloadProgress)

namespace AwesomeDownload

/-- A step of a call, of the session, of the delegate or of the main queue. -/
inductive Label where
  | download (url : Option URL) (folder : Option String) (force : Bool)
  | advance (call : Nat) (removal : Removal)
  | cancelDownload
  | advanceCancel (cancel : Nat)
  | delete (url : Option URL) (folder : Option String) (removal : Removal)
  | finish (transfer : Nat) (bytes : Data)
  | fail (transfer : Nat)
  | writeData (transfer : Nat) (progress : DownloadProgress)
  | deliver (transfer : Nat) (goesThrough : Bool)
  | runMain
deriving DecidableEq, Repr

/-- The shared object before any download. -/
def initial (files : FileSystem) : AwesomeDownload where
  session := none
  downloadTask := none
  downloadUrl := none
  downloadFolder := none
  progressCallback := none
  downloadedCallback := none
  sessions := .empty
  calls := .empty
  transfers := .empty
  cancels := .empty
  mainQueue := []
  files := files
  starts := []
  moves := []
  progressed := []

end AwesomeDownload

/-- `cancel()` of a download task. -/
def Transfer.cancel (transfer : Transfer) : Transfer :=
  if transfer.status = .suspended ∨ transfer.status = .running then
    { transfer with status := .cancelled }
  else transfer

/-- `resume()`, which does nothing to a task that is not suspended. -/
def Transfer.resume (transfer : Transfer) : Transfer :=
  if transfer.status = .suspended then { transfer with status := .running } else transfer

namespace DownloadCall

/-- The call goes on to another statement. -/
def moveTo (call : DownloadCall) (stage : DownloadStage) : DownloadCall :=
  { call with stage := stage }

/-- The completion of the call is invoked. -/
def answer (call : DownloadCall) (answer : DownloadAnswer) : DownloadCall :=
  { call with answers := call.answers ++ [answer] }

end DownloadCall

namespace AwesomeDownload

/-- One call changes. -/
def setCall (downloads : AwesomeDownload) (name : Nat) (call : DownloadCall) : AwesomeDownload :=
  { downloads with calls := downloads.calls.modify name fun _ => call }

/-- One transfer goes on. -/
def setStatus (downloads : AwesomeDownload) (name : Nat) (status : TransferStatus) :
    AwesomeDownload :=
  { downloads with
    transfers := downloads.transfers.modify name fun transfer =>
      { transfer with status := status } }

/-- `downloadTask?.cancel()`. -/
def cancelTask (downloads : AwesomeDownload) : AwesomeDownload :=
  match downloads.downloadTask with
  | some name => { downloads with transfers := downloads.transfers.modify name Transfer.cancel }
  | none => downloads

/-- `session?.invalidateAndCancel()`. -/
def invalidateAndCancel (downloads : AwesomeDownload) : AwesomeDownload :=
  match downloads.session with
  | some session =>
      { downloads with
        sessions := downloads.sessions.modify session fun _ => true
        transfers := ⟨downloads.transfers.records.map fun transfer =>
          if transfer.session = session then transfer.cancel else transfer⟩ }
  | none => downloads

/-- `session?.finishTasksAndInvalidate()`. -/
def finishTasksAndInvalidate (downloads : AwesomeDownload) : AwesomeDownload :=
  match downloads.session with
  | some session =>
      { downloads with sessions := downloads.sessions.modify session fun _ => true }
  | none => downloads

/-- `downloadState(withUrl:folder:)`. -/
def downloadState (url : Option URL) (files : FileSystem) (folder : Option String) :
    AwesomeDownloadState :=
  match url with
  | none => .none
  | some url => if url.offlineFileExists files folder then .downloaded else .none

/-- The next statement of a call of `download`; the removal is that of its deletion, if it is
about to make one. -/
def advance (downloads : AwesomeDownload) (name : Nat) (call : DownloadCall)
    (removal : Removal) : Option AwesomeDownload :=
  match call.stage with
  | .checking =>
      match call.url with
      | none => some (downloads.setCall name ((call.answer .noUrl).moveTo .returned))
      | some url =>
          if url.offlineFileExists downloads.files call.folder then
            if call.force then some (downloads.setCall name (call.moveTo .deleting))
            else some (downloads.setCall name ((call.answer .existed).moveTo .returned))
          else some (downloads.setCall name (call.moveTo .writingFolder))
  | .deleting =>
      match call.url with
      | none => none
      | some url =>
          -- the recursive call, whose check then runs again without `force`
          some ({ downloads with
            files := (url.deleteOfflineFile downloads.files call.folder removal).2 }.setCall
              name { call with force := false, stage := .checking })
  | .writingFolder =>
      some ({ downloads with
        downloadFolder := call.folder
        starts := downloads.starts ++ [name] }.setCall name (call.moveTo .writingProgress))
  | .writingProgress =>
      some ({ downloads with progressCallback := some name }.setCall name
        (call.moveTo .writingDownloaded))
  | .writingDownloaded =>
      some ({ downloads with downloadedCallback := some name }.setCall name
        (call.moveTo .writingUrl))
  | .writingUrl =>
      some ({ downloads with downloadUrl := call.url }.setCall name (call.moveTo .cancellingTask))
  | .cancellingTask =>
      some (downloads.cancelTask.setCall name (call.moveTo .cancellingSession))
  | .cancellingSession =>
      some (downloads.invalidateAndCancel.setCall name (call.moveTo .makingSession))
  | .makingSession =>
      some ({ downloads with
        session := some downloads.sessions.size
        sessions := downloads.sessions.push false }.setCall name (call.moveTo .makingTask))
  | .makingTask =>
      match downloads.session with
      | none => some ({ downloads with downloadTask := none }.setCall name (call.moveTo .resuming))
      | some session =>
          -- an invalidated session raises when it is asked for a task
          if downloads.sessions.get? session = some false then
            some ({ downloads with
              downloadTask := some downloads.transfers.size
              transfers := downloads.transfers.push ⟨name, session, [], .suspended⟩ }.setCall name
                (call.moveTo .resuming))
          else none
  | .resuming =>
      match downloads.downloadTask with
      | none => some (downloads.setCall name (call.moveTo .returned))
      | some task =>
          some ({ downloads with
            transfers := downloads.transfers.modify task Transfer.resume }.setCall name
              (call.moveTo .returned))
  | .returned => none

/-- The next statement of the handling of a finish message. -/
def deliver (downloads : AwesomeDownload) (name : Nat) (transfer : Transfer)
    (goesThrough : Bool) : Option AwesomeDownload :=
  match transfer.status with
  | .finished => some (downloads.finishTasksAndInvalidate.setStatus name .clearingSession)
  | .clearingSession => some ({ downloads with session := none }.setStatus name .cancellingTask)
  -- the session and the task of the object may be those of a later call by now
  | .cancellingTask => some (downloads.cancelTask.setStatus name .clearingTask)
  | .clearingTask => some ({ downloads with downloadTask := none }.setStatus name .readingUrl)
  | .readingUrl =>
      match downloads.downloadUrl with
      | none => some (downloads.setStatus name .dropped)
      | some url => some (downloads.setStatus name (.creatingFolder url))
  | .creatingFolder url =>
      match downloads.downloadFolder with
      | none => some (downloads.setStatus name (.moving url))
      | some folder =>
          some ({ downloads with
            files := if goesThrough then URL.createFolder (URL.destination folder) downloads.files
              else downloads.files }.setStatus name (.moving url))
  | .moving url =>
      -- `downloadFolder` is read again, after the URL
      let destination := url.offlineFileDestination downloads.downloadFolder
      let (success, files) :=
        URL.moveOfflineFile transfer.bytes destination downloads.files goesThrough
      some ({ downloads with
        files := files
        moves := downloads.moves ++ [FileMove.mk name destination success] }.setStatus name
          (.enqueuing success))
  | .enqueuing success =>
      some ({ downloads with
        mainQueue := downloads.mainQueue ++ [MainBlock.downloaded name success] }.setStatus name
          .handled)
  | _ => none

/-- The callback that the shared object holds gets the result of the transfer. -/
def runDownloaded (downloads : AwesomeDownload) (transfer : Nat) (success : Bool) :
    AwesomeDownload :=
  match downloads.downloadedCallback with
  | none => downloads
  | some name =>
      { downloads with
        calls := downloads.calls.modify name (·.answer (.transferred transfer success)) }

/-- The block of a progress calls the callback that is there then. -/
def runProgress (downloads : AwesomeDownload) (progress : DownloadProgress) : AwesomeDownload :=
  match downloads.progressCallback with
  | none => downloads
  | some name => { downloads with progressed := downloads.progressed ++ [(name, progress)] }

/-- One step of the downloads; a label that does not fit yields no successor. -/
def step (downloads : AwesomeDownload) : Label → Option AwesomeDownload
  | .download url folder force =>
      some { downloads with calls := downloads.calls.push ⟨url, folder, force, .checking, []⟩ }
  | .advance name removal =>
      (downloads.calls.get? name).bind fun call => downloads.advance name call removal
  | .cancelDownload =>
      some { downloads with cancels := downloads.cancels.push .cancellingTask }
  | .advanceCancel name =>
      match downloads.cancels.get? name with
      | some .cancellingTask =>
          some { downloads.cancelTask with
            cancels := downloads.cancels.modify name fun _ => .cancellingSession }
      | some .cancellingSession =>
          some { downloads.invalidateAndCancel with
            cancels := downloads.cancels.modify name fun _ => .returned }
      | _ => none
  | .delete url folder removal =>
      match url with
      | none => some downloads
      | some url =>
          some { downloads with
            files := (url.deleteOfflineFile downloads.files folder removal).2 }
  | .finish name bytes =>
      downloads.transfers.when name (·.status = .running) fun _ =>
        { downloads with
          transfers := downloads.transfers.modify name fun transfer =>
            { transfer with bytes := bytes, status := .finished } }
  | .fail name =>
      downloads.transfers.when name (·.status = .running) fun _ => downloads.setStatus name .failed
  | .writeData name progress =>
      downloads.transfers.when name (·.status = .running) fun _ =>
        { downloads with mainQueue := downloads.mainQueue ++ [.progress progress] }
  | .deliver name goesThrough =>
      (downloads.transfers.get? name).bind fun transfer =>
        downloads.deliver name transfer goesThrough
  | .runMain =>
      match downloads.mainQueue with
      | [] => none
      | .progress progress :: rest =>
          some ({ downloads with mainQueue := rest }.runProgress progress)
      | .downloaded transfer success :: rest =>
          some ({ downloads with mainQueue := rest }.runDownloaded transfer success)

/-- The statements of a call of `download` that write a shared field or use the
session, with their effect on everything but the call. -/
inductive Writes (downloads : AwesomeDownload) (name : Nat) (call : DownloadCall) :
    DownloadStage → DownloadStage → AwesomeDownload → Prop
  | folder : Writes downloads name call .writingFolder .writingProgress { downloads with
      downloadFolder := call.folder
      starts := downloads.starts ++ [name] }
  | progress : Writes downloads name call .writingProgress .writingDownloaded
      { downloads with progressCallback := some name }
  | downloaded : Writes downloads name call .writingDownloaded .writingUrl
      { downloads with downloadedCallback := some name }
  | url : Writes downloads name call .writingUrl .cancellingTask
      { downloads with downloadUrl := call.url }
  | cancelTask : Writes downloads name call .cancellingTask .cancellingSession downloads.cancelTask
  | cancelSession : Writes downloads name call .cancellingSession .makingSession
      downloads.invalidateAndCancel
  | session : Writes downloads name call .makingSession .makingTask { downloads with
      session := some downloads.sessions.size
      sessions := downloads.sessions.push false }
  | noTask : downloads.session = none →
      Writes downloads name call .makingTask .resuming { downloads with downloadTask := none }
  | task (session : Nat) : downloads.session = some session →
      downloads.sessions.get? session = some false →
      Writes downloads name call .makingTask .resuming { downloads with
        downloadTask := some downloads.transfers.size
        transfers := downloads.transfers.push ⟨name, session, [], .suspended⟩ }
  | resumeNone : downloads.downloadTask = none →
      Writes downloads name call .resuming .returned downloads
  | resume (task : Nat) : downloads.downloadTask = some task →
      Writes downloads name call .resuming .returned
        { downloads with transfers := downloads.transfers.modify task Transfer.resume }

/-- The statements of a call of `download` before it writes, with their effect on the
files and on the call. -/
inductive Checks (downloads : AwesomeDownload) (call : DownloadCall) :
    FileSystem → DownloadCall → Prop
  | noUrl : call.stage = .checking → call.url = none →
      Checks downloads call downloads.files ((call.answer .noUrl).moveTo .returned)
  | existed (url : URL) : call.stage = .checking → call.url = some url →
      url.offlineFileExists downloads.files call.folder = true →
      Checks downloads call downloads.files ((call.answer .existed).moveTo .returned)
  | toDelete : call.stage = .checking → call.force = true →
      Checks downloads call downloads.files (call.moveTo .deleting)
  | deleted (files : FileSystem) : call.stage = .deleting →
      Checks downloads call files { call with force := false, stage := .checking }
  | toWrite (url : URL) : call.stage = .checking → call.url = some url →
      Checks downloads call downloads.files (call.moveTo .writingFolder)

/-- The statements of the handling of a finish message, with their effect on
everything but the transfer. -/
inductive Handles (downloads : AwesomeDownload) (name : Nat) (transfer : Transfer) :
    TransferStatus → TransferStatus → AwesomeDownload → Prop
  | finishSession : Handles downloads name transfer .finished .clearingSession
      downloads.finishTasksAndInvalidate
  | clearSession : Handles downloads name transfer .clearingSession .cancellingTask
      { downloads with session := none }
  | cancelTask : Handles downloads name transfer .cancellingTask .clearingTask downloads.cancelTask
  | clearTask : Handles downloads name transfer .clearingTask .readingUrl
      { downloads with downloadTask := none }
  | drop : downloads.downloadUrl = none →
      Handles downloads name transfer .readingUrl .dropped downloads
  | readUrl (url : URL) : downloads.downloadUrl = some url →
      Handles downloads name transfer .readingUrl (.creatingFolder url) downloads
  | createFolder (url : URL) (files : FileSystem) :
      Handles downloads name transfer (.creatingFolder url) (.moving url)
        { downloads with files := files }
  | move (url : URL) (success : Bool) (files : FileSystem) :
      Handles downloads name transfer (.moving url) (.enqueuing success) { downloads with
        files := files
        moves := downloads.moves ++
          [FileMove.mk name (url.offlineFileDestination downloads.downloadFolder) success] }
  | enqueue (success : Bool) : Handles downloads name transfer (.enqueuing success) .handled
      { downloads with
        mainQueue := downloads.mainQueue ++ [MainBlock.downloaded name success] }

variable {downloads next : AwesomeDownload} {label : Label} {name : Nat} {call : DownloadCall}
  {transfer : Transfer} {removal : Removal} {goesThrough : Bool}

/-- A call that goes on makes its check, or one of its other statements. -/
theorem advance_cases (taken : downloads.advance name call removal = some next) :
    (∃ files changed, Checks downloads call files changed ∧
      next = { downloads with files := files }.setCall name changed) ∨
    ∃ stage effect, Writes downloads name call call.stage stage effect ∧
      next = effect.setCall name (call.moveTo stage) := by
  unfold advance at taken
  split at taken
  · next checking =>
      left
      split at taken
      · next absent =>
          exact ⟨_, _, .noUrl checking absent, (Option.some.inj taken).symm⟩
      · next url present =>
          split at taken
          · next stored =>
              split at taken
              · next forced =>
                  exact ⟨_, _, .toDelete checking forced, (Option.some.inj taken).symm⟩
              · exact ⟨_, _, .existed url checking present stored, (Option.some.inj taken).symm⟩
          · exact ⟨_, _, .toWrite url checking present, (Option.some.inj taken).symm⟩
  · next deleting =>
      left
      split at taken
      · cases taken
      · exact ⟨_, _, .deleted _ deleting, (Option.some.inj taken).symm⟩
  · next writing =>
      rw [writing]
      exact Or.inr ⟨_, _, .folder, (Option.some.inj taken).symm⟩
  · next writing =>
      rw [writing]
      exact Or.inr ⟨_, _, .progress, (Option.some.inj taken).symm⟩
  · next writing =>
      rw [writing]
      exact Or.inr ⟨_, _, .downloaded, (Option.some.inj taken).symm⟩
  · next writing =>
      rw [writing]
      exact Or.inr ⟨_, _, .url, (Option.some.inj taken).symm⟩
  · next cancelling =>
      rw [cancelling]
      exact Or.inr ⟨_, _, .cancelTask, (Option.some.inj taken).symm⟩
  · next cancelling =>
      rw [cancelling]
      exact Or.inr ⟨_, _, .cancelSession, (Option.some.inj taken).symm⟩
  · next making =>
      rw [making]
      exact Or.inr ⟨_, _, .session, (Option.some.inj taken).symm⟩
  · next making =>
      rw [making]
      right
      split at taken
      · next absent => exact ⟨_, _, .noTask absent, (Option.some.inj taken).symm⟩
      · next session present =>
          split at taken
          · next valid => exact ⟨_, _, .task session present valid, (Option.some.inj taken).symm⟩
          · cases taken
  · next resuming =>
      rw [resuming]
      right
      split at taken
      · next absent => exact ⟨_, _, .resumeNone absent, (Option.some.inj taken).symm⟩
      · next task present => exact ⟨_, _, .resume task present, (Option.some.inj taken).symm⟩
  · cases taken

/-- A finish message that is handled makes one statement of the delegate. -/
theorem deliver_cases (taken : downloads.deliver name transfer goesThrough = some next) :
    ∃ status effect, Handles downloads name transfer transfer.status status effect ∧
      next = effect.setStatus name status := by
  unfold deliver at taken
  split at taken
  · next finished =>
      rw [finished]
      exact ⟨_, _, .finishSession, (Option.some.inj taken).symm⟩
  · next clearing =>
      rw [clearing]
      exact ⟨_, _, .clearSession, (Option.some.inj taken).symm⟩
  · next cancelling =>
      rw [cancelling]
      exact ⟨_, _, .cancelTask, (Option.some.inj taken).symm⟩
  · next clearing =>
      rw [clearing]
      exact ⟨_, _, .clearTask, (Option.some.inj taken).symm⟩
  · next reading =>
      rw [reading]
      split at taken
      · next absent => exact ⟨_, _, .drop absent, (Option.some.inj taken).symm⟩
      · next url present => exact ⟨_, _, .readUrl url present, (Option.some.inj taken).symm⟩
  · next url creating =>
      rw [creating]
      split at taken
      · exact ⟨_, _, .createFolder url downloads.files, (Option.some.inj taken).symm⟩
      · exact ⟨_, _, .createFolder url _, (Option.some.inj taken).symm⟩
  · next url moving =>
      rw [moving]
      exact ⟨_, _, .move url _ _, (Option.some.inj taken).symm⟩
  · next success enqueuing =>
      rw [enqueuing]
      exact ⟨_, _, .enqueue success, (Option.some.inj taken).symm⟩
  · cases taken

/-- What a step does, by the statement or the move it takes. -/
inductive StepCases (downloads : AwesomeDownload) : Label → AwesomeDownload → Prop
  | download (url : Option URL) (folder : Option String) (force : Bool) :
      StepCases downloads (.download url folder force) { downloads with
        calls := downloads.calls.push ⟨url, folder, force, .checking, []⟩ }
  | check (name : Nat) (removal : Removal) (call : DownloadCall) (files : FileSystem)
      (changed : DownloadCall) : downloads.calls.get? name = some call →
      Checks downloads call files changed →
      StepCases downloads (.advance name removal)
        ({ downloads with files := files }.setCall name changed)
  | write (name : Nat) (removal : Removal) (call : DownloadCall) (stage : DownloadStage)
      (effect : AwesomeDownload) : downloads.calls.get? name = some call →
      Writes downloads name call call.stage stage effect →
      StepCases downloads (.advance name removal) (effect.setCall name (call.moveTo stage))
  | cancelDownload : StepCases downloads .cancelDownload { downloads with
      cancels := downloads.cancels.push .cancellingTask }
  | cancelTask (cancel : Nat) : StepCases downloads (.advanceCancel cancel)
      { downloads.cancelTask with
        cancels := downloads.cancels.modify cancel fun _ => .cancellingSession }
  | cancelSession (cancel : Nat) : StepCases downloads (.advanceCancel cancel)
      { downloads.invalidateAndCancel with
        cancels := downloads.cancels.modify cancel fun _ => .returned }
  | delete (url : Option URL) (folder : Option String) (removal : Removal) (files : FileSystem) :
      StepCases downloads (.delete url folder removal) { downloads with files := files }
  | finish (name : Nat) (bytes : Data) (transfer : Transfer) :
      downloads.transfers.get? name = some transfer → transfer.status = .running →
      StepCases downloads (.finish name bytes) { downloads with
        transfers := downloads.transfers.modify name fun transfer =>
          { transfer with bytes := bytes, status := .finished } }
  | fail (name : Nat) (transfer : Transfer) :
      downloads.transfers.get? name = some transfer → transfer.status = .running →
      StepCases downloads (.fail name) (downloads.setStatus name .failed)
  | writeData (name : Nat) (progress : DownloadProgress) :
      StepCases downloads (.writeData name progress) { downloads with
        mainQueue := downloads.mainQueue ++ [.progress progress] }
  | deliver (name : Nat) (goesThrough : Bool) (transfer : Transfer) (status : TransferStatus)
      (effect : AwesomeDownload) : downloads.transfers.get? name = some transfer →
      Handles downloads name transfer transfer.status status effect →
      StepCases downloads (.deliver name goesThrough) (effect.setStatus name status)
  | runProgress (progress : DownloadProgress) (rest : List MainBlock) :
      downloads.mainQueue = .progress progress :: rest →
      StepCases downloads .runMain ({ downloads with mainQueue := rest }.runProgress progress)
  | runDownloaded (name : Nat) (success : Bool) (rest : List MainBlock) :
      downloads.mainQueue = .downloaded name success :: rest →
      StepCases downloads .runMain ({ downloads with mainQueue := rest }.runDownloaded name success)

/-- Every step is one of these cases. -/
theorem stepCases (taken : step downloads label = some next) : StepCases downloads label next := by
  cases label with
  | download url folder force =>
      cases taken
      exact .download url folder force
  | advance name removal =>
      obtain ⟨call, present, advanced⟩ := Option.bind_eq_some_iff.mp taken
      rcases advance_cases advanced with
        ⟨files, changed, checks, rfl⟩ | ⟨stage, effect, writes, rfl⟩
      · exact .check name removal call files changed present checks
      · exact .write name removal call stage effect present writes
  | cancelDownload =>
      cases taken
      exact .cancelDownload
  | advanceCancel cancel =>
      unfold step at taken
      dsimp only at taken
      split at taken
      · cases taken
        exact .cancelTask cancel
      · cases taken
        exact .cancelSession cancel
      · cases taken
  | delete url folder removal =>
      cases url with
      | none =>
          cases taken
          exact .delete none folder removal downloads.files
      | some url =>
          cases taken
          exact .delete (some url) folder removal _
  | finish name bytes =>
      obtain ⟨transfer, present, running, rfl⟩ := Table.when_eq_some.mp taken
      exact .finish name bytes transfer present running
  | fail name =>
      obtain ⟨transfer, present, running, rfl⟩ := Table.when_eq_some.mp taken
      exact .fail name transfer present running
  | writeData name progress =>
      obtain ⟨transfer, present, running, rfl⟩ := Table.when_eq_some.mp taken
      exact .writeData name progress
  | deliver name goesThrough =>
      obtain ⟨transfer, present, delivered⟩ := Option.bind_eq_some_iff.mp taken
      obtain ⟨status, effect, handles, rfl⟩ := deliver_cases delivered
      exact .deliver name goesThrough transfer status effect present handles
  | runMain =>
      unfold step at taken
      dsimp only at taken
      split at taken
      · cases taken
      · next progress rest queued =>
          cases taken
          exact .runProgress progress rest queued
      · next name success rest queued =>
          cases taken
          exact .runDownloaded name success rest queued

end AwesomeDownload

end AwesomeNetwork
