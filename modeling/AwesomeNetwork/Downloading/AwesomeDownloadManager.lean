import AwesomeNetwork.Downloading.Moves

/-! # Batches of downloads

A batch is downloaded one URL after the other: the completion of each call of
`AwesomeDownload.download` calls `download(from:)` with the URLs that are left. All of
this runs on the main thread, which takes the next block of the main queue only when it
has nothing else to do, while delegates, sessions and other callers move on by themselves.
-/

namespace AwesomeNetwork

/-- What the completion of a call goes on with. -/
structure BatchCompletion where
  batch : Nat
  urls : List URL
deriving DecidableEq, Repr

/-- Where the main thread stands in `download(from:)`. An observer of a notification may
ask for another batch while the notification is posted. -/
inductive BatchFrame where
  | cancelling (batch : Nat) (urls : List URL) (cancel : Nat)
  | notifyingDownloading (batch : Nat) (url : URL) (urls : List URL)
  | downloading (call : Nat)
  | notifyingDownloaded (batch : Nat) (urls : List URL)
deriving DecidableEq, Repr

/-- The downloads and the main thread, with the innermost call first. Batches are named in
the order they are asked for; the calls of `AwesomeDownload.download` are logged with
their batch. -/
structure AwesomeDownloadManager where
  downloads : AwesomeDownload
  batches : Nat
  completions : Nat → Option BatchCompletion
  main : List BatchFrame
  called : List (Nat × URL)

namespace AwesomeDownloadManager

/-- A request for a batch, a step of the main thread, or a step of the downloads. -/
inductive Label where
  | download (urls : List URL)
  | main (defaultDownloadFolder : String)
  | runMain
  | downloads (label : AwesomeDownload.Label)
deriving DecidableEq, Repr

/-- The manager before any batch. -/
def initial (files : FileSystem) : AwesomeDownloadManager where
  downloads := .initial files
  batches := 0
  completions _ := none
  main := []
  called := []

/-- A call of `download(from:)` begins with `cancelDownloads`. -/
def cancelDownloads (manager : AwesomeDownloadManager) (batch : Nat) (urls : List URL)
    (below : List BatchFrame) : AwesomeDownloadManager :=
  { manager with
    downloads.cancels := manager.downloads.cancels.push .cancellingTask
    main := .cancelling batch urls manager.downloads.cancels.size :: below }

/-- The main thread is free, or an observer has it. -/
def accepts (manager : AwesomeDownloadManager) : Bool :=
  match manager.main with
  | [] | .notifyingDownloading .. :: _ | .notifyingDownloaded .. :: _ => true
  | _ => false

/-- The call of `AwesomeDownload.download` for the first URL of a batch. -/
def callDownload (manager : AwesomeDownloadManager) (folder : String) (batch : Nat) (url : URL)
    (urls : List URL) (below : List BatchFrame) : AwesomeDownloadManager :=
  { manager with
    downloads.calls := manager.downloads.calls.push ⟨some url, some folder, false, .checking, []⟩
    completions := Function.update manager.completions manager.downloads.calls.size
      (some ⟨batch, urls⟩)
    main := .downloading manager.downloads.calls.size :: below
    called := manager.called ++ [(batch, url)] }

/-- The main thread after a block has called the completion that the slot holds. -/
def answeredFrames (manager : AwesomeDownloadManager) : List BatchFrame :=
  match manager.downloads.nextResult, manager.downloads.downloadedCallback with
  | some _, some name =>
      match manager.completions name with
      | some completion => [.notifyingDownloaded completion.batch completion.urls]
      | none => []
  | _, _ => []

/-- The next statement of the main thread. -/
def stepMain (manager : AwesomeDownloadManager) (folder : String) :
    Option AwesomeDownloadManager :=
  match manager.main with
  | [] => none
  | .cancelling batch urls cancel :: below =>
      if manager.downloads.cancels.get? cancel = some .returned then
        match urls with
        | [] => some { manager with main := below }
        | url :: rest => some { manager with main := .notifyingDownloading batch url rest :: below }
      else none
  | .notifyingDownloading batch url urls :: below =>
      some (manager.callDownload folder batch url urls below)
  | .downloading name :: below =>
      match manager.downloads.calls.get? name, manager.completions name with
      | some call, some completion =>
          if call.stage = .returned then
            -- a file that existed has had the completion called before the return
            if call.answers = [] then some { manager with main := below }
            else
              some { manager with
                main := .notifyingDownloaded completion.batch completion.urls :: below }
          else none
      | _, _ => none
  | .notifyingDownloaded batch urls :: below => some (manager.cancelDownloads batch urls below)

/-- One step of the manager; the main thread takes a block only when it is free. -/
def step (manager : AwesomeDownloadManager) : Label → Option AwesomeDownloadManager
  | .download urls =>
      if manager.accepts then
        some { manager.cancelDownloads manager.batches urls manager.main with
          batches := manager.batches + 1 }
      else none
  | .main folder => manager.stepMain folder
  | .runMain =>
      if manager.main = [] then
        (manager.downloads.step .runMain).map fun downloads =>
          { manager with downloads := downloads, main := manager.answeredFrames }
      else none
  | .downloads label =>
      if label = .runMain then none
      else
        (manager.downloads.step label).map fun downloads => { manager with downloads := downloads }

/-- What a step does, with the frame that it leaves. -/
inductive StepCases (manager : AwesomeDownloadManager) : Label → AwesomeDownloadManager → Prop
  | download (urls : List URL) : manager.accepts = true →
      StepCases manager (.download urls)
        { manager.cancelDownloads manager.batches urls manager.main with
          batches := manager.batches + 1 }
  | runOut (folder : String) (batch cancel : Nat) (below : List BatchFrame) :
      manager.main = .cancelling batch [] cancel :: below →
      StepCases manager (.main folder) { manager with main := below }
  | notify (folder : String) (batch cancel : Nat) (url : URL) (urls : List URL)
      (below : List BatchFrame) : manager.main = .cancelling batch (url :: urls) cancel :: below →
      StepCases manager (.main folder)
        { manager with main := .notifyingDownloading batch url urls :: below }
  | call (folder : String) (batch : Nat) (url : URL) (urls : List URL) (below : List BatchFrame) :
      manager.main = .notifyingDownloading batch url urls :: below →
      StepCases manager (.main folder) (manager.callDownload folder batch url urls below)
  | leave (folder : String) (name : Nat) (call : DownloadCall) (below : List BatchFrame) :
      manager.main = .downloading name :: below →
      manager.downloads.calls.get? name = some call → call.stage = .returned →
      call.answers = [] → StepCases manager (.main folder) { manager with main := below }
  | existed (folder : String) (name : Nat) (call : DownloadCall) (completion : BatchCompletion)
      (below : List BatchFrame) : manager.main = .downloading name :: below →
      manager.downloads.calls.get? name = some call → call.stage = .returned →
      manager.completions name = some completion →
      StepCases manager (.main folder) { manager with
        main := .notifyingDownloaded completion.batch completion.urls :: below }
  | proceed (folder : String) (batch : Nat) (urls : List URL) (below : List BatchFrame) :
      manager.main = .notifyingDownloaded batch urls :: below →
      StepCases manager (.main folder) (manager.cancelDownloads batch urls below)
  | runMain (downloads : AwesomeDownload) : manager.main = [] →
      manager.downloads.step .runMain = some downloads →
      StepCases manager .runMain
        { manager with downloads := downloads, main := manager.answeredFrames }
  | downloads (label : AwesomeDownload.Label) (downloads : AwesomeDownload) : label ≠ .runMain →
      manager.downloads.step label = some downloads →
      StepCases manager (.downloads label) { manager with downloads := downloads }

variable {manager next : AwesomeDownloadManager} {label : Label}

/-- The main thread does what its innermost frame is at. -/
theorem stepMain_cases {folder : String} (taken : manager.stepMain folder = some next) :
    StepCases manager (.main folder) next := by
  unfold stepMain at taken
  split at taken
  · cases taken
  · next batch urls cancel below entered =>
      split at taken
      · split at taken
        · cases taken
          exact .runOut folder batch cancel below entered
        · next url rest =>
            cases taken
            exact .notify folder batch cancel url rest below entered
      · cases taken
  · next batch url urls below entered =>
      cases taken
      exact .call folder batch url urls below entered
  · next name below entered =>
      split at taken
      · next call completion present kept =>
          split at taken
          · next returned =>
              split at taken
              · next unanswered =>
                  cases taken
                  exact .leave folder name call below entered present returned unanswered
              · cases taken
                exact .existed folder name call completion below entered present returned kept
          · cases taken
      · cases taken
  · next batch urls below entered =>
      cases taken
      exact .proceed folder batch urls below entered

/-- Every step is one of these cases. -/
theorem stepCases (taken : step manager label = some next) : StepCases manager label next := by
  cases label with
  | download urls =>
      unfold step at taken
      dsimp only at taken
      split at taken
      · next accepts =>
          cases taken
          exact .download urls accepts
      · cases taken
  | main folder => exact stepMain_cases taken
  | runMain =>
      unfold step at taken
      dsimp only at taken
      split at taken
      · next free =>
          obtain ⟨downloads, moved, rfl⟩ := Option.map_eq_some_iff.mp taken
          exact .runMain downloads free moved
      · cases taken
  | downloads label =>
      unfold step at taken
      dsimp only at taken
      split at taken
      · cases taken
      · next other =>
          obtain ⟨downloads, moved, rfl⟩ := Option.map_eq_some_iff.mp taken
          exact .downloads label downloads other moved

/-- **The downloads under the manager.** The shared object of a manager goes through one of
its own runs. -/
theorem downloads_run {source target : AwesomeDownloadManager} {labels : List Label}
    (run : Transition.Run step source labels target) :
    ∃ moves, Transition.Run AwesomeDownload.step source.downloads moves target.downloads := by
  refine run.simulate AwesomeDownloadManager.downloads fun manager label next taken => ?_
  cases stepCases taken with
  | download urls accepts => exact ⟨[.cancelDownload], .single rfl⟩
  | proceed folder batch urls below entered => exact ⟨[.cancelDownload], .single rfl⟩
  | call folder batch url urls below entered =>
      exact ⟨[.download (some url) (some folder) false], .single rfl⟩
  | runMain downloads free moved => exact ⟨[.runMain], .single moved⟩
  | downloads label downloads other moved => exact ⟨[label], .single moved⟩
  | _ => exact ⟨[], .nil _⟩

end AwesomeDownloadManager

end AwesomeNetwork
