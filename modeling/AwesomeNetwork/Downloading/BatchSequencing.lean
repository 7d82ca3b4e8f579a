import AwesomeNetwork.Downloading.BatchPhases
import AwesomeNetwork.Downloading.DownloadWork
import AwesomeNetwork.Library.Settling

/-! # One batch at a time

A batch that is asked for while the shared downloader is idle, and that nothing else
disturbs, goes through its URLs in order. What happens in such a run is a run of the batch
as a sequence, and the run ends with the batch only.
-/

namespace AwesomeNetwork

namespace AwesomeDownload

variable {downloads next : AwesomeDownload} {label : Label}

/-- Every transfer that is cancelled afterwards was so before. -/
def Spares (before after : AwesomeDownload) : Prop :=
  ∀ name transfer, after.transfers.get? name = some transfer → transfer.status = .cancelled →
    before.transfers.get? name = some transfer

theorem Spares.refl (downloads : AwesomeDownload) : Spares downloads downloads :=
  fun _ _ found _ => found

theorem Spares.trans {first second third : AwesomeDownload} (left : Spares first second)
    (right : Spares second third) : Spares first third :=
  fun name transfer found cancelled =>
    left name transfer (right name transfer found cancelled) cancelled

/-- A harmless step spares the transfers. -/
theorem spares_step (harmless : Harmless downloads label)
    (taken : step downloads label = some next) : Spares downloads next := by
  intro name after present cancelled
  rcases step_transfer_inv taken present with
    ⟨before, found, moves⟩ | ⟨_, _, _, _, _, _, _, _, rfl⟩
  · cases moves with
    | stay => exact found
    | cancel cancels =>
        rw [harmless cancels name before found]
        exact found
    | resume =>
        unfold Transfer.resume at cancelled ⊢
        split at cancelled
        · cases cancelled
        · next running =>
            rw [if_neg running]
            exact found
    | finish | fail => cases cancelled
    | handle goesThrough status effect delivers handles =>
        have ends : status = .cancelled := cancelled
        subst ends
        generalize before.status = current at handles
        cases handles
  · cases cancelled

theorem runDownloaded_cancels (downloads : AwesomeDownload) (transfer : Nat) (success : Bool) :
    (downloads.runDownloaded transfer success).cancels = downloads.cancels := by
  unfold runDownloaded
  split <;> rfl

end AwesomeDownload

/-- The statements of the main thread that a frame has ahead, but for those of the URLs that
are left. -/
def BatchFrame.work : BatchFrame → Nat
  | cancelling .. => 2
  | notifyingDownloading .. => 1
  | downloading _ => 6
  | notifyingDownloaded .. => 5

namespace AwesomeDownloadManager

/-- The main thread is free and the shared downloader is idle. -/
structure Rests (manager : AwesomeDownloadManager) : Prop where
  main : manager.main = []
  calm : manager.downloads.Calm
  cancels : manager.downloads.cancels.All fun _ cancel => cancel = .returned

/-- No other batch is asked for, and nobody else uses the shared downloader. -/
def Undisturbed : Label → Prop
  | .download _ => False
  | .main _ | .runMain => True
  | .downloads label => AwesomeDownload.Undisturbed label

instance : DecidablePred Undisturbed
  | .download _ => .isFalse id
  | .main _ | .runMain => .isTrue trivial
  | .downloads label => inferInstanceAs (Decidable (AwesomeDownload.Undisturbed label))

/-- A step that brings a batch on. -/
def Proceeds : Label → Prop
  | .download _ => False
  | .main _ | .runMain => True
  | .downloads label => AwesomeDownload.Proceeds label

/-- Where the only batch stands. -/
inductive Stands (manager : AwesomeDownloadManager) : BatchPhase → Prop
  | cancelling (batch : Nat) (urls : List URL) (cancel : Nat) (stage : CancelStage) :
      manager.main = [.cancelling batch urls cancel] → manager.downloads.Calm →
      manager.downloads.cancels.get? cancel = some stage →
      (manager.downloads.cancels.All fun other stage => other ≠ cancel → stage = .returned) →
      Stands manager (.next urls)
  | notifyingDownloading (batch : Nat) (url : URL) (urls : List URL) :
      manager.main = [.notifyingDownloading batch url urls] → manager.downloads.Calm →
      (manager.downloads.cancels.All fun _ stage => stage = .returned) →
      Stands manager (.announced url urls)
  | downloading (batch name : Nat) (url : URL) (urls : List URL) (call : DownloadCall) :
      manager.main = [.downloading name] → manager.completions name = some ⟨batch, urls⟩ →
      manager.downloads.Sole name url call → Stands manager (.started url urls)
  | waiting (batch name : Nat) (url : URL) (urls : List URL) (call : DownloadCall) :
      manager.main = [] → manager.completions name = some ⟨batch, urls⟩ →
      manager.downloads.Sole name url call → call.stage = .returned → call.answers = [] →
      Stands manager (.started url urls)
  | notifyingDownloaded (batch : Nat) (urls : List URL) :
      manager.main = [.notifyingDownloaded batch urls] → manager.downloads.Calm →
      (manager.downloads.cancels.All fun _ stage => stage = .returned) →
      Stands manager (.next urls)
  | ended : manager.Rests → Stands manager (.next [])

/-- What the step makes happen is what the batch does next, and no transfer is cancelled. -/
def Follows (manager next : AwesomeDownloadManager) (label : Label) (phase : BatchPhase) : Prop :=
  ∃ phase', Transition.Run BatchPhase.step phase (manager.occurs label) phase' ∧
    next.Stands phase' ∧ AwesomeDownload.Spares manager.downloads next.downloads

variable {manager next : AwesomeDownloadManager} {label : Label} {phase : BatchPhase}

/-- The sole call is for the URL of its batch. -/
theorem batchUrl_eq {name batch : Nat} {url : URL} {urls : List URL} {call : DownloadCall}
    (kept : manager.completions name = some ⟨batch, urls⟩)
    (sole : manager.downloads.Sole name url call) : manager.batchUrl name = some url := by
  unfold batchUrl
  rw [kept, sole.found]
  exact sole.asked

section Main

variable {folder : String} (taken : manager.stepMain folder = some next)

include taken

/-- Once `cancelDownloads` has returned, the main thread announces the first URL, or ends. -/
theorem main_cancelling {batch cancel : Nat} {urls : List URL}
    (entered : manager.main = [.cancelling batch urls cancel]) (calm : manager.downloads.Calm)
    (others : manager.downloads.cancels.All fun other stage =>
      other ≠ cancel → stage = .returned) : Follows manager next (.main folder) (.next urls) := by
  unfold stepMain at taken
  rw [entered] at taken
  dsimp only at taken
  split at taken
  · next returned =>
      have cancels : manager.downloads.cancels.All fun _ stage => stage = .returned := by
        intro other stage found
        by_cases own : other = cancel
        · subst own
          exact Option.some.inj (found.symm.trans returned)
        · exact others other stage found own
      cases urls with
      | nil =>
          cases taken
          have silent : manager.occurs (.main folder) = [] := by
            unfold occurs mainOccurs
            rw [entered]
          refine ⟨_, ?_, .ended ⟨rfl, calm, cancels⟩, .refl _⟩
          rw [silent]
          exact .nil _
      | cons url urls =>
          cases taken
          have posts : manager.occurs (.main folder) = [.posted .downloading { url := url }] := by
            unfold occurs mainOccurs
            rw [entered]
            exact if_pos returned
          refine ⟨_, ?_, .notifyingDownloading batch url urls rfl calm cancels, .refl _⟩
          rw [posts]
          exact .single (if_pos rfl)
  · cases taken

/-- After its announcement a URL is started. -/
theorem main_notifyingDownloading {batch : Nat} {url : URL} {urls : List URL}
    (entered : manager.main = [.notifyingDownloading batch url urls])
    (calm : manager.downloads.Calm)
    (cancels : manager.downloads.cancels.All fun _ stage => stage = .returned) :
    Follows manager next (.main folder) (.announced url urls) := by
  unfold stepMain at taken
  rw [entered] at taken
  cases taken
  have calls : manager.occurs (.main folder) = [.called url] := by
    unfold occurs mainOccurs
    rw [entered]
  refine ⟨.started url urls, ?_, .downloading batch manager.downloads.calls.size url urls
    ⟨some url, some folder, false, .checking, []⟩ rfl (Function.update_self ..) ?_, .refl _⟩
  · rw [calls]
    exact .single (if_pos rfl)
  · refine ⟨Table.get?_push_self .., rfl, rfl, fun other call found another => ?_, cancels,
      .preparing trivial rfl calm.transfers calm.mainQueue⟩
    rcases Table.get?_push_cases found with old | ⟨newest, _⟩
    · exact calm.calls other call old
    · exact (another newest).elim

/-- A call that has returned was reported at its check, or is waited for. -/
theorem main_downloading {batch name : Nat} {url : URL} {urls : List URL} {call : DownloadCall}
    (entered : manager.main = [.downloading name])
    (kept : manager.completions name = some ⟨batch, urls⟩)
    (sole : manager.downloads.Sole name url call) :
    Follows manager next (.main folder) (.started url urls) := by
  unfold stepMain at taken
  rw [entered] at taken
  dsimp only at taken
  rw [sole.found, kept] at taken
  dsimp only at taken
  have silent (unanswered : call.answers = []) : manager.occurs (.main folder) = [] := by
    unfold occurs mainOccurs
    rw [entered]
    simp only [sole.found, batchUrl_eq kept sole, unanswered]
  have reported {answer : DownloadAnswer} (once : call.answers = [answer]) :
      manager.occurs (.main folder) = completion url answer.value := by
    unfold occurs mainOccurs
    rw [entered]
    simp only [sole.found, batchUrl_eq kept sole, once]
  split at taken
  · next returned =>
      split at taken
      · next unanswered =>
          cases taken
          refine ⟨_, ?_, .waiting batch name url urls call rfl kept sole returned unanswered,
            .refl _⟩
          rw [silent unanswered]
          exact .nil _
      · next answered =>
          cases taken
          cases sole.serving with
          | preparing prepared unanswered => exact (answered unanswered).elim
          | transferring own transfer _ _ unanswered => exact (answered unanswered).elim
          | queued blocks own success _ _ unanswered => exact (answered unanswered).elim
          | existed _ once inactive empty =>
              refine ⟨_, ?_, .notifyingDownloaded batch urls rfl ⟨?_, inactive, empty⟩
                sole.cancels, .refl _⟩
              · rw [reported once]
                exact .cons (if_pos rfl) (.single (if_pos rfl))
              · intro other call' found
                by_cases own : other = name
                · subst own
                  cases Option.some.inj (sole.found.symm.trans found)
                  exact returned
                · exact sole.others other call' found own
  · cases taken

/-- After its post the next URL is announced. -/
theorem main_notifyingDownloaded {batch : Nat} {urls : List URL}
    (entered : manager.main = [.notifyingDownloaded batch urls]) (calm : manager.downloads.Calm)
    (cancels : manager.downloads.cancels.All fun _ stage => stage = .returned) :
    Follows manager next (.main folder) (.next urls) := by
  unfold stepMain at taken
  rw [entered] at taken
  cases taken
  have silent : manager.occurs (.main folder) = [] := by
    unfold occurs mainOccurs
    rw [entered]
  refine ⟨_, ?_, .cancelling batch urls manager.downloads.cancels.size .cancellingTask rfl
    ⟨calm.calls, calm.transfers, calm.mainQueue⟩ (Table.get?_push_self ..) ?_, .refl _⟩
  · rw [silent]
    exact .nil _
  · intro other stage found another
    rcases Table.get?_push_cases found with old | ⟨newest, _⟩
    · exact cancels other stage old
    · exact (another newest).elim

end Main

section Blocks

variable {name : Nat} {url : URL} {rest : List MainBlock}
  (named : manager.batchUrl name = some url)

include named

/-- The block of a progress posts it for the URL that is started. -/
theorem occurs_progress {progress : DownloadProgress}
    (holds : manager.downloads.progressCallback = some name)
    (first : manager.downloads.mainQueue = .progress progress :: rest) :
    manager.occurs .runMain = [.posted .downloading { url := url, progress := progress }] := by
  unfold occurs blockOccurs
  rw [first]
  dsimp only
  rw [holds, Option.bind_some, named]

/-- The block of a result completes the URL that is started. -/
theorem occurs_downloaded {transfer : Nat} {success : Bool}
    (holds : manager.downloads.downloadedCallback = some name)
    (first : manager.downloads.mainQueue = .downloaded transfer success :: rest) :
    manager.occurs .runMain = completion url success := by
  unfold occurs blockOccurs
  rw [first]
  dsimp only
  rw [holds, Option.bind_some, named]

end Blocks

/-- A block of the main queue reports a progress or the result of the call waited for. -/
theorem runMain_waiting {batch name : Nat} {url : URL} {urls : List URL} {call : DownloadCall}
    (free : manager.main = []) (kept : manager.completions name = some ⟨batch, urls⟩)
    (sole : manager.downloads.Sole name url call) (returned : call.stage = .returned)
    (unanswered : call.answers = []) (taken : step manager .runMain = some next) :
    Follows manager next .runMain (.started url urls) := by
  have holds := sole.holds returned unanswered
  have named := batchUrl_eq kept sole
  unfold step at taken
  dsimp only at taken
  rw [if_pos free] at taken
  obtain ⟨downloads, moved, rfl⟩ := Option.map_eq_some_iff.mp taken
  have spares : AwesomeDownload.Spares manager.downloads downloads :=
    AwesomeDownload.spares_step (fun cancels => by cases cancels) moved
  unfold AwesomeDownload.step at moved
  dsimp only at moved
  split at moved
  · cases moved
  · next progress rest first =>
      cases moved
      have frames : manager.answeredFrames = [] := by
        unfold answeredFrames AwesomeDownload.nextResult
        rw [first]
        rfl
      have posts := occurs_progress named holds.progress first
      refine ⟨.started url urls, ?_, .waiting batch name url urls call frames kept
        (sole.runProgress returned unanswered first) returned unanswered, spares⟩
      rw [posts]
      exact .single (if_pos rfl)
  · next other success rest first =>
      cases moved
      have frames : manager.answeredFrames = [.notifyingDownloaded batch urls] := by
        unfold answeredFrames AwesomeDownload.nextResult
        rw [first, holds.downloaded]
        dsimp only [List.head?_cons, Option.bind_some, MainBlock.result?]
        rw [kept]
      have reports := occurs_downloaded named holds.downloaded first
      refine ⟨.next urls, ?_, .notifyingDownloaded batch urls frames
        (sole.runDownloaded returned unanswered first) ?_, spares⟩
      · rw [reports]
        exact .cons (if_pos rfl) (.single (if_pos rfl))
      · rw [AwesomeDownload.runDownloaded_cancels]
        exact sole.cancels

section Downloads

variable {label : AwesomeDownload.Label} {downloads : AwesomeDownload}
  (undisturbed : AwesomeDownload.Undisturbed label) (waits : label ≠ .runMain)
  (moved : manager.downloads.step label = some downloads)

include undisturbed waits moved

/-- The downloader takes a step of its own, and the main thread stays where it is. -/
theorem downloads_stands (stands : manager.Stands phase) :
    Follows manager { manager with downloads := downloads } (.downloads label) phase := by
  have calmly (calm : manager.downloads.Calm) :=
    AwesomeDownload.calm_step calm undisturbed moved
  have spares (harmless : AwesomeDownload.Harmless manager.downloads label) :=
    AwesomeDownload.spares_step harmless moved
  have settled (cancels : manager.downloads.cancels.All fun _ stage => stage = .returned) :=
    (AwesomeDownload.cancels_step cancels undisturbed moved).1
  cases stands with
  | cancelling batch urls cancel stage entered calm found others =>
      obtain ⟨calm', harmless⟩ := calmly calm
      rcases AwesomeDownload.step_cancels undisturbed moved with
        same | ⟨cancel', before, after, _, found', unreturned, changed⟩
      · exact ⟨_, .nil _, .cancelling batch urls cancel stage entered calm' (same ▸ found)
          (same ▸ others), spares harmless⟩
      · have own : cancel' = cancel := by
          by_contra another
          exact unreturned (others cancel' before found' another)
        subst own
        refine ⟨_, .nil _, .cancelling batch urls cancel' after entered calm' ?_ ?_,
          spares harmless⟩
        · rw [changed, Table.get?_modify_self, found']
          rfl
        · intro other stage' present another
          rw [changed, Table.get?_modify_of_ne _ _ another] at present
          exact others other stage' present another
  | notifyingDownloading batch url urls entered calm cancels =>
      obtain ⟨calm', harmless⟩ := calmly calm
      exact ⟨_, .nil _, .notifyingDownloading batch url urls entered calm' (settled cancels),
        spares harmless⟩
  | downloading batch name url urls call entered kept sole =>
      obtain ⟨after, sole', harmless⟩ := sole.step undisturbed waits moved
      exact ⟨_, .nil _, .downloading batch name url urls after entered kept sole',
        spares harmless⟩
  | waiting batch name url urls call free kept sole returned unanswered =>
      have elsewhere : ∀ removal, label ≠ .advance name removal := by
        rintro removal rfl
        rw [AwesomeDownload.not_advance_returned sole.found returned] at moved
        cases moved
      obtain ⟨sole', harmless⟩ := sole.other_step undisturbed elsewhere moved waits
      exact ⟨_, .nil _, .waiting batch name url urls call free kept sole' returned unanswered,
        spares harmless⟩
  | notifyingDownloaded batch urls entered calm cancels =>
      obtain ⟨calm', harmless⟩ := calmly calm
      exact ⟨_, .nil _, .notifyingDownloaded batch urls entered calm' (settled cancels),
        spares harmless⟩
  | ended rests =>
      obtain ⟨calm', harmless⟩ := calmly rests.calm
      exact ⟨_, .nil _, .ended ⟨rests.main, calm', settled rests.cancels⟩, spares harmless⟩

end Downloads

/-- A block runs on a free main thread only. -/
theorem runMain_free (taken : step manager .runMain = some next) : manager.main = [] := by
  unfold step at taken
  dsimp only at taken
  split at taken
  · next free => exact free
  · cases taken

/-- Every undisturbed step follows the phases. -/
theorem stands_step (stands : manager.Stands phase) (undisturbed : Undisturbed label)
    (taken : step manager label = some next) : Follows manager next label phase := by
  cases label with
  | download urls => exact undisturbed.elim
  | main folder =>
      cases stands with
      | cancelling batch urls cancel stage entered calm found others =>
          exact main_cancelling taken entered calm others
      | notifyingDownloading batch url urls entered calm cancels =>
          exact main_notifyingDownloading taken entered calm cancels
      | downloading batch name url urls call entered kept sole =>
          exact main_downloading taken entered kept sole
      | waiting batch name url urls call free =>
          have none : manager.stepMain folder = none := by
            unfold stepMain
            rw [free]
          cases none.symm.trans taken
      | notifyingDownloaded batch urls entered calm cancels =>
          exact main_notifyingDownloaded taken entered calm cancels
      | ended rests =>
          have none : manager.stepMain folder = none := by
            unfold stepMain
            rw [rests.main]
          cases none.symm.trans taken
  | runMain =>
      have free := runMain_free taken
      cases stands with
      | cancelling _ _ _ _ entered => cases free.symm.trans entered
      | notifyingDownloading _ _ _ entered => cases free.symm.trans entered
      | downloading _ _ _ _ _ entered => cases free.symm.trans entered
      | waiting batch name url urls call free kept sole returned unanswered =>
          exact runMain_waiting free kept sole returned unanswered taken
      | notifyingDownloaded _ _ entered => cases free.symm.trans entered
      | ended rests =>
          cases stepCases taken with
          | runMain downloads _ moved =>
              unfold AwesomeDownload.step at moved
              rw [rests.calm.mainQueue] at moved
              cases moved
  | downloads label =>
      cases stepCases taken with
      | downloads _ downloads waits moved => exact downloads_stands undisturbed waits moved stands

/-- A batch that does not rest goes on by a step of the main thread, of its call, of its
cancel, of its transfer or of the main queue. -/
theorem stands_proceeds (stands : manager.Stands phase) (restless : ¬ manager.Rests) :
    ∃ label, Undisturbed label ∧ Proceeds label ∧ (step manager label).isSome = true := by
  have mainly (enabled : (manager.stepMain "").isSome = true) :
      ∃ label, Undisturbed label ∧ Proceeds label ∧ (step manager label).isSome = true :=
    ⟨.main "", trivial, trivial, enabled⟩
  have below (label : AwesomeDownload.Label) (undisturbed : AwesomeDownload.Undisturbed label)
      (proceeds : AwesomeDownload.Proceeds label) (waits : label ≠ .runMain)
      (enabled : (manager.downloads.step label).isSome = true) :
      ∃ label, Undisturbed label ∧ Proceeds label ∧ (step manager label).isSome = true := by
    refine ⟨.downloads label, undisturbed, proceeds, ?_⟩
    unfold step
    dsimp only
    rw [if_neg waits, Option.isSome_map]
    exact enabled
  cases stands with
  | cancelling batch urls cancel stage entered calm found others =>
      by_cases returned : stage = .returned
      · apply mainly
        unfold stepMain
        rw [entered]
        dsimp only
        rw [if_pos (returned ▸ found)]
        cases urls <;> rfl
      · refine below (.advanceCancel cancel) trivial trivial nofun ?_
        unfold AwesomeDownload.step
        dsimp only
        rw [found]
        cases stage with
        | returned => exact (returned rfl).elim
        | _ => rfl
  | notifyingDownloading batch url urls entered =>
      apply mainly
      unfold stepMain
      rw [entered]
      rfl
  | downloading batch name url urls call entered kept sole =>
      by_cases returned : call.stage = .returned
      · apply mainly
        unfold stepMain
        rw [entered]
        dsimp only
        rw [sole.found, kept]
        dsimp only
        rw [if_pos returned]
        split <;> rfl
      · exact below (.advance name .succeeds) trivial trivial nofun (sole.advance_isSome returned)
  | waiting batch name url urls call free kept sole returned unanswered =>
      rcases sole.waiting_proceeds returned unanswered with
        queued | ⟨label, undisturbed, proceeds, waits, enabled⟩
      · refine ⟨.runMain, trivial, trivial, ?_⟩
        unfold step
        dsimp only
        rw [if_pos free, Option.isSome_map]
        unfold AwesomeDownload.step
        dsimp only
        split
        · next empty => exact (queued empty).elim
        · rfl
        · rfl
      · exact below label undisturbed proceeds waits enabled
  | notifyingDownloaded batch urls entered =>
      apply mainly
      unfold stepMain
      rw [entered]
      rfl
  | ended rests => exact (restless rests).elim

/-- A batch does not rest before its last URL is reported. -/
theorem stands_rests (stands : manager.Stands phase) (rests : manager.Rests) :
    phase = .next [] := by
  cases stands with
  | cancelling _ _ _ _ entered => cases rests.main.symm.trans entered
  | notifyingDownloading _ _ _ entered => cases rests.main.symm.trans entered
  | downloading _ _ _ _ _ entered => cases rests.main.symm.trans entered
  | waiting batch name url urls call _ _ sole returned unanswered =>
      cases sole.serving with
      | preparing prepared =>
          rw [returned] at prepared
          exact prepared.elim
      | transferring own transfer _ _ _ present active =>
          exact (AwesomeDownload.absurd_of_inactive rests.calm.transfers present active).elim
      | queued blocks own success _ _ _ _ queued =>
          rw [rests.calm.mainQueue] at queued
          exact (List.append_ne_nil_of_right_ne_nil _ (List.cons_ne_nil _ _) queued.symm).elim
      | existed _ answered => cases unanswered.symm.trans answered
  | notifyingDownloaded _ _ entered => cases rests.main.symm.trans entered
  | ended => rfl

/-- Asking for a batch makes it stand before its first URL. -/
theorem stands_download {urls : List URL} (rests : manager.Rests)
    (taken : step manager (.download urls) = some next) :
    next.Stands (.next urls) ∧ AwesomeDownload.Spares manager.downloads next.downloads := by
  cases stepCases taken with
  | download _ accepts =>
      refine ⟨.cancelling manager.batches urls manager.downloads.cancels.size .cancellingTask ?_
        ⟨rests.calm.calls, rests.calm.transfers, rests.calm.mainQueue⟩ (Table.get?_push_self ..)
        ?_, .refl _⟩
      · unfold cancelDownloads
        rw [rests.main]
      · intro other stage found another
        rcases Table.get?_push_cases found with old | ⟨newest, _⟩
        · exact rests.cancels other stage old
        · exact (another newest).elim

instance : DecidablePred Proceeds
  | .download _ => .isFalse id
  | .main _ | .runMain => .isTrue trivial
  | .downloads label => inferInstanceAs (Decidable (AwesomeDownload.Proceeds label))

/-- A message about the progress of a transfer. -/
def WritesData : Label → Prop
  | .downloads (.writeData ..) => True
  | _ => False

instance : DecidablePred WritesData
  | .downloads (.writeData ..) => .isTrue trivial
  | .download _ | .main _ | .runMain | .downloads (.download ..) | .downloads (.advance ..)
  | .downloads .cancelDownload | .downloads (.advanceCancel _) | .downloads (.delete ..)
  | .downloads (.finish ..) | .downloads (.fail _) | .downloads (.deliver ..)
  | .downloads .runMain => .isFalse id

/-- Every start of a URL is logged. -/
theorem called_step (taken : step manager label = some next) :
    next.called.map Prod.snd =
      manager.called.map Prod.snd ++ BatchEvent.starts (manager.occurs label) := by
  have silent (nothing : BatchEvent.starts (manager.occurs label) = [])
      (same : next.called = manager.called) :
      next.called.map Prod.snd =
        manager.called.map Prod.snd ++ BatchEvent.starts (manager.occurs label) := by
    rw [nothing, same, List.append_nil]
  cases stepCases taken with
  | download urls accepts => exact silent rfl rfl
  | runOut folder batch cancel below entered =>
      refine silent ?_ rfl
      unfold occurs mainOccurs
      rw [entered]
      rfl
  | notify folder batch cancel url urls below entered =>
      refine silent ?_ rfl
      unfold occurs mainOccurs
      rw [entered]
      dsimp only
      split <;> rfl
  | call folder batch url urls below entered =>
      unfold occurs mainOccurs
      rw [entered]
      exact List.map_append
  | leave folder name call below entered found =>
      refine silent ?_ rfl
      unfold occurs mainOccurs
      rw [entered]
      dsimp only
      split
      · split <;> rfl
      · rfl
  | existed folder name call completion below entered found =>
      refine silent ?_ rfl
      unfold occurs mainOccurs
      rw [entered]
      dsimp only
      split
      · split <;> rfl
      · rfl
  | proceed folder batch urls below entered =>
      refine silent ?_ rfl
      unfold occurs mainOccurs
      rw [entered]
      rfl
  | runMain downloads free moved =>
      refine silent ?_ rfl
      unfold occurs blockOccurs
      dsimp only
      split
      · split <;> rfl
      · split <;> rfl
      · rfl
  | downloads label downloads other moved => exact silent rfl rfl

/-- The batch stands somewhere, and the URLs that are called for come to the total. -/
def Underway (total : Nat) (manager : AwesomeDownloadManager) : Prop :=
  ∃ phase, manager.Stands phase ∧ manager.called.length + phase.remaining.length = total

/-- Every undisturbed step keeps the batch under way. -/
theorem underway_step {total : Nat} (underway : manager.Underway total)
    (undisturbed : Undisturbed label) (taken : step manager label = some next) :
    next.Underway total := by
  obtain ⟨phase, stands, whole⟩ := underway
  obtain ⟨phase', moved, stands', _⟩ := stands_step stands undisturbed taken
  refine ⟨phase', stands', ?_⟩
  have started := congrArg List.length (BatchPhase.run_starts moved)
  have called := congrArg List.length (called_step taken)
  rw [List.length_append] at started
  rw [List.length_append, List.length_map, List.length_map] at called
  omega

/-- The work that a batch has ahead, when the URLs called for will come to the total. -/
def work (total : Nat) (manager : AwesomeDownloadManager) : Nat :=
  31 * (total - manager.called.length) + (manager.main.map BatchFrame.work).sum +
    manager.downloads.work

/-- A URL that is announced is one of those that are left. -/
theorem Underway.announced {total batch : Nat} {url : URL} {urls : List URL}
    {below : List BatchFrame} (underway : manager.Underway total)
    (entered : manager.main = .notifyingDownloading batch url urls :: below) :
    manager.called.length < total := by
  obtain ⟨phase, stands, whole⟩ := underway
  cases stands with
  | notifyingDownloading =>
      rw [BatchPhase.remaining, List.length_cons] at whole
      omega
  | cancelling _ _ _ _ entered' => cases entered.symm.trans entered'
  | downloading _ _ _ _ _ entered' => cases entered.symm.trans entered'
  | waiting _ _ _ _ _ free => cases entered.symm.trans free
  | notifyingDownloaded _ _ entered' => cases entered.symm.trans entered'
  | ended rests => cases entered.symm.trans rests.main

/-- What a block makes the main thread do is counted with it. -/
theorem work_answeredFrames {block : MainBlock} {rest : List MainBlock}
    (queued : manager.downloads.mainQueue = block :: rest) :
    (manager.answeredFrames.map BatchFrame.work).sum + 1 ≤ block.work := by
  rcases answeredFrames_cases manager with none | ⟨result, _, _, carried, _, _, frames⟩
  · rw [none]
    cases block with
    | progress => exact Nat.le_refl 1
    | downloaded => exact Nat.succ_le_of_lt (Nat.zero_lt_succ 5)
  · rw [frames]
    unfold AwesomeDownload.nextResult at carried
    rw [queued] at carried
    cases block with
    | progress => cases carried
    | downloaded => exact Nat.le_refl 6

/-- A step of an undisturbed downloader costs one unit, but for the messages about progress. -/
theorem work_downloads {label : AwesomeDownload.Label} {downloads : AwesomeDownload}
    (undisturbed : AwesomeDownload.Undisturbed label) (waits : label ≠ .runMain)
    (moved : manager.downloads.step label = some downloads) :
    downloads.work + (if Proceeds (.downloads label) then 1 else 0) ≤
      manager.downloads.work + if WritesData (.downloads label) then 1 else 0 := by
  have spent := AwesomeDownload.work_step moved waits
  cases label with
  | download | cancelDownload | fail => exact undisturbed.elim
  | _ => exact spent

/-- **What a batch spends.** Every step that brings the batch on takes from its work, and only
messages about progress add to it. -/
theorem work_step {total : Nat} (underway : manager.Underway total)
    (undisturbed : Undisturbed label) (taken : step manager label = some next) :
    next.work total + (if Proceeds label then 1 else 0) ≤
      manager.work total + if WritesData label then 1 else 0 := by
  cases stepCases taken with
  | download => exact undisturbed.elim
  | runOut folder batch cancel below entered =>
      change _ + 1 ≤ _ + 0
      unfold work
      rw [entered, List.map_cons, List.sum_cons]
      simp only [BatchFrame.work]
      omega
  | notify folder batch cancel url urls below entered =>
      change _ + 1 ≤ _ + 0
      unfold work
      rw [entered, List.map_cons, List.sum_cons, List.map_cons, List.sum_cons]
      simp only [BatchFrame.work]
      omega
  | call folder batch url urls below entered =>
      have left := underway.announced entered
      have begun := Table.total_push manager.downloads.calls
        ⟨some url, some folder, false, .checking, []⟩ DownloadCall.work
      rw [DownloadCall.work_checking rfl] at begun
      change _ + 1 ≤ _ + 0
      unfold work callDownload AwesomeDownload.work
      rw [entered, List.map_cons, List.sum_cons, List.map_cons, List.sum_cons, List.length_append]
      simp only [BatchFrame.work, List.length_singleton, Bool.false_eq_true, ↓reduceIte] at begun ⊢
      omega
  | leave folder name call below entered =>
      change _ + 1 ≤ _ + 0
      unfold work
      rw [entered, List.map_cons, List.sum_cons]
      simp only [BatchFrame.work]
      omega
  | existed folder name call completion below entered =>
      change _ + 1 ≤ _ + 0
      unfold work
      rw [entered, List.map_cons, List.sum_cons, List.map_cons, List.sum_cons]
      simp only [BatchFrame.work]
      omega
  | proceed folder batch urls below entered =>
      have begun := Table.total_push manager.downloads.cancels .cancellingTask CancelStage.work
      change _ + 1 ≤ _ + 0
      unfold work cancelDownloads AwesomeDownload.work
      rw [entered, List.map_cons, List.sum_cons, List.map_cons, List.sum_cons]
      simp only [BatchFrame.work, CancelStage.work] at begun ⊢
      omega
  | runMain downloads free moved =>
      obtain ⟨block, rest, queued, spent⟩ := AwesomeDownload.work_runMain moved
      have frames := work_answeredFrames queued
      change _ + 1 ≤ _ + 0
      unfold work
      rw [free, List.map_nil, List.sum_nil]
      dsimp only
      omega
  | downloads label downloads waits moved =>
      have spent := work_downloads undisturbed waits moved
      unfold work
      dsimp only
      omega

/-- A batch that is underway comes to rest by steps that bring it on. -/
theorem Underway.settles {total : Nat} (underway : manager.Underway total) :
    ∃ more last, Transition.Run step manager more last ∧
      (∀ label ∈ more, Undisturbed label ∧ Proceeds label) ∧ last.Rests := by
  have spends (state : AwesomeDownloadManager) (label : Label) (next : AwesomeDownloadManager)
      (valid : state.Underway total) (inner : Undisturbed label ∧ Proceeds label)
      (taken : step state label = some next) : next.work total < state.work total := by
    have spent := work_step valid inner.1 taken
    have silent : ¬ WritesData label := by
      intro writes
      cases label with
      | downloads label => cases label <;> first | exact writes | exact inner.2
      | _ => exact writes
    rw [if_pos inner.2, if_neg silent] at spent
    exact spent
  refine Transition.exists_settled
    (fun _ _ _ valid inner taken => underway_step valid inner.1 taken) spends ?_ underway
  rintro state ⟨phase, stands, _⟩ still
  by_contra restless
  obtain ⟨label, undisturbed, proceeds, enabled⟩ := stands_proceeds stands restless
  rw [still label ⟨undisturbed, proceeds⟩] at enabled
  cases enabled

section Batch

variable {source target : AwesomeDownloadManager} {urls : List URL} {labels : List Label}
  (rests : source.Rests) (undisturbed : ∀ label ∈ labels, Undisturbed label)
  (run : Transition.Run step source (.download urls :: labels) target)

include rests undisturbed run

/-- What happens in the run of a batch is a run of the batch as a sequence. -/
theorem batch_refines : ∃ phase,
    Transition.Run BatchPhase.step (.next urls) (trace source (.download urls :: labels)) phase ∧
      target.Stands phase ∧ AwesomeDownload.Spares source.downloads target.downloads := by
  obtain ⟨middle, begins, rest⟩ := run.cons_inv
  obtain ⟨stands, spares⟩ := stands_download rests begins
  have meets : Transition.Meets step (fun _ label => Undisturbed label) middle labels :=
    .of_forall_mem (fun label member _ => undisturbed label member) middle
  have whole : trace source (.download urls :: labels) =
      Transition.emitted step occurs middle labels := Transition.emitted_cons begins
  rw [whole]
  apply rest.refines meets _ ⟨stands, spares⟩
  intro state label next phase related met taken
  obtain ⟨phase', moved, stands', kept⟩ := stands_step related.1 met taken
  exact ⟨phase', moved, stands', related.2.trans kept⟩

/-- The steps that bring a batch on are at most 31 for each of its URLs, those of the first
cancel, and one for each message about progress. -/
theorem batch_spends :
    target.Underway (source.called.length + urls.length) ∧
      labels.countP (Proceeds ·) ≤ 31 * urls.length + 4 + labels.countP (WritesData ·) := by
  obtain ⟨middle, begins, rest⟩ := run.cons_inv
  have meets : Transition.Meets step (fun _ label => Undisturbed label) middle labels :=
    .of_forall_mem (fun label member _ => undisturbed label member) middle
  have underway : middle.Underway (source.called.length + urls.length) := by
    refine ⟨_, (stands_download rests begins).1, ?_⟩
    cases stepCases begins with
    | download => rfl
  have starts : middle.work (source.called.length + urls.length) = 31 * urls.length + 4 := by
    have calm := AwesomeDownload.work_calm rests.calm rests.cancels
    have begun := Table.total_push source.downloads.cancels .cancellingTask CancelStage.work
    cases stepCases begins with
    | download =>
        unfold work cancelDownloads AwesomeDownload.work
        unfold AwesomeDownload.work at calm
        rw [rests.main]
        simp only [BatchFrame.work, CancelStage.work, List.map_cons, List.map_nil, List.sum_cons,
          List.sum_nil] at begun ⊢
        omega
  have spent := rest.budget meets (fun _ _ _ valid met taken => underway_step valid met taken)
    (fun _ _ _ valid met taken => work_step valid met taken) underway
  refine ⟨rest.preserves_of_meets meets
    (fun _ _ _ valid met taken => underway_step valid met taken) underway, ?_⟩
  rw [rest.tally_eq_countP, rest.tally_eq_countP, starts] at spent
  omega

end Batch

/-- **One batch at a time.** A batch that is asked for while the downloader is idle, and that
nothing disturbs, is a run of the batch as a sequence: it starts the first URLs in order, each
one after all before it were reported, and cancels no transfer. It rests once its last URL is
reported, and otherwise can go on; the steps that bring it on are bounded, and by such steps it
comes to rest with every URL started and reported. -/
theorem batch_sequenced {source target : AwesomeDownloadManager} {urls : List URL}
    {labels : List Label} (rests : source.Rests)
    (undisturbed : ∀ label ∈ labels, Undisturbed label)
    (run : Transition.Run step source (.download urls :: labels) target) :
    (∃ phase, Transition.Run BatchPhase.step (.next urls)
        (trace source (.download urls :: labels)) phase ∧
      BatchEvent.starts (trace source (.download urls :: labels)) ++ phase.remaining = urls ∧
      BatchEvent.starts (trace source (.download urls :: labels)) =
        BatchEvent.reports (trace source (.download urls :: labels)) ++ phase.underway ∧
      AwesomeDownload.Spares source.downloads target.downloads ∧
      (target.Rests → phase = .next []) ∧
      (¬ target.Rests → ∃ label, Undisturbed label ∧ Proceeds label ∧
        (step target label).isSome = true)) ∧
    labels.countP (Proceeds ·) ≤ 31 * urls.length + 4 + labels.countP (WritesData ·) ∧
    ∃ more last, Transition.Run step target more last ∧
      (∀ label ∈ more, Undisturbed label ∧ Proceeds label) ∧ last.Rests ∧
      BatchEvent.starts (trace source (.download urls :: labels ++ more)) = urls ∧
      BatchEvent.reports (trace source (.download urls :: labels ++ more)) = urls := by
  obtain ⟨phase, followed, stands, spares⟩ := batch_refines rests undisturbed run
  obtain ⟨underway, bounded⟩ := batch_spends rests undisturbed run
  refine ⟨⟨phase, followed, BatchPhase.run_starts followed, BatchPhase.run_reports followed,
    spares, stands_rests stands, stands_proceeds stands⟩, bounded, ?_⟩
  obtain ⟨more, last, continued, inner, settled⟩ := underway.settles
  have quiet : ∀ label ∈ labels ++ more, Undisturbed label := fun label member =>
    (List.mem_append.mp member).elim (undisturbed label) fun later => (inner label later).1
  obtain ⟨phase', followed', stands', _⟩ := batch_refines rests quiet (run.append continued)
  cases stands_rests stands' settled
  have started : BatchEvent.starts (trace source (.download urls :: labels ++ more)) = urls :=
    (List.append_nil _).symm.trans (BatchPhase.run_starts followed')
  have reported : BatchEvent.starts (trace source (.download urls :: labels ++ more)) =
      BatchEvent.reports (trace source (.download urls :: labels ++ more)) :=
    (BatchPhase.run_reports followed').trans (List.append_nil _)
  exact ⟨more, last, continued, inner, settled, started, reported.symm.trans started⟩

/-- Before the first batch everything rests. -/
theorem rests_initial (files : FileSystem) : (initial files).Rests :=
  ⟨rfl, ⟨Table.All.empty, Table.All.empty, rfl⟩, Table.All.empty⟩

/-- The rest of a batch of one URL twice: its file is downloaded, and then found. -/
def downloadedThenFound : List Label :=
  startNext 0 0 ++ [.downloads (.finish 0 [1])] ++
    List.replicate 8 (.downloads (.deliver 0 true)) ++ answerMain 1 ++
    [.main "aaNetworking", .downloads (.advance 1 .succeeds), .main "aaNetworking",
      .main "aaNetworking"] ++ cancelled 2

/-- A URL that is asked for twice is started twice, and the batch rests; and whatever comes of
the first download once it has started, the batch can come to rest. -/
theorem batch_sequenced_twice :
    (∃ target phase, Transition.Run step (initial .empty)
        (.download [track "a.mp3", track "a.mp3"] :: downloadedThenFound) target ∧
      Transition.Run BatchPhase.step (.next [track "a.mp3", track "a.mp3"])
        (trace (initial .empty) (.download [track "a.mp3", track "a.mp3"] :: downloadedThenFound))
        phase ∧ phase = .next [] ∧ downloadedThenFound.countP (Proceeds ·) ≤ 66) ∧
    ∃ more last, (∀ label ∈ more, Undisturbed label ∧ Proceeds label) ∧ last.Rests ∧
      Transition.Run step (initial .empty)
        ((.download [track "a.mp3", track "a.mp3"] :: startNext 0 0) ++ more) last ∧
      BatchEvent.reports (trace (initial .empty)
        ((.download [track "a.mp3", track "a.mp3"] :: startNext 0 0) ++ more)) =
          [track "a.mp3", track "a.mp3"] := by
  constructor
  · have run := Transition.run_iff_execute.mpr (rfl : Transition.execute step (initial .empty)
      (.download [track "a.mp3", track "a.mp3"] :: downloadedThenFound) = some _)
    obtain ⟨⟨phase, followed, _, _, _, complete, _⟩, bounded, _⟩ :=
      batch_sequenced (rests_initial .empty) (by decide) run
    exact ⟨_, phase, run, followed, complete ⟨rfl, ⟨by decide, by decide, rfl⟩, by decide⟩,
      bounded⟩
  · have run := Transition.run_iff_execute.mpr (rfl : Transition.execute step (initial .empty)
      (.download [track "a.mp3", track "a.mp3"] :: startNext 0 0) = some _)
    obtain ⟨_, _, more, last, continued, inner, rests, _, reports⟩ :=
      batch_sequenced (rests_initial .empty) (by decide) run
    exact ⟨more, last, inner, rests, run.append continued, reports⟩

end AwesomeDownloadManager

end AwesomeNetwork
