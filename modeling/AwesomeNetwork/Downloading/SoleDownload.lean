import AwesomeNetwork.Downloading.Completion

/-! # A download that is the only one

A call that begins while the shared object is idle, and that no other call and no
cancellation disturbs, makes one transfer or finds its file. It is reported at its check or
by the block that the delegate queues.
-/

namespace AwesomeNetwork.AwesomeDownload

/-- No call, no transfer and no block is underway. -/
structure Calm (downloads : AwesomeDownload) : Prop where
  calls : downloads.calls.All fun _ call => call.stage = .returned
  transfers : downloads.transfers.All fun _ transfer => transfer.status.active = false
  mainQueue : downloads.mainQueue = []

/-- Nobody else uses the shared object, and every transfer brings its file. -/
def Undisturbed : Label → Prop
  | .download .. | .cancelDownload | .fail _ => False
  | _ => True

instance : DecidablePred Undisturbed
  | .download .. | .cancelDownload | .fail _ => .isFalse id
  | .advance .. | .advanceCancel _ | .delete .. | .finish .. | .writeData .. | .deliver ..
  | .runMain => .isTrue trivial

/-- Every `cancel()` that the step calls leaves its transfer as it is. -/
def Harmless (downloads : AwesomeDownload) (label : Label) : Prop :=
  Cancels downloads label → downloads.transfers.All fun _ transfer => transfer.cancel = transfer

/-- The callbacks and the URL of the shared object are those of the call. -/
structure Holds (downloads : AwesomeDownload) (name : Nat) (url : URL) : Prop where
  progress : downloads.progressCallback = some name
  downloaded : downloads.downloadedCallback = some name
  url : downloads.downloadUrl = some url

/-- What a call has written by the stage, up to the one at which it makes its task. -/
def Prepared (downloads : AwesomeDownload) (name : Nat) (url : URL) : DownloadStage → Prop
  | .checking | .writingFolder | .writingProgress => True
  | .writingDownloaded => downloads.progressCallback = some name
  | .writingUrl => downloads.progressCallback = some name ∧
      downloads.downloadedCallback = some name
  | .cancellingTask | .cancellingSession | .makingSession => downloads.Holds name url
  | .makingTask => downloads.Holds name url ∧ ∃ session, downloads.session = some session ∧
      downloads.sessions.get? session = some false
  | .deleting | .resuming | .returned => False

/-- Where the only download stands. -/
inductive Serving (downloads : AwesomeDownload) (name : Nat) (url : URL) (call : DownloadCall) :
    Prop
  | preparing : downloads.Prepared name url call.stage → call.answers = [] →
      (downloads.transfers.All fun _ transfer => transfer.status.active = false) →
      downloads.mainQueue = [] → Serving downloads name url call
  | transferring (own : Nat) (transfer : Transfer) : downloads.Holds name url →
      (call.stage = .resuming ∧ transfer.status = .suspended ∧
          downloads.downloadTask = some own) ∨
        (call.stage = .returned ∧ transfer.status ≠ .suspended) →
      call.answers = [] → downloads.transfers.get? own = some transfer →
      transfer.status.active = true →
      (downloads.transfers.All fun other transfer => transfer.status.active = true →
        other = own) →
      downloads.results = [] → Serving downloads name url call
  | queued (blocks : List MainBlock) (own : Nat) (success : Bool) : downloads.Holds name url →
      call.stage = .returned → call.answers = [] →
      (downloads.transfers.All fun _ transfer => transfer.status.active = false) →
      downloads.mainQueue = blocks ++ [.downloaded own success] →
      blocks.filterMap MainBlock.result? = [] → Serving downloads name url call
  | existed : call.stage = .returned → call.answers = [.existed] →
      (downloads.transfers.All fun _ transfer => transfer.status.active = false) →
      downloads.mainQueue = [] → Serving downloads name url call

/-- The call `name` of a URL is the only one that is underway, and no cancellation is. -/
structure Sole (downloads : AwesomeDownload) (name : Nat) (url : URL) (call : DownloadCall) :
    Prop where
  found : downloads.calls.get? name = some call
  asked : call.url = some url
  unforced : call.force = false
  others : downloads.calls.All fun other call => other ≠ name → call.stage = .returned
  cancels : downloads.cancels.All fun _ cancel => cancel = .returned
  serving : downloads.Serving name url call

variable {downloads next : AwesomeDownload} {label : Label} {name : Nat} {url : URL}
  {call : DownloadCall}

/-- The main queue grows by the messages of running transfers and by the results that the
delegate hands over. -/
theorem step_mainQueue (taken : step downloads label = some next) (waits : label ≠ .runMain) :
    next.mainQueue = downloads.mainQueue ∨
      (∃ other transfer progress, downloads.transfers.get? other = some transfer ∧
        transfer.status = .running ∧ label = .writeData other progress ∧
        next.mainQueue = downloads.mainQueue ++ [.progress progress]) ∨
      ∃ other goesThrough transfer success, downloads.transfers.get? other = some transfer ∧
        transfer.status = .enqueuing success ∧ label = .deliver other goesThrough ∧
        next.mainQueue = downloads.mainQueue ++ [.downloaded other success] := by
  cases stepCases taken with
  | write caller removal call stage effect found writes =>
      exact Or.inl writes.records.mainQueue
  | cancelTask cancel => exact Or.inl (cancelTask_records downloads).mainQueue
  | cancelSession cancel => exact Or.inl (invalidateAndCancel_records downloads).mainQueue
  | writeData other progress =>
      obtain ⟨transfer, found, running, _⟩ := Table.when_eq_some.mp taken
      exact Or.inr (Or.inl ⟨other, transfer, progress, found, running, rfl, rfl⟩)
  | deliver other goesThrough transfer status effect found handles =>
      generalize reached : transfer.status = current at handles
      cases handles with
      | finishSession => exact Or.inl (finishTasksAndInvalidate_records downloads).mainQueue
      | cancelTask => exact Or.inl (cancelTask_records downloads).mainQueue
      | enqueue success =>
          exact Or.inr (Or.inr ⟨other, goesThrough, transfer, success, found, reached, rfl, rfl⟩)
      | _ => exact Or.inl rfl
  | runProgress => exact (waits rfl).elim
  | runDownloaded => exact (waits rfl).elim
  | _ => exact Or.inl rfl

/-- Without an active transfer nothing is queued. -/
theorem mainQueue_of_inactive
    (inactive : downloads.transfers.All fun _ transfer => transfer.status.active = false)
    (taken : step downloads label = some next) (waits : label ≠ .runMain) :
    next.mainQueue = downloads.mainQueue := by
  rcases step_mainQueue taken waits with
    same | ⟨other, transfer, _, found, reached, _⟩ | ⟨other, _, transfer, _, found, reached, _⟩
  · exact same
  · exact (absurd_of_inactive inactive found (by rw [reached]; rfl)).elim
  · exact (absurd_of_inactive inactive found (by rw [reached]; rfl)).elim

/-- The cancels and the callback for progress are the same. -/
structure SameRest (before after : AwesomeDownload) : Prop where
  cancels : after.cancels = before.cancels
  progress : after.progressCallback = before.progressCallback

theorem cancelTask_rest (downloads : AwesomeDownload) :
    SameRest downloads downloads.cancelTask := by
  unfold cancelTask
  split <;> exact ⟨rfl, rfl⟩

theorem invalidateAndCancel_rest (downloads : AwesomeDownload) :
    SameRest downloads downloads.invalidateAndCancel := by
  unfold invalidateAndCancel
  split <;> exact ⟨rfl, rfl⟩

/-- The delegate leaves the rest alone. -/
theorem Handles.rest {transfer : Transfer} {status status' : TransferStatus}
    {effect : AwesomeDownload} (handles : Handles downloads name transfer status status' effect) :
    SameRest downloads effect := by
  cases handles with
  | finishSession =>
      unfold finishTasksAndInvalidate
      split <;> exact ⟨rfl, rfl⟩
  | cancelTask => exact cancelTask_rest downloads
  | _ => exact ⟨rfl, rfl⟩

/-- The writes of a call leave the cancels alone. -/
theorem Writes.cancels {stage stage' : DownloadStage} {effect : AwesomeDownload}
    (writes : Writes downloads name call stage stage' effect) :
    effect.cancels = downloads.cancels := by
  cases writes with
  | cancelTask => exact (cancelTask_rest downloads).cancels
  | cancelSession => exact (invalidateAndCancel_rest downloads).cancels
  | _ => rfl

/-- What is neither a step of a call nor one of a cancel keeps the cancels and the callback
for progress. -/
theorem step_rest (undisturbed : Undisturbed label)
    (others : ∀ caller removal, label ≠ .advance caller removal)
    (elsewhere : ∀ cancel, label ≠ .advanceCancel cancel)
    (taken : step downloads label = some next) : SameRest downloads next := by
  cases stepCases taken with
  | check caller removal => exact (others caller removal rfl).elim
  | write caller removal => exact (others caller removal rfl).elim
  | cancelTask cancel => exact (elsewhere cancel rfl).elim
  | cancelSession cancel => exact (elsewhere cancel rfl).elim
  | cancelDownload => exact undisturbed.elim
  | deliver other goesThrough transfer status effect found handles =>
      exact ⟨handles.rest.cancels, handles.rest.progress⟩
  | runProgress progress rest queued =>
      unfold runProgress
      split <;> exact ⟨rfl, rfl⟩
  | runDownloaded other success rest queued =>
      unfold runDownloaded
      split <;> exact ⟨rfl, rfl⟩
  | _ => exact ⟨rfl, rfl⟩

/-- The cancels under way are advanced, and others begin with `cancelDownload` only. -/
theorem step_cancels (undisturbed : Undisturbed label)
    (taken : step downloads label = some next) :
    next.cancels = downloads.cancels ∨ ∃ cancel stage stage', label = .advanceCancel cancel ∧
      downloads.cancels.get? cancel = some stage ∧ stage ≠ .returned ∧
      next.cancels = downloads.cancels.modify cancel fun _ => stage' := by
  cases label with
  | advanceCancel cancel =>
      right
      unfold step at taken
      dsimp only at taken
      split at taken <;> cases taken
      next found => exact ⟨cancel, _, _, rfl, found, nofun, rfl⟩
      next found => exact ⟨cancel, _, _, rfl, found, nofun, rfl⟩
  | advance caller removal =>
      left
      cases stepCases taken with
      | check => rfl
      | write _ _ call stage effect found writes => exact writes.cancels
  | _ => exact Or.inl (step_rest undisturbed nofun nofun taken).cancels

/-- Once all cancels have returned, none is advanced. -/
theorem cancels_step (cancels : downloads.cancels.All fun _ cancel => cancel = .returned)
    (undisturbed : Undisturbed label) (taken : step downloads label = some next) :
    (next.cancels.All fun _ cancel => cancel = .returned) ∧
      ∀ cancel, label ≠ .advanceCancel cancel := by
  rcases step_cancels undisturbed taken with same | ⟨cancel, stage, _, _, found, unreturned, _⟩
  · rw [same]
    refine ⟨cancels, fun cancel advances => ?_⟩
    subst advances
    unfold step at taken
    dsimp only at taken
    split at taken
    next found => cases cancels cancel _ found
    next found => cases cancels cancel _ found
    · cases taken
  · exact (unreturned (cancels cancel stage found)).elim

/-- Undisturbed, a calm downloader stays calm and nothing is harmed. -/
theorem calm_step (calm : Calm downloads) (undisturbed : Undisturbed label)
    (taken : step downloads label = some next) : Calm next ∧ Harmless downloads label := by
  have unmade : ∀ caller removal call, label = .advance caller removal →
      downloads.calls.get? caller = some call → call.stage ≠ .makingTask := by
    intro caller removal call _ found
    exact ne_makingTask_of_returned (calm.calls caller call found)
  have waits : label ≠ .runMain := by
    rintro rfl
    unfold step at taken
    rw [calm.mainQueue] at taken
    cases taken
  refine ⟨⟨fun other after present => ?_, inactive_step calm.transfers taken unmade, ?_⟩,
    fun _ other transfer found => cancel_of_inactive (calm.transfers other transfer found)⟩
  · rcases step_call_inv taken present with ⟨before, found, moves⟩ | ⟨_, _, _, begins, _⟩
    · exact moves.returned (calm.calls other before found)
    · rw [begins] at undisturbed
      exact undisturbed.elim
  · exact (mainQueue_of_inactive calm.transfers taken waits).trans calm.mainQueue

/-- A call that was not forced is not forced. -/
theorem CallMoves.unforced {before after : DownloadCall}
    (moves : CallMoves downloads label name before after) (unforced : before.force = false) :
    after.force = false := by
  cases moves with
  | check removal files changed advances checks =>
      cases checks with
      | deleted => rfl
      | _ => exact unforced
  | _ => exact unforced

/-- A sole call is the only one. -/
theorem Sole.only (sole : Sole downloads name url call) : Only downloads name call :=
  ⟨sole.found, sole.others⟩

/-- A call that has not returned is the only one that is underway. -/
theorem Sole.caller_eq (sole : Sole downloads name url call) {caller : Nat} {other : DownloadCall}
    (found : downloads.calls.get? caller = some other) (unreturned : other.stage ≠ .returned) :
    caller = name := by
  by_contra another
  exact unreturned (sole.others caller other found another)

/-- Undisturbed, no other call begins. -/
theorem Undisturbed.begins (undisturbed : Undisturbed label) (url : Option URL)
    (folder : Option String) (force : Bool) : label ≠ .download url folder force := by
  rintro rfl
  exact undisturbed

/-- A step of neither the call nor the main queue leaves the call as it is. -/
theorem Sole.found_step (sole : Sole downloads name url call)
    (elsewhere : ∀ removal, label ≠ .advance name removal) (waits : label ≠ .runMain)
    (taken : step downloads label = some next) : next.calls.get? name = some call := by
  obtain ⟨after, present, moves⟩ := step_call taken sole.found
  cases moves with
  | stay => exact present
  | check removal files changed advances => exact (elsewhere removal advances).elim
  | write removal stage effect advances => exact (elsewhere removal advances).elim
  | answer transfer success runs => exact (waits runs).elim

/-- The shared fields that the call has written are kept by the steps that are not its own. -/
theorem Sole.kept (sole : Sole downloads name url call) (undisturbed : Undisturbed label)
    (elsewhere : ∀ removal, label ≠ .advance name removal)
    (taken : step downloads label = some next) :
    next.progressCallback = downloads.progressCallback ∧
      next.downloadedCallback = downloads.downloadedCallback ∧
      next.downloadUrl = downloads.downloadUrl := by
  have others := no_advance sole.only elsewhere taken
  have rest := step_rest undisturbed others (cancels_step sole.cancels undisturbed taken).2 taken
  rcases step_fields taken with ⟨same, _⟩ | ⟨caller, removal, _, _, _, advances, _⟩
  · exact ⟨rest.progress, same.callback, same.url⟩
  · exact (others caller removal advances).elim

theorem Holds.of_eq (holds : Holds downloads name url)
    (same : next.progressCallback = downloads.progressCallback ∧
      next.downloadedCallback = downloads.downloadedCallback ∧
      next.downloadUrl = downloads.downloadUrl) : Holds next name url :=
  ⟨same.1.trans holds.progress, same.2.1.trans holds.downloaded, same.2.2.trans holds.url⟩

section Others

variable (sole : Sole downloads name url call) (undisturbed : Undisturbed label)
  (elsewhere : ∀ removal, label ≠ .advance name removal)
  (taken : step downloads label = some next)

include sole undisturbed elsewhere taken

/-- The session is kept by the steps of others as long as no transfer is active. -/
theorem session_kept
    (inactive : downloads.transfers.All fun _ transfer => transfer.status.active = false) :
    next.session = downloads.session ∧ next.sessions = downloads.sessions := by
  rcases step_session taken with
    ⟨session, sessions, _⟩ | ⟨caller, removal, _, _, _, advances, _⟩ |
      ⟨other, _, transfer, _, _, _, found, handles⟩ | ⟨cancel, advances⟩
  · exact ⟨session, sessions⟩
  · exact (no_advance sole.only elsewhere taken caller removal advances).elim
  · exact (absurd_of_inactive inactive found handles.active).elim
  · exact ((cancels_step sole.cancels undisturbed taken).2 cancel advances).elim

theorem prepared_kept
    (inactive : downloads.transfers.All fun _ transfer => transfer.status.active = false)
    (prepared : downloads.Prepared name url call.stage) :
    next.Prepared name url call.stage := by
  have same := sole.kept undisturbed elsewhere taken
  generalize call.stage = stage at prepared ⊢
  cases stage with
  | checking | writingFolder | writingProgress => trivial
  | deleting | resuming | returned => exact prepared
  | writingDownloaded => exact same.1.trans prepared
  | writingUrl => exact ⟨same.1.trans prepared.1, same.2.1.trans prepared.2⟩
  | cancellingTask | cancellingSession | makingSession => exact prepared.of_eq same
  | makingTask =>
      obtain ⟨session, sessions⟩ := session_kept sole undisturbed elsewhere taken inactive
      refine ⟨prepared.1.of_eq same, ?_⟩
      rw [session, sessions]
      exact prepared.2

/-- The delegate cancels no transfer but its own, which is over. -/
theorem harmless_other
    (only : ∀ other transfer other' transfer', downloads.transfers.get? other = some transfer →
      downloads.transfers.get? other' = some transfer' → transfer.status.active = true →
      transfer'.status.active = true → other = other') : Harmless downloads label := by
  intro cancels other transfer found
  cases cancels with
  | call caller removal =>
      exact (no_advance sole.only elsewhere taken caller removal rfl).elim
  | cancelDownload cancel =>
      exact ((cancels_step sole.cancels undisturbed taken).2 cancel rfl).elim
  | delegate own goesThrough transfer' present cancelling =>
      by_cases active : transfer.status.active = true
      · cases only other transfer own transfer' found present active (by rw [cancelling]; rfl)
        cases Option.some.inj (found.symm.trans present)
        exact cancel_of_cancelling cancelling
      · exact cancel_of_inactive (Bool.not_eq_true _ ▸ active)

/-- The transfer of the only download moves on towards its result. -/
theorem transfer_kept {own : Nat} {transfer : Transfer} (holds : downloads.Holds name url)
    (present : downloads.transfers.get? own = some transfer)
    (active : transfer.status.active = true)
    (only : downloads.transfers.All fun other transfer => transfer.status.active = true →
      other = own)
    (continues : ∀ goesThrough success, label = .deliver own goesThrough →
      transfer.status ≠ .enqueuing success) :
    ∃ after, next.transfers.get? own = some after ∧ after.status.active = true ∧
      (after.status = .suspended ↔ transfer.status = .suspended) := by
  obtain ⟨after, present', moves⟩ := step_transfer taken present
  have named : downloads.downloadUrl ≠ none := by
    rw [holds.url]
    nofun
  have harmless : Harmless downloads label :=
    harmless_other sole undisturbed elsewhere taken
      fun other transfer other' transfer' found found' active active' =>
        (only other transfer found active).trans (only other' transfer' found' active').symm
  refine ⟨after, present', moves.stays_active active (fun cancels => ?_) ?_ ?_ named continues⟩
  · exact harmless cancels own transfer present
  · intro caller removal _ advances
    exact (no_advance sole.only elsewhere taken caller removal advances).elim
  · rintro rfl
    exact undisturbed

/-- A transfer goes on, or ends with its result in the main queue. -/
theorem transferring_kept {own : Nat} {transfer : Transfer}
    (holds : downloads.Holds name url)
    (stands : (call.stage = .resuming ∧ transfer.status = .suspended ∧
        downloads.downloadTask = some own) ∨
      (call.stage = .returned ∧ transfer.status ≠ .suspended))
    (unanswered : call.answers = [])
    (present : downloads.transfers.get? own = some transfer)
    (active : transfer.status.active = true)
    (only : downloads.transfers.All fun other transfer => transfer.status.active = true →
      other = own) (none : downloads.results = []) : next.Serving name url call := by
  have others := no_advance sole.only elsewhere taken
  have holds' := holds.of_eq (sole.kept undisturbed elsewhere taken)
  have only' := soleActive_step only taken fun caller removal _ advances =>
    (others caller removal advances).elim
  by_cases ends : ∃ goesThrough success, label = .deliver own goesThrough ∧
      transfer.status = .enqueuing success
  · obtain ⟨goesThrough, success, rfl, enqueuing⟩ := ends
    have returned : call.stage = .returned := by
      rcases stands with ⟨_, suspended, _⟩ | ⟨returned, _⟩
      · cases suspended.symm.trans enqueuing
      · exact returned
    have moved := step_enqueuing taken present enqueuing
    refine .queued downloads.mainQueue own success holds' returned unanswered
      (inactive_of_enqueued only taken present enqueuing) ?_ none
    rw [moved]
    rfl
  · have continues : ∀ goesThrough success, label = .deliver own goesThrough →
        transfer.status ≠ .enqueuing success :=
      fun goesThrough success delivers enqueuing =>
        ends ⟨goesThrough, success, delivers, enqueuing⟩
    obtain ⟨after, present', active', suspended⟩ := transfer_kept sole undisturbed elsewhere taken
      holds present active only continues
    have still := no_result_step none only taken present continues
    refine .transferring own after holds' ?_ unanswered present' active' only' still
    rcases stands with ⟨resuming, waits, made⟩ | ⟨returned, runs⟩
    · refine Or.inl ⟨resuming, suspended.mpr waits, ?_⟩
      rcases step_session taken with
        ⟨_, _, same⟩ | ⟨caller, removal, _, _, _, advances, _⟩ |
          ⟨other, _, transfer', _, _, _, found, handles⟩ | ⟨cancel, advances⟩
      · exact same.trans made
      · exact (others caller removal advances).elim
      · cases only other transfer' found handles.active
        cases Option.some.inj (present.symm.trans found)
        rw [waits] at handles
        cases handles
      · exact ((cancels_step sole.cancels undisturbed taken).2 cancel advances).elim
    · exact Or.inr ⟨returned, fun waits => runs (suspended.mp waits)⟩

/-- The steps of others leave the only download where it stands, or its transfer goes on. -/
theorem Sole.other_step (waits : label ≠ .runMain) :
    Sole next name url call ∧ Harmless downloads label := by
  have quiet {blocks : List MainBlock}
      (inactive : downloads.transfers.All fun _ transfer => transfer.status.active = false)
      (queued : downloads.mainQueue = blocks) : next.mainQueue = blocks :=
    (mainQueue_of_inactive inactive taken waits).trans queued
  have harmless
      (inactive : downloads.transfers.All fun _ transfer => transfer.status.active = false) :
      Harmless downloads label :=
    harmless_other sole undisturbed elsewhere taken fun other transfer _ _ found _ active _ =>
      (absurd_of_inactive inactive found active).elim
  have moved : next.Serving name url call ∧ Harmless downloads label := by
    cases sole.serving with
    | preparing prepared unanswered inactive empty =>
        refine ⟨.preparing (prepared_kept sole undisturbed elsewhere taken inactive prepared)
          unanswered (inactive_kept sole.only elsewhere taken inactive) (quiet inactive empty),
          harmless inactive⟩
    | transferring own transfer holds stands unanswered present active only none =>
        refine ⟨transferring_kept sole undisturbed elsewhere taken holds stands unanswered
          present active only none, harmless_other sole undisturbed elsewhere taken ?_⟩
        intro other transfer other' transfer' found found' active active'
        exact (only other transfer found active).trans (only other' transfer' found' active').symm
    | queued blocks own success holds returned unanswered inactive queued none =>
        exact ⟨.queued blocks own success (holds.of_eq (sole.kept undisturbed elsewhere taken))
          returned unanswered (inactive_kept sole.only elsewhere taken inactive)
          (quiet inactive queued) none, harmless inactive⟩
    | existed returned answered inactive empty =>
        exact ⟨.existed returned answered (inactive_kept sole.only elsewhere taken inactive)
          (quiet inactive empty), harmless inactive⟩
  exact ⟨{
    found := sole.found_step elsewhere waits taken
    asked := sole.asked
    unforced := sole.unforced
    others := others_returned sole.others undisturbed.begins taken
    cancels := (cancels_step sole.cancels undisturbed taken).1
    serving := moved.1 }, moved.2⟩

end Others

/-- A call without `force` finds its file, or goes on to write. -/
theorem advance_checking {removal : Removal} (checking : call.stage = .checking)
    (asked : call.url = some url) (unforced : call.force = false)
    (advanced : downloads.advance name call removal = some next) :
    next = downloads.setCall name ((call.answer .existed).moveTo .returned) ∨
      next = downloads.setCall name (call.moveTo .writingFolder) := by
  unfold advance at advanced
  rw [checking, asked] at advanced
  dsimp only at advanced
  split at advanced
  · rw [unforced] at advanced
    exact Or.inl (Option.some.inj advanced).symm
  · exact Or.inr (Option.some.inj advanced).symm

section Own

variable {removal : Removal} (sole : Sole downloads name url call)
  (taken : step downloads (.advance name removal) = some next)

include sole taken

/-- The statements of the call up to the one that makes its task. -/
theorem preparing_own (prepared : downloads.Prepared name url call.stage)
    (unanswered : call.answers = [])
    (inactive : downloads.transfers.All fun _ transfer => transfer.status.active = false)
    (empty : downloads.mainQueue = []) :
    ∃ after, next.calls.get? name = some after ∧ next.Serving name url after := by
  have found := sole.found
  have advanced := (step_advance_eq found).symm.trans taken
  have queued : next.mainQueue = [] :=
    (mainQueue_of_inactive inactive taken nofun).trans empty
  by_cases checking : call.stage = .checking
  · rcases advance_checking checking sole.asked sole.unforced advanced with rfl | rfl
    · refine ⟨_, get?_setCall_self found _, .existed rfl ?_ inactive queued⟩
      exact congrArg (· ++ [_]) unanswered
    · exact ⟨_, get?_setCall_self found _, .preparing trivial unanswered inactive queued⟩
  rcases advance_cases advanced with ⟨files, changed, checks, _⟩ | ⟨stage, effect, writes, rfl⟩
  · rcases checks.early with reached | reached
    · exact (checking reached).elim
    · rw [reached] at prepared
      exact prepared.elim
  refine ⟨_, get?_setCall_self (writes.records.calls ▸ found) _, ?_⟩
  have still (unmade : call.stage ≠ .makingTask) :
      (effect.setCall name (call.moveTo stage)).transfers.All fun _ transfer =>
        transfer.status.active = false := by
    refine inactive_step inactive taken fun caller _ other advances found' => ?_
    cases advances
    cases Option.some.inj (found.symm.trans found')
    exact unmade
  generalize reached : call.stage = current at writes prepared still
  cases writes with
  | folder => exact .preparing trivial unanswered (still nofun) queued
  | progress => exact .preparing rfl unanswered (still nofun) queued
  | downloaded => exact .preparing ⟨prepared, rfl⟩ unanswered (still nofun) queued
  | url =>
      exact .preparing ⟨prepared.1, prepared.2, sole.asked⟩ unanswered (still nofun) queued
  | cancelTask =>
      refine .preparing (prepared.of_eq ⟨?_, ?_, ?_⟩) unanswered (still nofun) queued
      · exact (cancelTask_rest downloads).progress
      · exact (cancelTask_fields downloads).callback
      · exact (cancelTask_fields downloads).url
  | cancelSession =>
      refine .preparing (prepared.of_eq ⟨?_, ?_, ?_⟩) unanswered (still nofun) queued
      · exact (invalidateAndCancel_rest downloads).progress
      · exact (invalidateAndCancel_fields downloads).callback
      · exact (invalidateAndCancel_fields downloads).url
  | session =>
      refine .preparing ⟨prepared.of_eq ⟨rfl, rfl, rfl⟩, _, rfl, ?_⟩ unanswered (still nofun) queued
      exact Table.get?_push_self ..
  | noTask absent =>
      obtain ⟨_, session, present, _⟩ := prepared
      cases absent.symm.trans present
  | task session present usable =>
      -- no transfer was active, so the new one is the only active one
      refine .transferring downloads.transfers.size _ (prepared.1.of_eq ⟨rfl, rfl, rfl⟩)
        (Or.inl ⟨rfl, rfl, rfl⟩) unanswered (Table.get?_push_self ..) rfl ?_ ?_
      · intro other transfer present' active
        rcases Table.get?_push_cases present' with old | ⟨newest, _⟩
        · exact (absurd_of_inactive inactive old active).elim
        · exact newest
      · unfold results
        rw [queued]
        rfl
  | resumeNone | resume => exact prepared.elim

/-- The call resumes the task that it has made, and returns. -/
theorem resuming_own {own : Nat} {transfer : Transfer} (holds : downloads.Holds name url)
    (resuming : call.stage = .resuming) (suspended : transfer.status = .suspended)
    (made : downloads.downloadTask = some own) (unanswered : call.answers = [])
    (present : downloads.transfers.get? own = some transfer)
    (only : downloads.transfers.All fun other transfer => transfer.status.active = true →
      other = own) (none : downloads.results = []) :
    ∃ after, next.calls.get? name = some after ∧ next.Serving name url after := by
  have moved := step_resuming taken sole.found resuming made
  have resumed := running_of_resumed taken sole.found resuming made present suspended
  have only' : next.transfers.All fun other transfer => transfer.status.active = true →
      other = own := by
    refine soleActive_step only taken fun caller _ call' advances found making => ?_
    cases advances
    cases Option.some.inj (sole.found.symm.trans found)
    cases resuming.symm.trans making
  refine ⟨call.moveTo .returned, ?_, .transferring own { transfer with status := .running } ?_
    (Or.inr ⟨rfl, nofun⟩) unanswered resumed rfl only' ?_⟩
  · rw [moved]
    exact get?_setCall_self sole.found _
  · rw [moved]
    exact holds.of_eq ⟨rfl, rfl, rfl⟩
  · rw [moved]
    exact none

/-- A step of the call is its next statement. -/
theorem Sole.own_step :
    ∃ after, Sole next name url after ∧ Harmless downloads (.advance name removal) := by
  have returned_elim {motive : Prop} (returned : call.stage = .returned) : motive := by
    rw [not_advance_returned sole.found returned] at taken
    cases taken
  have moved : ∃ after, next.calls.get? name = some after ∧ next.Serving name url after := by
    cases sole.serving with
    | preparing prepared unanswered inactive empty =>
        exact preparing_own sole taken prepared unanswered inactive empty
    | transferring own transfer holds stands unanswered present active only none =>
        rcases stands with ⟨resuming, suspended, made⟩ | ⟨returned, _⟩
        · exact resuming_own sole taken holds resuming suspended made unanswered present only none
        · exact returned_elim returned
    | queued blocks own success holds returned => exact returned_elim returned
    | existed returned => exact returned_elim returned
  have harmless : Harmless downloads (.advance name removal) := by
    intro cancels other transfer found
    cases cancels with
    | call caller through call' found' cancelling =>
        cases Option.some.inj (sole.found.symm.trans found')
        cases sole.serving with
        | preparing prepared unanswered inactive empty =>
            exact cancel_of_inactive (inactive other transfer found)
        | transferring own transfer holds stands =>
            rcases stands with ⟨resuming, _⟩ | ⟨returned, _⟩
            · rw [resuming] at cancelling
              rcases cancelling with reached | reached <;> cases reached
            · exact returned_elim returned
        | queued blocks own success holds returned => exact returned_elim returned
        | existed returned => exact returned_elim returned
  have undisturbed : Undisturbed (.advance name removal) := trivial
  obtain ⟨after, present, serving⟩ := moved
  obtain ⟨after', present', moves⟩ := step_call taken sole.found
  cases Option.some.inj (present.symm.trans present')
  exact ⟨after, {
    found := present
    asked := moves.url_folder_eq.1.trans sole.asked
    unforced := moves.unforced sole.unforced
    others := others_returned sole.others undisturbed.begins taken
    cancels := (cancels_step sole.cancels undisturbed taken).1
    serving := serving }, harmless⟩

end Own

/-- Every step but one of the main queue leaves the call the only one. -/
theorem Sole.step (sole : Sole downloads name url call) (undisturbed : Undisturbed label)
    (waits : label ≠ .runMain) (taken : AwesomeDownload.step downloads label = some next) :
    ∃ after, Sole next name url after ∧ Harmless downloads label := by
  by_cases own : ∃ removal, label = .advance name removal
  · obtain ⟨removal, rfl⟩ := own
    exact sole.own_step taken
  · exact ⟨call, sole.other_step undisturbed (fun removal advances =>
      own ⟨removal, advances⟩) taken waits⟩

section Blocks

variable (sole : Sole downloads name url call) (returned : call.stage = .returned)
  (unanswered : call.answers = [])

include sole returned unanswered

/-- The shared object holds the sole call. -/
theorem Sole.holds : downloads.Holds name url := by
  cases sole.serving with
  | preparing prepared =>
      rw [returned] at prepared
      exact prepared.elim
  | transferring own transfer holds => exact holds
  | queued blocks own success holds => exact holds
  | existed _ answered => cases unanswered.symm.trans answered

/-- A block with a progress leaves the call waiting for its result. -/
theorem Sole.runProgress {progress : DownloadProgress} {rest : List MainBlock}
    (first : downloads.mainQueue = .progress progress :: rest) :
    Sole ({ downloads with mainQueue := rest }.runProgress progress) name url call := by
  have holds := sole.holds returned unanswered
  have ran : { downloads with mainQueue := rest }.runProgress progress =
      { downloads with
        mainQueue := rest
        progressed := downloads.progressed ++ [(name, progress)] } := by
    unfold AwesomeDownload.runProgress
    dsimp only
    rw [holds.progress]
  rw [ran]
  refine ⟨sole.found, sole.asked, sole.unforced, sole.others, sole.cancels, ?_⟩
  cases sole.serving with
  | preparing prepared =>
      rw [returned] at prepared
      exact prepared.elim
  | transferring own transfer _ stands _ present active only none =>
      refine .transferring own transfer (holds.of_eq ⟨rfl, rfl, rfl⟩) stands unanswered present
        active only ?_
      unfold results at none
      rw [first] at none
      exact none
  | queued blocks own success _ _ _ inactive queued none =>
      rw [first] at queued
      cases blocks with
      | nil => cases queued
      | cons block blocks =>
          obtain ⟨rfl, rfl⟩ := List.cons.inj queued
          exact .queued blocks own success (holds.of_eq ⟨rfl, rfl, rfl⟩) returned unanswered
            inactive rfl none
  | existed _ answered => cases unanswered.symm.trans answered

/-- The block with the result ends the download. -/
theorem Sole.runDownloaded {other : Nat} {success : Bool} {rest : List MainBlock}
    (first : downloads.mainQueue = .downloaded other success :: rest) :
    Calm ({ downloads with mainQueue := rest }.runDownloaded other success) := by
  have holds := sole.holds returned unanswered
  have ran : { downloads with mainQueue := rest }.runDownloaded other success =
      { downloads with
        mainQueue := rest
        calls := downloads.calls.modify name (·.answer (.transferred other success)) } := by
    unfold AwesomeDownload.runDownloaded
    dsimp only
    rw [holds.downloaded]
  rw [ran]
  cases sole.serving with
  | preparing prepared =>
      rw [returned] at prepared
      exact prepared.elim
  | transferring own transfer _ _ _ _ _ _ none =>
      unfold results at none
      rw [first] at none
      cases none
  | queued blocks own success' _ _ _ inactive queued none =>
      rw [first] at queued
      cases blocks with
      | nil =>
          obtain ⟨_, rfl⟩ := List.cons.inj queued
          refine ⟨fun caller after present => ?_, inactive, rfl⟩
          dsimp only at present
          rw [Table.get?_modify] at present
          by_cases own : caller = name
          · rw [if_pos own, own, sole.found] at present
            cases present
            exact returned
          · rw [if_neg own] at present
            exact sole.others caller after present own
      | cons block blocks =>
          obtain ⟨rfl, _⟩ := List.cons.inj queued
          cases none
  | existed _ answered => cases unanswered.symm.trans answered

end Blocks

/-- A step that brings the only download on. -/
def Proceeds : Label → Prop
  | .advance .. | .advanceCancel _ | .finish .. | .deliver .. | .runMain => True
  | _ => False

/-- The delegate always has a next statement for an active transfer with its file. -/
theorem deliver_isSome {own : Nat} {transfer : Transfer}
    (present : downloads.transfers.get? own = some transfer)
    (active : transfer.status.active = true)
    (notSuspended : transfer.status ≠ .suspended) (notRunning : transfer.status ≠ .running) :
    (AwesomeDownload.step downloads (.deliver own true)).isSome = true := by
  unfold AwesomeDownload.step
  dsimp only
  rw [present, Option.bind_some]
  unfold deliver
  split
  · rfl
  · rfl
  · rfl
  · rfl
  · split <;> rfl
  · split <;> rfl
  · rfl
  · rfl
  · next finished clearing cancelling clearingTask reading creating moving enqueuing =>
      cases reached : transfer.status with
      | suspended => exact (notSuspended reached).elim
      | running => exact (notRunning reached).elim
      | finished => exact (finished reached).elim
      | clearingSession => exact (clearing reached).elim
      | cancellingTask => exact (cancelling reached).elim
      | clearingTask => exact (clearingTask reached).elim
      | readingUrl => exact (reading reached).elim
      | creatingFolder url => exact (creating url reached).elim
      | moving url => exact (moving url reached).elim
      | enqueuing success => exact (enqueuing success reached).elim
      | cancelled | failed | handled | dropped =>
          rw [reached] at active
          cases active

/-- A call that has not returned has a next statement. -/
theorem Sole.advance_isSome (sole : Sole downloads name url call)
    (unreturned : call.stage ≠ .returned) :
    (AwesomeDownload.step downloads (.advance name .succeeds)).isSome = true := by
  unfold AwesomeDownload.step
  dsimp only
  rw [sole.found, Option.bind_some]
  cases sole.serving with
  | preparing prepared =>
      unfold advance
      cases reached : call.stage with
      | checking =>
          rw [sole.asked]
          dsimp only
          split
          · split <;> rfl
          · rfl
      | makingTask =>
          rw [reached] at prepared
          obtain ⟨_, session, present, valid⟩ := prepared
          rw [present]
          dsimp only
          rw [if_pos valid]
          rfl
      | deleting | resuming | returned =>
          rw [reached] at prepared
          exact prepared.elim
      | _ => rfl
  | transferring own transfer holds stands =>
      rcases stands with ⟨resuming, _, made⟩ | ⟨returned, _⟩
      · unfold advance
        rw [resuming, made]
        rfl
      · exact (unreturned returned).elim
  | queued blocks own success holds returned => exact (unreturned returned).elim
  | existed returned => exact (unreturned returned).elim

/-- A call that waits for its result gets it from the session, the delegate or a block. -/
theorem Sole.waiting_proceeds (sole : Sole downloads name url call)
    (returned : call.stage = .returned) (unanswered : call.answers = []) :
    downloads.mainQueue ≠ [] ∨ ∃ label, Undisturbed label ∧ Proceeds label ∧ label ≠ .runMain ∧
      (AwesomeDownload.step downloads label).isSome = true := by
  cases sole.serving with
  | preparing prepared =>
      rw [returned] at prepared
      exact prepared.elim
  | transferring own transfer holds stands _ present active =>
      right
      have notSuspended : transfer.status ≠ .suspended := by
        rcases stands with ⟨resuming, _⟩ | ⟨_, runs⟩
        · cases returned.symm.trans resuming
        · exact runs
      by_cases running : transfer.status = .running
      · refine ⟨.finish own [], trivial, trivial, nofun, ?_⟩
        unfold AwesomeDownload.step
        exact Option.isSome_iff_exists.mpr
          ⟨_, Table.when_eq_some.mpr ⟨transfer, present, running, rfl⟩⟩
      · exact ⟨.deliver own true, trivial, trivial, nofun,
          deliver_isSome present active notSuspended running⟩
  | queued blocks own success _ _ _ _ queued =>
      left
      rw [queued]
      exact List.append_ne_nil_of_right_ne_nil _ (List.cons_ne_nil _ _)
  | existed _ answered => cases unanswered.symm.trans answered

end AwesomeNetwork.AwesomeDownload
