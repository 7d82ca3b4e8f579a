import AwesomeNetwork.Downloading.AwesomeDownload

/-! # What a step does to each part of the downloads

The calls, the transfers, the shared fields, the log of moves and the main queue
after a step, each in terms of what they were before it.
-/

namespace AwesomeNetwork

/-- The result that a block brings, if it brings one. -/
def MainBlock.result? : MainBlock → Option (Nat × Bool)
  | .progress _ => none
  | .downloaded transfer success => some (transfer, success)

/-- The delegate has begun to handle the finish message of the transfer. -/
def TransferStatus.handling : TransferStatus → Bool
  | .suspended | .running | .cancelled | .failed | .finished => false
  | _ => true

/-- A transfer that is not cancelled was not changed by a cancel. -/
theorem Transfer.status_of_cancel {transfer : Transfer} {status : TransferStatus}
    (reached : transfer.cancel.status = status) (different : status ≠ .cancelled) :
    transfer.status = status := by
  unfold Transfer.cancel at reached
  split at reached
  · exact (different reached.symm).elim
  · exact reached

/-- A transfer that is not running was not changed by a resume. -/
theorem Transfer.status_of_resume {transfer : Transfer} {status : TransferStatus}
    (reached : transfer.resume.status = status) (different : status ≠ .running) :
    transfer.status = status := by
  unfold Transfer.resume at reached
  split at reached
  · exact (different reached.symm).elim
  · exact reached

namespace AwesomeDownload

/-- The results that the pending blocks of the main queue carry. -/
def results (downloads : AwesomeDownload) : List (Nat × Bool) :=
  downloads.mainQueue.filterMap MainBlock.result?

/-- The result that the next block of the main queue carries. -/
def nextResult (downloads : AwesomeDownload) : Option (Nat × Bool) :=
  downloads.mainQueue.head?.bind MainBlock.result?

/-- The shared fields that a delegate or a queued block reads are the same, and no
call has begun to write them. -/
structure SameFields (before after : AwesomeDownload) : Prop where
  url : after.downloadUrl = before.downloadUrl
  folder : after.downloadFolder = before.downloadFolder
  callback : after.downloadedCallback = before.downloadedCallback
  starts : after.starts = before.starts

/-- The calls, the log of moves and the main queue are the same. -/
structure SameRecords (before after : AwesomeDownload) : Prop where
  calls : after.calls = before.calls
  moves : after.moves = before.moves
  mainQueue : after.mainQueue = before.mainQueue

/-- How a step moves the call `name`. -/
inductive CallMoves (downloads : AwesomeDownload) (label : Label) (name : Nat)
    (before : DownloadCall) : DownloadCall → Prop
  | stay : (∀ removal, label ≠ .advance name removal) →
      CallMoves downloads label name before before
  | check (removal : Removal) (files : FileSystem) (changed : DownloadCall) :
      label = .advance name removal → Checks downloads before files changed →
      CallMoves downloads label name before changed
  | write (removal : Removal) (stage : DownloadStage) (effect : AwesomeDownload) :
      label = .advance name removal →
      Writes downloads name before before.stage stage effect →
      CallMoves downloads label name before (before.moveTo stage)
  | answer (transfer : Nat) (success : Bool) : label = .runMain →
      downloads.nextResult = some (transfer, success) →
      downloads.downloadedCallback = some name →
      CallMoves downloads label name before (before.answer (.transferred transfer success))

/-- The steps that call `cancel()` on transfers. -/
inductive Cancels (downloads : AwesomeDownload) : Label → Prop
  | call (name : Nat) (removal : Removal) (call : DownloadCall) :
      downloads.calls.get? name = some call →
      call.stage = .cancellingTask ∨ call.stage = .cancellingSession →
      Cancels downloads (.advance name removal)
  | delegate (name : Nat) (goesThrough : Bool) (transfer : Transfer) :
      downloads.transfers.get? name = some transfer → transfer.status = .cancellingTask →
      Cancels downloads (.deliver name goesThrough)
  | cancelDownload (cancel : Nat) : Cancels downloads (.advanceCancel cancel)

/-- How a step moves the transfer `name`. -/
inductive TransferMoves (downloads : AwesomeDownload) (label : Label) (name : Nat)
    (before : Transfer) : Transfer → Prop
  | stay : (∀ goesThrough, label ≠ .deliver name goesThrough) →
      TransferMoves downloads label name before before
  | cancel : Cancels downloads label → TransferMoves downloads label name before before.cancel
  | resume (caller : Nat) (removal : Removal) (call : DownloadCall) :
      label = .advance caller removal → downloads.calls.get? caller = some call →
      call.stage = .resuming → downloads.downloadTask = some name →
      TransferMoves downloads label name before before.resume
  | finish (bytes : Data) : label = .finish name bytes → before.status = .running →
      TransferMoves downloads label name before { before with bytes := bytes, status := .finished }
  | fail : label = .fail name → before.status = .running →
      TransferMoves downloads label name before { before with status := .failed }
  | handle (goesThrough : Bool) (status : TransferStatus) (effect : AwesomeDownload) :
      label = .deliver name goesThrough →
      Handles downloads name before before.status status effect →
      TransferMoves downloads label name before { before with status := status }

variable {downloads next effect : AwesomeDownload} {label : Label} {name : Nat}
  {call : DownloadCall} {transfer : Transfer} {stage stage' : DownloadStage}
  {status status' : TransferStatus}

/-- Only the check and the deletion come before the writes. -/
theorem Checks.early {files : FileSystem} {changed : DownloadCall}
    (checks : Checks downloads call files changed) :
    call.stage = .checking ∨ call.stage = .deleting := by
  cases checks with
  | deleted _ deleting => exact Or.inr deleting
  | noUrl checking | existed _ checking | toDelete checking | toWrite _ checking =>
      exact Or.inl checking

/-- A call that has made its task is past its checks. -/
theorem Checks.unreturned {files : FileSystem} {changed : DownloadCall}
    (checks : Checks downloads call files changed) :
    ¬ (call.stage = .resuming ∨ call.stage = .returned) := by
  intro started
  rcases checks.early with reached | reached <;> rw [reached] at started <;>
    rcases started with started | started <;> cases started

theorem cancelTask_fields (downloads : AwesomeDownload) :
    SameFields downloads downloads.cancelTask := by
  unfold cancelTask
  split <;> exact ⟨rfl, rfl, rfl, rfl⟩

theorem cancelTask_records (downloads : AwesomeDownload) :
    SameRecords downloads downloads.cancelTask := by
  unfold cancelTask
  split <;> exact ⟨rfl, rfl, rfl⟩

theorem invalidateAndCancel_fields (downloads : AwesomeDownload) :
    SameFields downloads downloads.invalidateAndCancel := by
  unfold invalidateAndCancel
  split <;> exact ⟨rfl, rfl, rfl, rfl⟩

theorem invalidateAndCancel_records (downloads : AwesomeDownload) :
    SameRecords downloads downloads.invalidateAndCancel := by
  unfold invalidateAndCancel
  split <;> exact ⟨rfl, rfl, rfl⟩

theorem finishTasksAndInvalidate_fields (downloads : AwesomeDownload) :
    SameFields downloads downloads.finishTasksAndInvalidate := by
  unfold finishTasksAndInvalidate
  split <;> exact ⟨rfl, rfl, rfl, rfl⟩

theorem finishTasksAndInvalidate_records (downloads : AwesomeDownload) :
    SameRecords downloads downloads.finishTasksAndInvalidate := by
  unfold finishTasksAndInvalidate
  split <;> exact ⟨rfl, rfl, rfl⟩

theorem transfers_finishTasksAndInvalidate (downloads : AwesomeDownload) :
    downloads.finishTasksAndInvalidate.transfers = downloads.transfers := by
  unfold finishTasksAndInvalidate
  split <;> rfl

/-- The writes of a call leave the calls, the log of moves and the main queue. -/
theorem Writes.records (writes : Writes downloads name call stage stage' effect) :
    SameRecords downloads effect := by
  cases writes with
  | cancelTask => exact cancelTask_records downloads
  | cancelSession => exact invalidateAndCancel_records downloads
  | _ => exact ⟨rfl, rfl, rfl⟩

/-- The delegate writes none of the fields. -/
theorem Handles.fields (handles : Handles downloads name transfer status status' effect) :
    SameFields downloads effect := by
  cases handles with
  | finishSession => exact finishTasksAndInvalidate_fields downloads
  | cancelTask => exact cancelTask_fields downloads
  | _ => exact ⟨rfl, rfl, rfl, rfl⟩

/-- The delegate changes no call. -/
theorem Handles.calls (handles : Handles downloads name transfer status status' effect) :
    effect.calls = downloads.calls := by
  cases handles with
  | finishSession => exact (finishTasksAndInvalidate_records downloads).calls
  | cancelTask => exact (cancelTask_records downloads).calls
  | _ => rfl

theorem calls_runProgress (downloads : AwesomeDownload) (progress : DownloadProgress) :
    (downloads.runProgress progress).calls = downloads.calls := by
  unfold runProgress
  split <;> rfl

/-- A step moves every call there is. -/
theorem step_call {before : DownloadCall} (taken : step downloads label = some next)
    (present : downloads.calls.get? name = some before) :
    ∃ after, next.calls.get? name = some after ∧ CallMoves downloads label name before after := by
  have kept (others : ∀ removal, label ≠ .advance name removal)
      (calls : next.calls = downloads.calls) :
      ∃ after, next.calls.get? name = some after ∧ CallMoves downloads label name before after :=
    ⟨before, calls ▸ present, .stay others⟩
  cases stepCases taken with
  | download url folder force => exact ⟨before, Table.get?_push_of_get? _ present, .stay nofun⟩
  | check other removal call files changed found checks =>
      unfold setCall
      dsimp only
      rw [Table.get?_modify, present]
      by_cases same : name = other
      · subst same
        cases Option.some.inj (found.symm.trans present)
        rw [if_pos rfl]
        exact ⟨changed, rfl, .check removal files changed rfl checks⟩
      · rw [if_neg same]
        exact ⟨before, rfl, .stay fun _ equal => same (Label.advance.inj equal).1.symm⟩
  | write other removal call stage effect found writes =>
      unfold setCall
      dsimp only
      rw [writes.records.calls, Table.get?_modify, present]
      by_cases same : name = other
      · subst same
        cases Option.some.inj (found.symm.trans present)
        rw [if_pos rfl]
        exact ⟨_, rfl, .write removal stage effect rfl writes⟩
      · rw [if_neg same]
        exact ⟨before, rfl, .stay fun _ equal => same (Label.advance.inj equal).1.symm⟩
  | cancelTask cancel => exact kept nofun (cancelTask_records downloads).calls
  | cancelSession cancel => exact kept nofun (invalidateAndCancel_records downloads).calls
  | deliver other goesThrough transfer status effect found handles =>
      exact kept nofun handles.calls
  | runProgress progress rest queued => exact kept nofun (calls_runProgress _ progress)
  | runDownloaded transfer success rest queued =>
      unfold runDownloaded
      cases owner : downloads.downloadedCallback with
      | none =>
          refine ⟨before, ?_, .stay nofun⟩
          dsimp only
          exact present
      | some caller =>
          dsimp only
          rw [Table.get?_modify, present]
          by_cases same : name = caller
          · subst same
            rw [if_pos rfl]
            refine ⟨_, rfl, .answer transfer success rfl ?_ owner⟩
            unfold nextResult
            rw [queued]
            rfl
          · rw [if_neg same]
            exact ⟨before, rfl, .stay nofun⟩
  | _ => exact kept nofun rfl

theorem size_calls (taken : step downloads label = some next) :
    next.calls.size = downloads.calls.size ∨
      ∃ url folder force, label = .download url folder force ∧
        next.calls = downloads.calls.push ⟨url, folder, force, .checking, []⟩ := by
  have same (calls : next.calls = downloads.calls) :
      next.calls.size = downloads.calls.size ∨
        ∃ url folder force, label = .download url folder force ∧
          next.calls = downloads.calls.push ⟨url, folder, force, .checking, []⟩ :=
    Or.inl (by rw [calls])
  cases stepCases taken with
  | download url folder force => exact Or.inr ⟨url, folder, force, rfl, rfl⟩
  | check other removal call files changed found checks => exact Or.inl (Table.size_modify ..)
  | write other removal call stage effect found writes =>
      left
      unfold setCall
      dsimp only
      rw [writes.records.calls]
      exact Table.size_modify ..
  | cancelTask cancel => exact same (cancelTask_records downloads).calls
  | cancelSession cancel => exact same (invalidateAndCancel_records downloads).calls
  | deliver other goesThrough transfer status effect found handles => exact same handles.calls
  | runProgress progress rest queued => exact same (calls_runProgress _ progress)
  | runDownloaded transfer success rest queued =>
      left
      unfold runDownloaded
      split
      · rfl
      · exact Table.size_modify ..
  | _ => exact same rfl

/-- Every call after a step is a moved one or the one that begins. -/
theorem step_call_inv {after : DownloadCall} (taken : step downloads label = some next)
    (present : next.calls.get? name = some after) :
    (∃ before, downloads.calls.get? name = some before ∧
        CallMoves downloads label name before after) ∨
      ∃ url folder force, label = .download url folder force ∧ name = downloads.calls.size ∧
        after = ⟨url, folder, force, .checking, []⟩ := by
  cases found : downloads.calls.get? name with
  | some before =>
      obtain ⟨other, kept, moves⟩ := step_call taken found
      cases Option.some.inj (kept.symm.trans present)
      exact Or.inl ⟨before, rfl, moves⟩
  | none =>
      have beyond := Table.size_le_of_get?_none found
      have below := Table.lt_size_of_get? present
      rcases size_calls taken with same | ⟨url, folder, force, begins, calls⟩
      · omega
      · rw [calls] at present
        rcases Table.get?_push_cases present with old | ⟨last, rfl⟩
        · rw [found] at old
          cases old
        · exact Or.inr ⟨url, folder, force, begins, last, rfl⟩

theorem get?_setCall_self (found : downloads.calls.get? name = some call)
    (changed : DownloadCall) : (downloads.setCall name changed).calls.get? name = some changed := by
  unfold setCall
  dsimp only
  rw [Table.get?_modify_self, found]
  rfl

/-- Only the task that the shared object holds is cancelled. -/
theorem get?_cancelTask (downloads : AwesomeDownload) (name : Nat) :
    downloads.cancelTask.transfers.get? name =
      if downloads.downloadTask = some name then (downloads.transfers.get? name).map Transfer.cancel
      else downloads.transfers.get? name := by
  unfold cancelTask
  cases downloads.downloadTask with
  | none => rfl
  | some task =>
      dsimp only
      rw [Table.get?_modify]
      by_cases same : name = task
      · rw [if_pos same, if_pos (by rw [same])]
      · rw [if_neg same, if_neg fun equal => same (Option.some.inj equal).symm]

/-- Only the transfers of the session that the shared object holds are cancelled. -/
theorem get?_invalidateAndCancel (downloads : AwesomeDownload) (name : Nat) :
    downloads.invalidateAndCancel.transfers.get? name =
      (downloads.transfers.get? name).map fun transfer =>
        if downloads.session = some transfer.session then transfer.cancel else transfer := by
  unfold invalidateAndCancel
  cases downloads.session with
  | none =>
      simp only [reduceCtorEq, ↓reduceIte, Option.map_id']
  | some session =>
      unfold Table.get?
      dsimp only
      rw [List.getElem?_map]
      congr 1
      funext transfer
      by_cases same : transfer.session = session
      · rw [if_pos same, if_pos (by rw [same])]
      · rw [if_neg same, if_neg fun equal => same (Option.some.inj equal).symm]

theorem get?_setStatus (downloads : AwesomeDownload) (other : Nat) (status : TransferStatus)
    (name : Nat) :
    (downloads.setStatus other status).transfers.get? name =
      if name = other then
        (downloads.transfers.get? name).map fun transfer => { transfer with status := status }
      else downloads.transfers.get? name :=
  Table.get?_modify ..

/-- What a delegate does before it notes its next statement leaves its own transfer. -/
theorem Handles.own (handles : Handles downloads name transfer transfer.status status' effect)
    (present : downloads.transfers.get? name = some transfer) :
    effect.transfers.get? name = some transfer := by
  generalize reached : transfer.status = current at handles
  cases handles with
  | finishSession =>
      rw [transfers_finishTasksAndInvalidate]
      exact present
  | cancelTask =>
      rw [get?_cancelTask, present]
      have idle : transfer.cancel = transfer := by
        unfold Transfer.cancel
        rw [reached]
        rfl
      split
      · rw [Option.map_some, idle]
      · rfl
  | _ => exact present

/-- A step moves every transfer there is. -/
theorem step_transfer {before : Transfer} (taken : step downloads label = some next)
    (present : downloads.transfers.get? name = some before) :
    ∃ after, next.transfers.get? name = some after ∧
      TransferMoves downloads label name before after := by
  have kept (others : ∀ goesThrough, label ≠ .deliver name goesThrough)
      (transfers : next.transfers = downloads.transfers) :
      ∃ after, next.transfers.get? name = some after ∧
        TransferMoves downloads label name before after :=
    ⟨before, transfers ▸ present, .stay others⟩
  have cancelled (cancels : Cancels downloads label)
      (others : ∀ goesThrough, label ≠ .deliver name goesThrough)
      (transfers : next.transfers = downloads.cancelTask.transfers ∨
        next.transfers = downloads.invalidateAndCancel.transfers) :
      ∃ after, next.transfers.get? name = some after ∧
        TransferMoves downloads label name before after := by
    rcases transfers with transfers | transfers
    · rw [transfers, get?_cancelTask, present]
      split
      · exact ⟨_, rfl, .cancel cancels⟩
      · exact ⟨_, rfl, .stay others⟩
    · rw [transfers, get?_invalidateAndCancel, present]
      refine ⟨_, rfl, ?_⟩
      dsimp only
      split
      · exact .cancel cancels
      · exact .stay others
  cases stepCases taken with
  | write other removal call stage effect found writes =>
      generalize reached : call.stage = current at writes
      cases writes with
      | cancelTask =>
          exact cancelled (.call other removal call found (Or.inl reached)) nofun (Or.inl rfl)
      | cancelSession =>
          exact cancelled (.call other removal call found (Or.inr reached)) nofun (Or.inr rfl)
      | task session => exact ⟨before, Table.get?_push_of_get? _ present, .stay nofun⟩
      | resume task resumed =>
          unfold setCall
          dsimp only
          rw [Table.get?_modify, present]
          by_cases same : name = task
          · subst same
            rw [if_pos rfl]
            exact ⟨_, rfl, .resume other removal call rfl found reached resumed⟩
          · rw [if_neg same]
            exact ⟨before, rfl, .stay nofun⟩
      | _ => exact kept nofun rfl
  | cancelTask cancel => exact cancelled (.cancelDownload cancel) nofun (Or.inl rfl)
  | cancelSession cancel => exact cancelled (.cancelDownload cancel) nofun (Or.inr rfl)
  | finish other bytes transfer found running =>
      dsimp only
      rw [Table.get?_modify, present]
      by_cases same : name = other
      · subst same
        cases Option.some.inj (found.symm.trans present)
        rw [if_pos rfl]
        exact ⟨_, rfl, .finish bytes rfl running⟩
      · rw [if_neg same]
        exact ⟨before, rfl, .stay nofun⟩
  | fail other transfer found running =>
      rw [get?_setStatus, present]
      by_cases same : name = other
      · subst same
        cases Option.some.inj (found.symm.trans present)
        rw [if_pos rfl]
        exact ⟨_, rfl, .fail rfl running⟩
      · rw [if_neg same]
        exact ⟨before, rfl, .stay nofun⟩
  | deliver other goesThrough transfer status effect found handles =>
      rw [get?_setStatus]
      by_cases same : name = other
      · subst same
        cases Option.some.inj (found.symm.trans present)
        rw [if_pos rfl, handles.own found]
        exact ⟨_, rfl, .handle goesThrough status effect rfl handles⟩
      · rw [if_neg same]
        have others (through : Bool) : Label.deliver other goesThrough ≠ .deliver name through :=
          fun equal => same (Label.deliver.inj equal).1.symm
        generalize reached : transfer.status = current at handles
        cases handles with
        | finishSession =>
            rw [transfers_finishTasksAndInvalidate]
            exact ⟨before, present, .stay others⟩
        | cancelTask =>
            rw [get?_cancelTask, present]
            split
            · exact ⟨_, rfl, .cancel (.delegate other goesThrough transfer found reached)⟩
            · exact ⟨_, rfl, .stay others⟩
        | _ => exact ⟨before, present, .stay others⟩
  | runProgress progress rest queued =>
      refine kept nofun ?_
      unfold runProgress
      split <;> rfl
  | runDownloaded transfer success rest queued =>
      refine kept nofun ?_
      unfold runDownloaded
      split <;> rfl
  | _ => exact kept nofun rfl

theorem transfers_runDownloaded (downloads : AwesomeDownload) (other : Nat) (success : Bool) :
    (downloads.runDownloaded other success).transfers = downloads.transfers := by
  unfold runDownloaded
  split <;> rfl

theorem size_cancelTask (downloads : AwesomeDownload) :
    downloads.cancelTask.transfers.size = downloads.transfers.size := by
  unfold cancelTask
  split
  · exact Table.size_modify ..
  · rfl

theorem size_invalidateAndCancel (downloads : AwesomeDownload) :
    downloads.invalidateAndCancel.transfers.size = downloads.transfers.size := by
  unfold invalidateAndCancel
  split
  · exact List.length_map ..
  · rfl

/-- A step makes at most one transfer, for the call that it advances. -/
theorem size_transfers (taken : step downloads label = some next) :
    next.transfers.size = downloads.transfers.size ∨
      ∃ caller removal call session, label = .advance caller removal ∧
        downloads.calls.get? caller = some call ∧ call.stage = .makingTask ∧
        next.downloadTask = some downloads.transfers.size ∧
        next.transfers = downloads.transfers.push ⟨caller, session, [], .suspended⟩ := by
  have same (transfers : next.transfers.size = downloads.transfers.size) :
      next.transfers.size = downloads.transfers.size ∨
        ∃ caller removal call session, label = .advance caller removal ∧
          downloads.calls.get? caller = some call ∧ call.stage = .makingTask ∧
          next.downloadTask = some downloads.transfers.size ∧
          next.transfers = downloads.transfers.push ⟨caller, session, [], .suspended⟩ :=
    Or.inl transfers
  cases stepCases taken with
  | write caller removal call stage effect found writes =>
      generalize reached : call.stage = current at writes
      cases writes with
      | cancelTask => exact same (size_cancelTask downloads)
      | cancelSession => exact same (size_invalidateAndCancel downloads)
      | task session =>
          exact Or.inr ⟨caller, removal, call, session, rfl, found, reached, rfl, rfl⟩
      | resume task => exact same (Table.size_modify ..)
      | _ => exact same rfl
  | cancelTask cancel => exact same (size_cancelTask downloads)
  | cancelSession cancel => exact same (size_invalidateAndCancel downloads)
  | finish other bytes transfer found running => exact same (Table.size_modify ..)
  | fail other transfer found running => exact same (Table.size_modify ..)
  | deliver other goesThrough transfer status effect found handles =>
      refine same ((Table.size_modify ..).trans ?_)
      generalize transfer.status = current at handles
      cases handles with
      | finishSession => rw [transfers_finishTasksAndInvalidate]
      | cancelTask => exact size_cancelTask downloads
      | _ => rfl
  | runProgress progress rest queued =>
      refine same ?_
      unfold runProgress
      split <;> rfl
  | runDownloaded other success rest queued => exact same (by rw [transfers_runDownloaded])
  | _ => exact same rfl

/-- Every transfer after a step is a moved one or the one that the step makes. -/
theorem step_transfer_inv {after : Transfer} (taken : step downloads label = some next)
    (present : next.transfers.get? name = some after) :
    (∃ before, downloads.transfers.get? name = some before ∧
        TransferMoves downloads label name before after) ∨
      ∃ caller removal call session, label = .advance caller removal ∧
        downloads.calls.get? caller = some call ∧ call.stage = .makingTask ∧
        next.downloadTask = some name ∧ after = ⟨caller, session, [], .suspended⟩ := by
  cases found : downloads.transfers.get? name with
  | some before =>
      obtain ⟨other, kept, moves⟩ := step_transfer taken found
      cases Option.some.inj (kept.symm.trans present)
      exact Or.inl ⟨before, rfl, moves⟩
  | none =>
      have beyond := Table.size_le_of_get?_none found
      have below := Table.lt_size_of_get? present
      rcases size_transfers taken with
        same | ⟨caller, removal, call, session, advances, caller', making, made, transfers⟩
      · omega
      · rw [transfers] at present
        rcases Table.get?_push_cases present with old | ⟨rfl, added⟩
        · rw [found] at old
          cases old
        · exact Or.inr ⟨caller, removal, call, session, advances, caller', making, made, added⟩

/-- The shared fields change by the writes of a call of `download` only. -/
theorem step_fields (taken : step downloads label = some next) :
    (SameFields downloads next ∧ ∀ caller removal call,
        label = .advance caller removal → downloads.calls.get? caller = some call →
        call.stage = .checking ∨ call.stage = .deleting) ∨
      ∃ caller removal call stage effect, label = .advance caller removal ∧
        downloads.calls.get? caller = some call ∧
        Writes downloads caller call call.stage stage effect ∧
        next = effect.setCall caller (call.moveTo stage) := by
  have kept (others : ∀ caller removal, label ≠ .advance caller removal)
      (fields : SameFields downloads next) :
      SameFields downloads next ∧ ∀ caller removal call,
        label = .advance caller removal → downloads.calls.get? caller = some call →
        call.stage = .checking ∨ call.stage = .deleting :=
    ⟨fields, fun caller removal _ advances => (others caller removal advances).elim⟩
  cases stepCases taken with
  | check caller removal call files changed found checks =>
      refine Or.inl ⟨⟨rfl, rfl, rfl, rfl⟩, fun _ _ _ advances present => ?_⟩
      cases advances
      cases Option.some.inj (found.symm.trans present)
      exact checks.early
  | write caller removal call stage effect found writes =>
      exact Or.inr ⟨caller, removal, call, stage, effect, rfl, found, writes, rfl⟩
  | cancelTask cancel =>
      have fields := cancelTask_fields downloads
      exact Or.inl (kept nofun ⟨fields.url, fields.folder, fields.callback, fields.starts⟩)
  | cancelSession cancel =>
      have fields := invalidateAndCancel_fields downloads
      exact Or.inl (kept nofun ⟨fields.url, fields.folder, fields.callback, fields.starts⟩)
  | deliver other goesThrough transfer status effect found handles =>
      have fields := handles.fields
      exact Or.inl (kept nofun ⟨fields.url, fields.folder, fields.callback, fields.starts⟩)
  | runProgress progress rest queued =>
      refine Or.inl (kept nofun ?_)
      unfold runProgress
      split <;> exact ⟨rfl, rfl, rfl, rfl⟩
  | runDownloaded other success rest queued =>
      refine Or.inl (kept nofun ?_)
      unfold runDownloaded
      split <;> exact ⟨rfl, rfl, rfl, rfl⟩
  | _ => exact Or.inl (kept nofun ⟨rfl, rfl, rfl, rfl⟩)

theorem step_advance_eq {removal : Removal} (found : downloads.calls.get? name = some call) :
    step downloads (.advance name removal) = downloads.advance name call removal := by
  unfold step
  dsimp only
  rw [found, Option.bind_some]

theorem step_deliver_eq {goesThrough : Bool}
    (found : downloads.transfers.get? name = some transfer) :
    step downloads (.deliver name goesThrough) =
      downloads.deliver name transfer goesThrough := by
  unfold step
  dsimp only
  rw [found, Option.bind_some]

/-- A call begins to write by its folder. -/
theorem step_writingFolder {removal : Removal}
    (taken : step downloads (.advance name removal) = some next)
    (found : downloads.calls.get? name = some call) (begins : call.stage = .writingFolder) :
    next = ({ downloads with
      downloadFolder := call.folder
      starts := downloads.starts ++ [name] } : AwesomeDownload).setCall name
        (call.moveTo .writingProgress) := by
  rw [step_advance_eq found] at taken
  unfold advance at taken
  rw [begins] at taken
  exact (Option.some.inj taken).symm

/-- A call returns once it has resumed the task of the shared object. -/
theorem step_resuming {removal : Removal} {task : Nat}
    (taken : step downloads (.advance name removal) = some next)
    (found : downloads.calls.get? name = some call) (resuming : call.stage = .resuming)
    (made : downloads.downloadTask = some task) :
    next = ({ downloads with
      transfers := downloads.transfers.modify task Transfer.resume } : AwesomeDownload).setCall name
        (call.moveTo .returned) := by
  rw [step_advance_eq found] at taken
  unfold advance at taken
  rw [resuming] at taken
  dsimp only at taken
  split at taken
  · next absent => cases made.symm.trans absent
  · next other present =>
      cases Option.some.inj (made.symm.trans present)
      exact (Option.some.inj taken).symm

/-- The delegate ends by queueing the result of its move. -/
theorem step_enqueuing {goesThrough success : Bool}
    (taken : step downloads (.deliver name goesThrough) = some next)
    (found : downloads.transfers.get? name = some transfer)
    (enqueuing : transfer.status = .enqueuing success) :
    next = ({ downloads with
      mainQueue := downloads.mainQueue ++ [MainBlock.downloaded name success] } :
        AwesomeDownload).setStatus name .handled := by
  rw [step_deliver_eq found] at taken
  unfold deliver at taken
  rw [enqueuing] at taken
  exact (Option.some.inj taken).symm

/-- The log of moves grows by the moves that the delegate makes. -/
theorem step_moves (taken : step downloads label = some next) :
    next.moves = downloads.moves ∨
      ∃ other goesThrough transfer url success, label = .deliver other goesThrough ∧
        downloads.transfers.get? other = some transfer ∧ transfer.status = .moving url ∧
        next.transfers.get? other = some { transfer with status := .enqueuing success } ∧
        next.moves = downloads.moves ++
          [⟨other, url.offlineFileDestination downloads.downloadFolder, success⟩] := by
  cases stepCases taken with
  | write caller removal call stage effect found writes => exact Or.inl writes.records.moves
  | cancelTask cancel => exact Or.inl (cancelTask_records downloads).moves
  | cancelSession cancel => exact Or.inl (invalidateAndCancel_records downloads).moves
  | deliver other goesThrough transfer status effect found handles =>
      generalize reached : transfer.status = current at handles
      cases handles with
      | finishSession => exact Or.inl (finishTasksAndInvalidate_records downloads).moves
      | cancelTask => exact Or.inl (cancelTask_records downloads).moves
      | move url success files =>
          refine Or.inr ⟨other, goesThrough, transfer, url, success, rfl, found, reached, ?_, rfl⟩
          rw [get?_setStatus, if_pos rfl]
          exact congrArg (Option.map _) found
      | _ => exact Or.inl rfl
  | runProgress progress rest queued =>
      left
      unfold runProgress
      split <;> rfl
  | runDownloaded other success rest queued =>
      left
      unfold runDownloaded
      split <;> rfl
  | _ => exact Or.inl rfl

theorem results_congr (same : next.mainQueue = downloads.mainQueue) :
    next.results = downloads.results := by
  unfold results
  rw [same]

/-- A delegate queues the result of its move, and the main queue runs its first block. -/
theorem step_results (taken : step downloads label = some next) :
    (next.results = downloads.results ∧ (label = .runMain → downloads.nextResult = none)) ∨
      (∃ other goesThrough transfer success, label = .deliver other goesThrough ∧
        downloads.transfers.get? other = some transfer ∧ transfer.status = .enqueuing success ∧
        next.transfers.get? other = some { transfer with status := .handled } ∧
        next.results = downloads.results ++ [(other, success)]) ∨
      ∃ other success, label = .runMain ∧ downloads.nextResult = some (other, success) ∧
        downloads.results = (other, success) :: next.results := by
  cases stepCases taken with
  | write caller removal call stage effect found writes =>
      exact Or.inl ⟨results_congr writes.records.mainQueue, nofun⟩
  | cancelTask cancel =>
      exact Or.inl ⟨results_congr (cancelTask_records downloads).mainQueue, nofun⟩
  | cancelSession cancel =>
      exact Or.inl ⟨results_congr (invalidateAndCancel_records downloads).mainQueue, nofun⟩
  | writeData other progress =>
      refine Or.inl ⟨?_, nofun⟩
      unfold results
      rw [List.filterMap_append]
      exact List.append_nil _
  | deliver other goesThrough transfer status effect found handles =>
      generalize reached : transfer.status = current at handles
      cases handles with
      | finishSession =>
          exact Or.inl ⟨results_congr (finishTasksAndInvalidate_records downloads).mainQueue, nofun⟩
      | cancelTask => exact Or.inl ⟨results_congr (cancelTask_records downloads).mainQueue, nofun⟩
      | enqueue success =>
          right
          left
          refine ⟨other, goesThrough, transfer, success, rfl, found, reached, ?_, ?_⟩
          · rw [get?_setStatus, if_pos rfl]
            exact congrArg (Option.map _) found
          · exact List.filterMap_append
      | _ => exact Or.inl ⟨rfl, nofun⟩
  | runProgress progress rest queued =>
      refine Or.inl ⟨?_, fun _ => ?_⟩
      · unfold results runProgress
        rw [queued]
        split <;> rfl
      · unfold nextResult
        rw [queued]
        rfl
  | runDownloaded other success rest queued =>
      refine Or.inr (Or.inr ⟨other, success, rfl, ?_, ?_⟩)
      · unfold nextResult
        rw [queued]
        rfl
      · unfold results runDownloaded
        rw [queued]
        split <;> rfl
  | _ => exact Or.inl ⟨rfl, nofun⟩

/-- A transfer stays that of its call. -/
theorem TransferMoves.call_eq {before after : Transfer}
    (moves : TransferMoves downloads label name before after) : after.call = before.call := by
  cases moves with
  | cancel =>
      unfold Transfer.cancel
      split <;> rfl
  | resume =>
      unfold Transfer.resume
      split <;> rfl
  | _ => rfl

/-- A transfer gets to a statement of the delegate by the one before it. -/
theorem TransferMoves.handling {before after : Transfer}
    (moves : TransferMoves downloads label name before after)
    (handling : after.status.handling = true) :
    before.status = after.status ∨ ∃ goesThrough effect, label = .deliver name goesThrough ∧
      Handles downloads name before before.status after.status effect := by
  cases moves with
  | stay others => exact Or.inl rfl
  | cancel cancels =>
      left
      apply Transfer.status_of_cancel rfl
      intro cancelled
      rw [cancelled] at handling
      cases handling
  | resume =>
      left
      apply Transfer.status_of_resume rfl
      intro running
      rw [running] at handling
      cases handling
  | finish bytes finishes running => cases handling
  | fail fails running => cases handling
  | handle goesThrough status effect delivers handles =>
      exact Or.inr ⟨goesThrough, effect, delivers, handles⟩

/-- A call keeps the URL and the folder that it was given. -/
theorem CallMoves.url_folder_eq {before after : DownloadCall}
    (moves : CallMoves downloads label name before after) :
    after.url = before.url ∧ after.folder = before.folder := by
  cases moves with
  | check removal files changed advances checks => cases checks <;> exact ⟨rfl, rfl⟩
  | _ => exact ⟨rfl, rfl⟩

/-- A call that has returned makes no step. -/
theorem not_advance_returned {removal : Removal} (found : downloads.calls.get? name = some call)
    (returned : call.stage = .returned) :
    step downloads (.advance name removal) = none := by
  rw [step_advance_eq found]
  unfold advance
  rw [returned]

/-- A call that has returned stays where it is. -/
theorem CallMoves.returned {before after : DownloadCall}
    (moves : CallMoves downloads label name before after) (returned : before.stage = .returned) :
    after.stage = .returned := by
  cases moves with
  | stay => exact returned
  | check removal files changed advances checks =>
      exact (checks.unreturned (Or.inr returned)).elim
  | write removal stage effect advances writes =>
      rw [returned] at writes
      cases writes
  | answer => exact returned

/-- The calls that have returned are still the others unless another call begins. -/
theorem others_returned
    (others : downloads.calls.All fun other call => other ≠ name → call.stage = .returned)
    (begins : ∀ url folder force, label ≠ .download url folder force)
    (taken : step downloads label = some next) :
    next.calls.All fun other call => other ≠ name → call.stage = .returned := by
  intro other after present another
  rcases step_call_inv taken present with
    ⟨before, found, moves⟩ | ⟨url, folder, force, downloads, _⟩
  · exact moves.returned (others other before found another)
  · exact (begins url folder force downloads).elim

/-- The session and the task of the shared object change by the calls of `download`,
by the handling of a finish message and by `cancelDownload` only. -/
theorem step_session (taken : step downloads label = some next) :
    (next.session = downloads.session ∧ next.sessions = downloads.sessions ∧
        next.downloadTask = downloads.downloadTask) ∨
      (∃ caller removal call stage effect, label = .advance caller removal ∧
        downloads.calls.get? caller = some call ∧
        Writes downloads caller call call.stage stage effect ∧
        next = effect.setCall caller (call.moveTo stage)) ∨
      (∃ other goesThrough transfer status effect, label = .deliver other goesThrough ∧
        downloads.transfers.get? other = some transfer ∧
        Handles downloads other transfer transfer.status status effect) ∨
      ∃ cancel, label = .advanceCancel cancel := by
  cases stepCases taken with
  | write caller removal call stage effect found writes =>
      exact Or.inr (Or.inl ⟨caller, removal, call, stage, effect, rfl, found, writes, rfl⟩)
  | cancelTask cancel => exact Or.inr (Or.inr (Or.inr ⟨cancel, rfl⟩))
  | cancelSession cancel => exact Or.inr (Or.inr (Or.inr ⟨cancel, rfl⟩))
  | deliver other goesThrough transfer status effect found handles =>
      refine Or.inr (Or.inr (Or.inl ?_))
      exact ⟨other, goesThrough, transfer, status, effect, rfl, found, handles⟩
  | runProgress progress rest queued =>
      left
      unfold runProgress
      split <;> exact ⟨rfl, rfl, rfl⟩
  | runDownloaded other success rest queued =>
      left
      unfold runDownloaded
      split <;> exact ⟨rfl, rfl, rfl⟩
  | _ => exact Or.inl ⟨rfl, rfl, rfl⟩

/-- A block that carries a result answers the call whose completion is held. -/
theorem step_runMain {success : Bool} {other : Nat}
    (taken : step downloads .runMain = some next)
    (queued : downloads.nextResult = some (other, success))
    (owner : downloads.downloadedCallback = some name)
    (present : downloads.calls.get? name = some call) :
    next.calls.get? name = some (call.answer (.transferred other success)) := by
  cases stepCases taken with
  | runProgress progress rest headed =>
      unfold nextResult at queued
      rw [headed] at queued
      cases queued
  | runDownloaded transfer stored rest headed =>
      unfold nextResult at queued
      rw [headed] at queued
      cases queued
      unfold runDownloaded
      rw [owner]
      dsimp only
      rw [Table.get?_modify_self, present]
      rfl

end AwesomeDownload

end AwesomeNetwork
