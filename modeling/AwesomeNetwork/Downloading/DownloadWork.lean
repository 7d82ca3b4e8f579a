import AwesomeNetwork.Downloading.SoleDownload

/-! # The work that downloads have ahead

A call of `download` makes a bounded number of statements and at most one transfer, a transfer
a bounded number of moves and at most one block of the main queue. What is still ahead of all
of them is a number that every step towards a result takes from.
-/

namespace AwesomeNetwork

/-- The statements that a call has ahead at the stage, with the moves of the transfer that it
makes. -/
def DownloadStage.work : DownloadStage → Nat
  | deleting => 26
  | checking => 25
  | writingFolder => 24
  | writingProgress => 23
  | writingDownloaded => 22
  | writingUrl => 21
  | cancellingTask => 20
  | cancellingSession => 19
  | makingSession => 18
  | makingTask => 17
  | resuming => 1
  | returned => 0

/-- A call that is forced may still delete its file and check again. -/
def DownloadCall.work (call : DownloadCall) : Nat :=
  match call.stage, call.force with
  | .checking, true => 27
  | stage, _ => stage.work

/-- The moves that a transfer has ahead, with the block that it queues. -/
def TransferStatus.work : TransferStatus → Nat
  | suspended | running => 15
  | finished => 14
  | clearingSession => 13
  | cancellingTask => 12
  | clearingTask => 11
  | readingUrl => 10
  | creatingFolder _ => 9
  | moving _ => 8
  | enqueuing _ => 7
  | cancelled | failed | handled | dropped => 0

/-- A transfer that is not active has nothing ahead. -/
theorem TransferStatus.work_of_inactive {status : TransferStatus}
    (inactive : status.active = false) : status.work = 0 := by
  cases status <;> first | rfl | cases inactive

/-- What a transfer has ahead of it. -/
def Transfer.work (transfer : Transfer) : Nat := transfer.status.work

/-- A block, with what the completion that it calls makes the main thread do. -/
def MainBlock.work : MainBlock → Nat
  | progress _ => 1
  | downloaded .. => 6

/-- What a cancel has ahead of it. -/
def CancelStage.work : CancelStage → Nat
  | cancellingTask => 2
  | cancellingSession => 1
  | returned => 0

/-- After its check a call has the rest of its statements ahead. -/
theorem DownloadCall.work_eq {call : DownloadCall} {stage : DownloadStage}
    (reached : call.stage = stage) (checked : stage ≠ .checking) :
    call.work = stage.work := by
  unfold work
  split
  · next checking _ => exact (checked (reached.symm.trans checking)).elim
  · rw [reached]

/-- A check has 25 steps ahead, or 27 when it is forced. -/
theorem DownloadCall.work_checking {call : DownloadCall} (checking : call.stage = .checking) :
    call.work = if call.force then 27 else 25 := by
  unfold work
  rw [checking]
  cases call.force <;> rfl

theorem Transfer.work_cancel (transfer : Transfer) : transfer.cancel.work ≤ transfer.work := by
  unfold Transfer.cancel
  split
  · exact Nat.zero_le _
  · exact Nat.le_refl _

theorem Transfer.work_resume (transfer : Transfer) : transfer.resume.work = transfer.work := by
  unfold Transfer.resume
  split
  · next suspended =>
      unfold work
      rw [suspended]
      rfl
  · rfl

namespace AwesomeDownload

instance : DecidablePred Proceeds
  | .advance .. | .advanceCancel _ | .finish .. | .deliver .. | .runMain => .isTrue trivial
  | .download .. | .cancelDownload | .delete .. | .fail _ | .writeData .. => .isFalse id

/-- What the calls, the transfers, the cancels and the main queue have ahead. -/
def work (downloads : AwesomeDownload) : Nat :=
  downloads.calls.total DownloadCall.work + downloads.transfers.total Transfer.work +
    downloads.cancels.total CancelStage.work + (downloads.mainQueue.map MainBlock.work).sum

/-- The work that a step brings in. -/
def newWork : Label → Nat
  | .download _ _ force => if force then 27 else 25
  | .cancelDownload => 2
  | .writeData .. => 1
  | _ => 0

variable {downloads next effect : AwesomeDownload} {label : Label} {name : Nat}
  {call : DownloadCall} {transfer : Transfer}

/-- A check has less work ahead after its statement. -/
theorem Checks.work {files : FileSystem} {changed : DownloadCall}
    (checks : Checks downloads call files changed) : changed.work + 1 ≤ call.work := by
  cases checks with
  | noUrl checking | existed _ checking =>
      rw [DownloadCall.work_checking checking]
      change 0 + 1 ≤ _
      split <;> decide
  | toWrite _ checking =>
      rw [DownloadCall.work_checking checking]
      change 24 + 1 ≤ _
      split <;> decide
  | toDelete checking forced =>
      rw [DownloadCall.work_checking checking, if_pos forced]
      exact Nat.le_refl 27
  | deleted _ deleting =>
      have before : call.work = DownloadStage.deleting.work :=
        DownloadCall.work_eq deleting (by decide)
      rw [before]
      exact Nat.le_refl 26

theorem transfers_cancelTask (downloads : AwesomeDownload) :
    downloads.cancelTask.transfers.total Transfer.work ≤
      downloads.transfers.total Transfer.work := by
  unfold cancelTask
  split
  · exact Table.total_modify_le _ _ Transfer.work_cancel
  · exact Nat.le_refl _

theorem transfers_invalidateAndCancel (downloads : AwesomeDownload) :
    downloads.invalidateAndCancel.transfers.total Transfer.work ≤
      downloads.transfers.total Transfer.work := by
  unfold invalidateAndCancel
  split
  · refine Table.total_map_le _ fun transfer => ?_
    split
    · exact transfer.work_cancel
    · exact Nat.le_refl _
  · exact Nat.le_refl _

/-- A statement that writes takes from the work of its call what it adds to the transfers. -/
theorem Writes.work {stage stage' : DownloadStage}
    (writes : Writes downloads name call stage stage' effect) :
    effect.transfers.total Transfer.work + stage'.work + 1 ≤
      downloads.transfers.total Transfer.work + stage.work := by
  cases writes with
  | cancelTask =>
      have fewer := transfers_cancelTask downloads
      simp only [DownloadStage.work]
      omega
  | cancelSession =>
      have fewer := transfers_invalidateAndCancel downloads
      simp only [DownloadStage.work]
      omega
  | task session valid =>
      rw [Table.total_push]
      simp only [DownloadStage.work, Transfer.work, TransferStatus.work]
      omega
  | resume task =>
      rw [Table.total_modify_of_eq _ _ Transfer.work_resume]
      simp only [DownloadStage.work]
      omega
  | _ =>
      simp only [DownloadStage.work]
      omega

/-- A call that writes has made its check. -/
theorem Writes.past {stage stage' : DownloadStage}
    (writes : Writes downloads name call stage stage' effect) :
    stage ≠ .checking ∧ stage' ≠ .checking := by
  cases writes <;> exact ⟨nofun, nofun⟩

/-- What the delegate does before it moves its transfer on. -/
theorem Handles.transfers {status status' : TransferStatus}
    (handles : Handles downloads name transfer status status' effect)
    (found : downloads.transfers.get? name = some transfer) (reached : transfer.status = status) :
    effect.transfers.get? name = some transfer ∧
      effect.transfers.total Transfer.work ≤ downloads.transfers.total Transfer.work := by
  cases handles with
  | finishSession =>
      unfold finishTasksAndInvalidate
      split <;> exact ⟨found, Nat.le_refl _⟩
  | cancelTask =>
      refine ⟨?_, transfers_cancelTask downloads⟩
      unfold AwesomeDownload.cancelTask
      split
      · next task _ =>
          dsimp only
          rw [Table.get?_modify, found]
          split
          · exact congrArg some (cancel_of_cancelling reached)
          · rfl
      · exact found
  | _ => exact ⟨found, Nat.le_refl _⟩

/-- The delegate has less work ahead after its statement. -/
theorem Handles.work {status status' : TransferStatus}
    (handles : Handles downloads name transfer status status' effect) :
    status'.work + (effect.mainQueue.map MainBlock.work).sum + 1 ≤
      status.work + (downloads.mainQueue.map MainBlock.work).sum := by
  cases handles with
  | finishSession =>
      rw [(finishTasksAndInvalidate_records downloads).mainQueue]
      simp only [TransferStatus.work]
      omega
  | cancelTask =>
      rw [(cancelTask_records downloads).mainQueue]
      simp only [TransferStatus.work]
      omega
  | enqueue success =>
      rw [List.map_append, List.sum_append]
      simp only [TransferStatus.work, MainBlock.work, List.map_cons, List.map_nil,
        List.sum_cons, List.sum_nil]
      omega
  | _ =>
      simp only [TransferStatus.work]
      omega

/-- A step of a cancel takes from its work. -/
theorem work_advanceCancel {cancel : Nat}
    (taken : step downloads (.advanceCancel cancel) = some next) :
    next.work + 1 ≤ downloads.work := by
  unfold step at taken
  dsimp only at taken
  split at taken
  · next found =>
      cases taken
      have fewer := transfers_cancelTask downloads
      have shorter := Table.total_modify CancelStage.work (fun _ => .cancellingSession) found
      have records := cancelTask_records downloads
      unfold work
      dsimp only
      rw [records.calls, records.mainQueue]
      simp only [CancelStage.work] at shorter
      omega
  · next found =>
      cases taken
      have fewer := transfers_invalidateAndCancel downloads
      have shorter := Table.total_modify CancelStage.work (fun _ => .returned) found
      have records := invalidateAndCancel_records downloads
      unfold work
      dsimp only
      rw [records.calls, records.mainQueue]
      simp only [CancelStage.work] at shorter
      omega
  · cases taken

/-- **What a step costs.** A step towards a result takes from the work ahead, and only what
comes from outside adds to it. -/
theorem work_step (taken : step downloads label = some next) (waits : label ≠ .runMain) :
    next.work + (if Proceeds label then 1 else 0) ≤ downloads.work + newWork label := by
  cases stepCases taken with
  | download url folder force =>
      have pushed := Table.total_push downloads.calls ⟨url, folder, force, .checking, []⟩
        DownloadCall.work
      rw [DownloadCall.work_checking rfl] at pushed
      change _ + 0 ≤ _ + if force then 27 else 25
      unfold work
      dsimp only at pushed ⊢
      omega
  | check name removal call files changed found checks =>
      have less := checks.work
      have moved := Table.total_modify DownloadCall.work (fun _ => changed) found
      change _ + 1 ≤ _ + 0
      unfold work setCall
      dsimp only
      omega
  | write name removal call stage effect found writes =>
      have less := writes.work
      have moved := Table.total_modify DownloadCall.work (fun _ => call.moveTo stage) found
      have before : call.work = call.stage.work := DownloadCall.work_eq rfl writes.past.1
      have after : (call.moveTo stage).work = stage.work :=
        DownloadCall.work_eq rfl writes.past.2
      change _ + 1 ≤ _ + 0
      unfold work setCall
      dsimp only at moved ⊢
      rw [writes.records.calls, writes.records.mainQueue, writes.cancels]
      omega
  | cancelDownload =>
      have pushed := Table.total_push downloads.cancels .cancellingTask CancelStage.work
      change _ + 0 ≤ _ + 2
      unfold work
      simp only [CancelStage.work] at pushed
      dsimp only
      omega
  | cancelTask cancel => exact work_advanceCancel taken
  | cancelSession cancel => exact work_advanceCancel taken
  | delete url folder removal files => exact Nat.le_refl _
  | finish name bytes transfer found running =>
      have moved := Table.total_modify Transfer.work
        (fun transfer => { transfer with bytes := bytes, status := .finished }) found
      simp only [Transfer.work, running, TransferStatus.work] at moved
      change _ + 1 ≤ _ + 0
      unfold work
      dsimp only
      omega
  | fail name transfer found running =>
      have moved := Table.total_modify Transfer.work
        (fun transfer => { transfer with status := .failed }) found
      simp only [Transfer.work, running, TransferStatus.work] at moved
      change _ + 0 ≤ _ + 0
      unfold work setStatus
      dsimp only
      omega
  | writeData name progress =>
      change _ + 0 ≤ _ + 1
      unfold work
      dsimp only
      rw [List.map_append, List.sum_append]
      exact Nat.le_refl _
  | deliver name goesThrough transfer status effect found handles =>
      obtain ⟨found', fewer⟩ := handles.transfers found rfl
      have less := handles.work
      have moved := Table.total_modify Transfer.work
        (fun transfer => { transfer with status := status }) found'
      simp only [Transfer.work] at moved fewer
      change _ + 1 ≤ _ + 0
      unfold work setStatus
      dsimp only
      rw [handles.calls, handles.rest.cancels]
      omega
  | runProgress => exact (waits rfl).elim
  | runDownloaded => exact (waits rfl).elim

/-- An answer adds no statement to a call. -/
theorem work_answer (call : DownloadCall) (answer : DownloadAnswer) :
    (call.answer answer).work = call.work := rfl

theorem work_runDownloaded (downloads : AwesomeDownload) (transfer : Nat) (success : Bool) :
    (downloads.runDownloaded transfer success).work = downloads.work := by
  unfold runDownloaded
  split
  · rfl
  · unfold work
    dsimp only
    rw [Table.total_modify_of_eq _ _ fun call => work_answer call _]

theorem work_runProgress (downloads : AwesomeDownload) (progress : DownloadProgress) :
    (downloads.runProgress progress).work = downloads.work := by
  unfold runProgress
  split <;> rfl

/-- A block of the main queue takes its own work. -/
theorem work_runMain (taken : step downloads .runMain = some next) :
    ∃ block rest, downloads.mainQueue = block :: rest ∧
      next.work + block.work = downloads.work := by
  have popped {block : MainBlock} {rest : List MainBlock}
      (queued : downloads.mainQueue = block :: rest) :
      ({ downloads with mainQueue := rest } : AwesomeDownload).work + block.work =
        downloads.work := by
    unfold work
    rw [queued, List.map_cons, List.sum_cons]
    dsimp only
    omega
  unfold step at taken
  dsimp only at taken
  split at taken
  · cases taken
  · next progress rest queued =>
      cases taken
      exact ⟨_, _, queued, (work_runProgress ..).symm ▸ popped queued⟩
  · next name success rest queued =>
      cases taken
      exact ⟨_, _, queued, (work_runDownloaded ..).symm ▸ popped queued⟩

/-- A downloader at rest has no work ahead. -/
theorem work_calm (calm : Calm downloads)
    (cancels : downloads.cancels.All fun _ cancel => cancel = .returned) :
    downloads.work = 0 := by
  have calls : downloads.calls.total DownloadCall.work = 0 := by
    refine Table.total_eq_zero fun name call found => ?_
    exact DownloadCall.work_eq (calm.calls name call found) nofun
  have transfers : downloads.transfers.total Transfer.work = 0 := by
    exact Table.total_eq_zero fun name transfer found =>
      TransferStatus.work_of_inactive (calm.transfers name transfer found)
  have cancels : downloads.cancels.total CancelStage.work = 0 := by
    refine Table.total_eq_zero fun name cancel found => ?_
    rw [cancels name cancel found]
    rfl
  unfold work
  rw [calls, transfers, cancels, calm.mainQueue]
  rfl

end AwesomeDownload

end AwesomeNetwork
