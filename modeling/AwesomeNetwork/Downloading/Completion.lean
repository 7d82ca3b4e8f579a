import AwesomeNetwork.Downloading.Attribution

/-! # How often a download is answered

A call of `download` that starts a transfer is answered by the block that the
delegate queues for it, once, as long as nothing else uses the shared object and the
session brings the file.
-/

namespace AwesomeNetwork

/-- The transfer may still bring a result: it is not over, and its finish message has
not been handled. -/
def TransferStatus.active : TransferStatus → Bool
  | .cancelled | .failed | .handled | .dropped => false
  | _ => true

namespace AwesomeDownload

/-- No task is running, no message or block is pending, and every call has returned. -/
def Quiescent (downloads : AwesomeDownload) : Prop :=
  (downloads.calls.All fun _ call => call.stage = .returned) ∧
    (downloads.transfers.All fun _ transfer =>
      transfer.status.active = true → transfer.status = .suspended) ∧
    (downloads.cancels.All fun _ cancel => cancel = .returned) ∧ downloads.mainQueue = []

/-- The file of a transfer of the call was stored at the place of its URL. -/
def Stored (downloads : AwesomeDownload) (name : Nat) (call : DownloadCall) : Prop :=
  ∃ move ∈ downloads.moves, move.stored = true ∧
    (∃ transfer, downloads.transfers.get? move.transfer = some transfer ∧ transfer.call = name) ∧
    ∃ url, call.url = some url ∧ move.destination = url.offlineFileDestination call.folder

/-- Every completion is called at most once, and exactly once when everything is
quiescent. -/
structure AnsweredOnce (downloads : AwesomeDownload) : Prop where
  atMostOnce : downloads.calls.All fun _ call => call.answers.length ≤ 1
  answered : downloads.Quiescent → downloads.calls.All fun _ call => call.answers.length = 1

/-- No transfer may still bring a result, and no block with a result is pending. -/
def Quiet (downloads : AwesomeDownload) : Prop :=
  (downloads.transfers.All fun _ transfer => transfer.status.active = false) ∧
    downloads.results = []

/-- Nothing of an earlier download is outstanding. -/
def Idle (downloads : AwesomeDownload) : Prop :=
  (downloads.calls.All fun _ call => call.stage.writing = false) ∧ downloads.Quiet

/-- A download has the shared object for itself: it begins when nothing of an earlier
one is outstanding, its transfer does not fail, and nothing cancels it. -/
def Alone (downloads : AwesomeDownload) : Label → Prop
  | .advance name _ =>
      ∀ call ∈ downloads.calls.get? name, call.stage = .writingFolder → downloads.Idle
  | .fail _ => False
  | .advanceCancel _ =>
      (downloads.calls.All fun _ call => call.stage ≠ .makingTask) ∧
        downloads.transfers.All fun _ transfer =>
          transfer.status ≠ .suspended ∧ transfer.status ≠ .running
  | _ => True

instance (downloads : AwesomeDownload) : Decidable downloads.Quiescent :=
  inferInstanceAs (Decidable (_ ∧ _ ∧ _ ∧ _))

instance (downloads : AwesomeDownload) : Decidable downloads.Idle :=
  inferInstanceAs (Decidable (_ ∧ _ ∧ _))

instance (downloads : AwesomeDownload) : ∀ label, Decidable (downloads.Alone label)
  | .advance name _ =>
      inferInstanceAs (Decidable (∀ call ∈ downloads.calls.get? name,
        call.stage = .writingFolder → downloads.Idle))
  | .fail _ => .isFalse id
  | .advanceCancel _ => inferInstanceAs (Decidable (_ ∧ downloads.transfers.All _))
  | .download .. | .cancelDownload | .delete .. | .finish .. | .writeData .. | .deliver ..
  | .runMain => .isTrue trivial

/-- Where the download that began last stands. -/
inductive Underway (downloads : AwesomeDownload) (name : Nat) (call : DownloadCall) : Prop
  | preparing : call.stage.writing = true → call.stage ≠ .resuming → call.answers = [] →
      downloads.Quiet →
      (call.stage = .makingTask → ∃ session, downloads.session = some session ∧
        downloads.sessions.get? session = some false) →
      Underway downloads name call
  | transferring (own : Nat) (transfer : Transfer) :
      (call.stage = .resuming ∧ transfer.status = .suspended ∧
          downloads.downloadTask = some own) ∨
        (call.stage = .returned ∧ transfer.status ≠ .suspended) →
      call.answers = [] → downloads.results = [] →
      downloads.transfers.get? own = some transfer → transfer.status.active = true →
      (downloads.transfers.All fun other transfer => transfer.status.active = true →
        other = own) →
      Underway downloads name call
  | queued (own : Nat) (success : Bool) : call.stage = .returned → call.answers = [] →
      (downloads.transfers.All fun _ transfer => transfer.status.active = false) →
      downloads.results = [(own, success)] → Underway downloads name call
  | answered (answer : DownloadAnswer) : call.stage = .returned → call.answers = [answer] →
      downloads.Quiet → Underway downloads name call

/-- The download that began last has the shared object, and all others are over or
have not begun. -/
structure Orderly (downloads : AwesomeDownload) : Prop where
  turns : downloads.TakingTurns
  settled : downloads.calls.All fun name call => downloads.starts.getLast? ≠ some name →
    if call.stage = .returned then ∃ answer, call.answers = [answer] else call.answers = []
  named : downloads.calls.All fun name call =>
    call.stage = .writingFolder ∨ downloads.starts.getLast? = some name → call.url ≠ none
  owner : downloads.transfers.All fun _ transfer =>
    transfer.status.active = true → downloads.starts.getLast? = some transfer.call
  blocks : ∀ result ∈ downloads.results, ∃ transfer,
    downloads.transfers.get? result.1 = some transfer ∧
      downloads.starts.getLast? = some transfer.call
  current : ∀ name ∈ downloads.starts.getLast?, ∃ call,
    downloads.calls.get? name = some call ∧ downloads.Underway name call

variable {downloads next : AwesomeDownload} {label : Label} {name : Nat} {call : DownloadCall}

/-- Where no transfer is active, none is found active. -/
theorem absurd_of_inactive {transfer : Transfer}
    (inactive : downloads.transfers.All fun _ transfer => transfer.status.active = false)
    (found : downloads.transfers.get? name = some transfer)
    (active : transfer.status.active = true) : False := by
  rw [inactive name transfer found] at active
  cases active

/-- Where no result is queued, none is next. -/
theorem absurd_of_no_result {result : Nat × Bool} (none : downloads.results = [])
    (queued : downloads.nextResult = some result) : False := by
  have pending := nextResult_mem queued
  rw [none] at pending
  cases pending

/-- With an active transfer it is not quiet. -/
theorem not_quiet_of_active {transfer : Transfer}
    (found : downloads.transfers.get? name = some transfer)
    (active : transfer.status.active = true) : ¬ downloads.Quiet :=
  fun quiet => absurd_of_inactive quiet.1 found active

/-- A transfer whose fields are still to be read is active. -/
theorem TransferStatus.active_of_reading {status : TransferStatus}
    (reading : status.reading = true) : status.active = true := by
  cases status <;> first | rfl | cases reading

/-- A download that has the shared object for itself reads what it wrote. -/
theorem inTurn_of_alone (orderly : Orderly downloads) (alone : Alone downloads label) :
    InTurn downloads label := by
  cases label with
  | advance name removal =>
      intro call found begins
      exact (alone call found begins).1
  | deliver name goesThrough =>
      intro transfer found reading
      exact orderly.owner name transfer found (TransferStatus.active_of_reading reading)
  | runMain =>
      intro result queued transfer found
      obtain ⟨other, found', last⟩ := orderly.blocks result (nextResult_mem queued)
      cases Option.some.inj (found.symm.trans found')
      exact last
  | _ => trivial

/-- The delegate handles active transfers only. -/
theorem Handles.active {transfer : Transfer} {status status' : TransferStatus}
    {effect : AwesomeDownload} (handles : Handles downloads name transfer status status' effect) :
    status.active = true := by
  cases handles <;> rfl

/-- No transfer becomes active again. -/
theorem TransferMoves.active_of {before after : Transfer}
    (moves : TransferMoves downloads label name before after)
    (active : after.status.active = true) : before.status.active = true := by
  cases moves with
  | stay => exact active
  | cancel =>
      unfold Transfer.cancel at active
      split at active
      · cases active
      · exact active
  | resume =>
      unfold Transfer.resume at active
      split at active
      · next suspended =>
          rw [suspended]
          rfl
      · exact active
  | finish bytes finishes running =>
      rw [running]
      rfl
  | fail => cases active
  | handle goesThrough status effect delivers handles => exact handles.active

/-- A transfer that is over is not cancelled. -/
theorem cancel_of_inactive {transfer : Transfer} (inactive : transfer.status.active = false) :
    transfer.cancel = transfer := by
  unfold Transfer.cancel
  refine if_neg fun either => ?_
  rcases either with reached | reached <;> rw [reached] at inactive <;> cases inactive

/-- A transfer whose delegate cancels it is not running any more. -/
theorem cancel_of_cancelling {transfer : Transfer}
    (cancelling : transfer.status = .cancellingTask) : transfer.cancel = transfer := by
  unfold Transfer.cancel
  rw [cancelling]
  rfl

/-- An active transfer that nothing cancels or resumes, and that does not fail, stays active
up to its last statement. -/
theorem TransferMoves.stays_active {before after : Transfer}
    (moves : TransferMoves downloads label name before after)
    (active : before.status.active = true)
    (still : Cancels downloads label → before.cancel = before)
    (unresumed : ∀ caller removal call, label = .advance caller removal →
      downloads.calls.get? caller = some call → call.stage ≠ .resuming)
    (succeeds : label ≠ .fail name) (named : downloads.downloadUrl ≠ none)
    (continues : ∀ goesThrough success, label = .deliver name goesThrough →
      before.status ≠ .enqueuing success) :
    after.status.active = true ∧ (after.status = .suspended ↔ before.status = .suspended) := by
  cases moves with
  | stay => exact ⟨active, Iff.rfl⟩
  | cancel cancels =>
      rw [still cancels]
      exact ⟨active, Iff.rfl⟩
  | resume caller removal call advances found resuming =>
      exact (unresumed caller removal call advances found resuming).elim
  | finish bytes finishes running =>
      rw [running]
      exact ⟨rfl, nofun, nofun⟩
  | fail fails => exact (succeeds fails).elim
  | handle goesThrough status effect delivers handles =>
      generalize reached : before.status = current at handles ⊢
      cases handles with
      | enqueue success => exact (continues goesThrough success delivers reached).elim
      | drop absent => exact (named absent).elim
      | _ => exact ⟨rfl, nofun, nofun⟩

/-- A download begins only when nothing is active. -/
theorem starts_eq_of_not_quiet (alone : Alone downloads label)
    (taken : step downloads label = some next) (busy : ¬ downloads.Quiet) :
    next.starts = downloads.starts := by
  rcases step_starts taken with same | ⟨caller, _, call, rfl, found, begins⟩
  · exact same
  · exact (busy (alone call found begins).2).elim

/-- A check answers a call that has no answer yet, if any. -/
theorem Checks.settled {files : FileSystem} {changed : DownloadCall}
    (checks : Checks downloads call files changed) (unanswered : call.answers = []) :
    if changed.stage = .returned then ∃ answer, changed.answers = [answer]
    else changed.answers = [] := by
  cases checks with
  | noUrl => exact ⟨.noUrl, congrArg (· ++ [_]) unanswered⟩
  | existed => exact ⟨.existed, congrArg (· ++ [_]) unanswered⟩
  | _ => exact unanswered

/-- No transfer becomes active unless a task is made. -/
theorem inactive_step
    (inactive : downloads.transfers.All fun _ transfer => transfer.status.active = false)
    (taken : step downloads label = some next)
    (idle : ∀ caller removal call, label = .advance caller removal →
      downloads.calls.get? caller = some call → call.stage ≠ .makingTask) :
    next.transfers.All fun _ transfer => transfer.status.active = false := by
  intro name after present
  rcases step_transfer_inv taken present with
    ⟨before, found, moves⟩ | ⟨caller, removal, call, _, advances, found, making, _⟩
  · by_contra active
    rw [Bool.not_eq_false] at active
    exact absurd_of_inactive inactive found (moves.active_of active)
  · exact (idle caller removal call advances found making).elim

/-- Quiet lasts until a task is made. -/
theorem quiet_step (quiet : Quiet downloads) (taken : step downloads label = some next)
    (idle : ∀ caller removal call, label = .advance caller removal →
      downloads.calls.get? caller = some call → call.stage ≠ .makingTask) : Quiet next := by
  refine ⟨inactive_step quiet.1 taken idle, ?_⟩
  rcases step_results taken with
    ⟨same, _⟩ | ⟨other, _, transfer, success, _, found, enqueuing, _⟩ | ⟨_, _, _, _, popped⟩
  · rw [same]
    exact quiet.2
  · have active : transfer.status.active = true := congrArg TransferStatus.active enqueuing
    exact (absurd_of_inactive quiet.1 found active).elim
  · rw [quiet.2] at popped
    cases popped

/-- A transfer stays the only active one until a task is made. -/
theorem soleActive_step {own : Nat}
    (only : downloads.transfers.All fun other transfer => transfer.status.active = true →
      other = own)
    (taken : step downloads label = some next)
    (idle : ∀ caller removal call, label = .advance caller removal →
      downloads.calls.get? caller = some call → call.stage ≠ .makingTask) :
    next.transfers.All fun other transfer => transfer.status.active = true → other = own := by
  intro other after present active
  rcases step_transfer_inv taken present with
    ⟨before, found, moves⟩ | ⟨caller, removal, call, _, advances, found, making, _⟩
  · exact only other before found (moves.active_of active)
  · exact (idle caller removal call advances found making).elim

/-- No result is queued while the only active transfer has not come to its last statement. -/
theorem no_result_step {own : Nat} {transfer : Transfer} (none : downloads.results = [])
    (only : downloads.transfers.All fun other transfer => transfer.status.active = true →
      other = own)
    (taken : step downloads label = some next)
    (present : downloads.transfers.get? own = some transfer)
    (continues : ∀ goesThrough success, label = .deliver own goesThrough →
      transfer.status ≠ .enqueuing success) : next.results = [] := by
  rcases step_results taken with
    ⟨same, _⟩ | ⟨other, _, transfer', success, delivers, found, enqueuing, _⟩ |
      ⟨_, _, _, _, popped⟩
  · exact same.trans none
  · cases only other transfer' found (congrArg TransferStatus.active enqueuing)
    cases Option.some.inj (present.symm.trans found)
    exact (continues _ success delivers enqueuing).elim
  · rw [none] at popped
    cases popped

/-- Once the only active transfer has handed its result on, none is active. -/
theorem inactive_of_enqueued {own : Nat} {goesThrough success : Bool} {transfer : Transfer}
    (only : downloads.transfers.All fun other transfer => transfer.status.active = true →
      other = own)
    (taken : step downloads (.deliver own goesThrough) = some next)
    (present : downloads.transfers.get? own = some transfer)
    (enqueuing : transfer.status = .enqueuing success) :
    next.transfers.All fun _ transfer => transfer.status.active = false := by
  intro other after present'
  by_contra active
  rw [Bool.not_eq_false] at active
  have unmade : ∀ caller through call, Label.deliver own goesThrough = .advance caller through →
      downloads.calls.get? caller = some call → call.stage ≠ .makingTask :=
    fun _ _ _ advances => nomatch advances
  cases soleActive_step only taken unmade other after present' active
  rw [step_enqueuing taken present enqueuing, get?_setStatus, if_pos rfl] at present'
  obtain ⟨before, _, rfl⟩ := Option.map_eq_some_iff.mp present'
  cases active

/-- The call runs the task that it has made. -/
theorem running_of_resumed {own : Nat} {removal : Removal} {transfer : Transfer}
    (taken : step downloads (.advance name removal) = some next)
    (found : downloads.calls.get? name = some call) (resuming : call.stage = .resuming)
    (made : downloads.downloadTask = some own)
    (present : downloads.transfers.get? own = some transfer)
    (suspended : transfer.status = .suspended) :
    next.transfers.get? own = some { transfer with status := .running } := by
  have resumed : transfer.resume = { transfer with status := .running } := if_pos suspended
  rw [step_resuming taken found resuming made, ← resumed]
  exact (Table.get?_modify_self ..).trans (congrArg (Option.map _) present)

/-- The call `name` is the only one that has not returned. -/
structure Only (downloads : AwesomeDownload) (name : Nat) (call : DownloadCall) : Prop where
  found : downloads.calls.get? name = some call
  others : downloads.calls.All fun other call => other ≠ name → call.stage = .returned

/-- No call makes a step that is not the one of the only call. -/
theorem no_advance (only : Only downloads name call)
    (elsewhere : ∀ removal, label ≠ .advance name removal)
    (taken : step downloads label = some next) (caller : Nat) (removal : Removal) :
    label ≠ .advance caller removal := by
  rintro rfl
  obtain ⟨other, found, _⟩ := Option.bind_eq_some_iff.mp taken
  have another : caller ≠ name := by
    rintro rfl
    exact elsewhere removal rfl
  rw [not_advance_returned found (only.others caller other found another)] at taken
  cases taken

/-- Nobody but the only call makes a transfer active. -/
theorem inactive_kept (only : Only downloads name call)
    (elsewhere : ∀ removal, label ≠ .advance name removal)
    (taken : step downloads label = some next)
    (inactive : downloads.transfers.All fun _ transfer => transfer.status.active = false) :
    next.transfers.All fun _ transfer => transfer.status.active = false :=
  inactive_step inactive taken fun caller removal _ advances =>
    (no_advance only elsewhere taken caller removal advances).elim

/-- No call makes a task when the one that began last does not. -/
theorem not_making (orderly : Orderly downloads)
    (last : downloads.starts.getLast? = some name)
    (found : downloads.calls.get? name = some call) (elsewhere : call.stage ≠ .makingTask) :
    ∀ caller removal call', label = .advance caller removal →
      downloads.calls.get? caller = some call' → call'.stage ≠ .makingTask := by
  intro caller removal call' advances found' making
  have writing : call'.stage.writing = true := congrArg DownloadStage.writing making
  cases orderly.turns.eq_last last found' writing
  cases Option.some.inj (found.symm.trans found')
  exact elsewhere making

/-- A call that has returned asks for no task. -/
theorem ne_makingTask_of_returned (returned : call.stage = .returned) :
    call.stage ≠ .makingTask := by
  rw [returned]
  nofun

section Underway

variable (orderly : Orderly downloads) (alone : Alone downloads label)
  (taken : step downloads label = some next) (last : downloads.starts.getLast? = some name)
  (found : downloads.calls.get? name = some call)

include orderly taken last found

/-- Once answered and quiet, the last call stays so. -/
theorem answered_step {answer : DownloadAnswer} (returned : call.stage = .returned)
    (once : call.answers = [answer]) (quiet : Quiet downloads) :
    ∃ after, next.calls.get? name = some after ∧ next.Underway name after := by
  obtain ⟨after, present, moves⟩ := step_call taken found
  have still := quiet_step quiet taken
    (not_making orderly last found (ne_makingTask_of_returned returned))
  refine ⟨after, present, ?_⟩
  cases moves with
  | stay => exact .answered answer returned once still
  | check _ files changed advances checks => exact (checks.unreturned (Or.inr returned)).elim
  | write _ stage effect advances writes =>
      rw [returned] at writes
      cases writes
  | answer other success runs queued owner => exact (absurd_of_no_result quiet.2 queued).elim

include alone

/-- The block that carries the result of a download answers it. -/
theorem queued_step {own : Nat} {success : Bool} (returned : call.stage = .returned)
    (unanswered : call.answers = [])
    (inactive : downloads.transfers.All fun _ transfer => transfer.status.active = false)
    (pending : downloads.results = [(own, success)]) :
    ∃ after, next.calls.get? name = some after ∧ next.Underway name after := by
  have still := inactive_step inactive taken
    (not_making orderly last found (ne_makingTask_of_returned returned))
  rcases step_results taken with
    ⟨same, waits⟩ | ⟨other, _, transfer, success, _, queuing, enqueuing, _⟩ |
      ⟨other, stored, rfl, queued, popped⟩
  · obtain ⟨after, present, moves⟩ := step_call taken found
    refine ⟨after, present, ?_⟩
    cases moves with
    | stay => exact .queued own success returned unanswered still (same.trans pending)
    | check _ files changed advances checks => exact (checks.unreturned (Or.inr returned)).elim
    | write _ stage effect advances writes =>
        rw [returned] at writes
        cases writes
    | answer other stored runs queued owner => cases (waits runs).symm.trans queued
  · have active : transfer.status.active = true := congrArg TransferStatus.active enqueuing
    exact (absurd_of_inactive inactive queuing active).elim
  · have kept := fieldsKept_of_inTurn orderly.turns (inTurn_of_alone orderly alone)
    obtain ⟨transfer, transferred, mine⟩ := orderly.blocks _ (nextResult_mem queued)
    have owner := kept _ queued transfer transferred
    rw [← mine, last] at owner
    refine ⟨_, step_runMain taken queued owner found, ?_⟩
    rw [pending] at popped
    exact .answered _ returned (congrArg (· ++ [_]) unanswered)
      ⟨still, (List.cons.inj popped).2.symm⟩

/-- Nothing cancels the transfer of a download that has the shared object. -/
theorem cancel_eq_of_alone {own : Nat} {transfer : Transfer}
    (started : call.stage = .resuming ∨ call.stage = .returned)
    (present : downloads.transfers.get? own = some transfer)
    (only : downloads.transfers.All fun other transfer => transfer.status.active = true →
      other = own)
    (cancels : Cancels downloads label) : transfer.cancel = transfer := by
  cases cancels with
  | call caller removal call' found' cancelling =>
      have writing : call'.stage.writing = true := by
        rcases cancelling with reached | reached <;> rw [reached] <;> rfl
      cases orderly.turns.eq_last last found' writing
      cases Option.some.inj (found.symm.trans found')
      rcases started with reached | reached <;> rcases cancelling with other | other <;>
        cases reached.symm.trans other
  | delegate other goesThrough transfer' found' cancelling =>
      have mine : other = own := by
        apply only other transfer' found'
        rw [cancelling]
        rfl
      subst mine
      cases Option.some.inj (present.symm.trans found')
      exact cancel_of_cancelling cancelling
  | cancelDownload cancel =>
      obtain ⟨notSuspended, notRunning⟩ := alone.2 own transfer present
      unfold Transfer.cancel
      rw [if_neg fun either => either.elim notSuspended notRunning]

omit found in
/-- The task of the shared object is kept while the call that made it resumes it. -/
theorem downloadTask_kept {own : Nat} {transfer : Transfer}
    (elsewhere : ∀ removal, label ≠ .advance name removal)
    (present : downloads.transfers.get? own = some transfer)
    (suspended : transfer.status = .suspended)
    (only : downloads.transfers.All fun other transfer => transfer.status.active = true →
      other = own) : next.downloadTask = downloads.downloadTask := by
  have busy : ¬ downloads.Quiet :=
    not_quiet_of_active present (congrArg TransferStatus.active suspended)
  rcases step_session taken with
    ⟨_, _, same⟩ | ⟨caller, removal, call', stage, effect, rfl, found', writes, _⟩ |
      ⟨other, _, transfer', status, effect, rfl, found', handles⟩ | ⟨cancel, rfl⟩
  · exact same
  · have mine := orderly.turns.caller_eq last (starts_eq_of_not_quiet alone taken busy) taken rfl
      found' writes
    exact (elsewhere removal (by rw [mine])).elim
  · have mine := only other transfer' found' handles.active
    subst mine
    cases Option.some.inj (present.symm.trans found')
    rw [suspended] at handles
    cases handles
  · exact ((alone.2 own transfer present).1 suspended).elim

omit alone taken in
/-- A download that has made its task has written its URL. -/
theorem downloadUrl_ne_none (started : call.stage = .resuming ∨ call.stage = .returned) :
    downloads.downloadUrl ≠ none := by
  obtain ⟨call', found', written⟩ := orderly.turns.last name last
  cases Option.some.inj (found.symm.trans found')
  have named := orderly.named name call found (Or.inr last)
  rcases started with reached | reached <;> rw [reached] at written <;> rw [written.2.2] <;>
    exact named

/-- The transfer of a download that has the shared object stays active up to its last
statement. -/
theorem own_step {own : Nat} {transfer transfer' : Transfer}
    (elsewhere : ∀ removal, label ≠ .advance name removal)
    (started : call.stage = .resuming ∨ call.stage = .returned)
    (present : downloads.transfers.get? own = some transfer)
    (active : transfer.status.active = true)
    (only : downloads.transfers.All fun other transfer => transfer.status.active = true →
      other = own)
    (continues : ∀ goesThrough success, label = .deliver own goesThrough →
      transfer.status ≠ .enqueuing success)
    (moves : TransferMoves downloads label own transfer transfer') :
    transfer'.status.active = true ∧
      (transfer'.status = .suspended ↔ transfer.status = .suspended) := by
  refine moves.stays_active active
    (cancel_eq_of_alone orderly alone taken last found started present only) ?_ ?_
    (downloadUrl_ne_none orderly last found started) continues
  · intro caller removal call' advances found' resuming
    have writing : call'.stage.writing = true := congrArg DownloadStage.writing resuming
    cases orderly.turns.eq_last last found' writing
    exact elsewhere removal advances
  · rintro rfl
    exact alone

/-- A transfer goes on, or ends with its result in the main queue. -/
theorem transferring_step {own : Nat} {transfer : Transfer}
    (stands : (call.stage = .resuming ∧ transfer.status = .suspended ∧
        downloads.downloadTask = some own) ∨
      (call.stage = .returned ∧ transfer.status ≠ .suspended))
    (unanswered : call.answers = []) (none : downloads.results = [])
    (present : downloads.transfers.get? own = some transfer)
    (active : transfer.status.active = true)
    (only : downloads.transfers.All fun other transfer => transfer.status.active = true →
      other = own) :
    ∃ after, next.calls.get? name = some after ∧ next.Underway name after := by
  have started : call.stage = .resuming ∨ call.stage = .returned := stands.imp And.left And.left
  have notMaking : call.stage ≠ .makingTask := by
    intro making
    rw [making] at started
    rcases started with reached | reached <;> cases reached
  have only' := soleActive_step only taken (not_making orderly last found notMaking)
  have still := no_result_step none only taken present
  obtain ⟨after, kept, callMoves⟩ := step_call taken found
  cases callMoves with
  | check _ files changed advances checks => exact (checks.unreturned started).elim
  | answer other success runs queued owner => exact (absurd_of_no_result none queued).elim
  | write removal stage effect advances writes =>
      rcases stands with ⟨resuming, suspended, made⟩ | ⟨returned, _⟩
      · subst advances
        have returns : stage = .returned := by
          rw [resuming] at writes
          cases writes <;> rfl
        have resumed := running_of_resumed taken found resuming made present suspended
        exact ⟨_, kept, .transferring own { transfer with status := .running }
          (Or.inr ⟨returns, nofun⟩) unanswered (still nofun) resumed rfl only'⟩
      · rw [returned] at writes
        cases writes
  | stay elsewhere =>
      -- the delegate's last statement hands the result on; every other step keeps it active
      by_cases ends : ∃ goesThrough success, label = .deliver own goesThrough ∧
          transfer.status = .enqueuing success
      · obtain ⟨goesThrough, success, rfl, enqueuing⟩ := ends
        have returned : call.stage = .returned := by
          rcases stands with ⟨_, suspended, _⟩ | ⟨returned, _⟩
          · cases suspended.symm.trans enqueuing
          · exact returned
        have moved := step_enqueuing taken present enqueuing
        refine ⟨call, kept, .queued own success returned unanswered
          (inactive_of_enqueued only taken present enqueuing) ?_⟩
        rw [moved]
        unfold results setStatus
        rw [List.filterMap_append]
        exact congrArg (· ++ [(own, success)]) none
      · have continues : ∀ goesThrough success, label = .deliver own goesThrough →
            transfer.status ≠ .enqueuing success :=
          fun goesThrough success delivers enqueuing =>
            ends ⟨goesThrough, success, delivers, enqueuing⟩
        obtain ⟨transfer', present', moves⟩ := step_transfer taken present
        obtain ⟨active', suspended⟩ := own_step orderly alone taken last found elsewhere started
          present active only continues moves
        refine ⟨call, kept, .transferring own transfer' ?_ unanswered (still continues) present'
          active' only'⟩
        rcases stands with ⟨resuming, waits, made⟩ | ⟨returned, runs⟩
        · refine Or.inl ⟨resuming, suspended.mpr waits, ?_⟩
          rw [downloadTask_kept orderly alone taken last elsewhere present waits only]
          exact made
        · exact Or.inr ⟨returned, fun waits => runs (suspended.mp waits)⟩

/-- The statements before the task is made leave everything quiet, and making the
task starts the one transfer of the download. -/
theorem preparing_step (same : next.starts = downloads.starts)
    (writing : call.stage.writing = true) (unresumed : call.stage ≠ .resuming)
    (unanswered : call.answers = []) (quiet : downloads.Quiet)
    (valid : call.stage = .makingTask → ∃ session, downloads.session = some session ∧
      downloads.sessions.get? session = some false) :
    ∃ after, next.calls.get? name = some after ∧ next.Underway name after := by
  rcases step_fields taken with
    ⟨_, checking⟩ | ⟨caller, removal, call', stage, effect, advances, found', writes, moved⟩
  · have absurd {removal : Removal} (advances : label = .advance name removal) : False := by
      rcases checking name removal call advances found with reached | reached <;>
        rw [reached] at writing <;> cases writing
    obtain ⟨after, kept, callMoves⟩ := step_call taken found
    cases callMoves with
    | check _ files changed advances checks => exact (absurd advances).elim
    | write _ stage effect advances writes => exact (absurd advances).elim
    | answer other success runs queued owner => exact (absurd_of_no_result quiet.2 queued).elim
    | stay elsewhere =>
        have still : Quiet next := by
          apply quiet_step quiet taken
          intro caller removal call' advances found' making
          rcases checking caller removal call' advances found' with reached | reached <;>
            cases making.symm.trans reached
        refine ⟨call, kept, .preparing writing unresumed unanswered still fun making => ?_⟩
        rcases step_session taken with
          ⟨sameSession, sameSessions, _⟩ | ⟨caller, through, call', stage, effect, advances, found',
            writes, _⟩ | ⟨other, _, transfer, status, effect, _, found', handles⟩ | ⟨cancel, rfl⟩
        · rw [sameSession, sameSessions]
          exact valid making
        · have mine := orderly.turns.caller_eq last same taken advances found' writes
          exact (elsewhere through (by rw [advances, mine])).elim
        · exact (absurd_of_inactive quiet.1 found' handles.active).elim
        · exact (alone.1 name call found making).elim
  · have mine := orderly.turns.caller_eq last same taken advances found' writes
    subst mine
    cases Option.some.inj (found.symm.trans found')
    have kept : next.calls.get? caller = some (call.moveTo stage) := by
      rw [moved]
      exact get?_setCall_self (writes.records.calls ▸ found) _
    refine ⟨_, kept, ?_⟩
    have still (unmade : call.stage ≠ .makingTask) : Quiet next :=
      quiet_step quiet taken (not_making orderly last found unmade)
    generalize reached : call.stage = current at writes writing unresumed valid still
    cases writes with
    | folder => cases writing
    | session =>
        refine .preparing rfl nofun unanswered (still nofun) fun _ => ?_
        rw [moved]
        exact ⟨_, rfl, Table.get?_push_self ..⟩
    | noTask absent =>
        obtain ⟨session, present, _⟩ := valid rfl
        cases absent.symm.trans present
    | task session present usable =>
        -- everything was quiet, so the new transfer is the only active one
        rw [moved]
        refine .transferring downloads.transfers.size _ (Or.inl ⟨rfl, rfl, rfl⟩) unanswered
          quiet.2 (Table.get?_push_self ..) rfl ?_
        intro other transfer present' active
        rcases Table.get?_push_cases present' with old | ⟨newest, _⟩
        · exact (absurd_of_inactive quiet.1 old active).elim
        · exact newest
    | resumeNone | resume => exact (unresumed rfl).elim
    | _ => exact .preparing rfl nofun unanswered (still nofun) nofun

end Underway

/-- The download that begins is the one underway. -/
theorem began_step {removal : Removal} (orderly : Orderly downloads)
    (alone : Alone downloads (.advance name removal))
    (taken : step downloads (.advance name removal) = some next)
    (found : downloads.calls.get? name = some call) (begins : call.stage = .writingFolder) :
    next.Underway name (call.moveTo .writingProgress) := by
  have unanswered : call.answers = [] := by
    have notLast : downloads.starts.getLast? ≠ some name := by
      intro last
      obtain ⟨call', found', written⟩ := orderly.turns.last name last
      cases Option.some.inj (found.symm.trans found')
      rw [begins] at written
      exact written
    have settled := orderly.settled name call found notLast
    rw [begins] at settled
    exact settled
  have quiet : Quiet downloads := (alone call found begins).2
  rw [step_writingFolder taken found begins]
  exact .preparing rfl nofun unanswered quiet nofun

/-- Alone, the last call is under way. -/
theorem current_step (orderly : Orderly downloads) (alone : Alone downloads label)
    (taken : step downloads label = some next) :
    ∀ name ∈ next.starts.getLast?, ∃ call, next.calls.get? name = some call ∧
      next.Underway name call := by
  intro name member
  rcases step_starts taken with same | ⟨caller, removal, call, rfl, beginner, begins⟩
  · have last : downloads.starts.getLast? = some name := same ▸ member
    obtain ⟨call, found, underway⟩ := orderly.current name last
    cases underway with
    | preparing writing unresumed unanswered quiet valid =>
        exact preparing_step orderly alone taken last found same writing unresumed unanswered quiet
          valid
    | transferring own transfer stands unanswered none present active only =>
        exact transferring_step orderly alone taken last found stands unanswered none present active
          only
    | queued own success returned unanswered inactive pending =>
        exact queued_step orderly alone taken last found returned unanswered inactive pending
    | answered answer returned once quiet =>
        exact answered_step orderly taken last found returned once quiet
  · have underway := began_step orderly alone taken beginner begins
    rw [step_writingFolder taken beginner begins] at member underway ⊢
    have own : (downloads.starts ++ [caller]).getLast? = some name := member
    rw [List.getLast?_concat] at own
    cases own
    exact ⟨_, get?_setCall_self beginner _, underway⟩

/-- A call under way was answered once at most. -/
theorem Underway.atMostOnce (underway : downloads.Underway name call) :
    call.answers.length ≤ 1 := by
  cases underway with
  | preparing _ _ unanswered | transferring _ _ _ unanswered | queued _ _ _ unanswered =>
      rw [unanswered]
      exact Nat.zero_le 1
  | answered answer _ once =>
      rw [once]
      exact Nat.le_refl 1

/-- In order, every call was answered once at most. -/
theorem Orderly.atMostOnce (orderly : Orderly downloads) :
    downloads.calls.All fun _ call => call.answers.length ≤ 1 := by
  intro name call found
  by_cases last : downloads.starts.getLast? = some name
  · obtain ⟨call', found', underway⟩ := orderly.current name last
    cases Option.some.inj (found.symm.trans found')
    exact underway.atMostOnce
  · have settled := orderly.settled name call found last
    split at settled
    · obtain ⟨answer, once⟩ := settled
      rw [once]
      exact Nat.le_refl 1
    · rw [settled]
      exact Nat.zero_le 1

/-- In order and at rest, every call was answered once. -/
theorem Orderly.answered (orderly : Orderly downloads) (quiescent : Quiescent downloads) :
    downloads.calls.All fun _ call => call.answers.length = 1 := by
  obtain ⟨returned, quiet, _, empty⟩ := quiescent
  intro name call found
  have finished : call.stage = .returned := returned name call found
  by_cases last : downloads.starts.getLast? = some name
  · obtain ⟨call', found', underway⟩ := orderly.current name last
    cases Option.some.inj (found.symm.trans found')
    cases underway with
    | preparing writing =>
        rw [finished] at writing
        cases writing
    | transferring own transfer stands _ _ present active =>
        have waits := quiet own transfer present active
        rcases stands with ⟨resuming, _⟩ | ⟨_, runs⟩
        · cases finished.symm.trans resuming
        · exact (runs waits).elim
    | queued own success _ _ _ pending =>
        unfold results at pending
        rw [empty] at pending
        cases pending
    | answered answer _ once =>
        rw [once]
        rfl
  · have settled := orderly.settled name call found last
    rw [if_pos finished] at settled
    obtain ⟨answer, once⟩ := settled
    rw [once]
    rfl

/-- A transfer with a result of true has its file stored at the place of its call. -/
theorem Attributed.stored (attributed : Attributed downloads) {other : Nat}
    (found : downloads.calls.get? name = some call) (own : downloads.OwnResult name other true) :
    downloads.Stored name call := by
  obtain ⟨⟨transfer, present, mine⟩, move, logged, rfl, stored⟩ := own
  obtain ⟨transfer', present', call', found', url, given, placed⟩ := attributed.moves move logged
  cases Option.some.inj (present.symm.trans present')
  subst mine
  cases Option.some.inj (found.symm.trans found')
  exact ⟨move, logged, stored, ⟨transfer, present, rfl⟩, url, given, placed⟩

end AwesomeDownload

end AwesomeNetwork
