import AwesomeNetwork.Downloading.FileSteps

/-! # Whose file a download stores, and whose completion it calls

The delegate and the blocks of the main queue read the shared fields when they run.
They serve the call whose transfer they handle as long as the fields that they read
are still the ones that this call wrote, which they are while the calls of `download`
take turns.
-/

namespace AwesomeNetwork

/-- The call has begun to write the shared fields and has not returned. -/
def DownloadStage.writing : DownloadStage → Bool
  | .checking | .deleting | .writingFolder | .returned => false
  | _ => true

/-- The delegate reads a shared field next to find the place of the file. -/
def TransferStatus.reading : TransferStatus → Bool
  | .readingUrl | .moving _ => true
  | _ => false

namespace AwesomeDownload

/-- The move put the file of a transfer at the offline destination of the URL of its
call, in the folder of its call. -/
def OwnMove (downloads : AwesomeDownload) (move : FileMove) : Prop :=
  ∃ transfer, downloads.transfers.get? move.transfer = some transfer ∧
    ∃ call, downloads.calls.get? transfer.call = some call ∧
      ∃ url, call.url = some url ∧ move.destination = url.offlineFileDestination call.folder

/-- A move of the transfer ended with the given result. -/
def Recorded (downloads : AwesomeDownload) (name : Nat) (success : Bool) : Prop :=
  ∃ move ∈ downloads.moves, move.transfer = name ∧ move.stored = success

/-- The result is that of a transfer of the call `name`. -/
def OwnResult (downloads : AwesomeDownload) (name other : Nat) (success : Bool) : Prop :=
  (∃ transfer, downloads.transfers.get? other = some transfer ∧ transfer.call = name) ∧
    downloads.Recorded other success

/-- Every move is to the place of its own URL, and every result that a completion was
called with is that of a transfer of its own call. -/
structure Attributed (downloads : AwesomeDownload) : Prop where
  moves : ∀ move ∈ downloads.moves, downloads.OwnMove move
  results : downloads.calls.All fun name call => ∀ other success,
    .transferred other success ∈ call.answers → downloads.OwnResult name other success

/-- The answers that the completion of the call `name` was called with. -/
def answersOf (downloads : AwesomeDownload) (name : Nat) : List DownloadAnswer :=
  ((downloads.calls.get? name).map DownloadCall.answers).getD []

/-- The completion of the call `name` may be called so now: for want of a URL, because
the file of its URL is there, or with the result of its own transfer. -/
def OwnAnswer (downloads : AwesomeDownload) (name : Nat) (call : DownloadCall) :
    DownloadAnswer → Prop
  | .noUrl => call.url = none
  | .existed => ∃ url, call.url = some url ∧
      url.offlineFileExists downloads.files call.folder = true
  | .transferred other success => downloads.OwnResult name other success

/-- The file that the step brings to the path, if any, holds the bytes of the transfer that
the delegate handles, and the path is the offline destination of the URL of its call, in the
folder of its call. -/
def StoresOwn (downloads : AwesomeDownload) (label : Label) (next : AwesomeDownload) : Prop :=
  ∀ path contents, next.files.nodes path = some (.file contents) →
    downloads.files.nodes path = some (.file contents) ∨
      ∃ name goesThrough transfer call url, label = .deliver name goesThrough ∧
        downloads.transfers.get? name = some transfer ∧ transfer.bytes = contents ∧
        downloads.calls.get? transfer.call = some call ∧ call.url = some url ∧
        path = (url.offlineFileDestination call.folder).resolved

/-- Every completion that the step calls is called for its own download. -/
def AnswersOwn (downloads next : AwesomeDownload) : Prop :=
  next.calls.All fun name call => call.answers = downloads.answersOf name ∨
    ∃ answer, call.answers = downloads.answersOf name ++ [answer] ∧
      downloads.OwnAnswer name call answer

/-- What the step stores and what it answers belongs to one download. -/
def ServesOwn (downloads : AwesomeDownload) (label : Label) : Prop :=
  ∀ next, step downloads label = some next →
    downloads.StoresOwn label next ∧ downloads.AnswersOwn next

/-- The field that a delegate reads next is the one that the call wrote. -/
def FieldKept (downloads : AwesomeDownload) (call : DownloadCall) : TransferStatus → Prop
  | .readingUrl => downloads.downloadUrl = call.url
  | .moving _ => downloads.downloadFolder = call.folder
  | _ => True

/-- Every shared field that the step reads for a transfer is the one that the call of
the transfer wrote. -/
def FieldsKept (downloads : AwesomeDownload) : Label → Prop
  | .deliver name _ =>
      ∀ transfer ∈ downloads.transfers.get? name, ∀ call ∈ downloads.calls.get? transfer.call,
        downloads.FieldKept call transfer.status
  | .runMain =>
      ∀ result ∈ downloads.nextResult, ∀ transfer ∈ downloads.transfers.get? result.1,
        downloads.downloadedCallback = some transfer.call
  | _ => True

/-- The calls of `download` take turns: none begins to write while another one is
writing, and none has begun between the writes of a call and the reads for its
transfer. -/
def InTurn (downloads : AwesomeDownload) : Label → Prop
  | .advance name _ =>
      ∀ call ∈ downloads.calls.get? name, call.stage = .writingFolder →
        downloads.calls.All fun _ other => other.stage.writing = false
  | .deliver name _ =>
      ∀ transfer ∈ downloads.transfers.get? name, transfer.status.reading = true →
        downloads.starts.getLast? = some transfer.call
  | .runMain =>
      ∀ result ∈ downloads.nextResult, ∀ transfer ∈ downloads.transfers.get? result.1,
        downloads.starts.getLast? = some transfer.call
  | _ => True

instance (downloads : AwesomeDownload) : ∀ label, Decidable (downloads.InTurn label)
  | .advance name _ =>
      inferInstanceAs (Decidable (∀ call ∈ downloads.calls.get? name,
        call.stage = .writingFolder →
          downloads.calls.All fun _ other => other.stage.writing = false))
  | .deliver name _ =>
      inferInstanceAs (Decidable (∀ transfer ∈ downloads.transfers.get? name,
        transfer.status.reading = true → downloads.starts.getLast? = some transfer.call))
  | .runMain =>
      inferInstanceAs (Decidable (∀ result ∈ downloads.nextResult,
        ∀ transfer ∈ downloads.transfers.get? result.1,
          downloads.starts.getLast? = some transfer.call))
  | .download .. | .cancelDownload | .advanceCancel _ | .delete .. | .finish .. | .fail _
  | .writeData .. => .isTrue trivial

variable {downloads next : AwesomeDownload} {label : Label} {name other : Nat} {success : Bool}
  {call : DownloadCall}

section Kept

/-- A move to the own place has been one for good. -/
theorem ownMove_step {move : FileMove} (own : downloads.OwnMove move)
    (taken : step downloads label = some next) : next.OwnMove move := by
  obtain ⟨transfer, present, call, owner, url, named, placed⟩ := own
  obtain ⟨transfer', present', transferMoves⟩ := step_transfer taken present
  obtain ⟨call', owner', callMoves⟩ := step_call taken owner
  obtain ⟨sameUrl, sameFolder⟩ := callMoves.url_folder_eq
  refine ⟨transfer', present', call', ?_, url, ?_, ?_⟩
  · rw [transferMoves.call_eq]
    exact owner'
  · rw [sameUrl]
    exact named
  · rw [sameFolder]
    exact placed

/-- A move that was recorded has been recorded for good. -/
theorem recorded_step (recorded : downloads.Recorded name success)
    (taken : step downloads label = some next) : next.Recorded name success := by
  obtain ⟨move, member, sameTransfer, stored⟩ := recorded
  refine ⟨move, ?_, sameTransfer, stored⟩
  rcases step_moves taken with same | ⟨_, _, _, _, _, _, _, _, _, extended⟩
  · rw [same]
    exact member
  · rw [extended]
    exact List.mem_append_left _ member

/-- A result of the own transfer has been one for good. -/
theorem ownResult_step (own : downloads.OwnResult name other success)
    (taken : step downloads label = some next) : next.OwnResult name other success := by
  obtain ⟨⟨transfer, present, caller⟩, recorded⟩ := own
  obtain ⟨transfer', present', moves⟩ := step_transfer taken present
  exact ⟨⟨transfer', present', moves.call_eq.trans caller⟩, recorded_step recorded taken⟩

end Kept

/-- A transfer about to be moved has read the URL of its call, and every result
underway or given is that of a move at its own place. -/
structure Placing (downloads : AwesomeDownload) : Prop where
  owned : downloads.transfers.All fun _ transfer =>
    ∃ call, downloads.calls.get? transfer.call = some call ∧
      ∀ url, transfer.status = .creatingFolder url ∨ transfer.status = .moving url →
        call.url = some url
  enqueuing : downloads.transfers.All fun name transfer =>
    ∀ success, transfer.status = .enqueuing success → downloads.Recorded name success
  results : ∀ result ∈ downloads.results, downloads.Recorded result.1 result.2
  attributed : downloads.Attributed

/-- Without transfers every read is right. -/
theorem placing_initial (files : FileSystem) : Placing (initial files) where
  owned := Table.All.empty
  enqueuing := Table.All.empty
  results := nofun
  attributed := ⟨nofun, Table.All.empty⟩

/-- The next result is one of those queued. -/
theorem nextResult_mem {result : Nat × Bool} (next : downloads.nextResult = some result) :
    result ∈ downloads.results := by
  unfold nextResult at next
  unfold results
  cases queued : downloads.mainQueue with
  | nil =>
      rw [queued] at next
      cases next
  | cons block rest =>
      rw [queued] at next
      exact List.mem_filterMap.mpr ⟨block, List.mem_cons_self, next⟩

/-- The call of a transfer and the URL that the delegate has read for it. -/
theorem owned_step (placing : Placing downloads) (kept : FieldsKept downloads label)
    (taken : step downloads label = some next) :
    next.transfers.All fun _ transfer => ∃ call, next.calls.get? transfer.call = some call ∧
      ∀ url, transfer.status = .creatingFolder url ∨ transfer.status = .moving url →
        call.url = some url := by
  intro name after present
  rcases step_transfer_inv taken present with
    ⟨before, found, moves⟩ | ⟨caller, _, call, _, _, owner, _, _, rfl⟩
  · obtain ⟨call, owner, reads⟩ := placing.owned name before found
    obtain ⟨call', owner', callMoves⟩ := step_call taken owner
    refine ⟨call', ?_, fun url reading => ?_⟩
    · rw [moves.call_eq]
      exact owner'
    have handling : after.status.handling = true := by
      rcases reading with reading | reading <;> rw [reading] <;> rfl
    rw [callMoves.url_folder_eq.1]
    rcases moves.handling handling with same | ⟨goesThrough, effect, rfl, handles⟩
    · rw [same] at reads
      exact reads url reading
    · -- the URL is read while it is the one of this call, and carried on from there
      have own := kept before found call owner
      generalize reached : before.status = current at handles reads own
      rcases reading with reading | reading
      · rw [reading] at handles
        cases handles with
        | readUrl _ read => exact own.symm.trans read
      · rw [reading] at handles
        cases handles with
        | createFolder _ files => exact reads url (Or.inl rfl)
  · obtain ⟨call', owner', _⟩ := step_call taken owner
    refine ⟨call', owner', fun url reading => ?_⟩
    rcases reading with reading | reading <;> cases reading

/-- A move that the delegate makes is at the place of its own download. -/
theorem moves_step (placing : Placing downloads) (kept : FieldsKept downloads label)
    (taken : step downloads label = some next) : ∀ move ∈ next.moves, next.OwnMove move := by
  intro move member
  rcases step_moves taken with
    same | ⟨other, goesThrough, transfer, url, success, rfl, found, moving, _, extended⟩
  · rw [same] at member
    exact ownMove_step (placing.attributed.moves move member) taken
  · rw [extended] at member
    rcases List.mem_append.mp member with earlier | last
    · exact ownMove_step (placing.attributed.moves move earlier) taken
    · cases List.mem_singleton.mp last
      obtain ⟨call, owner, reads⟩ := placing.owned other transfer found
      have sameFolder := kept transfer found call owner
      rw [moving] at sameFolder
      apply ownMove_step _ taken
      refine ⟨transfer, found, call, owner, url, reads url (Or.inr moving), ?_⟩
      exact congrArg url.offlineFileDestination sameFolder

/-- A delegate that goes on to report has logged its move. -/
theorem recorded_of_move {goesThrough : Bool} {before after : Transfer} {url : URL}
    (taken : step downloads (.deliver name goesThrough) = some next)
    (found : downloads.transfers.get? name = some before) (moving : before.status = .moving url)
    (present : next.transfers.get? name = some after)
    (enqueuing : after.status = .enqueuing success) : next.Recorded name success := by
  cases stepCases taken with
  | deliver _ _ transfer status effect found' handles =>
      cases Option.some.inj (found.symm.trans found')
      rw [get?_setStatus, if_pos rfl, handles.own found] at present
      cases present
      cases enqueuing
      rw [moving] at handles
      cases handles with
      | move _ _ files => exact ⟨_, List.mem_append_right _ List.mem_cons_self, rfl, rfl⟩

/-- Every step keeps the results that the delegate is about to queue recorded. -/
theorem enqueuing_step (placing : Placing downloads) (taken : step downloads label = some next) :
    next.transfers.All fun name transfer =>
      ∀ success, transfer.status = .enqueuing success → next.Recorded name success := by
  intro name after present success enqueuing
  rcases step_transfer_inv taken present with ⟨before, found, moves⟩ | ⟨_, _, _, _, _, _, _, _, rfl⟩
  · have handling : after.status.handling = true := by
      rw [enqueuing]
      rfl
    rcases moves.handling handling with same | ⟨goesThrough, effect, rfl, handles⟩
    · exact recorded_step (placing.enqueuing name before found success (same.trans enqueuing)) taken
    · generalize reached : before.status = current at handles
      rw [enqueuing] at handles
      cases handles with
      | move url _ files => exact recorded_of_move taken found reached present enqueuing
  · cases enqueuing

/-- Every step keeps the results in the queue recorded. -/
theorem results_step (placing : Placing downloads) (taken : step downloads label = some next) :
    ∀ result ∈ next.results, next.Recorded result.1 result.2 := by
  intro result member
  have old (earlier : result ∈ downloads.results) : next.Recorded result.1 result.2 :=
    recorded_step (placing.results result earlier) taken
  rcases step_results taken with
    ⟨same, _⟩ | ⟨other, _, transfer, success, _, found, enqueuing, _, extended⟩ |
      ⟨_, _, _, _, popped⟩
  · rw [same] at member
    exact old member
  · rw [extended] at member
    rcases List.mem_append.mp member with earlier | last
    · exact old earlier
    · cases List.mem_singleton.mp last
      exact recorded_step (placing.enqueuing other transfer found success enqueuing) taken
  · apply old
    rw [popped]
    exact List.mem_cons_of_mem _ member

/-- The result that the next block of the main queue carries is that of a transfer of the
call whose completion it calls. -/
theorem ownResult_next (placing : Placing downloads) (kept : FieldsKept downloads .runMain)
    (queued : downloads.nextResult = some (other, success))
    (owner : downloads.downloadedCallback = some name) :
    downloads.OwnResult name other success := by
  -- the block carries the result of a logged move, so its transfer is known
  obtain ⟨move, logged, rfl, rfl⟩ := placing.results _ (nextResult_mem queued)
  obtain ⟨transfer, transferred, _⟩ := placing.attributed.moves move logged
  have caller := kept _ queued transfer transferred
  exact ⟨⟨transfer, transferred, Option.some.inj (caller.symm.trans owner)⟩, move, logged, rfl,
    rfl⟩

/-- A call is answered for want of a URL, because its file is there, or by a block. -/
theorem answersOwn_step (placing : Placing downloads) (kept : FieldsKept downloads label)
    (taken : step downloads label = some next) : downloads.AnswersOwn next := by
  intro name after present
  rcases step_call_inv taken present with ⟨before, found, moves⟩ | ⟨_, _, _, rfl, newest, rfl⟩
  · have earlier : downloads.answersOf name = before.answers := by
      unfold answersOf
      rw [found]
      rfl
    rw [earlier]
    cases moves with
    | stay | write => exact Or.inl rfl
    | check removal files changed advances checks =>
        cases checks with
        | noUrl checking absent => exact Or.inr ⟨_, rfl, absent⟩
        | existed url checking named stored => exact Or.inr ⟨_, rfl, url, named, stored⟩
        | _ => exact Or.inl rfl
    | answer other success runs queued owner =>
        subst runs
        exact Or.inr ⟨_, rfl, ownResult_next placing kept queued owner⟩
  · left
    unfold answersOf
    rw [newest, Table.get?_size]
    rfl

/-- A completion is called with the result of its own transfer. -/
theorem results_attributed_step (placing : Placing downloads) (kept : FieldsKept downloads label)
    (taken : step downloads label = some next) :
    next.calls.All fun name call => ∀ other success,
      .transferred other success ∈ call.answers → next.OwnResult name other success := by
  intro name after present other success member
  have old (earlier : .transferred other success ∈ downloads.answersOf name) :
      next.OwnResult name other success := by
    unfold answersOf at earlier
    cases found : downloads.calls.get? name with
    | none =>
        rw [found] at earlier
        cases earlier
    | some before =>
        rw [found] at earlier
        exact ownResult_step
          (placing.attributed.results name before found other success earlier) taken
  rcases answersOwn_step placing kept taken name after present with same | ⟨answer, grown, own⟩
  · exact old (same ▸ member)
  · rw [grown] at member
    rcases List.mem_append.mp member with earlier | last
    · exact old earlier
    · cases List.mem_singleton.mp last
      exact ownResult_step own taken

/-- A file is stored for the transfer that the delegate handles, at its own place. -/
theorem storesOwn_step (placing : Placing downloads) (kept : FieldsKept downloads label)
    (taken : step downloads label = some next) : downloads.StoresOwn label next := by
  intro path contents file
  rcases new_file_step taken file with
    old | ⟨name, goesThrough, transfer, url, rfl, found, moving, _, same, whole⟩
  · exact Or.inl old
  · obtain ⟨call, owner, reads⟩ := placing.owned name transfer found
    have sameFolder := kept transfer found call owner
    rw [moving] at sameFolder
    exact Or.inr ⟨name, goesThrough, transfer, call, url, rfl, found, whole, owner,
      reads url (Or.inr moving), same.trans (congrArg (fun folder =>
        (url.offlineFileDestination folder).resolved) sameFolder)⟩

/-- A step that reads what was kept keeps every read right. -/
theorem placing_step (placing : Placing downloads) (kept : FieldsKept downloads label)
    (taken : step downloads label = some next) : Placing next where
  owned := owned_step placing kept taken
  enqueuing := enqueuing_step placing taken
  results := results_step placing taken
  attributed := ⟨moves_step placing kept taken, results_attributed_step placing kept taken⟩

/-- The shared fields that the call has written by the stage are its own. -/
def Written (downloads : AwesomeDownload) (name : Nat) (call : DownloadCall) :
    DownloadStage → Prop
  | .checking | .deleting | .writingFolder => False
  | .writingProgress | .writingDownloaded => downloads.downloadFolder = call.folder
  | .writingUrl =>
      downloads.downloadFolder = call.folder ∧ downloads.downloadedCallback = some name
  | _ =>
      downloads.downloadFolder = call.folder ∧ downloads.downloadedCallback = some name ∧
        downloads.downloadUrl = call.url

/-- Only the call that began to write last is still writing, and what it has written
is in the shared fields. -/
structure TakingTurns (downloads : AwesomeDownload) : Prop where
  writer : downloads.calls.All fun name call =>
    call.stage.writing = true → downloads.starts.getLast? = some name
  last : ∀ name ∈ downloads.starts.getLast?, ∃ call,
    downloads.calls.get? name = some call ∧ downloads.Written name call call.stage
  started : downloads.transfers.All fun _ transfer => ∃ call,
    downloads.calls.get? transfer.call = some call ∧
      (call.stage = .resuming ∨ call.stage = .returned)

/-- The call that is still writing is the one that began last. -/
theorem TakingTurns.eq_last {caller : Nat} (turns : TakingTurns downloads)
    (last : downloads.starts.getLast? = some name)
    (found : downloads.calls.get? caller = some call) (writing : call.stage.writing = true) :
    caller = name :=
  Option.some.inj ((turns.writer caller call found writing).symm.trans last)

/-- Without calls every call has its turn. -/
theorem takingTurns_initial (files : FileSystem) : TakingTurns (initial files) where
  writer := Table.All.empty
  last := nofun
  started := Table.All.empty

/-- What a call has written stays written while the fields stay. -/
theorem Written.congr {stage : DownloadStage} {after : DownloadCall}
    (written : downloads.Written name call stage) (same : SameFields downloads next)
    (sameUrl : after.url = call.url) (sameFolder : after.folder = call.folder) :
    next.Written name after stage := by
  unfold Written at written ⊢
  rw [same.folder, same.callback, same.url, sameUrl, sameFolder]
  exact written

/-- A write of a call keeps what the call has written, and adds to it. -/
theorem Writes.written {stage stage' : DownloadStage} {effect : AwesomeDownload}
    (writes : Writes downloads name call stage stage' effect)
    (before : stage ≠ .writingFolder → downloads.Written name call stage) :
    effect.Written name call stage' := by
  cases writes with
  | folder => rfl
  | progress => exact before nofun
  | downloaded => exact ⟨before nofun, rfl⟩
  | url => exact ⟨(before nofun).1, (before nofun).2, rfl⟩
  | cancelTask => exact (before nofun).congr (cancelTask_fields downloads) rfl rfl
  | cancelSession => exact (before nofun).congr (invalidateAndCancel_fields downloads) rfl rfl
  | _ => exact before nofun

/-- Only the first write begins a turn. -/
theorem Writes.starts {stage stage' : DownloadStage} {effect : AwesomeDownload}
    (writes : Writes downloads name call stage stage' effect) (begun : stage ≠ .writingFolder) :
    effect.starts = downloads.starts := by
  cases writes with
  | folder => exact (begun rfl).elim
  | cancelTask => exact (cancelTask_fields downloads).starts
  | cancelSession => exact (invalidateAndCancel_fields downloads).starts
  | _ => rfl

/-- After its first write a call is writing. -/
theorem Writes.writing {stage stage' : DownloadStage} {effect : AwesomeDownload}
    (writes : Writes downloads name call stage stage' effect) (begun : stage ≠ .writingFolder) :
    stage.writing = true := by
  cases writes with
  | folder => exact (begun rfl).elim
  | _ => rfl

/-- A call begins to write in one statement only. -/
theorem step_starts (taken : step downloads label = some next) :
    next.starts = downloads.starts ∨
      ∃ caller removal call, label = .advance caller removal ∧
        downloads.calls.get? caller = some call ∧ call.stage = .writingFolder := by
  rcases step_fields taken with
    ⟨same, _⟩ | ⟨caller, removal, call, stage, effect, rfl, found, writes, rfl⟩
  · exact Or.inl same.starts
  · by_cases begins : call.stage = .writingFolder
    · exact Or.inr ⟨caller, removal, call, rfl, found, begins⟩
    · exact Or.inl (writes.starts begins)

/-- In turn, only the last call to begin is writing. -/
theorem writer_step (turns : TakingTurns downloads) (turn : InTurn downloads label)
    (taken : step downloads label = some next) :
    next.calls.All fun name call =>
      call.stage.writing = true → next.starts.getLast? = some name := by
  intro name after present writing
  rcases step_call_inv taken present with ⟨before, found, moves⟩ | ⟨_, _, _, _, _, rfl⟩
  · have earlier (writing : before.stage.writing = true) : next.starts.getLast? = some name := by
      rcases step_starts taken with same | ⟨caller, _, call, rfl, beginner, begins⟩
      · rw [same]
        exact turns.writer name before found writing
      · rw [turn call beginner begins name before found] at writing
        cases writing
    cases moves with
    | stay => exact earlier writing
    | check removal files changed advances checks => cases checks <;> cases writing
    | write removal stage effect advances writes =>
        by_cases begins : before.stage = .writingFolder
        · subst advances
          rw [step_writingFolder taken found begins]
          exact List.getLast?_concat
        · exact earlier (writes.writing begins)
    | answer => exact earlier writing
  · cases writing

/-- Only the call that began last may be at a statement that writes. -/
theorem TakingTurns.caller_eq {removal : Removal} {caller : Nat} {stage : DownloadStage}
    {effect : AwesomeDownload} (turns : TakingTurns downloads)
    (last : downloads.starts.getLast? = some name) (same : next.starts = downloads.starts)
    (taken : step downloads label = some next) (advances : label = .advance caller removal)
    (found : downloads.calls.get? caller = some call)
    (writes : Writes downloads caller call call.stage stage effect) : caller = name := by
  subst advances
  by_cases begins : call.stage = .writingFolder
  · rw [step_writingFolder taken found begins] at same
    cases List.append_right_eq_self.mp same
  · exact turns.eq_last last found (writes.writing begins)

/-- In turn, the last call to begin has written what it has passed. -/
theorem last_step (turns : TakingTurns downloads) (taken : step downloads label = some next) :
    ∀ name ∈ next.starts.getLast?, ∃ call, next.calls.get? name = some call ∧
      next.Written name call call.stage := by
  intro name member
  rcases step_starts taken with same | ⟨caller, removal, call, rfl, beginner, begins⟩
  · rw [same] at member
    obtain ⟨call, found, written⟩ := turns.last name member
    rcases step_fields taken with
      ⟨fields, checking⟩ | ⟨caller, removal, call', stage, effect, rfl, found', writes, rfl⟩
    · obtain ⟨after, present, moves⟩ := step_call taken found
      have absurd {removal : Removal} (advances : label = .advance name removal) : False := by
        rcases checking name removal call advances found with reached | reached <;>
          rw [reached] at written <;> exact written
      refine ⟨after, present, ?_⟩
      cases moves with
      | stay => exact written.congr fields rfl rfl
      | check removal files changed advances checks => exact (absurd advances).elim
      | write removal stage effect advances writes => exact (absurd advances).elim
      | answer => exact written.congr fields rfl rfl
    · cases turns.caller_eq member same taken rfl found' writes
      cases Option.some.inj (found.symm.trans found')
      have kept : effect.calls.get? name = some call := writes.records.calls ▸ found
      exact ⟨call.moveTo stage, get?_setCall_self kept _,
        (writes.written fun _ => written).congr ⟨rfl, rfl, rfl, rfl⟩ rfl rfl⟩
  · have moved := step_writingFolder taken beginner begins
    rw [moved] at member ⊢
    have last : ((downloads.starts ++ [caller]).getLast?) = some name := member
    rw [List.getLast?_concat] at last
    cases last
    exact ⟨call.moveTo .writingProgress, get?_setCall_self beginner _, rfl⟩

/-- A call that has made its task has done so for good. -/
theorem CallMoves.started {before after : DownloadCall}
    (moves : CallMoves downloads label name before after)
    (started : before.stage = .resuming ∨ before.stage = .returned) :
    after.stage = .resuming ∨ after.stage = .returned := by
  cases moves with
  | stay => exact started
  | check removal files changed advances checks => exact (checks.unreturned started).elim
  | write removal stage effect advances writes =>
      generalize before.stage = current at writes started
      rcases started with rfl | rfl <;> cases writes <;> exact Or.inr rfl
  | answer => exact started

/-- A transfer was made by a call that has passed that statement. -/
theorem started_step (turns : TakingTurns downloads) (taken : step downloads label = some next) :
    next.transfers.All fun _ transfer => ∃ call, next.calls.get? transfer.call = some call ∧
      (call.stage = .resuming ∨ call.stage = .returned) := by
  intro name after present
  rcases step_transfer_inv taken present with
    ⟨before, found, moves⟩ | ⟨caller, removal, call, _, rfl, owner, making, _, rfl⟩
  · obtain ⟨call, owner, started⟩ := turns.started name before found
    obtain ⟨call', owner', callMoves⟩ := step_call taken owner
    rw [moves.call_eq]
    exact ⟨call', owner', callMoves.started started⟩
  · obtain ⟨call', owner', callMoves⟩ := step_call taken owner
    refine ⟨call', owner', ?_⟩
    cases callMoves with
    | stay others => exact (others removal rfl).elim
    | check _ files changed advances checks =>
        rcases checks.early with reached | reached <;> cases making.symm.trans reached
    | write _ stage effect advances writes =>
        rw [making] at writes
        cases writes <;> exact Or.inl rfl
    | answer _ _ runs => cases runs

/-- A step in turn keeps the turns. -/
theorem takingTurns_step (turns : TakingTurns downloads) (turn : InTurn downloads label)
    (taken : step downloads label = some next) : TakingTurns next where
  writer := writer_step turns turn taken
  last := last_step turns taken
  started := started_step turns taken

/-- What is read for a transfer in turn is what its own call wrote. -/
theorem fieldsKept_of_inTurn (turns : TakingTurns downloads) (turn : InTurn downloads label) :
    FieldsKept downloads label := by
  have written {transfer : Transfer} {name : Nat}
      (found : downloads.transfers.get? name = some transfer)
      (last : downloads.starts.getLast? = some transfer.call) :
      ∃ call, downloads.calls.get? transfer.call = some call ∧
        downloads.downloadFolder = call.folder ∧
        downloads.downloadedCallback = some transfer.call ∧ downloads.downloadUrl = call.url := by
    obtain ⟨call, owner, started⟩ := turns.started name transfer found
    obtain ⟨call', owner', written⟩ := turns.last transfer.call last
    cases Option.some.inj (owner.symm.trans owner')
    refine ⟨call, owner, ?_⟩
    rcases started with reached | reached <;> rw [reached] at written <;> exact written
  cases label with
  | deliver name goesThrough =>
      intro transfer found call owner
      unfold FieldKept
      split
      · next reached =>
          have last := turn transfer found (congrArg TransferStatus.reading reached)
          obtain ⟨call', owner', _, _, url⟩ := written found last
          cases Option.some.inj (owner.symm.trans owner')
          exact url
      · next url reached =>
          have last := turn transfer found (congrArg TransferStatus.reading reached)
          obtain ⟨call', owner', folder, _⟩ := written found last
          cases Option.some.inj (owner.symm.trans owner')
          exact folder
      · trivial
  | runMain =>
      intro result queued transfer found
      obtain ⟨call, owner, _, callback, _⟩ := written found (turn result queued transfer found)
      exact callback
  | _ => trivial

/-- **Attribution.** When every field that is read for a transfer is still the one
that its call wrote, every file that is stored holds the bytes of a transfer at the place of
its own URL, and every completion is called for its own download: because its file was there
at that moment, or with the result of its own transfer. This is so when calls take turns. -/
theorem attributed_of_fieldsKept (files : FileSystem) (labels : List Label) :
    (Transition.Meets step FieldsKept (initial files) labels →
        Transition.Always step Attributed (initial files) labels ∧
          Transition.Meets step ServesOwn (initial files) labels) ∧
      (Transition.Meets step InTurn (initial files) labels →
        Transition.Meets step FieldsKept (initial files) labels) := by
  refine ⟨fun kept => ⟨?_, ?_⟩, fun turns => ?_⟩
  · have placing : Transition.Always step Placing (initial files) labels :=
      kept.always (fun _ _ _ placing met taken => placing_step placing met taken)
        (placing_initial files)
    exact placing.mono fun _ => Placing.attributed
  · exact kept.strengthen (fun _ _ _ placing met taken => placing_step placing met taken)
      (fun _ _ placing met _ taken =>
        ⟨storesOwn_step placing met taken, answersOwn_step placing met taken⟩)
      (placing_initial files)
  · exact turns.strengthen (fun _ _ _ turning met taken => takingTurns_step turning met taken)
      (fun _ _ turning met => fieldsKept_of_inTurn turning met) (takingTurns_initial files)

/-- The URL of a file of one host. -/
def episode (name : String) : URL := ⟨some "https", some "a.example", "/" ++ name, none⟩

/-- The call `name` downloads a URL, up to its return. -/
def startDownload (name : Nat) (url : URL) : List Label :=
  .download (some url) (some "aaNetworking") false ::
    List.replicate 10 (.advance name .succeeds)

/-- The delegate handles the finish message of the transfer `name`. -/
def handleFinish (name : Nat) : List Label := List.replicate 8 (.deliver name true)

/-- A second download starts while the finish message of the first one is in flight:
the first file is stored under the name of the second URL, and the second completion
is told so. -/
theorem stale_finish_takes_next_name :
    (episode "a.mp4").offlineFileDestination (some "aaNetworking") ≠
        (episode "b.mp4").offlineFileDestination (some "aaNetworking") ∧
      ∃ target, Transition.Run step (initial .empty)
          (startDownload 0 (episode "a.mp4") ++ [.finish 0 [1]] ++
            startDownload 1 (episode "b.mp4") ++ handleFinish 0 ++ [.runMain]) target ∧
        target.moves =
          [⟨0, (episode "b.mp4").offlineFileDestination (some "aaNetworking"), true⟩] ∧
        (target.calls.get? 1).map DownloadCall.answers = some [.transferred 0 true] ∧
        ¬ Attributed target := by
  refine ⟨by decide, _, Transition.run_iff_execute.mpr rfl, rfl, rfl, fun attributed => ?_⟩
  obtain ⟨⟨transfer, present, caller⟩, _⟩ :=
    attributed.results 1 _ rfl 0 true List.mem_cons_self
  cases present
  cases caller

/-- Two downloads in turn, and then a call that finds the file of the first one. -/
def inTurn : List Label :=
  startDownload 0 (episode "a.mp4") ++ [.finish 0 [1]] ++ handleFinish 0 ++ [.runMain] ++
    startDownload 1 (episode "b.mp4") ++
    [.download (some (episode "a.mp4")) (some "aaNetworking") false, .advance 2 .succeeds]

/-- A download that runs on its own. -/
theorem attributed_of_fieldsKept_one :
    Transition.Always step Attributed (initial .empty) inTurn ∧
      Transition.Meets step ServesOwn (initial .empty) inTurn :=
  (attributed_of_fieldsKept _ _).1 ((attributed_of_fieldsKept _ _).2 (by decide))

end AwesomeDownload

end AwesomeNetwork
