import AwesomeNetwork.Downloading.Completion
import AwesomeNetwork.Downloading.OfflineFiles

/-! # Downloads one after the other

A call that begins once nothing of an earlier one is outstanding is the only one that
changes files until the next call begins. What is at its destination is followed through
the steps that are not its own: those of the delegate, of the main queue and of cancels.
-/

namespace AwesomeNetwork

namespace DownloadCall

/-- What is at the destination of the call. -/
def node (call : DownloadCall) (files : FileSystem) : Option FileNode :=
  call.url.bind fun url => files.nodes (url.offlineFileDestination call.folder).resolved

/-- The last path component of the URL names a file. -/
def Named (call : DownloadCall) : Prop := ∀ url, call.url = some url → url.HasFileName

end DownloadCall

namespace AwesomeDownload

/-- Every call has returned, and none may still be answered. -/
def Settled (downloads : AwesomeDownload) : Prop :=
  (downloads.calls.All fun _ call => call.stage = .returned) ∧ downloads.Quiet

/-- The calls of `download` do not overlap, and nothing is deleted. -/
def InSuccession (downloads : AwesomeDownload) : Label → Prop
  | .download .. => downloads.Settled
  | .delete .. => False
  | _ => True

/-- If the call removes a file, the removal goes through. -/
def Removes (name : Nat) (downloads : AwesomeDownload) : Label → Prop
  | .advance other removal => removal = .succeeds ∨ other ≠ name ∨
      ∀ call ∈ downloads.calls.get? name, call.stage ≠ .deleting
  | _ => True

instance (downloads : AwesomeDownload) : Decidable downloads.Settled :=
  inferInstanceAs (Decidable (_ ∧ _ ∧ _))

instance (downloads : AwesomeDownload) : ∀ label, Decidable (downloads.InSuccession label)
  | .download .. => inferInstanceAs (Decidable downloads.Settled)
  | .delete .. => .isFalse id
  | .advance .. | .cancelDownload | .advanceCancel _ | .finish .. | .fail _ | .writeData ..
  | .deliver .. | .runMain => .isTrue trivial

instance (name : Nat) (downloads : AwesomeDownload) :
    ∀ label, Decidable (Removes name downloads label)
  | .advance other removal => inferInstanceAs (Decidable (removal = .succeeds ∨ other ≠ name ∨
      ∀ call ∈ downloads.calls.get? name, call.stage ≠ .deleting))
  | .download .. | .cancelDownload | .advanceCancel _ | .delete .. | .finish .. | .fail _
  | .writeData .. | .deliver .. | .runMain => .isTrue trivial

/-- The call has made no transfer. -/
def Unmade (downloads : AwesomeDownload) (name : Nat) : Prop :=
  downloads.transfers.All fun _ transfer => transfer.call ≠ name

/-- Nothing has been put at the destination of the call. -/
def Vacant (downloads : AwesomeDownload) (call : DownloadCall) : Prop :=
  call.Named → call.node downloads.files = none

/-- The move of the file went through, or left the destination vacant. -/
def Outcome (downloads : AwesomeDownload) (call : DownloadCall) (transfer : Transfer) :
    Bool → Prop
  | true => call.node downloads.files = some (.file transfer.bytes)
  | false => downloads.Vacant call

/-- What is at the destination while the transfer stands at the status. -/
def Places (downloads : AwesomeDownload) (call : DownloadCall) (transfer : Transfer) :
    TransferStatus → Prop
  | .enqueuing success => downloads.Outcome call transfer success
  | .creatingFolder url | .moving url => call.url = some url ∧ downloads.Vacant call
  | _ => downloads.Vacant call

/-- Where a call stands that has found nothing at its destination, or has not looked yet.
The files are compared with those from before the call, and `force` is what it was asked. -/
inductive Fresh (before : FileSystem) (force : Bool) (downloads : AwesomeDownload) (name : Nat)
    (call : DownloadCall) : Prop
  | checking : call.stage = .checking → call.force = force → call.answers = [] →
      downloads.Quiet → downloads.Unmade name → call.node downloads.files = call.node before →
      Fresh before force downloads name call
  | deleting : call.stage = .deleting → force = true → call.answers = [] → downloads.Quiet →
      downloads.Unmade name → call.node downloads.files = call.node before →
      call.node before ≠ none → Fresh before force downloads name call
  | removed : call.stage = .checking → force = true → call.answers = [] → downloads.Quiet →
      call.node downloads.files = none → Fresh before force downloads name call
  | noUrl : call.url = none → call.stage = .returned → call.answers = [.noUrl] →
      downloads.Quiet → Fresh before force downloads name call
  | unserved : (force = false → call.node before = none) →
      call.stage = .writingFolder ∨ downloads.Written name call call.stage →
      call.answers = [] → downloads.Quiet → downloads.Vacant call →
      Fresh before force downloads name call
  | transferring (own : Nat) (transfer : Transfer) : (force = false → call.node before = none) →
      call.stage = .returned ∨ (call.stage = .resuming ∧
        (transfer.status = .suspended ∨ transfer.status = .cancelled)) →
      downloads.Written name call call.stage → call.answers = [] → downloads.results = [] →
      downloads.transfers.get? own = some transfer → transfer.call = name →
      (downloads.transfers.All fun other transfer => transfer.status.active = true →
        other = own) →
      downloads.Places call transfer transfer.status → Fresh before force downloads name call
  | queued (own : Nat) (transfer : Transfer) (success : Bool) :
      (force = false → call.node before = none) → call.stage = .returned →
      downloads.Written name call call.stage → call.answers = [] →
      (downloads.transfers.All fun _ transfer => transfer.status.active = false) →
      downloads.results = [(own, success)] → downloads.transfers.get? own = some transfer →
      transfer.call = name → downloads.Outcome call transfer success →
      Fresh before force downloads name call
  | answered (own : Nat) (transfer : Transfer) (success : Bool) :
      (force = false → call.node before = none) → call.stage = .returned →
      call.answers = [.transferred own success] → downloads.Quiet →
      downloads.transfers.get? own = some transfer → transfer.call = name →
      downloads.Outcome call transfer success → Fresh before force downloads name call

/-- Where a call stands that settles for what was at its destination. -/
inductive Stale (before : FileSystem) (downloads : AwesomeDownload) (name : Nat)
    (call : DownloadCall) : Prop
  | kept : call.stage = .checking → call.force = false → call.answers = [] → downloads.Quiet →
      downloads.Unmade name → call.node downloads.files = call.node before →
      call.node before ≠ none → Stale before downloads name call
  | existed : call.stage = .returned → call.answers = [.existed] → downloads.Quiet →
      downloads.Unmade name → call.node downloads.files = call.node before →
      call.node before ≠ none → Stale before downloads name call

variable {downloads next : AwesomeDownload} {label : Label} {name : Nat} {call : DownloadCall}
  {before : FileSystem} {force : Bool}

/-- The files change when a call removes one, when the delegate creates a folder or moves
one, and by `delete`. -/
theorem step_files (taken : step downloads label = some next) :
    next.files = downloads.files ∨
      (∃ caller removal call, label = .advance caller removal ∧
        downloads.calls.get? caller = some call ∧ call.stage = .deleting) ∨
      (∃ other goesThrough transfer url, label = .deliver other goesThrough ∧
        downloads.transfers.get? other = some transfer ∧
        (transfer.status = .creatingFolder url ∨ transfer.status = .moving url)) ∨
      ∃ url folder removal, label = .delete url folder removal := by
  have moved := fileStep taken
  generalize next.files = files at moved
  cases moved with
  | same => exact Or.inl rfl
  | delete _ url folder removal deletes =>
      cases deletes with
      | delete => exact Or.inr (Or.inr (Or.inr ⟨some url, folder, removal, rfl⟩))
      | force caller call found deleting =>
          exact Or.inr (Or.inl ⟨caller, removal, call, rfl, found, deleting⟩)
  | createFolder other goesThrough transfer url folder found creating =>
      exact Or.inr (Or.inr (Or.inl
        ⟨other, goesThrough, transfer, url, rfl, found, Or.inl creating⟩))
  | move other goesThrough transfer url found moving =>
      exact Or.inr (Or.inr (Or.inl
        ⟨other, goesThrough, transfer, url, rfl, found, Or.inr moving⟩))

/-- In succession nothing is deleted from outside. -/
theorem InSuccession.delete (apart : InSuccession downloads label) (url : Option URL)
    (folder : Option String) (removal : Removal) : label ≠ .delete url folder removal := by
  rintro rfl
  exact apart

/-- A folder that is created does not take the place of a file in it. -/
theorem node_createFolder {folder : String} (named : call.Named)
    (own : call.folder = some folder) (files : FileSystem) :
    call.node (URL.createFolder (URL.destination folder) files) = call.node files := by
  unfold DownloadCall.node
  cases asked : call.url with
  | none => rfl
  | some url =>
      refine FileSystem.nodes_createDirectory files (URL.destination folder) ?_
      rw [URL.resolved_destination (named url asked), own]
      exact url.filePath_not_prefix (some folder)

/-- The call finds nothing when its offline file does not exist. -/
theorem node_eq_none_iff {url : URL} (asked : call.url = some url) (files : FileSystem) :
    call.node files = none ↔ url.offlineFileExists files call.folder = false := by
  unfold DownloadCall.node
  rw [asked]
  exact URL.offlineFileExists_eq_false_iff.symm

/-- The first statement of the delegate creates the folder or fails to. -/
theorem step_creatingFolder {goesThrough : Bool} {transfer : Transfer} {url : URL}
    (taken : step downloads (.deliver name goesThrough) = some next)
    (found : downloads.transfers.get? name = some transfer)
    (creating : transfer.status = .creatingFolder url) :
    next.files = downloads.files ∨ ∃ folder, downloads.downloadFolder = some folder ∧
      next.files = URL.createFolder (URL.destination folder) downloads.files := by
  rw [step_deliver_eq found] at taken
  unfold deliver at taken
  rw [creating] at taken
  dsimp only at taken
  split at taken
  · cases taken
    exact Or.inl rfl
  · next folder present =>
      cases taken
      cases goesThrough with
      | false => exact Or.inl rfl
      | true => exact Or.inr ⟨folder, present, rfl⟩

/-- The second moves the file or fails to. -/
theorem step_moving {goesThrough : Bool} {transfer : Transfer} {url : URL}
    (taken : step downloads (.deliver name goesThrough) = some next)
    (found : downloads.transfers.get? name = some transfer)
    (moving : transfer.status = .moving url) :
    ∃ success, next.transfers.get? name = some { transfer with status := .enqueuing success } ∧
      URL.moveOfflineFile transfer.bytes (url.offlineFileDestination downloads.downloadFolder)
        downloads.files goesThrough = (success, next.files) := by
  rw [step_deliver_eq found] at taken
  unfold deliver at taken
  rw [moving] at taken
  cases taken
  refine ⟨_, ?_, rfl⟩
  rw [get?_setStatus, if_pos rfl]
  exact congrArg (Option.map _) found

/-- The removal of a forced call. -/
theorem step_deleting {removal : Removal} {url : URL}
    (taken : step downloads (.advance name removal) = some next)
    (found : downloads.calls.get? name = some call) (deleting : call.stage = .deleting)
    (asked : call.url = some url) :
    next = ({ downloads with
      files := (url.deleteOfflineFile downloads.files call.folder removal).2 } :
        AwesomeDownload).setCall name { call with force := false, stage := .checking } := by
  rw [step_advance_eq found] at taken
  unfold advance at taken
  rw [deleting] at taken
  dsimp only at taken
  split at taken
  · cases taken
  · next other present =>
      cases Option.some.inj (asked.symm.trans present)
      exact (Option.some.inj taken).symm

/-- The move of the file ends as its result says. -/
theorem outcome_of_moved {url : URL} {transfer after : Transfer} {success goesThrough : Bool}
    {files : FileSystem} (asked : call.url = some url)
    (folder : downloads.downloadFolder = call.folder) (vacant : downloads.Vacant call)
    (moved : URL.moveOfflineFile transfer.bytes
      (url.offlineFileDestination downloads.downloadFolder) downloads.files goesThrough =
        (success, files))
    (same : next.files = files) (bytes : after.bytes = transfer.bytes) :
    next.Outcome call after success := by
  subst same
  rw [folder] at moved
  cases success with
  | true =>
      unfold Outcome DownloadCall.node
      rw [asked, bytes]
      exact URL.nodes_of_stored moved
  | false =>
      intro named
      rw [URL.files_of_failed_move moved]
      exact vacant named

theorem Vacant.of_files (vacant : downloads.Vacant call) (same : next.files = downloads.files) :
    next.Vacant call := by
  unfold Vacant
  rw [same]
  exact vacant

theorem Outcome.of_files {transfer : Transfer} {success : Bool}
    (outcome : downloads.Outcome call transfer success) (same : next.files = downloads.files) :
    next.Outcome call transfer success := by
  unfold Outcome Vacant at outcome ⊢
  rw [same]
  exact outcome

theorem Places.of_files {transfer : Transfer} {status : TransferStatus}
    (places : downloads.Places call transfer status) (same : next.files = downloads.files) :
    next.Places call transfer status := by
  unfold Places Outcome Vacant at places ⊢
  rw [same]
  exact places

/-- Before its file is moved, a transfer leaves the destination vacant. -/
theorem Places.vacant {transfer : Transfer} {status : TransferStatus}
    (places : downloads.Places call transfer status)
    (unmoved : ∀ success, status ≠ .enqueuing success) : downloads.Vacant call := by
  cases status with
  | enqueuing success => exact (unmoved success rfl).elim
  | creatingFolder url | moving url => exact places.2
  | _ => exact places

section Others

variable (only : Only downloads name call)
  (elsewhere : ∀ removal, label ≠ .advance name removal)
  (taken : step downloads label = some next)

include only elsewhere taken

theorem fields_kept : SameFields downloads next := by
  rcases step_fields taken with ⟨same, _⟩ | ⟨caller, removal, _, _, _, advances, _⟩
  · exact same
  · exact (no_advance only elsewhere taken caller removal advances).elim

theorem call_kept (unqueued : downloads.results = []) : next.calls.get? name = some call := by
  obtain ⟨after, present, moves⟩ := step_call taken only.found
  cases moves with
  | stay => exact present
  | check removal _ _ advances => exact (elsewhere removal advances).elim
  | write removal _ _ advances => exact (elsewhere removal advances).elim
  | answer other success runs queued => exact (absurd_of_no_result unqueued queued).elim

/-- Only a transfer that may still bring a result changes files. -/
theorem files_kept (deletes : ∀ url folder removal, label ≠ .delete url folder removal)
    (idle : ∀ other goesThrough transfer url, label = .deliver other goesThrough →
      downloads.transfers.get? other = some transfer →
        transfer.status ≠ .creatingFolder url ∧ transfer.status ≠ .moving url) :
    next.files = downloads.files := by
  rcases step_files taken with
    same | ⟨caller, removal, _, advances, _⟩ |
      ⟨other, goesThrough, transfer, url, delivers, found, creates | moves⟩ |
        ⟨url, folder, removal, deleted⟩
  · exact same
  · exact (no_advance only elsewhere taken caller removal advances).elim
  · exact ((idle other goesThrough transfer url delivers found).1 creates).elim
  · exact ((idle other goesThrough transfer url delivers found).2 moves).elim
  · exact (deletes url folder removal deleted).elim

/-- While no transfer is active, the others change neither files nor fields. -/
theorem files_kept_of_inactive
    (deletes : ∀ url folder removal, label ≠ .delete url folder removal)
    (inactive : downloads.transfers.All fun _ transfer => transfer.status.active = false) :
    next.files = downloads.files := by
  refine files_kept only elsewhere taken deletes fun other goesThrough transfer url _ found => ?_
  constructor
  · intro creates
    exact absurd_of_inactive inactive found (congrArg TransferStatus.active creates)
  · intro moves
    exact absurd_of_inactive inactive found (congrArg TransferStatus.active moves)

theorem quiet_kept (quiet : Quiet downloads) : Quiet next :=
  quiet_step quiet taken fun caller removal _ advances =>
    (no_advance only elsewhere taken caller removal advances).elim

omit only elsewhere in
/-- A transfer that is over stays as it is. -/
theorem ended_kept {own : Nat} {transfer : Transfer}
    (present : downloads.transfers.get? own = some transfer)
    (inactive : transfer.status.active = false) : next.transfers.get? own = some transfer := by
  obtain ⟨after, present', moves⟩ := step_transfer taken present
  have same : after = transfer := by
    cases moves with
    | stay => rfl
    | cancel => exact cancel_of_inactive inactive
    | resume =>
        unfold Transfer.resume
        refine if_neg fun suspended => ?_
        rw [suspended] at inactive
        cases inactive
    | finish bytes finishes running =>
        rw [running] at inactive
        cases inactive
    | fail fails running =>
        rw [running] at inactive
        cases inactive
    | handle goesThrough status effect delivers handles =>
        rw [handles.active] at inactive
        cases inactive
  rw [← same]
  exact present'

theorem unmade_kept {other : Nat} (unmade : downloads.Unmade other) : next.Unmade other := by
  intro own after present
  rcases step_transfer_inv taken present with
    ⟨earlier, found, moves⟩ | ⟨caller, removal, _, _, advances, _⟩
  · rw [moves.call_eq]
    exact unmade own earlier found
  · exact (no_advance only elsewhere taken caller removal advances).elim

theorem written_kept {stage : DownloadStage} (written : downloads.Written name call stage) :
    next.Written name call stage :=
  written.congr (fields_kept only elsewhere taken) rfl rfl

/-- The delegate of a transfer that is not at its last statement keeps to the destination. -/
theorem places_deliver {goesThrough : Bool} {transfer : Transfer} {status : TransferStatus}
    {effect : AwesomeDownload} {own : Nat} (delivers : label = .deliver own goesThrough)
    (deletes : ∀ url folder removal, label ≠ .delete url folder removal)
    (written : downloads.downloadFolder = call.folder ∧ downloads.downloadUrl = call.url)
    (present : downloads.transfers.get? own = some transfer)
    (handles : Handles downloads own transfer transfer.status status effect)
    (present' : next.transfers.get? own = some { transfer with status := status })
    (continues : ∀ success, transfer.status ≠ .enqueuing success)
    (places : downloads.Places call transfer transfer.status) :
    next.Places call { transfer with status := status } status := by
  by_cases moving : ∃ url, transfer.status = .creatingFolder url ∨ transfer.status = .moving url
  · subst delivers
    obtain ⟨url, creating | moving⟩ := moving
    · rw [creating] at handles places
      cases handles
      refine ⟨places.1, fun named => ?_⟩
      rcases step_creatingFolder taken present creating with same | ⟨folder, own, made⟩
      · rw [same]
        exact places.2 named
      · rw [made, node_createFolder named (written.1.symm.trans own)]
        exact places.2 named
    · obtain ⟨success, moved, result⟩ := step_moving taken present moving
      cases congrArg Transfer.status (Option.some.inj (present'.symm.trans moved))
      rw [moving] at places
      exact outcome_of_moved places.1 written.1 places.2 result rfl rfl
  · have same : next.files = downloads.files := by
      refine files_kept only elsewhere taken deletes ?_
      intro other through transfer' url advances found
      subst delivers
      cases advances
      cases Option.some.inj (present.symm.trans found)
      exact ⟨fun creates => moving ⟨url, Or.inl creates⟩, fun moves => moving ⟨url, Or.inr moves⟩⟩
    generalize transfer.status = current at handles places moving continues
    cases handles with
    | readUrl url read => exact ⟨written.2.symm.trans read, (places.vacant nofun).of_files same⟩
    | createFolder url files => exact (moving ⟨url, Or.inl rfl⟩).elim
    | move url success files => exact (moving ⟨url, Or.inr rfl⟩).elim
    | enqueue success => exact (continues success rfl).elim
    | _ => exact (places.vacant nofun).of_files same

/-- The transfer of the call moves on, or is over. -/
theorem transfer_moves {transfer after : Transfer} {own : Nat}
    (deletes : ∀ url folder removal, label ≠ .delete url folder removal)
    (stands : call.stage = .returned ∨ (call.stage = .resuming ∧
      (transfer.status = .suspended ∨ transfer.status = .cancelled)))
    (written : downloads.downloadFolder = call.folder ∧ downloads.downloadUrl = call.url)
    (present : downloads.transfers.get? own = some transfer)
    (sole : downloads.transfers.All fun other transfer => transfer.status.active = true →
      other = own)
    (continues : ∀ goesThrough success, label = .deliver own goesThrough →
      transfer.status ≠ .enqueuing success)
    (places : downloads.Places call transfer transfer.status)
    (present' : next.transfers.get? own = some after)
    (moves : TransferMoves downloads label own transfer after) :
    (call.stage = .returned ∨ (call.stage = .resuming ∧
        (after.status = .suspended ∨ after.status = .cancelled))) ∧
      next.Places call after after.status := by
  have still (steady : ∀ goesThrough, label = .deliver own goesThrough → ∀ url,
      transfer.status ≠ .creatingFolder url ∧ transfer.status ≠ .moving url) :
      next.files = downloads.files := by
    refine files_kept only elsewhere taken deletes ?_
    intro other goesThrough transfer' url delivers found
    by_cases mine : other = own
    · subst mine
      cases Option.some.inj (present.symm.trans found)
      exact steady goesThrough delivers url
    · refine ⟨fun creates => mine ?_, fun moves => mine ?_⟩
      · exact sole other transfer' found (congrArg TransferStatus.active creates)
      · exact sole other transfer' found (congrArg TransferStatus.active moves)
  cases moves with
  | stay waits =>
      exact ⟨stands, places.of_files (still fun goesThrough delivers =>
        (waits goesThrough delivers).elim)⟩
  | cancel cancels =>
      by_cases live : transfer.status = .suspended ∨ transfer.status = .running
      · have cancelled : transfer.cancel = { transfer with status := .cancelled } := if_pos live
        have vacant : downloads.Vacant call :=
          places.vacant fun success enqueuing => by
            rw [enqueuing] at live
            rcases live with reached | reached <;> cases reached
        have same : next.files = downloads.files := by
          refine still fun _ _ url => ⟨fun creates => ?_, fun moves => ?_⟩
          · rw [creates] at live
            rcases live with reached | reached <;> cases reached
          · rw [moves] at live
            rcases live with reached | reached <;> cases reached
        rw [cancelled]
        exact ⟨stands.imp_right fun resuming => ⟨resuming.1, Or.inr rfl⟩, vacant.of_files same⟩
      · have kept : transfer.cancel = transfer := if_neg live
        rw [kept]
        refine ⟨stands, places.of_files (still fun goesThrough delivers url => ?_)⟩
        -- the delegate that cancels does not touch the files
        subst delivers
        cases cancels with
        | delegate other through transfer' found cancelling =>
            cases Option.some.inj (present.symm.trans found)
            rw [cancelling]
            exact ⟨nofun, nofun⟩
  | resume caller removal _ advances =>
      exact (no_advance only elsewhere taken caller removal advances).elim
  | finish bytes finishes running =>
      have same := still fun goesThrough delivers => by
        rw [finishes] at delivers
        cases delivers
      rw [running] at places stands
      refine ⟨stands.imp_right fun resuming => ?_, places.of_files same⟩
      rcases resuming.2 with reached | reached <;> cases reached
  | fail fails running =>
      have same := still fun goesThrough delivers => by
        rw [fails] at delivers
        cases delivers
      rw [running] at places stands
      refine ⟨stands.imp_right fun resuming => ?_, places.of_files same⟩
      rcases resuming.2 with reached | reached <;> cases reached
  | handle goesThrough status effect delivers handles =>
      refine ⟨stands.imp_right fun resuming => ?_, places_deliver only elsewhere taken delivers
        deletes written present handles present'
        (fun success => continues goesThrough success delivers) places⟩
      rcases resuming.2 with reached | reached <;> rw [reached] at handles <;> cases handles

/-- A transfer goes on, or its result is queued. -/
theorem transferring_others {transfer : Transfer} {own : Nat}
    (deletes : ∀ url folder removal, label ≠ .delete url folder removal)
    (passed : force = false → call.node before = none)
    (stands : call.stage = .returned ∨ (call.stage = .resuming ∧
      (transfer.status = .suspended ∨ transfer.status = .cancelled)))
    (written : downloads.Written name call call.stage) (unanswered : call.answers = [])
    (none : downloads.results = []) (present : downloads.transfers.get? own = some transfer)
    (mine : transfer.call = name)
    (sole : downloads.transfers.All fun other transfer => transfer.status.active = true →
      other = own)
    (places : downloads.Places call transfer transfer.status) :
    Fresh before force next name call := by
  have written' := written_kept only elsewhere taken written
  have fields : downloads.downloadFolder = call.folder ∧ downloads.downloadUrl = call.url := by
    rcases stands with reached | ⟨reached, _⟩ <;> rw [reached] at written <;>
      exact ⟨written.1, written.2.2⟩
  have sole' := soleActive_step sole taken fun caller removal _ advances =>
    (no_advance only elsewhere taken caller removal advances).elim
  obtain ⟨after, present', moves⟩ := step_transfer taken present
  rcases step_results taken with
    ⟨same, _⟩ | ⟨other, goesThrough, transfer', success, rfl, found, enqueuing, handled, grown⟩ |
      ⟨_, _, _, _, popped⟩
  · by_cases ends : ∃ goesThrough success, label = .deliver own goesThrough ∧
        transfer.status = .enqueuing success
    · obtain ⟨goesThrough, success, rfl, enqueuing⟩ := ends
      have moved := step_enqueuing taken present enqueuing
      have grown : next.results = downloads.results ++ [(own, success)] := by
        rw [moved]
        exact List.filterMap_append
      rw [same, none] at grown
      cases grown
    · obtain ⟨stands', places'⟩ := transfer_moves only elsewhere taken deletes stands fields
        present sole (fun goesThrough success delivers enqueuing =>
          ends ⟨goesThrough, success, delivers, enqueuing⟩) places present' moves
      exact .transferring own after passed stands' written' unanswered (same.trans none) present'
        (moves.call_eq.trans mine) sole' places'
  · have active : transfer'.status.active = true := congrArg TransferStatus.active enqueuing
    cases sole other transfer' found active
    cases Option.some.inj (present.symm.trans found)
    have returned : call.stage = .returned := by
      rcases stands with returned | ⟨_, reached | reached⟩
      · exact returned
      · cases reached.symm.trans enqueuing
      · cases reached.symm.trans enqueuing
    have same : next.files = downloads.files := by
      refine files_kept only elsewhere taken deletes fun _ _ transfer' url delivers found' => ?_
      cases delivers
      cases Option.some.inj (present.symm.trans found')
      rw [enqueuing]
      exact ⟨nofun, nofun⟩
    rw [enqueuing] at places
    refine .queued own { transfer with status := .handled } success passed returned written'
      unanswered (inactive_of_enqueued sole taken present enqueuing) ?_ handled mine
      (Outcome.of_files places same)
    rw [grown, none]
    rfl
  · rw [none] at popped
    cases popped

/-- A queued result waits, or answers the call. -/
theorem queued_others {transfer : Transfer} {own : Nat} {success : Bool}
    (deletes : ∀ url folder removal, label ≠ .delete url folder removal)
    (passed : force = false → call.node before = none) (returned : call.stage = .returned)
    (written : downloads.Written name call call.stage) (unanswered : call.answers = [])
    (inactive : downloads.transfers.All fun _ transfer => transfer.status.active = false)
    (pending : downloads.results = [(own, success)])
    (present : downloads.transfers.get? own = some transfer) (mine : transfer.call = name)
    (outcome : downloads.Outcome call transfer success) :
    ∃ after, next.calls.get? name = some after ∧ Fresh before force next name after := by
  have inactive' := inactive_kept only elsewhere taken inactive
  have same := files_kept_of_inactive only elsewhere taken deletes inactive
  have present' := ended_kept taken present (inactive own transfer present)
  have held : downloads.downloadedCallback = some name := by
    rw [returned] at written
    exact written.2.1
  rcases step_results taken with
    ⟨kept, waits⟩ | ⟨other, _, transfer', success', _, found, enqueuing, _⟩ |
      ⟨other, success', rfl, queued, popped⟩
  · obtain ⟨after, found, moves⟩ := step_call taken only.found
    refine ⟨after, found, ?_⟩
    cases moves with
    | stay =>
        exact .queued own transfer success passed returned
          (written_kept only elsewhere taken written) unanswered inactive' (kept.trans pending)
          present' mine (outcome.of_files same)
    | check removal _ _ advances => exact (elsewhere removal advances).elim
    | write removal _ _ advances => exact (elsewhere removal advances).elim
    | answer other success runs queued => cases (waits runs).symm.trans queued
  · exact (absurd_of_inactive inactive found (congrArg TransferStatus.active enqueuing)).elim
  · rw [pending] at popped
    obtain ⟨first, rest⟩ := List.cons.inj popped
    cases first
    exact ⟨_, step_runMain taken queued held only.found, .answered own transfer success passed
      returned (congrArg (· ++ [_]) unanswered) ⟨inactive', rest.symm⟩ present' mine
      (outcome.of_files same)⟩

/-- The steps of others leave a call where it stands, or bring its transfer and its result. -/
theorem fresh_others
    (deletes : ∀ url folder removal, label ≠ .delete url folder removal)
    (fresh : Fresh before force downloads name call) :
    ∃ after, next.calls.get? name = some after ∧ Fresh before force next name after := by
  have calm (quiet : Quiet downloads) : next.calls.get? name = some call ∧ Quiet next ∧
      next.files = downloads.files :=
    ⟨call_kept only elsewhere taken quiet.2, quiet_kept only elsewhere taken quiet,
      files_kept_of_inactive only elsewhere taken deletes quiet.1⟩
  cases fresh with
  | checking checking forced unanswered quiet unmade same =>
      obtain ⟨present, quiet', files⟩ := calm quiet
      exact ⟨call, present, .checking checking forced unanswered quiet'
        (unmade_kept only elsewhere taken unmade) (files ▸ same)⟩
  | deleting deleting forced unanswered quiet unmade same there =>
      obtain ⟨present, quiet', files⟩ := calm quiet
      exact ⟨call, present, .deleting deleting forced unanswered quiet'
        (unmade_kept only elsewhere taken unmade) (files ▸ same) there⟩
  | removed checking forced unanswered quiet gone =>
      obtain ⟨present, quiet', files⟩ := calm quiet
      exact ⟨call, present, .removed checking forced unanswered quiet' (files ▸ gone)⟩
  | noUrl absent returned answered quiet =>
      obtain ⟨present, quiet', _⟩ := calm quiet
      exact ⟨call, present, .noUrl absent returned answered quiet'⟩
  | unserved passed written unanswered quiet vacant =>
      obtain ⟨present, quiet', files⟩ := calm quiet
      exact ⟨call, present, .unserved passed
        (written.imp_right (written_kept only elsewhere taken)) unanswered quiet'
        (vacant.of_files files)⟩
  | transferring own transfer passed stands written unanswered none present mine sole places =>
      exact ⟨call, call_kept only elsewhere taken none, transferring_others only elsewhere taken
        deletes passed stands written unanswered none present mine sole places⟩
  | queued own transfer success passed returned written unanswered inactive pending present mine
      outcome =>
      exact queued_others only elsewhere taken deletes passed returned written unanswered inactive
        pending present mine outcome
  | answered own transfer success passed returned answered quiet present mine outcome =>
      obtain ⟨present', quiet', files⟩ := calm quiet
      exact ⟨call, present', .answered own transfer success passed returned answered quiet'
        (ended_kept taken present (quiet.1 own transfer present)) mine (outcome.of_files files)⟩

/-- A step of others leaves a stale call stale. -/
theorem stale_others
    (deletes : ∀ url folder removal, label ≠ .delete url folder removal)
    (stale : Stale before downloads name call) :
    next.calls.get? name = some call ∧ Stale before next name call := by
  have calm (quiet : Quiet downloads) : next.calls.get? name = some call ∧ Quiet next ∧
      next.files = downloads.files :=
    ⟨call_kept only elsewhere taken quiet.2, quiet_kept only elsewhere taken quiet,
      files_kept_of_inactive only elsewhere taken deletes quiet.1⟩
  cases stale with
  | kept checking unforced unanswered quiet unmade same there =>
      obtain ⟨present, quiet', files⟩ := calm quiet
      exact ⟨present, .kept checking unforced unanswered quiet'
        (unmade_kept only elsewhere taken unmade) (files ▸ same) there⟩
  | existed returned answered quiet unmade same there =>
      obtain ⟨present, quiet', files⟩ := calm quiet
      exact ⟨present, .existed returned answered quiet'
        (unmade_kept only elsewhere taken unmade) (files ▸ same) there⟩

end Others

end AwesomeDownload

end AwesomeNetwork
