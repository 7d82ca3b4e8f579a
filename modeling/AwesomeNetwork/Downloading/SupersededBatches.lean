import AwesomeNetwork.Downloading.CallFrames
import AwesomeNetwork.Downloading.Completion

/-! # Superseded batches

A batch goes on when the main queue calls the completion that the shared object holds.
Nothing clears that completion when another batch is asked for; only a call that gets to
start a transfer replaces it. An earlier batch stays superseded as long as its completion
was replaced, or can no longer be called, when the main thread becomes free.
-/

namespace AwesomeNetwork

/-- The call has written the completion of the shared object, or has returned. -/
def DownloadStage.pastCallback : DownloadStage → Bool
  | .checking | .deleting | .writingFolder | .writingProgress | .writingDownloaded => false
  | _ => true

namespace AwesomeDownload

/-- Nothing will call the completion of the shared object: no transfer may still bring a
result, none is being started, and no result is queued. -/
def Silent (downloads : AwesomeDownload) : Prop :=
  downloads.Quiet ∧
    downloads.calls.All fun _ call => call.stage.pastCallback = true → call.stage = .returned

instance (downloads : AwesomeDownload) : Decidable downloads.Silent :=
  inferInstanceAs (Decidable ((_ ∧ _) ∧ _))

/-- The step writes the completion of the shared object. -/
def WritesCallback (downloads : AwesomeDownload) (label : Label) (name : Nat) : Prop :=
  (∃ removal, label = .advance name removal) ∧
    ∃ call, downloads.calls.get? name = some call ∧ call.stage = .writingDownloaded

variable {downloads next : AwesomeDownload} {label : Label} {name : Nat} {call : DownloadCall}

/-- The completion that the shared object holds is replaced by a call's write only. -/
theorem step_callback (taken : step downloads label = some next) :
    (next.downloadedCallback = downloads.downloadedCallback ∧
        ∀ name, ¬ downloads.WritesCallback label name) ∨
      ∃ name, downloads.WritesCallback label name ∧ next.downloadedCallback = some name := by
  rcases step_fields taken with
    ⟨same, checking⟩ | ⟨caller, removal, call, stage, effect, rfl, found, writes, rfl⟩
  · refine Or.inl ⟨same.callback, ?_⟩
    rintro name ⟨⟨removal, advances⟩, call, found, writing⟩
    rcases checking name removal call advances found with reached | reached
    · cases writing.symm.trans reached
    · cases writing.symm.trans reached
  · generalize reached : call.stage = current at writes
    have other (elsewhere : current ≠ .writingDownloaded) :
        ∀ name, ¬ downloads.WritesCallback (.advance caller removal) name := by
      rintro name ⟨⟨_, advances⟩, call', found', writing⟩
      cases advances
      cases Option.some.inj (found.symm.trans found')
      exact elsewhere (reached.symm.trans writing)
    cases writes with
    | downloaded => exact Or.inr ⟨caller, ⟨⟨removal, rfl⟩, call, found, reached⟩, rfl⟩
    | cancelTask => exact Or.inl ⟨(cancelTask_fields downloads).callback, other nofun⟩
    | cancelSession => exact Or.inl ⟨(invalidateAndCancel_fields downloads).callback, other nofun⟩
    | _ => exact Or.inl ⟨rfl, other nofun⟩

/-- A call gets past the completion by writing it, or by an answer at its check. -/
theorem CallMoves.pastCallback {before after : DownloadCall}
    (moves : CallMoves downloads label name before after)
    (found : downloads.calls.get? name = some before)
    (elsewhere : ¬ downloads.WritesCallback label name) (past : after.stage.pastCallback = true) :
    before.stage.pastCallback = true ∨ (after.stage = .returned ∧ after.answers ≠ []) := by
  cases moves with
  | stay => exact Or.inl past
  | check removal files changed advances checks =>
      cases checks with
      | noUrl => exact Or.inr ⟨rfl, List.append_ne_nil_of_right_ne_nil _ (List.cons_ne_nil _ _)⟩
      | existed => exact Or.inr ⟨rfl, List.append_ne_nil_of_right_ne_nil _ (List.cons_ne_nil _ _)⟩
      | _ => cases past
  | write removal stage effect advances writes =>
      left
      generalize reached : before.stage = current at writes
      cases writes with
      | folder | progress => cases past
      | downloaded => exact (elsewhere ⟨⟨removal, advances⟩, before, found, reached⟩).elim
      | _ => rfl
  | answer => exact Or.inl past

/-- A call without an answer had none before. -/
theorem CallMoves.unanswered {before after : DownloadCall}
    (moves : CallMoves downloads label name before after) (unanswered : after.answers = []) :
    before.answers = [] := by
  cases moves with
  | stay => exact unanswered
  | check removal files changed advances checks =>
      cases checks with
      | noUrl | existed => exact (List.append_eq_nil_iff.mp unanswered).1
      | _ => exact unanswered
  | write => exact unanswered
  | answer => exact (List.append_eq_nil_iff.mp unanswered).1

/-- Silence lasts until a call writes its completion. -/
theorem silent_step (silent : downloads.Silent)
    (elsewhere : ∀ name, ¬ downloads.WritesCallback label name)
    (taken : step downloads label = some next) : next.Silent := by
  obtain ⟨⟨inactive, none⟩, settled⟩ := silent
  refine ⟨⟨fun name after present => ?_, ?_⟩, fun name after present past => ?_⟩
  · rcases step_transfer_inv taken present with
      ⟨before, found, moves⟩ | ⟨caller, removal, call, session, rfl, found, making, _, rfl⟩
    · by_contra active
      exact absurd_of_inactive inactive found (moves.active_of (Bool.not_eq_false _ ▸ active))
    · have returned := settled caller call found (congrArg DownloadStage.pastCallback making)
      cases making.symm.trans returned
  · rcases step_results taken with
      ⟨same, _⟩ | ⟨other, _, transfer, success, _, found, enqueuing, _⟩ | ⟨_, _, _, _, popped⟩
    · exact same.trans none
    · exact (absurd_of_inactive inactive found (congrArg TransferStatus.active enqueuing)).elim
    · cases none.symm.trans popped
  · rcases step_call_inv taken present with ⟨before, found, moves⟩ | ⟨_, _, _, _, _, rfl⟩
    · rcases moves.pastCallback found (elsewhere name) past with already | ⟨returned, _⟩
      · exact moves.returned (settled name before found already)
      · exact returned
    · cases past

end AwesomeDownload

namespace BatchFrame

/-- The URLs that the main thread will ask for when it comes back to the frame. -/
def urls : BatchFrame → List URL
  | cancelling _ urls _ => urls
  | notifyingDownloading _ url urls => url :: urls
  | downloading _ => []
  | notifyingDownloaded _ urls => urls

/-- A frame that has URLs left belongs to the batch asked for last. -/
def Latest (batches : Nat) : BatchFrame → Prop
  | cancelling batch urls _ => urls = [] ∨ batch + 1 = batches
  | notifyingDownloading batch _ _ => batch + 1 = batches
  | downloading _ => True
  | notifyingDownloaded batch urls => urls = [] ∨ batch + 1 = batches

/-- A frame without URLs is as good as the latest. -/
theorem latest_of_urls {frame : BatchFrame} (done : frame.urls = []) (batches : Nat) :
    frame.Latest batches := by
  cases frame with
  | cancelling batch urls cancel => exact Or.inl done
  | notifyingDownloading batch url urls => cases done
  | downloading name => trivial
  | notifyingDownloaded batch urls => exact Or.inl done

end BatchFrame

namespace AwesomeDownloadManager

/-- A completion that has URLs left belongs to the batch asked for last. -/
def Latest (manager : AwesomeDownloadManager) (completion : BatchCompletion) : Prop :=
  completion.urls = [] ∨ completion.batch + 1 = manager.batches

instance (manager : AwesomeDownloadManager) (completion : BatchCompletion) :
    Decidable (manager.Latest completion) := inferInstanceAs (Decidable (_ ∨ _))

/-- The completion that the shared object holds does not go on with an earlier batch. -/
def SlotLatest (manager : AwesomeDownloadManager) : Prop :=
  ∀ name ∈ manager.downloads.downloadedCallback, ∀ completion ∈ manager.completions name,
    manager.Latest completion

instance (manager : AwesomeDownloadManager) : Decidable manager.SlotLatest :=
  inferInstanceAs (Decidable (∀ name ∈ manager.downloads.downloadedCallback,
    ∀ completion ∈ manager.completions name, manager.Latest completion))

/-- The main thread has run out of URLs and is about to become free. -/
def runsOut (manager : AwesomeDownloadManager) : Bool :=
  match manager.main with
  | [.cancelling _ [] _] => true
  | _ => false

/-- No batch is asked for while an observer holds up URLs of another one; and when the main
thread runs out of URLs and becomes free, the shared object holds no completion of an
earlier batch with URLs left, or nothing will call it. -/
def KeepsLatest (manager : AwesomeDownloadManager) : Label → Prop
  | .download _ => ∀ frame ∈ manager.main, frame.urls = []
  | .main _ => manager.runsOut = true → manager.SlotLatest ∨ manager.downloads.Silent
  | _ => True

instance (manager : AwesomeDownloadManager) : ∀ label, Decidable (manager.KeepsLatest label)
  | .download _ => inferInstanceAs (Decidable (∀ frame ∈ manager.main, frame.urls = []))
  | .main _ => inferInstanceAs (Decidable (_ → _))
  | .runMain | .downloads _ => .isTrue trivial

/-- Only the batch asked for last goes on: the main thread works for it, and the shared
object holds no completion of an earlier one when a block may call it. -/
structure LatestOnly (manager : AwesomeDownloadManager) : Prop extends CallsFramed manager where
  frames : ∀ frame ∈ manager.main, frame.Latest manager.batches
  calling : ∀ name, manager.main.head? = some (.downloading name) → ∃ call completion,
    manager.downloads.calls.get? name = some call ∧
      manager.completions name = some completion ∧ manager.Latest completion ∧
      (call.stage.pastCallback = true → call.answers = [] → manager.SlotLatest)
  idle : manager.main = [] → ¬ manager.downloads.Silent → manager.SlotLatest

/-- Before the first batch only the latest goes on. -/
theorem latestOnly_initial (files : FileSystem) : LatestOnly (initial files) where
  toCallsFramed := callsFramed_initial files
  frames := nofun
  calling := nofun
  idle _ := nofun

variable {manager next : AwesomeDownloadManager} {label : Label}

/-- The main thread leaves a frame, and nothing else changes. -/
theorem latestOnly_leave (latest : LatestOnly manager) {frame : BatchFrame}
    {below : List BatchFrame} (entered : manager.main = frame :: below)
    (returned : ∀ name completion call, manager.completions name = some completion →
      manager.downloads.calls.get? name = some call → call.stage = .returned)
    (free : below = [] → manager.SlotLatest ∨ manager.downloads.Silent) :
    LatestOnly { manager with main := below } where
  toCallsFramed := latest.leave entered returned
  frames other member := latest.frames other (entered ▸ List.mem_cons_of_mem frame member)
  calling name head := (latest.head_below entered name head).elim
  idle none loud := (free none).resolve_right loud

/-- The main thread goes on to another frame, with all calls of batches returned. -/
theorem latestOnly_enter (latest : LatestOnly manager) {frame other : BatchFrame}
    {below : List BatchFrame} (entered : manager.main = frame :: below)
    (returned : ∀ name completion call, manager.completions name = some completion →
      manager.downloads.calls.get? name = some call → call.stage = .returned)
    (elsewhere : ∀ name, other ≠ .downloading name) (current : other.Latest manager.batches) :
    LatestOnly { manager with main := other :: below } where
  toCallsFramed := latest.enter entered returned elsewhere
  frames member present := by
    rcases List.mem_cons.mp present with rfl | under
    · exact current
    · exact latest.frames member (entered ▸ List.mem_cons_of_mem frame under)
  calling name head := (elsewhere name (Option.some.inj head)).elim
  idle := nofun

/-- A cancel that goes on changes nothing about this. -/
theorem latestOnly_cancels (latest : LatestOnly manager) (cancels : Table CancelStage) :
    LatestOnly { manager with downloads.cancels := cancels } where
  toCallsFramed := latest.toCallsFramed.cancels cancels
  frames := latest.frames
  calling := latest.calling
  idle := latest.idle

/-- A call of the latest batch keeps this. -/
theorem latestOnly_call (latest : LatestOnly manager) {batch : Nat} {url : URL} {urls : List URL}
    {below : List BatchFrame} (folder : String)
    (entered : manager.main = .notifyingDownloading batch url urls :: below) :
    LatestOnly (manager.callDownload folder batch url urls below) where
  toCallsFramed := latest.toCallsFramed.call folder entered
  frames frame member := by
    rcases List.mem_cons.mp member with rfl | under
    · trivial
    · exact latest.frames frame (entered ▸ List.mem_cons_of_mem _ under)
  calling name head := by
    cases head
    refine ⟨_, _, Table.get?_push_self .., Function.update_self .., Or.inr ?_, nofun⟩
    exact latest.frames _ (entered ▸ List.mem_cons_self)
  idle := nofun

/-- A new batch keeps this when the earlier ones are done or superseded. -/
theorem latestOnly_request (latest : LatestOnly manager) (accepts : manager.accepts = true)
    (done : ∀ frame ∈ manager.main, frame.urls = []) (urls : List URL) :
    LatestOnly { manager.cancelDownloads manager.batches urls manager.main with
      batches := manager.batches + 1 } where
  toCallsFramed := latest.request accepts urls
  frames frame member := by
    rcases List.mem_cons.mp member with rfl | under
    · exact Or.inr rfl
    · exact BatchFrame.latest_of_urls (done frame under) _
  calling name head := by cases head
  idle := nofun

section Downloads

variable {moves : AwesomeDownload.Label} {downloads : AwesomeDownload}

/-- A completion that is written belongs to the batch asked for last, or to no batch. -/
theorem slotLatest_step (latest : LatestOnly manager)
    (moved : manager.downloads.step moves = some downloads) :
    SlotLatest { manager with downloads := downloads } ∨
      (downloads.downloadedCallback = manager.downloads.downloadedCallback ∧
        ∀ name, ¬ manager.downloads.WritesCallback moves name) := by
  rcases AwesomeDownload.step_callback moved with
    kept | ⟨writer, ⟨_, call, found, writing⟩, written⟩
  · exact Or.inr kept
  · left
    intro name held completion kept
    cases Option.some.inj (written.symm.trans held)
    have head := latest.unreturned writer completion call kept found (by rw [writing]; nofun)
    obtain ⟨_, own, _, same, current, _⟩ := latest.calling writer head
    cases Option.some.inj (kept.symm.trans same)
    exact current

/-- The slot stays as it should be when the shared object moves. -/
theorem SlotLatest.step (slot : manager.SlotLatest)
    (same : downloads.downloadedCallback = manager.downloads.downloadedCallback) :
    SlotLatest { manager with downloads := downloads } := by
  intro name held
  exact slot name (same.symm.trans held)

/-- A free main thread finds the completion of the latest batch. -/
theorem idle_step (latest : LatestOnly manager)
    (moved : manager.downloads.step moves = some downloads) (free : manager.main = [])
    (loud : ¬ downloads.Silent) : SlotLatest { manager with downloads := downloads } := by
  rcases slotLatest_step latest moved with slot | ⟨same, elsewhere⟩
  · exact slot
  · exact (latest.idle free fun silent =>
      loud (AwesomeDownload.silent_step silent elsewhere moved)).step same

/-- The completion of the shared object stays that of the latest batch, when it was so as far
as the step leaves it there. -/
theorem calling_step (latest : LatestOnly manager)
    (moved : manager.downloads.step moves = some downloads) {name : Nat}
    (head : manager.main.head? = some (.downloading name)) : ∃ call completion,
      downloads.calls.get? name = some call ∧ manager.completions name = some completion ∧
        manager.Latest completion ∧ (call.stage.pastCallback = true → call.answers = [] →
          SlotLatest { manager with downloads := downloads }) := by
  obtain ⟨call, completion, found, kept, current, slot⟩ := latest.calling name head
  obtain ⟨after, present, callMoves⟩ := AwesomeDownload.step_call moved found
  refine ⟨after, completion, present, kept, current, fun past unanswered => ?_⟩
  rcases slotLatest_step latest moved with written | ⟨same, elsewhere⟩
  · exact written
  · rcases callMoves.pastCallback found (elsewhere name) past with already | ⟨_, answered⟩
    · exact (slot already (callMoves.unanswered unanswered)).step same
    · exact (answered unanswered).elim

/-- A step of the downloads keeps this. -/
theorem latestOnly_downloads (latest : LatestOnly manager) (waits : moves ≠ .runMain)
    (moved : manager.downloads.step moves = some downloads) :
    LatestOnly { manager with downloads := downloads } where
  toCallsFramed := latest.downloads_step waits moved
  frames := latest.frames
  calling _ head := calling_step latest moved head
  idle free loud := idle_step latest moved free loud

/-- The main thread takes a block, and goes on with the batch whose completion it calls. -/
theorem latestOnly_runMain (latest : LatestOnly manager) (free : manager.main = [])
    (moved : manager.downloads.step .runMain = some downloads) :
    LatestOnly { manager with downloads := downloads, main := manager.answeredFrames } where
  toCallsFramed := latest.runMain free moved
  frames frame member := by
    rcases answeredFrames_cases manager with
      none | ⟨result, name, completion, queued, held, kept, frames⟩
    · rw [none] at member
      cases member
    · -- a queued result is not silent, so that the slot was as it should be
      have current : manager.Latest completion :=
        latest.idle free (fun silent => AwesomeDownload.absurd_of_no_result silent.1.2 queued)
          name held completion kept
      rw [frames] at member
      cases List.mem_singleton.mp member
      exact current
  calling name head := ((answeredFrames_outside manager name).2 head).elim
  idle _ loud := idle_step latest moved free loud

end Downloads

/-- Every step that meets the condition keeps earlier batches from going on. -/
theorem latestOnly_step (latest : LatestOnly manager) (keeps : KeepsLatest manager label)
    (taken : step manager label = some next) : LatestOnly next := by
  cases stepCases taken with
  | download urls accepts => exact latestOnly_request latest accepts keeps urls
  | runOut folder batch cancel below entered =>
      refine latestOnly_leave latest entered (latest.returned_elsewhere entered nofun) ?_
      intro none
      rw [none] at entered
      exact keeps (by unfold runsOut; rw [entered])
  | notify folder batch cancel url urls below entered =>
      have current := latest.frames _ (entered ▸ List.mem_cons_self)
      exact latestOnly_enter latest entered (latest.returned_elsewhere entered nofun) nofun
        (current.resolve_left nofun)
  | call folder batch url urls below entered => exact latestOnly_call latest folder entered
  | leave folder name call below entered found returned unanswered =>
      obtain ⟨own, _, present, _, _, slot⟩ := latest.calling name (congrArg List.head? entered)
      cases Option.some.inj (found.symm.trans present)
      exact latestOnly_leave latest entered (latest.returned_downloading entered found returned)
        fun _ => Or.inl (slot (congrArg DownloadStage.pastCallback returned) unanswered)
  | existed folder name call completion below entered found returned kept =>
      obtain ⟨_, own, _, same, current, _⟩ := latest.calling name (congrArg List.head? entered)
      cases Option.some.inj (kept.symm.trans same)
      exact latestOnly_enter latest entered (latest.returned_downloading entered found returned)
        nofun current
  | proceed folder batch urls below entered =>
      have current := latest.frames _ (entered ▸ List.mem_cons_self)
      exact latestOnly_enter (latestOnly_cancels latest _) entered
        (latest.returned_elsewhere entered nofun) nofun current
  | runMain downloads free moved => exact latestOnly_runMain latest free moved
  | downloads label downloads other moved => exact latestOnly_downloads latest other moved

/-- The URLs that a batch has called `AwesomeDownload.download` for. -/
def calledBy (manager : AwesomeDownloadManager) (batch : Nat) : List URL :=
  (manager.called.filter fun call => call.1 = batch).map Prod.snd

theorem calledBy_append {batch other : Nat} {url : URL}
    (grows : next.called = manager.called ++ [(other, url)]) :
    next.calledBy batch = manager.calledBy batch ++ if other = batch then [url] else [] := by
  unfold calledBy
  rw [grows, List.filter_append, List.map_append]
  by_cases same : other = batch
  · simp only [same, decide_true, List.filter_cons_of_pos, List.filter_nil, List.map_cons,
      List.map_nil, ↓reduceIte]
  · simp only [same, decide_false, Bool.false_eq_true, not_false_eq_true,
      List.filter_cons_of_neg, List.filter_nil, List.map_nil, ↓reduceIte]

/-- Only the batch asked for last calls `AwesomeDownload.download`. -/
theorem calledBy_step (latest : LatestOnly manager) (taken : step manager label = some next)
    {batch : Nat} (superseded : batch + 1 < manager.batches) :
    next.calledBy batch = manager.calledBy batch ∧ batch + 1 < next.batches := by
  cases stepCases taken with
  | download urls accepts => exact ⟨rfl, Nat.lt_succ_of_lt superseded⟩
  | call folder other url urls below entered =>
      have current : other + 1 = manager.batches :=
        latest.frames (.notifyingDownloading other url urls) (entered ▸ List.mem_cons_self)
      have different : other ≠ batch := by omega
      refine ⟨?_, superseded⟩
      rw [calledBy_append rfl, if_neg different, List.append_nil]
  | _ => exact ⟨rfl, superseded⟩

/-- In a run a superseded batch makes no call. -/
theorem calledBy_run {source target : AwesomeDownloadManager} {labels : List Label}
    (run : Transition.Run step source labels target) (latest : LatestOnly source)
    (keeps : Transition.Meets step KeepsLatest source labels) {batch : Nat}
    (superseded : batch + 1 < source.batches) :
    target.calledBy batch = source.calledBy batch := by
  induction run with
  | nil => rfl
  | cons taken _ ih =>
      obtain ⟨same, still⟩ := calledBy_step latest taken superseded
      exact (ih (latestOnly_step latest keeps.1 taken) (keeps.2 _ taken) still).trans same

/-- A step of the downloads is one of the manager. -/
theorem step_downloads {moves : AwesomeDownload.Label} {downloads : AwesomeDownload}
    (other : moves ≠ .runMain) (moved : manager.downloads.step moves = some downloads) :
    step manager (.downloads moves) = some { manager with downloads := downloads } := by
  unfold step
  dsimp only
  rw [if_neg other, moved]
  rfl

/-- The two statements of `cancelDownload`. -/
theorem cancel_runs {cancel : Nat}
    (entered : manager.downloads.cancels.get? cancel = some .cancellingTask) :
    ∃ next, Transition.Run step manager
        [.downloads (.advanceCancel cancel), .downloads (.advanceCancel cancel)] next ∧
      next.main = manager.main ∧ next.called = manager.called ∧
      next.downloads.cancels.get? cancel = some .returned := by
  have first : manager.downloads.step (.advanceCancel cancel) =
      some { manager.downloads.cancelTask with
        cancels := manager.downloads.cancels.modify cancel fun _ => .cancellingSession } := by
    unfold AwesomeDownload.step
    dsimp only
    rw [entered]
  let middle : AwesomeDownload := { manager.downloads.cancelTask with
    cancels := manager.downloads.cancels.modify cancel fun _ => .cancellingSession }
  have halfway : middle.cancels.get? cancel = some .cancellingSession :=
    (Table.get?_modify_self ..).trans (congrArg (Option.map _) entered)
  have second : middle.step (.advanceCancel cancel) =
      some { middle.invalidateAndCancel with
        cancels := middle.cancels.modify cancel fun _ => .returned } := by
    unfold AwesomeDownload.step
    dsimp only
    rw [halfway]
  refine ⟨_, .cons (step_downloads nofun first) (.single (step_downloads nofun second)), rfl, rfl,
    ?_⟩
  exact (Table.get?_modify_self ..).trans (congrArg (Option.map _) halfway)

/-- After the notification the batch goes on with its next URL. -/
theorem notified_runs {batch : Nat} {url : URL} {urls : List URL} {below : List BatchFrame}
    (entered : manager.main = .notifyingDownloaded batch (url :: urls) :: below) :
    ∃ labels target, Transition.Run step manager labels target ∧
      target.called = manager.called ++ [(batch, url)] := by
  have begins : step manager (.main "") =
      some (manager.cancelDownloads batch (url :: urls) below) := by
    change manager.stepMain "" = _
    unfold stepMain
    rw [entered]
  have pending : (manager.cancelDownloads batch (url :: urls) below).downloads.cancels.get?
      manager.downloads.cancels.size = some .cancellingTask := Table.get?_push_self ..
  obtain ⟨cancelled, cancels, main, called, returned⟩ := cancel_runs pending
  let notifying : AwesomeDownloadManager :=
    { cancelled with main := .notifyingDownloading batch url urls :: below }
  have notifies : step cancelled (.main "") = some notifying := by
    change cancelled.stepMain "" = _
    unfold stepMain
    rw [main]
    exact if_pos returned
  have calls : step notifying (.main "") = some (notifying.callDownload "" batch url urls below) :=
    rfl
  refine ⟨_, _, .cons begins (cancels.append (.cons notifies (.single calls))), ?_⟩
  exact congrArg (· ++ [(batch, url)]) called

/-- A block that calls the completion of a batch with URLs left makes the batch go on. -/
theorem goes_on {name transfer batch : Nat} {success : Bool} {blocks : List MainBlock} {url : URL}
    {urls : List URL} (free : manager.main = [])
    (queued : manager.downloads.mainQueue = .downloaded transfer success :: blocks)
    (held : manager.downloads.downloadedCallback = some name)
    (kept : manager.completions name = some ⟨batch, url :: urls⟩) :
    ∃ labels target, Transition.Run step manager labels target ∧
      target.calledBy batch = manager.calledBy batch ++ [url] := by
  have result : manager.downloads.nextResult = some (transfer, success) := by
    unfold AwesomeDownload.nextResult
    rw [queued]
    rfl
  have frames : manager.answeredFrames = [.notifyingDownloaded batch (url :: urls)] := by
    unfold answeredFrames
    rw [result, held]
    dsimp only
    rw [kept]
  have takes : manager.downloads.step .runMain =
      some ({ manager.downloads with mainQueue := blocks }.runDownloaded transfer success) := by
    unfold AwesomeDownload.step
    dsimp only
    rw [queued]
  let answered : AwesomeDownloadManager := { manager with
    downloads := { manager.downloads with mainQueue := blocks }.runDownloaded transfer success
    main := manager.answeredFrames }
  have ran : step manager .runMain = some answered := by
    unfold step
    dsimp only
    rw [if_pos free, takes]
    rfl
  have notified : answered.main = [.notifyingDownloaded batch (url :: urls)] := frames
  obtain ⟨labels, target, run, called⟩ := notified_runs notified
  refine ⟨.runMain :: labels, target, .cons ran run, ?_⟩
  rw [calledBy_append called, if_pos rfl]
  rfl

/-- **Superseded batches.** In a run that meets the condition no batch but the last one goes
on: once another batch was asked for, a batch makes no further call. A block that finds the
completion of an earlier batch with URLs left makes that batch go on. -/
theorem superseded_stays (files : FileSystem) :
    (∀ before after middle target,
      Transition.Meets step KeepsLatest (initial files) (before ++ after) →
      Transition.Run step (initial files) before middle → Transition.Run step middle after target →
      ∀ batch, batch + 1 < middle.batches → target.calledBy batch = middle.calledBy batch) ∧
    ∀ (manager : AwesomeDownloadManager) name transfer success blocks batch url urls,
      manager.main = [] →
      manager.downloads.mainQueue = .downloaded transfer success :: blocks →
      manager.downloads.downloadedCallback = some name →
      manager.completions name = some ⟨batch, url :: urls⟩ →
      ∃ labels target, Transition.Run step manager labels target ∧
        target.calledBy batch = manager.calledBy batch ++ [url] := by
  constructor
  · intro before after middle target keeps first rest batch superseded
    have latest : LatestOnly middle :=
      first.preserves_of_meets keeps.left
        (fun _ _ _ latest met taken => latestOnly_step latest met taken) (latestOnly_initial files)
    exact calledBy_run rest latest (keeps.right first) superseded
  · intro manager name transfer success blocks batch url urls free queued held kept
    exact goes_on free queued held kept

/-- The URL of a file of one host. -/
def track (name : String) : URL := ⟨some "https", some "a.example", "/" ++ name, none⟩

/-- The main thread calls `cancelDownloads` and looks at the URLs that are left. -/
def cancelled (cancel : Nat) : List Label :=
  [.downloads (.advanceCancel cancel), .downloads (.advanceCancel cancel), .main "aaNetworking"]

/-- The main thread starts the download of the first URL that is left, and is free. -/
def startNext (cancel call : Nat) : List Label :=
  cancelled cancel ++ [.main "aaNetworking"] ++
    List.replicate 10 (.downloads (.advance call .succeeds)) ++ [.main "aaNetworking"]

/-- A batch of two starts, and the file of its first URL arrives. -/
def firstArrives : List Label :=
  [.download [track "a.mp3", track "b.mp3"]] ++ startNext 0 0 ++
    [.downloads (.finish 0 [1])] ++ List.replicate 8 (.downloads (.deliver 0 true))

/-- The block of the main queue calls the completion of a batch. -/
def answerMain (cancel : Nat) : List Label := [.runMain, .main "aaNetworking"] ++ cancelled cancel

/-- An empty batch is asked for while the result of the first URL is queued: the first batch
goes on with its second URL. -/
theorem superseded_batch_goes_on :
    ∃ middle target,
      Transition.Run step (initial .empty) (firstArrives ++ [.download []]) middle ∧
        Transition.Run step middle (cancelled 1 ++ answerMain 2 ++ [.main "aaNetworking"])
          target ∧
        0 + 1 < middle.batches ∧ middle.calledBy 0 = [track "a.mp3"] ∧
        target.calledBy 0 = [track "a.mp3", track "b.mp3"] :=
  ⟨_, _, Transition.run_iff_execute.mpr rfl, Transition.run_iff_execute.mpr rfl, by decide, rfl,
    rfl⟩

/-- A batch that downloads a file of its own replaces the completion of the first one. -/
theorem superseded_stays_replaced :
    ∃ middle target,
      Transition.Run step (initial .empty) (firstArrives ++ [.download [track "c.mp3"]]) middle ∧
        Transition.Run step middle (startNext 1 1 ++ answerMain 2) target ∧
        target.calledBy 0 = middle.calledBy 0 := by
  refine ⟨_, _, Transition.run_iff_execute.mpr rfl, Transition.run_iff_execute.mpr rfl, ?_⟩
  exact (superseded_stays .empty).1 (firstArrives ++ [.download [track "c.mp3"]])
    (startNext 1 1 ++ answerMain 2) _ _ (by decide) (Transition.run_iff_execute.mpr rfl)
    (Transition.run_iff_execute.mpr rfl) 0 (by decide)

end AwesomeDownloadManager

end AwesomeNetwork
