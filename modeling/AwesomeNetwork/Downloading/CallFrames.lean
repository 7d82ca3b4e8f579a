import AwesomeNetwork.Downloading.AwesomeDownloadManager

/-! # The calls of batches on the main thread

The main thread waits for each call of `AwesomeDownload.download` that a batch makes: until
the call has returned, it is the innermost one, and it can be reported at its check only.
-/

namespace AwesomeNetwork.AwesomeDownload

variable {downloads next : AwesomeDownload} {label : Label} {name : Nat}

/-- A call that has not returned and was not answered has at most one answer after a step, and
that one with its return. -/
theorem CallMoves.answered {before after : DownloadCall}
    (moves : CallMoves downloads label name before after)
    (unanswered : before.stage ≠ .returned → before.answers = [])
    (few : before.answers.length ≤ 1) (waits : label ≠ .runMain) :
    after.answers.length ≤ 1 ∧ (after.stage ≠ .returned → after.answers = []) := by
  cases moves with
  | stay => exact ⟨few, unanswered⟩
  | check removal files changed advances checks =>
      have empty := unanswered fun returned => checks.unreturned (Or.inr returned)
      cases checks with
      | noUrl | existed =>
          refine ⟨?_, fun unreturned => (unreturned rfl).elim⟩
          change (before.answers ++ [_]).length ≤ 1
          rw [empty]
          exact Nat.le_refl 1
      | toDelete | deleted | toWrite => exact ⟨few, fun _ => empty⟩
  | write removal stage effect advances writes =>
      refine ⟨few, fun _ => unanswered fun returned => ?_⟩
      rw [returned] at writes
      cases writes
  | answer transfer success runs => exact (waits runs).elim

/-- A call that has returned changes by a block of the main queue only. -/
theorem CallMoves.stays {before after : DownloadCall}
    (moves : CallMoves downloads label name before after) (returned : before.stage = .returned)
    (waits : label ≠ .runMain) : after = before := by
  cases moves with
  | stay => rfl
  | check removal files changed advances checks =>
      exact (checks.unreturned (Or.inr returned)).elim
  | write removal stage effect advances writes =>
      rw [returned] at writes
      cases writes
  | answer transfer success runs => exact (waits runs).elim

end AwesomeNetwork.AwesomeDownload

namespace AwesomeNetwork.AwesomeDownloadManager

/-- A call of a batch that has not returned is the innermost one of the main thread, and only
the innermost frame is that of a call. That call has at most one answer, and none before it
returns. -/
structure CallsFramed (manager : AwesomeDownloadManager) : Prop where
  fresh : ∀ name completion, manager.completions name = some completion →
    name < manager.downloads.calls.size
  below : ∀ name, .downloading name ∉ manager.main.tail
  unreturned : ∀ name completion call, manager.completions name = some completion →
    manager.downloads.calls.get? name = some call → call.stage ≠ .returned →
    manager.main.head? = some (.downloading name)
  answered : ∀ name call, manager.main.head? = some (.downloading name) →
    manager.downloads.calls.get? name = some call →
    call.answers.length ≤ 1 ∧ (call.stage ≠ .returned → call.answers = [])

/-- Before the first batch there is no call. -/
theorem callsFramed_initial (files : FileSystem) : CallsFramed (initial files) where
  fresh := nofun
  below := nofun
  unreturned := fun _ _ _ kept => nomatch kept
  answered := nofun

variable {manager next : AwesomeDownloadManager} {label : Label}

/-- The main thread accepts a batch outside the calls of `AwesomeDownload.download`. -/
theorem head_of_accepts (accepts : manager.accepts = true) (name : Nat) :
    manager.main.head? ≠ some (.downloading name) := by
  intro head
  obtain ⟨below, entered⟩ := List.head?_eq_some_iff.mp head
  unfold AwesomeDownloadManager.accepts at accepts
  rw [entered] at accepts
  cases accepts

namespace CallsFramed

variable {frame other : BatchFrame} {below : List BatchFrame}

/-- Below the innermost frame the main thread is in no call. -/
theorem head_below (framed : CallsFramed manager) (entered : manager.main = frame :: below)
    (name : Nat) : below.head? ≠ some (.downloading name) := by
  intro head
  have under := framed.below name
  rw [entered] at under
  exact under (List.mem_of_mem_head? head)

/-- The calls of batches have returned when the innermost one has. -/
theorem returned (framed : CallsFramed manager) (entered : manager.main = frame :: below)
    (innermost : ∀ name call, frame = .downloading name →
      manager.downloads.calls.get? name = some call → call.stage = .returned) (name : Nat)
    (completion : BatchCompletion) (call : DownloadCall)
    (kept : manager.completions name = some completion)
    (found : manager.downloads.calls.get? name = some call) : call.stage = .returned := by
  by_contra unreturned
  have head := framed.unreturned name completion call kept found unreturned
  rw [entered] at head
  exact unreturned (innermost name call (Option.some.inj head) found)

/-- The calls of batches have returned when the innermost frame is not that of a call. -/
theorem returned_elsewhere (framed : CallsFramed manager) (entered : manager.main = frame :: below)
    (elsewhere : ∀ name, frame ≠ .downloading name) (name : Nat) (completion : BatchCompletion)
    (call : DownloadCall) (kept : manager.completions name = some completion)
    (found : manager.downloads.calls.get? name = some call) : call.stage = .returned :=
  framed.returned entered (fun name _ same => (elsewhere name same).elim) name completion call kept
    found

/-- The calls of batches have returned when the call of the innermost frame has. -/
theorem returned_downloading {name : Nat} {call : DownloadCall} (framed : CallsFramed manager)
    (entered : manager.main = .downloading name :: below)
    (found : manager.downloads.calls.get? name = some call) (returned : call.stage = .returned) :
    ∀ name completion call, manager.completions name = some completion →
      manager.downloads.calls.get? name = some call → call.stage = .returned := by
  refine framed.returned entered ?_
  intro _ other same present
  cases same
  cases Option.some.inj (found.symm.trans present)
  exact returned

/-- The main thread leaves a frame, and nothing else changes. -/
theorem leave (framed : CallsFramed manager) (entered : manager.main = frame :: below)
    (returned : ∀ name completion call, manager.completions name = some completion →
      manager.downloads.calls.get? name = some call → call.stage = .returned) :
    CallsFramed { manager with main := below } where
  fresh := framed.fresh
  below name member := by
    have under := framed.below name
    rw [entered] at under
    exact under (List.mem_of_mem_tail member)
  unreturned name completion call kept found unreturned :=
    (unreturned (returned name completion call kept found)).elim
  answered name _ head := (framed.head_below entered name head).elim

/-- The main thread goes on to another frame, with all calls of batches returned. -/
theorem enter (framed : CallsFramed manager) (entered : manager.main = frame :: below)
    (returned : ∀ name completion call, manager.completions name = some completion →
      manager.downloads.calls.get? name = some call → call.stage = .returned)
    (elsewhere : ∀ name, other ≠ .downloading name) :
    CallsFramed { manager with main := other :: below } where
  fresh := framed.fresh
  below name := by
    have under := framed.below name
    rw [entered] at under
    exact under
  unreturned name completion call kept found unreturned :=
    (unreturned (returned name completion call kept found)).elim
  answered name _ head := (elsewhere name (Option.some.inj head)).elim

/-- A cancel that goes on keeps the calls framed. -/
theorem cancels (framed : CallsFramed manager) (cancels : Table CancelStage) :
    CallsFramed { manager with downloads.cancels := cancels } where
  fresh := framed.fresh
  below := framed.below
  unreturned := framed.unreturned
  answered := framed.answered

/-- A new call becomes the innermost frame. -/
theorem call (framed : CallsFramed manager) {batch : Nat} {url : URL} {urls : List URL}
    (folder : String) (entered : manager.main = .notifyingDownloading batch url urls :: below) :
    CallsFramed (manager.callDownload folder batch url urls below) where
  fresh name completion kept := by
    have size : (manager.callDownload folder batch url urls below).downloads.calls.size =
        manager.downloads.calls.size + 1 := List.length_append
    rw [size]
    by_cases new : name = manager.downloads.calls.size
    · omega
    · have earlier := framed.fresh name completion
        ((Function.update_of_ne new _ _).symm.trans kept)
      omega
  below name := by
    have under := framed.below name
    rw [entered] at under
    exact under
  unreturned name completion call kept found unreturned := by
    by_cases new : name = manager.downloads.calls.size
    · subst new
      rfl
    · have earlier := (Function.update_of_ne new _ _).symm.trans kept
      rcases Table.get?_push_cases found with old | ⟨last, _⟩
      · have head := framed.unreturned name completion call earlier old unreturned
        rw [entered] at head
        cases head
      · exact (new last).elim
  answered name call head found := by
    cases head
    cases Option.some.inj (found.symm.trans (Table.get?_push_self ..))
    exact ⟨Nat.zero_le 1, fun _ => rfl⟩

/-- A new batch keeps the calls framed. -/
theorem request (framed : CallsFramed manager) (accepts : manager.accepts = true)
    (urls : List URL) :
    CallsFramed { manager.cancelDownloads manager.batches urls manager.main with
      batches := manager.batches + 1 } where
  fresh := framed.fresh
  below name member := by
    have under : .downloading name ∈ manager.main := member
    cases entered : manager.main with
    | nil =>
        rw [entered] at under
        cases under
    | cons frame below =>
        rw [entered] at under
        rcases List.mem_cons.mp under with rfl | deeper
        · exact head_of_accepts accepts name (congrArg List.head? entered)
        · exact framed.below name (entered ▸ deeper)
  unreturned name completion call kept found unreturned := by
    have head := framed.unreturned name completion call kept found unreturned
    exact (head_of_accepts accepts name head).elim
  answered name _ head := by cases head

section Downloads

variable {moves : AwesomeDownload.Label} {downloads : AwesomeDownload}

/-- A completion is kept for calls that are there. -/
theorem fresh_step (framed : CallsFramed manager)
    (moved : manager.downloads.step moves = some downloads) {name : Nat}
    {completion : BatchCompletion} (kept : manager.completions name = some completion) :
    name < downloads.calls.size := by
  have earlier := framed.fresh name completion kept
  rcases AwesomeDownload.size_calls moved with same | ⟨_, _, _, _, pushed⟩
  · omega
  · have longer : downloads.calls.size = manager.downloads.calls.size + 1 := by
      rw [pushed]
      exact List.length_append
    omega

/-- A call of a batch that has not returned is the innermost frame. -/
theorem unreturned_step (framed : CallsFramed manager)
    (moved : manager.downloads.step moves = some downloads) {name : Nat}
    {completion : BatchCompletion} {call : DownloadCall}
    (kept : manager.completions name = some completion)
    (found : downloads.calls.get? name = some call) (unreturned : call.stage ≠ .returned) :
    manager.main.head? = some (.downloading name) := by
  rcases AwesomeDownload.step_call_inv moved found with
    ⟨before, present, callMoves⟩ | ⟨_, _, _, _, last, _⟩
  · exact framed.unreturned name completion before kept present
      fun returned => unreturned (callMoves.returned returned)
  · exact (Nat.ne_of_lt (framed.fresh name completion kept) last).elim

/-- A step of the shared object keeps the main thread where it is. -/
theorem downloads_step (framed : CallsFramed manager) (waits : moves ≠ .runMain)
    (moved : manager.downloads.step moves = some downloads) :
    CallsFramed { manager with downloads := downloads } where
  fresh _ _ kept := framed.fresh_step moved kept
  below := framed.below
  unreturned _ _ _ kept found unreturned := framed.unreturned_step moved kept found unreturned
  answered name call head found := by
    rcases AwesomeDownload.step_call_inv moved found with
      ⟨before, present, callMoves⟩ | ⟨_, _, _, _, _, rfl⟩
    · obtain ⟨few, unanswered⟩ := framed.answered name before head present
      exact callMoves.answered unanswered few waits
    · exact ⟨Nat.zero_le 1, fun _ => rfl⟩

end Downloads

end CallsFramed

/-- What the main thread does after a block: nothing, or the batch of a completion goes on. -/
theorem answeredFrames_cases (manager : AwesomeDownloadManager) :
    manager.answeredFrames = [] ∨ ∃ result name completion,
      manager.downloads.nextResult = some result ∧
        manager.downloads.downloadedCallback = some name ∧
        manager.completions name = some completion ∧
        manager.answeredFrames = [.notifyingDownloaded completion.batch completion.urls] := by
  cases queued : manager.downloads.nextResult with
  | none =>
      left
      unfold answeredFrames
      rw [queued]
  | some result =>
      cases held : manager.downloads.downloadedCallback with
      | none =>
          left
          unfold answeredFrames
          rw [queued, held]
      | some name =>
          cases kept : manager.completions name with
          | none =>
              left
              unfold answeredFrames
              rw [queued, held]
              dsimp only
              rw [kept]
          | some completion =>
              refine Or.inr ⟨result, name, completion, rfl, rfl, kept, ?_⟩
              unfold answeredFrames
              rw [queued, held]
              dsimp only
              rw [kept]

/-- After a block the main thread is in no call, and has no frame below. -/
theorem answeredFrames_outside (manager : AwesomeDownloadManager) (name : Nat) :
    manager.answeredFrames.tail = [] ∧
      manager.answeredFrames.head? ≠ some (.downloading name) := by
  rcases answeredFrames_cases manager with none | ⟨_, _, _, _, _, _, frames⟩
  · rw [none]
    exact ⟨rfl, nofun⟩
  · rw [frames]
    exact ⟨rfl, nofun⟩

/-- A block of the main queue keeps the calls framed. -/
theorem CallsFramed.runMain {downloads : AwesomeDownload} (framed : CallsFramed manager)
    (free : manager.main = []) (moved : manager.downloads.step .runMain = some downloads) :
    CallsFramed { manager with downloads := downloads, main := manager.answeredFrames } where
  fresh _ _ kept := framed.fresh_step moved kept
  below name member := by
    rw [(answeredFrames_outside manager name).1] at member
    cases member
  unreturned name completion call kept found unreturned := by
    have head := framed.unreturned_step moved kept found unreturned
    rw [free] at head
    cases head
  answered name _ head := ((answeredFrames_outside manager name).2 head).elim

/-- Every step keeps the calls of batches framed. -/
theorem callsFramed_step (framed : CallsFramed manager) (taken : step manager label = some next) :
    CallsFramed next := by
  cases stepCases taken with
  | download urls accepts => exact framed.request accepts urls
  | runOut folder batch cancel below entered =>
      exact framed.leave entered (framed.returned_elsewhere entered nofun)
  | notify folder batch cancel url urls below entered =>
      exact framed.enter entered (framed.returned_elsewhere entered nofun) nofun
  | call folder batch url urls below entered => exact framed.call folder entered
  | leave folder name call below entered found returned =>
      exact framed.leave entered (framed.returned_downloading entered found returned)
  | existed folder name call completion below entered found returned =>
      exact framed.enter entered (framed.returned_downloading entered found returned) nofun
  | proceed folder batch urls below entered =>
      exact (framed.cancels _).enter entered (framed.returned_elsewhere entered nofun) nofun
  | runMain downloads free moved => exact framed.runMain free moved
  | downloads label downloads other moved => exact framed.downloads_step other moved

end AwesomeNetwork.AwesomeDownloadManager
