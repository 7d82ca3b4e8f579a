import AwesomeNetwork.Library.Settling
import AwesomeNetwork.Networking.Ownership
import AwesomeNetwork.Networking.WaitingBlocks

/-! # Sessions settle

Each call has a bounded number of steps ahead of it, its blocks and its tasks included, and
none of them waits for anything that never comes: a wait at the gate times out, a cancelled
task is answered too, and a delay runs out. A session that is left alone therefore comes to
rest, whatever is scheduled first, and when it rests every call has ended.
-/

namespace AwesomeNetwork

/-- The steps that a block's waiting closure has ahead of it. -/
def GatedBlock.work (block : GatedBlock) : Nat :=
  match block.wait with
  | .queued => 4
  | .waiting => 3
  | .passed => 2
  | .signalling => 1
  | .returned => 0

/-- The steps that the start of a task has ahead of it. -/
def URLSessionTask.work {Key : Type} (task : URLSessionTask Key) : Nat :=
  match task.start with
  | .created => 3
  | .ready => 2
  | .added => 1
  | .resumed => 0

/-- The steps that a call has ahead of it, with those of the blocks and the tasks that it
still has to make. -/
def Call.work (call : Call) : Nat :=
  match call.phase with
  | .deciding => 12 * (call.request.retryCount.toNat + 1)
  | .gated retries _ => 12 * retries.toNat + 7
  | .inFlight retries _ => 12 * retries.toNat + 3
  | .answered retries _ _ => 12 * retries.toNat + 2
  | .removed retries _ => 12 * retries.toNat + 1
  | .waiting retries => 12 * (retries.toNat + 1)
  | .ended => 0

namespace AwesomeDispatcher

/-- Once handed over, a block has at most its run ahead of it. -/
theorem work_dispatch (block : GatedBlock) : (GatedBlock.dispatch block).work ≤ 1 := by
  unfold GatedBlock.dispatch GatedBlock.work
  dsimp only
  cases block.signalNext <;> decide

/-- The steps that the blocks have ahead of them. -/
def work (dispatcher : AwesomeDispatcher) : Nat := dispatcher.blocks.total GatedBlock.work

/-- The steps of the waiting closures. -/
def Label.inner : Label → Bool
  | .enter _ | .acquire _ | .expire _ | .dispatch _ | .signal _ => true
  | _ => false

variable {dispatcher next : AwesomeDispatcher} {label : Label} {name : Nat} {block : GatedBlock}

/-- A change that spends work of a block spends work of the dispatcher. -/
theorem work_modify {change : GatedBlock → GatedBlock}
    (present : dispatcher.blocks.get? name = some block)
    (spends : (change block).work + 1 ≤ block.work) :
    (dispatcher.blocks.modify name change).total GatedBlock.work + 1 ≤ dispatcher.work := by
  have moved := Table.total_modify GatedBlock.work change present
  unfold work
  omega

/-- A new block brings the steps of one block. -/
theorem work_executeBlock (dispatcher : AwesomeDispatcher) (signalNext : Bool) :
    (dispatcher.executeBlock signalNext).work ≤ dispatcher.work + 4 := by
  unfold executeBlock
  split
  · exact (Table.total_push ..).trans_le (Nat.add_le_add_left (Nat.zero_le 4) _)
  · exact (Table.total_push ..).le

/-- Every step of a waiting closure is one less ahead of it. -/
theorem work_step (taken : step dispatcher label = some next)
    (known : ∀ signalNext, label ≠ .executeBlock signalNext) :
    next.work + label.inner.toNat ≤ dispatcher.work := by
  cases label with
  | executeBlock signalNext => exact (known signalNext rfl).elim
  | enter name =>
      obtain ⟨block, present, queued, rfl⟩ := Table.when_eq_some.mp taken
      refine work_modify present ?_
      unfold GatedBlock.work
      rw [queued]
  | acquire name =>
      obtain ⟨block, present, ⟨waiting, _⟩, rfl⟩ := Table.when_eq_some.mp taken
      refine work_modify present ?_
      unfold GatedBlock.work
      rw [waiting]
  | expire name =>
      obtain ⟨block, present, ⟨waiting, _⟩, rfl⟩ := Table.when_eq_some.mp taken
      refine work_modify present ?_
      unfold GatedBlock.work
      rw [waiting]
  | dispatch name =>
      obtain ⟨block, present, passed, rfl⟩ := Table.when_eq_some.mp taken
      refine work_modify present ?_
      have later := work_dispatch block
      have now : block.work = 2 := by
        unfold GatedBlock.work
        rw [passed]
      omega
  | signal name =>
      obtain ⟨block, present, signalling, rfl⟩ := Table.when_eq_some.mp taken
      refine work_modify present ?_
      unfold GatedBlock.work
      rw [signalling]
  | run name =>
      obtain ⟨block, present, dispatched, rfl⟩ := Table.when_eq_some.mp taken
      have kept (block : GatedBlock) : { block with block := .ran }.work = block.work := rfl
      exact (Table.total_modify_of_eq dispatcher.blocks name kept).le
  | releaseSemaphore =>
      cases taken
      exact Nat.le_refl _
  | releaseSignal =>
      unfold step at taken
      dsimp only at taken
      split at taken
      · cases taken
        exact Nat.le_refl _
      · cases taken

/-- The timeout stays as it is set. -/
theorem timeout_step (taken : step dispatcher label = some next) :
    next.timeout = dispatcher.timeout := by
  cases label with
  | executeBlock signalNext =>
      cases taken
      unfold executeBlock
      split <;> rfl
  | releaseSemaphore =>
      cases taken
      rfl
  | releaseSignal =>
      unfold step at taken
      dsimp only at taken
      split at taken
      · cases taken
        rfl
      · cases taken
  | _ =>
      obtain ⟨_, _, _, rfl⟩ := Table.when_eq_some.mp taken
      rfl

/-- A block that has not run is handed over when no waiting closure has a step to take. -/
theorem dispatched_of_still (orderly : dispatcher.InOrder)
    (times : dispatcher.timeout.isSome = true)
    (still : ∀ label, label.inner = true → dispatcher.step label = none)
    (holds : dispatcher.Holds name) :
    ∃ block, dispatcher.blocks.get? name = some block ∧ block.block = .dispatched := by
  obtain ⟨block, present, unrun⟩ := holds
  refine ⟨block, present, ?_⟩
  have past : ¬ (block.wait = .queued ∨ block.wait = .waiting ∨ block.wait = .passed) := by
    rintro (queued | waiting | passed)
    · exact Table.when_ne_none present queued (still (.enter name) rfl)
    · exact Table.when_ne_none present ⟨waiting, times⟩ (still (.expire name) rfl)
    · exact Table.when_ne_none present passed (still (.dispatch name) rfl)
  cases held : block.block with
  | held => exact (past ((orderly name block present).mp held)).elim
  | dispatched => rfl
  | ran => exact (unrun held).elim

end AwesomeDispatcher

namespace AwesomeRequestManager

variable {Key : Type} {manager next : AwesomeRequestManager Key} {label : Label Key} {name : Nat}
  {task : URLSessionTask Key}

/-- The steps that the tasks have ahead of them. -/
def work (manager : AwesomeRequestManager Key) : Nat := manager.tasks.total URLSessionTask.work

/-- The steps that start a task. -/
def Label.inner : Label Key → Bool
  | .cancelPrevious _ | .register _ | .resume _ => true
  | _ => false

/-- A new task brings the steps of one task. -/
theorem work_createTask (manager : AwesomeRequestManager Key) (key : Key) (previous : Bool) :
    (manager.createTask key previous).work ≤ manager.work + 3 := by
  refine (Table.total_push ..).trans_le (Nat.add_le_add_left ?_ _)
  unfold URLSessionTask.work
  cases previous
  · exact Nat.le_succ 2
  · exact Nat.le_refl 3

theorem work_cancel (task : URLSessionTask Key) : task.cancel.work = task.work := by
  unfold URLSessionTask.cancel
  split <;> rfl

theorem work_withState (state : TaskState) (task : URLSessionTask Key) :
    (task.withState state).work = task.work := rfl

theorem work_modifyTask_of_eq (manager : AwesomeRequestManager Key) (name : Nat)
    {change : URLSessionTask Key → URLSessionTask Key}
    (kept : ∀ task, (change task).work = task.work) :
    (manager.modifyTask name change).work = manager.work :=
  Table.total_modify_of_eq _ name kept

/-- A start that goes on spends a step. -/
theorem work_modifyTask_start {start : StartProgress}
    (present : manager.tasks.get? name = some task)
    (spends : (task.withStart start).work + 1 ≤ task.work) :
    (manager.modifyTask name (.withStart start)).work + 1 ≤ manager.work := by
  have moved := Table.total_modify URLSessionTask.work (.withStart start) present
  unfold work
  change (manager.tasks.modify name _).total _ + 1 ≤ _
  omega

variable [DecidableEq Key]

/-- Cancelling an entry spares no step. -/
theorem work_cancelEntry (manager : AwesomeRequestManager Key) (key : Key) :
    (manager.cancelEntry key).work = manager.work := by
  unfold cancelEntry
  split
  · exact work_modifyTask_of_eq manager _ work_cancel
  · rfl

/-- Every step that starts a task is one less ahead of it. -/
theorem work_step (taken : step manager label = some next)
    (known : ∀ key previous, label ≠ .create key previous) :
    next.work + label.inner.toNat ≤ manager.work := by
  cases label with
  | create key previous => exact (known key previous rfl).elim
  | cancelPrevious name =>
      obtain ⟨task, present, created, rfl⟩ := Table.when_eq_some.mp taken
      obtain ⟨after, found, same⟩ := get?_cancelEntry_cases task.key present
      have start : after.start = .created := by
        rcases same with rfl | rfl
        · exact created
        · unfold URLSessionTask.cancel
          split <;> exact created
      rw [← work_cancelEntry manager task.key]
      apply work_modifyTask_start found
      unfold URLSessionTask.work
      rw [start]
      exact Nat.le_refl 3
  | register name =>
      obtain ⟨task, present, ready, rfl⟩ := Table.when_eq_some.mp taken
      have found : (manager.setEntry task.key name).tasks.get? name = some task := present
      apply work_modifyTask_start found
      unfold URLSessionTask.work
      rw [ready]
      exact Nat.le_refl 2
  | resume name =>
      obtain ⟨task, present, added, rfl⟩ := Table.when_eq_some.mp taken
      apply work_modifyTask_start present
      unfold URLSessionTask.work
      rw [added]
      exact Nat.le_refl 1
  | finish name =>
      obtain ⟨_, _, _, rfl⟩ := Table.when_eq_some.mp taken
      exact (work_modifyTask_of_eq manager name (work_withState .completed)).le
  | remove name =>
      obtain ⟨task, _, _, rfl⟩ := Table.when_eq_some.mp taken
      exact (work_modifyTask_of_eq (manager.removeEntry task.key) name
        (work_withState .removed)).le
  | cancelRequest key =>
      cases taken
      exact (work_cancelEntry manager key).le
  | removeCancelled call =>
      obtain ⟨key, _, rfl⟩ := step_removeCancelled taken
      exact Nat.le_refl _
  | cancelAll =>
      cases taken
      exact Nat.le_refl _
  | cancelNext call =>
      obtain ⟨name, names, _, rfl⟩ := step_cancelNext taken
      exact (work_modifyTask_of_eq manager name work_cancel).le
  | removeAll call =>
      obtain ⟨_, rfl⟩ := step_removeAll taken
      exact Nat.le_refl _

/-- A task is resumed once nothing is left of its start. -/
theorem resumed_of_still
    (still : ∀ label, label.inner = true → manager.step label = none)
    (present : manager.tasks.get? name = some task) : task.start = .resumed := by
  cases start : task.start with
  | created => exact (Table.when_ne_none present start (still (.cancelPrevious name) rfl)).elim
  | ready => exact (Table.when_ne_none present start (still (.register name) rfl)).elim
  | added => exact (Table.when_ne_none present start (still (.resume name) rfl)).elim
  | resumed => rfl

end AwesomeRequestManager

namespace Session

/-- The steps that a session has ahead of it when it is left alone. -/
def work (session : Session) : Nat :=
  session.calls.total Call.work + session.dispatcher.work + session.managers.requester.work

/-- The steps that bring calls to their end: their own, those of their blocks at the gate, and
the starts of their tasks. -/
def Label.inner : Label → Bool
  | .decide _ | .runBlock _ | .finish _ _ | .remove _ | .respond _ | .retry _ => true
  | .dispatcher label => label.inner
  | .managers (.requester label) => label.inner
  | _ => false

/-- The work that comes with a new call. -/
def newWork (_ : Session) : Label → Nat
  | .requestData request => 12 * (request.retryCount.toNat + 1)
  | _ => 0

variable {session next source target : Session} {label : Label} {labels : List Label}
  {name : Nat} {call before changed : Call}

/-- A move of one call takes at least one step off the work of the session when it does so
off the work of the call, of the dispatcher and of the tasks. -/
theorem work_move (present : session.calls.get? name = some before)
    (calls : source.calls = session.calls)
    (pays : changed.work + source.dispatcher.work + source.managers.requester.work + 1 ≤
      before.work + session.dispatcher.work + session.managers.requester.work) :
    (source.setCall name changed).work + 1 ≤ session.work := by
  have moved := total_setCall Call.work changed calls present
  have dispatcher : (source.setCall name changed).dispatcher = source.dispatcher := rfl
  have managers : (source.setCall name changed).managers = source.managers := rfl
  unfold work
  rw [dispatcher, managers]
  omega

/-- An attempt is paid for by the call. -/
theorem work_performs {begun : Call} {retries : Int}
    (present : session.calls.get? name = some before)
    (performed : session.Performs begun retries source changed)
    (ahead : before.work = 12 * (retries.toNat + 1)) :
    (source.setCall name changed).work + 1 ≤ session.work := by
  cases performed with
  | ended absent =>
      apply work_move present
      · rfl
      · change 0 + session.dispatcher.work + session.managers.requester.work + 1 ≤ _
        omega
  | gated requested =>
      have block := session.dispatcher.work_executeBlock true
      apply work_move present
      · rfl
      · change 12 * retries.toNat + 7 + (session.dispatcher.executeBlock true).work +
          session.managers.requester.work + 1 ≤ _
        omega
  | sent urlRequest =>
      have task := session.managers.requester.work_createTask urlRequest.urlCacheKey
        begun.request.cancelPreviousRequest
      apply work_move present
      · rfl
      · change 12 * retries.toNat + 3 + session.dispatcher.work +
          (session.managers.requester.createTask urlRequest.urlCacheKey
            begun.request.cancelPreviousRequest).work + 1 ≤ _
        omega

/-- A call that ends has no work left. -/
theorem work_ended (present : session.calls.get? name = some before)
    (ended : changed.work = 0) (pays : 0 < before.work) :
    (session.setCall name changed).work + 1 ≤ session.work := by
  apply work_move present
  · rfl
  · rw [ended]
    omega

/-- A decision spends a step. -/
theorem work_decide (present : session.calls.get? name = some call)
    (deciding : call.phase = .deciding) :
    ((session.decide call).setCall name
      (call.decide session.shared session.nextBlock session.nextTask)).work + 1 ≤ session.work := by
  have ahead : call.work = 12 * (call.request.retryCount.toNat + 1) := by
    unfold Call.work
    rw [deciding]
  have pays : 0 < call.work := by omega
  unfold decide Call.decide
  split
  · cases session.shared.requester with
    | none => exact work_ended present rfl pays
    | some requester =>
        have performed := performs session (call.record .fetchStarted) call.request.retryCount
          requester
        exact work_performs present performed ahead
  · split
    · exact work_ended present rfl pays
    · exact work_ended present rfl pays

/-- A reply spends a step. -/
theorem work_respond {retries : Int} {outcome : Outcome}
    (present : session.calls.get? name = some call)
    (removed : call.phase = .removed retries outcome) :
    ((session.respond call retries outcome).setCall name
      (call.respond session.shared retries outcome)).work + 1 ≤ session.work := by
  have ahead : call.work = 12 * retries.toNat + 1 := by
    unfold Call.work
    rw [removed]
  have left : (call.respond session.shared retries outcome).work ≤ 12 * retries.toNat := by
    unfold Call.respond
    split
    · next again =>
        have positive := again.2
        change 12 * ((retries - 1).toNat + 1) ≤ _
        omega
    · split <;> exact Nat.zero_le _
  have same : (session.respond call retries outcome).dispatcher = session.dispatcher ∧
      (session.respond call retries outcome).managers = session.managers := by
    unfold respond
    split <;> exact ⟨rfl, rfl⟩
  apply work_move present
  · exact calls_respond session call retries outcome
  · rw [same.1, same.2]
    omega

/-- Every inner step is one less ahead of the session, and only new calls bring work in. -/
theorem work_step (taken : step session label = some next) :
    next.work + label.inner.toNat ≤ session.work + session.newWork label := by
  cases stepCases taken with
  | requestData request =>
      have added := Table.total_push session.calls (.start request session.shared session.realm)
        Call.work
      have ahead : (Call.start request session.shared session.realm).work =
        12 * (request.retryCount.toNat + 1) := rfl
      have outer : (Label.requestData request).inner.toNat = 0 := rfl
      unfold work newWork
      dsimp only
      omega
  | decide name call present deciding => exact work_decide present deciding
  | dispatcher label dispatcher allowed moved =>
      have spent := AwesomeDispatcher.work_step moved (by rintro _ rfl; cases allowed)
      unfold work
      change _ + label.inner.toNat ≤ _
      dsimp only
      omega
  | runBlock name call retries block urlRequest dispatcher present gated requested moved =>
      have ahead : call.work = 12 * retries.toNat + 7 := by
        unfold Call.work
        rw [gated]
      have spent := AwesomeDispatcher.work_step moved nofun
      have task := session.managers.requester.work_createTask urlRequest.urlCacheKey
        call.request.cancelPreviousRequest
      apply work_move present
      · rfl
      · change 12 * retries.toNat + 3 + dispatcher.work +
          (session.managers.requester.createTask urlRequest.urlCacheKey
            call.request.cancelPreviousRequest).work + 1 ≤ _
        have run : (AwesomeDispatcher.Label.run block).inner.toNat = 0 := rfl
        omega
  | managers label managers allowed moved =>
      unfold work
      cases RequestManagers.stepCases moved with
      | requester label stepped =>
          have spent := AwesomeRequestManager.work_step stepped (by rintro _ _ rfl; cases allowed)
          change _ + label.inner.toNat ≤ _
          dsimp only
          omega
      | upload label stepped same =>
          rw [same]
          exact Nat.le_refl _
      | cancelAllRequests stepped =>
          have spent := AwesomeRequestManager.work_step stepped nofun
          exact Nat.add_le_add_left spent _
      | cancelUploads cancel call present finished stepped same =>
          rw [same]
          exact Nat.le_refl _
      | cancelReturn cancel call present finished same same' =>
          rw [same']
          exact Nat.le_refl _
  | finish name response call retries task data requester present inFlight found honest moved =>
      have ahead : call.work = 12 * retries.toNat + 3 := by
        unfold Call.work
        rw [inFlight]
      have spent := AwesomeRequestManager.work_step moved nofun
      apply work_move present
      · rfl
      · change 12 * retries.toNat + 2 + session.dispatcher.work + requester.work + 1 ≤ _
        omega
  | remove name call retries task outcome requester present answered moved =>
      have ahead : call.work = 12 * retries.toNat + 2 := by
        unfold Call.work
        rw [answered]
      have spent := AwesomeRequestManager.work_step moved nofun
      apply work_move present
      · rfl
      · change 12 * retries.toNat + 1 + session.dispatcher.work + requester.work + 1 ≤ _
        omega
  | respond name call retries outcome present removed => exact work_respond present removed
  | retry name call retries requester present waiting installed =>
      apply work_performs present (performs session call retries requester)
      unfold Call.work
      rw [waiting]
  | setDefaultCacheRule rule => exact Nat.le_refl _
  | clearCache => exact Nat.le_refl _

/-- Waits at the gate time out, a requester is installed, and each call has what it needs. -/
structure Attended (session : Session) : Prop where
  owned : session.Owned
  orderly : session.dispatcher.InOrder
  times : session.dispatcher.timeout.isSome = true
  installed : session.shared.requester.isSome = true

/-- A step moves the dispatcher by one of its own steps or leaves it alone. -/
theorem step_dispatcher (taken : step session label = some next) :
    next.dispatcher = session.dispatcher ∨
      ∃ moved, session.dispatcher.step moved = some next.dispatcher := by
  have performed {begun : Call} {retries : Int} {source : Session} {changed : Call}
      (performed : session.Performs begun retries source changed) :
      source.dispatcher = session.dispatcher ∨
        ∃ moved, session.dispatcher.step moved = some source.dispatcher := by
    cases performed with
    | ended => exact Or.inl rfl
    | gated => exact Or.inr ⟨.executeBlock true, rfl⟩
    | sent => exact Or.inl rfl
  cases stepCases taken with
  | requestData request => exact Or.inl rfl
  | decide name call present deciding =>
      unfold decide
      dsimp only [setCall]
      split
      · split
        · exact Or.inl rfl
        · next requester _ =>
            exact performed (performs session call call.request.retryCount requester)
      · exact Or.inl rfl
  | dispatcher label dispatcher allowed moved => exact Or.inr ⟨label, moved⟩
  | runBlock name call retries block urlRequest dispatcher present gated requested moved =>
      exact Or.inr ⟨.run block, moved⟩
  | managers label managers => exact Or.inl rfl
  | finish => exact Or.inl rfl
  | remove => exact Or.inl rfl
  | respond name call retries outcome =>
      unfold respond
      dsimp only [setCall]
      split <;> exact Or.inl rfl
  | retry name call retries requester =>
      have moved := performed (performs session call retries requester)
      exact moved
  | setDefaultCacheRule => exact Or.inl rfl
  | clearCache => exact Or.inl rfl

/-- A session with a requester is attended. -/
theorem attended_started {shared : Shared} (installed : shared.requester.isSome = true)
    (realm : Realm) : (started shared realm).Attended where
  owned := owned_started shared realm
  orderly := fun _ _ present => nomatch present
  times := rfl
  installed := installed

/-- Every step keeps the session attended. -/
theorem attended_step (attended : session.Attended) (taken : step session label = some next) :
    next.Attended := by
  refine ⟨owned_step attended.owned taken, ?_, ?_, ?_⟩
  · rcases step_dispatcher taken with same | ⟨moved, changed⟩
    · exact same ▸ attended.orderly
    · exact AwesomeDispatcher.inOrder_step attended.orderly changed
  · rcases step_dispatcher taken with same | ⟨moved, changed⟩
    · exact same ▸ attended.times
    · rw [AwesomeDispatcher.timeout_step changed]
      exact attended.times
  · rw [(step_shared taken).1]
    exact attended.installed

/-- In a session that rests, the dispatcher has no step. -/
theorem dispatcher_still
    (still : Transition.Still step (fun label => label.inner = true) session)
    (label : AwesomeDispatcher.Label) (inner : label.inner = true) :
    session.dispatcher.step label = none := by
  have none := still (.dispatcher label) inner
  have allowed : dispatches label = true := by cases label <;> first | rfl | cases inner
  unfold step at none
  dsimp only at none
  rw [if_pos allowed, Option.map_eq_none_iff] at none
  exact none

/-- In a session that rests, the registry has no step. -/
theorem requester_still
    (still : Transition.Still step (fun label => label.inner = true) session)
    (label : AwesomeRequestManager.Label String) (inner : label.inner = true) :
    session.managers.requester.step label = none := by
  have none := still (.managers (.requester label)) inner
  have allowed : manages (.requester label) = true := by
    cases label <;> first | rfl | cases inner
  unfold step at none
  dsimp only at none
  rw [if_pos allowed, Option.map_eq_none_iff] at none
  exact Option.map_eq_none_iff.mp none

/-- **A session at rest.** When no inner step is enabled, every call has ended. -/
theorem ended_of_still (attended : session.Attended)
    (still : Transition.Still step (fun label => label.inner = true) session)
    (present : session.calls.get? name = some call) : call.phase = .ended := by
  have provided : session.Provides call := attended.owned.provides name call present
  unfold Provides at provided
  cases phase : call.phase with
  | deciding => exact (Table.when_ne_none present phase (still (.decide name) rfl)).elim
  | gated retries block =>
      rw [phase] at provided
      obtain ⟨urlRequest, requested⟩ := Option.isSome_iff_exists.mp provided.1
      obtain ⟨gated, found, dispatched⟩ := AwesomeDispatcher.dispatched_of_still
        attended.orderly attended.times (dispatcher_still still) provided.2
      have none := still (.runBlock name) rfl
      simp only [step, present, phase, requested, Option.map_eq_none_iff] at none
      exact (Table.when_ne_none found dispatched none).elim
  | inFlight retries task =>
      rw [phase] at provided
      obtain ⟨_, data, found, running⟩ := provided
      have resumed := AwesomeRequestManager.resumed_of_still (requester_still still) found
      -- whether the task was cancelled or not, it may be answered with this error
      let response : SessionResponse := ⟨none, none, some ⟨NSURLErrorCancelled, "cancelled"⟩⟩
      have honest : data.cancelled = true → response.isCancelled := fun _ => rfl
      have none := still (.finish name response) rfl
      simp only [step, present, phase, found, if_pos honest, Option.map_eq_none_iff] at none
      exact (Table.when_ne_none found ⟨running, Or.inl resumed⟩ none).elim
  | answered retries task outcome =>
      rw [phase] at provided
      obtain ⟨_, data, found, completed⟩ := provided
      have none := still (.remove name) rfl
      simp only [step, present, phase, Option.map_eq_none_iff] at none
      exact (Table.when_ne_none found completed none).elim
  | removed retries outcome =>
      have none := still (.respond name) rfl
      simp only [step, present, phase, reduceCtorEq] at none
  | waiting retries =>
      obtain ⟨requester, installed⟩ := Option.isSome_iff_exists.mp attended.installed
      have none := still (.retry name) rfl
      simp only [step, present, phase, installed, reduceCtorEq] at none
  | ended => rfl

/-- **Sessions settle.** In every run the steps taken for the calls, with those still ahead,
number at most 12 for each attempt that the calls may make. From any state of a run, however
the steps are scheduled, so many bring the session to rest, and at rest every call has ended;
and rest can be reached from everywhere. -/
theorem session_settles {shared : Shared} (installed : shared.requester.isSome = true)
    (realm : Realm) (run : Transition.Run step (started shared realm) labels session) :
    session.work + Transition.tally step (fun _ label => label.inner.toNat)
        (started shared realm) labels ≤
      Transition.tally step newWork (started shared realm) labels ∧
    (∀ more last, Transition.Run step session more last →
      (∀ label ∈ more, label.inner = true) → last.work + more.length ≤ session.work) ∧
    (Transition.Still step (fun label => label.inner = true) session →
      ∀ name call, session.calls.get? name = some call → call.phase = .ended) ∧
    ∃ more last, Transition.Run step session more last ∧
      (∀ label ∈ more, label.inner = true) ∧
      ∀ name call, last.calls.get? name = some call → call.phase = .ended := by
  have attended : session.Attended :=
    run.preserves (fun _ _ _ => attended_step) (attended_started installed realm)
  have spends (state : Session) (label : Label) (next : Session) (_ : state.Attended)
      (inner : label.inner = true) (taken : step state label = some next) :
      next.work < state.work := by
    have spent := work_step taken
    have nothing : state.newWork label = 0 := by
      cases label <;> first | rfl | cases inner
    rw [inner, nothing] at spent
    exact spent
  refine ⟨?_, ?_, ?_, ?_⟩
  · have paid := run.budget (.of_forall (fun _ _ => trivial) _ _) (fun _ _ _ _ _ _ => trivial)
      (fun _ _ _ _ _ => work_step) trivial
    exact paid.trans_eq (Nat.zero_add _)
  · intro more last continued only
    exact continued.length_le (fun _ _ _ valid _ => attended_step valid) spends attended only
  · exact fun still name call present => ended_of_still attended still present
  · exact Transition.exists_settled (fun _ _ _ valid _ => attended_step valid) spends
      (fun state attended still name call present => ended_of_still attended still present)
      attended

/-- Two calls with one retry each can still end. -/
theorem session_settles_superseded : ∃ more last, Transition.Run step (superseded 1) more last ∧
    (∀ label ∈ more, label.inner = true) ∧
    ∀ name call, last.calls.get? name = some call → call.phase = .ended := by
  have run : Transition.Run step (started pickyWorld.shared Realm.empty) (twoCalls 1)
      (superseded 1) := Transition.run_iff_execute.mpr rfl
  exact (session_settles rfl Realm.empty run).2.2.2

end Session

end AwesomeNetwork
