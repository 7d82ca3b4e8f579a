import AwesomeNetwork.Networking.CancelledCalls
import AwesomeNetwork.Networking.Provenance
import AwesomeNetwork.Networking.StaleEntries

/-! # What the calls of a session own

A call in flight has a task of its own, and a call at the gate a block of its own: no other
call finishes the task or runs the block. What a call holds is therefore there when the
call gets to it, and every attempt of every call has its own network task.
-/

namespace AwesomeNetwork

/-- The block has not run yet. -/
def AwesomeDispatcher.Holds (dispatcher : AwesomeDispatcher) (name : Nat) : Prop :=
  ∃ block, dispatcher.blocks.get? name = some block ∧ block.block ≠ .ran

/-- There is a task of the name, and it is in the state. -/
def AwesomeRequestManager.HasTask {Key : Type} (manager : AwesomeRequestManager Key) (name : Nat)
    (state : TaskState) : Prop :=
  ∃ task, manager.tasks.get? name = some task ∧ task.state = state

/-- The block that the call waits for. -/
def Call.block? (call : Call) : Option Nat :=
  match call.phase with
  | .gated _ block => some block
  | _ => none

/-- The attempts that the call may still make. -/
def Call.attemptsLeft (call : Call) : Nat :=
  match call.phase with
  | .deciding => call.request.retryCount.toNat + 1
  | .gated retries _ | .waiting retries => retries.toNat + 1
  | .inFlight retries _ | .answered retries _ _ | .removed retries _ => retries.toNat
  | .ended => 0

/-- The call makes no more attempts than its retries allow, and has a reply to each of them
but the one in flight. -/
structure Call.WithinRetries (call : Call) : Prop where
  attempts : call.tasks.length + call.attemptsLeft ≤ call.request.retryCount.toNat + 1
  replies : call.responses.length + (match call.phase with | .inFlight _ _ => 1 | _ => 0) =
    call.tasks.length

namespace Session

/-- What the call is to take up next is there. -/
def Provides (session : Session) (call : Call) : Prop :=
  match call.phase with
  | .gated _ block => call.request.urlRequest.isSome = true ∧ session.dispatcher.Holds block
  | .inFlight _ task => task ∈ call.tasks ∧ session.managers.requester.HasTask task .running
  | .answered _ task _ => task ∈ call.tasks ∧ session.managers.requester.HasTask task .completed
  | _ => True

/-- Each call holds what it needs, and shares no block and no task with another one. -/
structure Owned (session : Session) : Prop where
  provides : session.calls.All fun _ call => session.Provides call
  blocks : ∀ name other call rival block, session.calls.get? name = some call →
    session.calls.get? other = some rival → block ∈ call.block? → block ∈ rival.block? →
    name = other
  tasks : ∀ name other call rival task, session.calls.get? name = some call →
    session.calls.get? other = some rival → task ∈ call.tasks → task ∈ rival.tasks →
    name = other
  known : session.calls.All fun _ call => ∀ task ∈ call.tasks, task < session.nextTask

/-- Nothing that another call holds is lost. -/
def Spares (session source : Session) (call : Call) : Prop :=
  (∀ block, session.dispatcher.Holds block →
    source.dispatcher.Holds block ∨ block ∈ call.block?) ∧
  ∀ task state, session.managers.requester.HasTask task state →
    source.managers.requester.HasTask task state ∨ task ∈ call.tasks

/-- The call has a new block or a new task, or neither. -/
structure Gains (session source : Session) (before after : Call) : Prop where
  block : ∀ block ∈ after.block?, block ∈ before.block? ∨ block = session.nextBlock
  tasks : after.tasks = before.tasks ∨
    after.tasks = before.tasks ++ [session.nextTask] ∧ session.nextTask < source.nextTask
  size : session.nextTask ≤ source.nextTask

end Session

namespace AwesomeDispatcher

variable {dispatcher next : AwesomeDispatcher} {label : Label} {name : Nat}

/-- A block that has not run is still held after a change that does not run it. -/
theorem Holds.modify {other : Nat} {change : GatedBlock → GatedBlock}
    (holds : dispatcher.Holds name)
    (kept : ∀ block, block.block ≠ .ran → (change block).block ≠ .ran) :
    ∃ block, (dispatcher.blocks.modify other change).get? name = some block ∧
      block.block ≠ .ran := by
  obtain ⟨block, present, unrun⟩ := holds
  rw [Table.get?_modify, present]
  split
  · exact ⟨change block, rfl, kept block unrun⟩
  · exact ⟨block, rfl, unrun⟩

/-- A block stays until it runs. -/
theorem holds_step (taken : step dispatcher label = some next) (holds : dispatcher.Holds name) :
    next.Holds name ∨ label = .run name := by
  cases label with
  | executeBlock signalNext =>
      cases taken
      obtain ⟨block, present, unrun⟩ := holds
      left
      unfold executeBlock
      split <;> exact ⟨block, Table.get?_push_of_get? _ present, unrun⟩
  | enter other =>
      obtain ⟨_, _, _, rfl⟩ := Table.when_eq_some.mp taken
      exact Or.inl (holds.modify fun _ => id)
  | acquire other =>
      obtain ⟨_, _, _, rfl⟩ := Table.when_eq_some.mp taken
      exact Or.inl (holds.modify fun _ => id)
  | expire other =>
      obtain ⟨_, _, _, rfl⟩ := Table.when_eq_some.mp taken
      exact Or.inl (holds.modify fun _ => id)
  | dispatch other =>
      obtain ⟨_, _, _, rfl⟩ := Table.when_eq_some.mp taken
      exact Or.inl (holds.modify fun _ _ => nofun)
  | signal other =>
      obtain ⟨_, _, _, rfl⟩ := Table.when_eq_some.mp taken
      exact Or.inl (holds.modify fun _ => id)
  | run other =>
      obtain ⟨_, _, _, rfl⟩ := Table.when_eq_some.mp taken
      by_cases same : name = other
      · exact Or.inr (congrArg Label.run same.symm)
      · obtain ⟨block, present, unrun⟩ := holds
        refine Or.inl ⟨block, ?_, unrun⟩
        exact (Table.get?_modify_of_ne _ _ same).trans present
  | releaseSemaphore =>
      cases taken
      exact Or.inl holds
  | releaseSignal =>
      unfold step at taken
      dsimp only at taken
      split at taken
      · cases taken
        exact Or.inl holds
      · cases taken

end AwesomeDispatcher

namespace AwesomeRequestManager

variable {Key : Type} [DecidableEq Key] {manager next : AwesomeRequestManager Key}
  {label : Label Key} {name : Nat} {state : TaskState}

/-- The state of a task changes with its completion and with its removal only. -/
theorem hasTask_step (taken : step manager label = some next) (has : manager.HasTask name state) :
    next.HasTask name state ∨ label = .finish name ∨ label = .remove name := by
  obtain ⟨task, present, rfl⟩ := has
  obtain ⟨after, found, moves⟩ := step_moves taken present
  cases moves with
  | stay => exact Or.inl ⟨task, found, rfl⟩
  | start start starts => exact Or.inl ⟨_, found, rfl⟩
  | cancel aims => exact Or.inl ⟨_, found, task.state_cancel⟩
  | cancelSelf aims => exact Or.inl ⟨_, found, task.state_cancel⟩
  | finish own => exact Or.inr (Or.inl own)
  | remove own => exact Or.inr (Or.inr own)

theorem hasTask_finish (taken : step manager (.finish name) = some next) :
    next.HasTask name .completed := by
  obtain ⟨task, present, _, rfl⟩ := Table.when_eq_some.mp taken
  refine ⟨task.withState .completed, ?_, rfl⟩
  rw [get?_modifyTask, if_pos rfl, present]
  rfl

omit [DecidableEq Key] in
theorem hasTask_createTask (manager : AwesomeRequestManager Key) (key : Key)
    (cancelPrevious : Bool) :
    (manager.createTask key cancelPrevious).HasTask manager.tasks.size .running :=
  ⟨_, Table.get?_push_self .., rfl⟩

theorem size_le_step (taken : step manager label = some next) :
    manager.tasks.size ≤ next.tasks.size := by
  rcases step_size taken with same | ⟨key, cancelPrevious, _, tasks⟩
  · exact Nat.le_of_eq same.symm
  · rw [tasks, Table.size_push]
    exact Nat.le_succ _

end AwesomeRequestManager

namespace Session

variable {session next source target : Session} {label : Label} {labels : List Label}
  {name : Nat} {call before after changed : Call}

/-- The other calls are provided for after a step that spares them. -/
theorem Owned.spared (owned : session.Owned) (present : session.calls.get? name = some before)
    (spares : session.Spares source before) {other : Nat} (different : other ≠ name)
    (found : session.calls.get? other = some call) : source.Provides call := by
  have provided : session.Provides call := owned.provides other call found
  unfold Provides at *
  cases phase : call.phase with
  | gated retries block =>
      rw [phase] at provided
      obtain ⟨requested, holds⟩ := provided
      refine ⟨requested, (spares.1 block holds).resolve_right fun shared => ?_⟩
      have own : block ∈ call.block? := by
        unfold Call.block?
        rw [phase]
        rfl
      exact different (owned.blocks other name call before block found present own shared)
  | inFlight retries task =>
      rw [phase] at provided
      obtain ⟨own, has⟩ := provided
      refine ⟨own, (spares.2 task _ has).resolve_right fun shared => ?_⟩
      exact different (owned.tasks other name call before task found present own shared)
  | answered retries task outcome =>
      rw [phase] at provided
      obtain ⟨own, has⟩ := provided
      refine ⟨own, (spares.2 task _ has).resolve_right fun shared => ?_⟩
      exact different (owned.tasks other name call before task found present own shared)
  | _ => trivial

/-- The block of a call is a block of the dispatcher. -/
theorem Owned.block_lt (owned : session.Owned) (present : session.calls.get? name = some call)
    {block : Nat} (own : block ∈ call.block?) : block < session.nextBlock := by
  have provided : session.Provides call := owned.provides name call present
  unfold Call.block? at own
  unfold Provides at provided
  split at own
  · next retries other phase =>
      rw [phase] at provided
      cases own
      obtain ⟨_, gated, found, _⟩ := provided
      exact Table.lt_size_of_get? found
  · cases own

/-- A move of one call keeps the ownership when it spares what the others hold, and the call
gains only what is new. -/
theorem Owned.move (owned : session.Owned) (present : session.calls.get? name = some before)
    (calls : source.calls = session.calls) (spares : session.Spares source before)
    (gains : session.Gains source before changed) (provides : source.Provides changed) :
    (source.setCall name changed).Owned := by
  have inv {other : Nat} {call : Call}
      (found : (source.setCall name changed).calls.get? other = some call) :
      (other = name ∧ call = changed) ∨
        (other ≠ name ∧ session.calls.get? other = some call) := by
    rw [calls_setCall, calls, Table.get?_modify] at found
    split at found
    · next same =>
        rw [same, present] at found
        exact Or.inl ⟨same, (Option.some.inj found).symm⟩
    · next different => exact Or.inr ⟨different, found⟩
  have block_of (other : Nat) (rival : Call) (block : Nat) (different : other ≠ name)
      (found : session.calls.get? other = some rival) (new : block ∈ changed.block?)
      (own : block ∈ rival.block?) : False := by
    rcases gains.block block new with old | fresh
    · exact different (owned.blocks other name rival before block found present own old)
    · exact absurd (owned.block_lt found own) (Nat.not_lt.mpr fresh.ge)
  have task_of (other : Nat) (rival : Call) (task : Nat) (different : other ≠ name)
      (found : session.calls.get? other = some rival) (new : task ∈ changed.tasks)
      (own : task ∈ rival.tasks) : False := by
    have below := owned.known other rival found task own
    rcases gains.tasks with same | ⟨grown, _⟩
    · rw [same] at new
      exact different (owned.tasks other name rival before task found present own new)
    · rw [grown] at new
      rcases List.mem_append.mp new with old | fresh
      · exact different (owned.tasks other name rival before task found present own old)
      · rw [List.mem_singleton.mp fresh] at below
        exact Nat.lt_irrefl _ below
  refine ⟨?_, ?_, ?_, ?_⟩
  · intro other call found
    rcases inv found with ⟨rfl, rfl⟩ | ⟨different, old⟩
    · exact provides
    · exact owned.spared present spares different old
  · intro first second call rival block found found' own own'
    rcases inv found with ⟨rfl, rfl⟩ | ⟨different, old⟩ <;>
      rcases inv found' with ⟨rfl, rfl⟩ | ⟨different', old'⟩
    · rfl
    · exact (block_of second rival block different' old' own own').elim
    · exact (block_of first call block different old own' own).elim
    · exact owned.blocks first second call rival block old old' own own'
  · intro first second call rival task found found' own own'
    rcases inv found with ⟨rfl, rfl⟩ | ⟨different, old⟩ <;>
      rcases inv found' with ⟨rfl, rfl⟩ | ⟨different', old'⟩
    · rfl
    · exact (task_of second rival task different' old' own own').elim
    · exact (task_of first call task different old own' own).elim
    · exact owned.tasks first second call rival task old old' own own'
  · intro other call found task own
    rcases inv found with ⟨rfl, rfl⟩ | ⟨different, old⟩
    · rcases gains.tasks with same | ⟨grown, larger⟩
      · rw [same] at own
        exact Nat.lt_of_lt_of_le (owned.known other before present task own) gains.size
      · rw [grown] at own
        rcases List.mem_append.mp own with old | fresh
        · exact Nat.lt_of_lt_of_le (owned.known other before present task old) gains.size
        · rw [List.mem_singleton.mp fresh]
          exact larger
    · exact Nat.lt_of_lt_of_le (owned.known other call old task own) gains.size

/-- What all calls hold is kept when no block runs and no task completes or is removed. -/
theorem Owned.keep (owned : session.Owned) (calls : source.calls = session.calls)
    (blocks : ∀ block, session.dispatcher.Holds block → source.dispatcher.Holds block)
    (tasks : ∀ task state, session.managers.requester.HasTask task state →
      source.managers.requester.HasTask task state)
    (size : session.nextTask ≤ source.nextTask) : source.Owned := by
  refine ⟨?_, calls ▸ owned.blocks, calls ▸ owned.tasks, ?_⟩
  · intro name call present
    rw [calls] at present
    have provided : session.Provides call := owned.provides name call present
    unfold Provides at *
    split at provided
    · exact ⟨provided.1, blocks _ provided.2⟩
    · exact ⟨provided.1, tasks _ _ provided.2⟩
    · exact ⟨provided.1, tasks _ _ provided.2⟩
    · trivial
  · intro name call present task own
    rw [calls] at present
    exact Nat.lt_of_lt_of_le (owned.known name call present task own) size

theorem Spares.refl (session : Session) (call : Call) : session.Spares session call :=
  ⟨fun _ => Or.inl, fun _ _ => Or.inl⟩

/-- `performRequest(_:completion:)` ends the call, hands it to the gate or creates its task. -/
inductive Performs (session : Session) (call : Call) (retries : Int) : Session → Call → Prop
  | ended : call.request.urlRequest = none →
      Performs session call retries session (call.moveTo .ended)
  | gated : call.request.urlRequest.isSome = true → Performs session call retries
      { session with dispatcher := session.dispatcher.executeBlock true }
      (call.moveTo (.gated retries session.nextBlock))
  | sent (urlRequest : URLRequest) : Performs session call retries
      { session with
        managers.requester := session.managers.requester.createTask urlRequest.urlCacheKey
          call.request.cancelPreviousRequest }
      (call.send retries session.nextTask)

/-- `performRequest` performs an attempt of the call. -/
theorem performs (session : Session) (call : Call) (retries : Int)
    (requester : AwesomeRequester) :
    session.Performs call retries (session.performRequest call.request requester)
      (call.perform requester retries session.nextBlock session.nextTask) := by
  unfold performRequest Call.perform
  cases requested : call.request.urlRequest with
  | none => exact .ended requested
  | some urlRequest =>
      dsimp only
      split
      · exact .gated (requested ▸ rfl)
      · exact .sent urlRequest

/-- A new block at the gate spares the other calls. -/
theorem spares_executeBlock (session : Session) (call : Call) :
    session.Spares { session with dispatcher := session.dispatcher.executeBlock true } call := by
  refine ⟨fun block holds => ?_, fun _ _ => Or.inl⟩
  have taken : session.dispatcher.step (.executeBlock true) =
      some (session.dispatcher.executeBlock true) := rfl
  exact Or.inl ((AwesomeDispatcher.holds_step taken holds).resolve_right nofun)

/-- The new block is held. -/
theorem holds_executeBlock (dispatcher : AwesomeDispatcher) :
    (dispatcher.executeBlock true).Holds dispatcher.blocks.size := by
  unfold AwesomeDispatcher.executeBlock
  split <;> exact ⟨_, Table.get?_push_self .., nofun⟩

/-- A new task spares the other calls. -/
theorem spares_createTask (session : Session) (call : Call) (key : String) (previous : Bool) :
    session.Spares
      { session with managers.requester := session.managers.requester.createTask key previous }
      call := by
  refine ⟨fun _ => Or.inl, fun task state has => ?_⟩
  have taken : session.managers.requester.step (.create key previous) =
      some (session.managers.requester.createTask key previous) := rfl
  have kept := AwesomeRequestManager.hasTask_step taken has
  exact Or.inl (kept.resolve_right (not_or.mpr ⟨nofun, nofun⟩))

/-- A new task takes the next name. -/
theorem nextTask_createTask (session : Session) (key : String) (previous : Bool) :
    session.nextTask < ({ session with
      managers.requester := session.managers.requester.createTask key previous }).nextTask := by
  unfold nextTask AwesomeRequestManager.createTask
  dsimp only
  rw [Table.size_push]
  exact Nat.lt_succ_self _

/-- A call that is done with its block and its task gains nothing. -/
theorem gains_none (none : after.block? = none) (tasks : after.tasks = before.tasks)
    (size : session.nextTask ≤ source.nextTask) : session.Gains source before after := by
  refine ⟨fun block new => ?_, Or.inl tasks, size⟩
  rw [none] at new
  cases new

/-- A call that performs an attempt owns its block or its task. -/
theorem Owned.performed {begun : Call} (owned : session.Owned) {retries : Int}
    (present : session.calls.get? name = some before) (tasks : begun.tasks = before.tasks)
    (performed : session.Performs begun retries source changed) :
    (source.setCall name changed).Owned := by
  cases performed with
  | ended absent =>
      apply owned.move present
      · rfl
      · exact .refl session before
      · exact gains_none rfl tasks (Nat.le_refl _)
      · trivial
  | gated requested =>
      apply owned.move present
      · rfl
      · exact spares_executeBlock session before
      · refine ⟨fun block new => ?_, Or.inl tasks, Nat.le_refl _⟩
        cases new
        exact Or.inr rfl
      · exact ⟨requested, holds_executeBlock session.dispatcher⟩
  | sent urlRequest =>
      apply owned.move present
      · rfl
      · exact spares_createTask session before _ _
      · refine ⟨nofun, Or.inr ⟨?_, nextTask_createTask session _ _⟩,
          Nat.le_of_lt (nextTask_createTask session _ _)⟩
        unfold Call.send
        rw [tasks]
      · exact ⟨List.mem_append_right _ (List.mem_singleton_self _),
          AwesomeRequestManager.hasTask_createTask ..⟩

/-- A step of the dispatcher spares the calls whose block it does not run. -/
theorem spares_dispatcher {dispatcher : AwesomeDispatcher} {label : AwesomeDispatcher.Label}
    (taken : session.dispatcher.step label = some dispatcher)
    (own : ∀ block, label = .run block → block ∈ call.block?) :
    session.Spares { session with dispatcher := dispatcher } call := by
  refine ⟨fun block holds => ?_, fun _ _ => Or.inl⟩
  rcases AwesomeDispatcher.holds_step taken holds with kept | run
  · exact Or.inl kept
  · exact Or.inr (own block run)

/-- A step of the registry spares the calls whose tasks it does not end. -/
theorem spares_requester {requester : AwesomeRequestManager String}
    {label : AwesomeRequestManager.Label String}
    (taken : session.managers.requester.step label = some requester)
    (own : ∀ task, label = .finish task ∨ label = .remove task → task ∈ call.tasks) :
    session.Spares { session with managers.requester := requester } call := by
  refine ⟨fun _ => Or.inl, fun task state has => ?_⟩
  rcases AwesomeRequestManager.hasTask_step taken has with kept | ended
  · exact Or.inl kept
  · exact Or.inr (own task ended)

theorem Spares.trans {middle : Session} (first : session.Spares middle call)
    (second : middle.Spares target call) : session.Spares target call := by
  refine ⟨fun block holds => ?_, fun task state has => ?_⟩
  · rcases first.1 block holds with kept | own
    · exact second.1 block kept
    · exact Or.inr own
  · rcases first.2 task state has with kept | own
    · exact second.2 task state kept
    · exact Or.inr own

/-- The moves of the registries that are not moves of a call complete and remove no task. -/
theorem hasTask_managers {managers : RequestManagers String}
    {label : RequestManagers.Label String} (allowed : manages label = true)
    (taken : session.managers.step label = some managers) {task : Nat} {state : TaskState}
    (has : session.managers.requester.HasTask task state) :
    managers.requester.HasTask task state := by
  cases RequestManagers.stepCases taken with
  | requester label moved =>
      refine (AwesomeRequestManager.hasTask_step moved has).resolve_right ?_
      rintro (rfl | rfl) <;> cases allowed
  | upload label moved same => exact same ▸ has
  | cancelAllRequests moved =>
      exact (AwesomeRequestManager.hasTask_step moved has).resolve_right (not_or.mpr ⟨nofun, nofun⟩)
  | cancelUploads cancel call present finished moved same => exact same ▸ has
  | cancelReturn cancel call present finished same same' => exact same' ▸ has

/-- The names of the tasks only grow. -/
theorem nextTask_step (taken : step session label = some next) :
    session.nextTask ≤ next.nextTask := by
  rcases step_requester taken with same | ⟨moved, changed⟩
  · exact Nat.le_of_eq (congrArg (·.tasks.size) same.symm)
  · exact AwesomeRequestManager.size_le_step changed

/-- A session without calls owns what it needs. -/
theorem owned_started (shared : Shared) (realm : Realm) : (started shared realm).Owned where
  provides := .empty
  blocks := fun _ _ _ _ _ present => nomatch present
  tasks := fun _ _ _ _ _ present => nomatch present
  known := .empty

/-- The call ends, or waits to be taken up again, with no change outside of it. -/
theorem Owned.quiet (owned : session.Owned) (present : session.calls.get? name = some before)
    (none : changed.block? = none) (tasks : changed.tasks = before.tasks)
    (provides : session.Provides changed) : (session.setCall name changed).Owned :=
  owned.move present rfl (.refl session before) (gains_none none tasks (Nat.le_refl _)) provides

/-- A call that decides owns what it then needs. -/
theorem Owned.decided (owned : session.Owned) (present : session.calls.get? name = some call) :
    ((session.decide call).setCall name
      (call.decide session.shared session.nextBlock session.nextTask)).Owned := by
  unfold decide Call.decide
  split
  · cases session.shared.requester with
    | none => exact owned.quiet present rfl rfl trivial
    | some requester =>
        have tasks : (call.record .fetchStarted).tasks = call.tasks := rfl
        exact owned.performed present tasks
          (performs session (call.record .fetchStarted) call.request.retryCount requester)
  · split
    · exact owned.quiet present rfl rfl trivial
    · exact owned.quiet present rfl rfl trivial

/-- **Ownership.** Every step keeps what each call holds, and for each call alone. -/
theorem owned_step (owned : session.Owned) (taken : step session label = some next) :
    next.Owned := by
  have size := nextTask_step taken
  cases stepCases taken with
  | requestData request =>
      refine ⟨?_, ?_, ?_, ?_⟩
      · exact Table.All.push owned.provides trivial
      · intro name other call rival block found found' own own'
        rcases Table.get?_push_cases found with old | ⟨_, rfl⟩
        · rcases Table.get?_push_cases found' with old' | ⟨_, rfl⟩
          · exact owned.blocks name other call rival block old old' own own'
          · cases own'
        · cases own
      · intro name other call rival task found found' own own'
        rcases Table.get?_push_cases found with old | ⟨_, rfl⟩
        · rcases Table.get?_push_cases found' with old' | ⟨_, rfl⟩
          · exact owned.tasks name other call rival task old old' own own'
          · cases own'
        · cases own
      · exact Table.All.push owned.known nofun
  | decide name call present deciding => exact owned.decided present
  | dispatcher label dispatcher allowed moved =>
      refine owned.keep rfl (fun block holds => ?_) (fun _ _ => id) size
      refine (AwesomeDispatcher.holds_step moved holds).resolve_right ?_
      rintro rfl
      cases allowed
  | runBlock name call retries block urlRequest dispatcher present gated requested moved =>
      have own (other : Nat) (run : AwesomeDispatcher.Label.run block = .run other) :
          other ∈ call.block? := by
        cases run
        unfold Call.block?
        rw [gated]
        rfl
      apply owned.move present
      · rfl
      · exact (spares_dispatcher moved own).trans (spares_createTask _ call _ _)
      · refine ⟨nofun, Or.inr ⟨rfl, nextTask_createTask session _ _⟩, size⟩
      · exact ⟨List.mem_append_right _ (List.mem_singleton_self _),
          AwesomeRequestManager.hasTask_createTask ..⟩
  | managers label managers allowed moved =>
      exact owned.keep rfl (fun _ => id) (fun task state => hasTask_managers allowed moved) size
  | finish name response call retries task data requester present inFlight found honest moved =>
      have provided : session.Provides call := owned.provides name call present
      unfold Provides at provided
      rw [inFlight] at provided
      apply owned.move present
      · rfl
      · apply spares_requester moved
        rintro other (same | same) <;> cases same
        exact provided.1
      · exact gains_none rfl rfl size
      · exact ⟨provided.1, AwesomeRequestManager.hasTask_finish moved⟩
  | remove name call retries task outcome requester present answered moved =>
      have provided : session.Provides call := owned.provides name call present
      unfold Provides at provided
      rw [answered] at provided
      apply owned.move present
      · rfl
      · apply spares_requester moved
        rintro other (same | same) <;> cases same
        exact provided.1
      · exact gains_none rfl rfl size
      · trivial
  | respond name call retries outcome present removed =>
      have quiet : (call.respond session.shared retries outcome).block? = none ∧
          (call.respond session.shared retries outcome).tasks = call.tasks ∧
          ∀ source : Session, source.Provides (call.respond session.shared retries outcome) := by
        unfold Call.respond
        split
        · exact ⟨rfl, rfl, fun _ => trivial⟩
        · split <;> exact ⟨rfl, rfl, fun _ => trivial⟩
      have same : (session.respond call retries outcome).dispatcher = session.dispatcher ∧
          (session.respond call retries outcome).managers = session.managers := by
        unfold respond
        split <;> exact ⟨rfl, rfl⟩
      apply owned.move present
      · exact calls_respond ..
      · exact ⟨fun block holds => Or.inl (same.1 ▸ holds), fun task state has =>
          Or.inl (same.2 ▸ has)⟩
      · exact gains_none quiet.1 quiet.2.1 size
      · exact quiet.2.2 _
  | retry name call retries requester present waiting installed =>
      exact owned.performed present rfl (performs session call retries requester)
  | setDefaultCacheRule rule => exact owned.keep rfl (fun _ => id) (fun _ _ => id) size
  | clearCache => exact owned.keep rfl (fun _ => id) (fun _ _ => id) size

/-- In every run the calls own what they need. -/
theorem owned_run (run : Transition.Run step source labels target) (owned : source.Owned) :
    target.Owned :=
  run.preserves (fun _ _ _ => owned_step) owned

section Attempts

/-- An attempt within the retries keeps the call within them. -/
theorem withinRetries_perform {retries : Int} (requester : AwesomeRequester) (block task : Nat)
    (attempts : call.tasks.length + (retries.toNat + 1) ≤ call.request.retryCount.toNat + 1)
    (replies : call.responses.length = call.tasks.length) :
    (call.perform requester retries block task).WithinRetries := by
  unfold Call.perform
  split
  · refine ⟨?_, replies⟩
    change call.tasks.length + 0 ≤ call.request.retryCount.toNat + 1
    omega
  · split
    · exact ⟨attempts, replies⟩
    · refine ⟨?_, ?_⟩
      · change (call.tasks ++ [task]).length + retries.toNat ≤ call.request.retryCount.toNat + 1
        rw [List.length_append, List.length_singleton]
        omega
      · change call.responses.length + 1 = (call.tasks ++ [task]).length
        rw [List.length_append, List.length_singleton, replies]

/-- A move makes no attempt that the retries do not allow. -/
theorem withinRetries_moves (moves : Moves session label name before after)
    (within : before.WithinRetries) : after.WithinRetries := by
  obtain ⟨attempts, replies⟩ := within
  unfold Call.attemptsLeft at attempts
  cases moves with
  | stay => exact ⟨attempts, replies⟩
  | decide own deciding =>
      rw [deciding] at attempts replies
      have ended (events : List Event) :
          { before with trace := events, phase := .ended }.WithinRetries := by
        refine ⟨?_, replies⟩
        change before.tasks.length + 0 ≤ before.request.retryCount.toNat + 1
        omega
      unfold Call.decide
      split
      · split
        · exact ended before.trace
        · apply withinRetries_perform
          · exact attempts
          · exact replies
      · split
        · exact ended _
        · exact ended before.trace
  | runBlock retries block own gated =>
      rw [gated] at attempts replies
      refine ⟨?_, ?_⟩
      · change (before.tasks ++ [session.nextTask]).length + retries.toNat ≤ _
        rw [List.length_append, List.length_singleton]
        exact (Nat.add_right_comm ..).trans_le attempts
      · change before.responses.length + 1 = (before.tasks ++ [session.nextTask]).length
        rw [List.length_append, List.length_singleton]
        exact congrArg (· + 1) replies
  | finish retries task data response own inFlight =>
      rw [inFlight] at attempts replies
      refine ⟨attempts, ?_⟩
      change (before.responses ++ [response]).length = before.tasks.length
      rw [List.length_append, List.length_singleton]
      exact replies
  | remove retries task outcome own answered =>
      rw [answered] at attempts replies
      exact ⟨attempts, replies⟩
  | respond retries outcome own removed =>
      rw [removed] at attempts replies
      unfold Call.respond
      split
      · next again =>
          refine ⟨?_, replies⟩
          change before.tasks.length + ((retries - 1).toNat + 1) ≤ _
          have left := again.2
          have spent : (retries - 1).toNat + 1 = retries.toNat := by omega
          rw [spent]
          exact attempts
      · have ended : before.tasks.length + 0 ≤ before.request.retryCount.toNat + 1 := by omega
        split <;> exact ⟨ended, replies⟩
  | retry retries requester own waiting =>
      rw [waiting] at attempts replies
      exact withinRetries_perform requester _ _ attempts replies

theorem total_setCall (weight : Call → Nat) (changed : Call)
    (calls : source.calls = session.calls) (present : session.calls.get? name = some before) :
    (source.setCall name changed).calls.total weight + weight before =
      session.calls.total weight + weight changed := by
  rw [calls_setCall, calls]
  exact Table.total_modify weight (fun _ => changed) present

/-- Every task of the requester was created once, for one call. -/
def Tallied (session : Session) : Prop :=
  ∀ task, session.calls.total (·.tasks.count task) = (List.range session.nextTask).count task

/-- A call takes no task, or the one that is created for it. -/
theorem Tallied.move (tallied : session.Tallied) (calls : source.calls = session.calls)
    (present : session.calls.get? name = some before)
    (created : (changed.tasks = before.tasks ∧ source.nextTask = session.nextTask) ∨
      (changed.tasks = before.tasks ++ [session.nextTask] ∧
        source.nextTask = session.nextTask + 1)) :
    (source.setCall name changed).Tallied := by
  intro task
  have moved := total_setCall (·.tasks.count task) changed calls present
  have before := tallied task
  have same : (source.setCall name changed).nextTask = source.nextTask := rfl
  rw [same]
  rcases created with ⟨tasks, size⟩ | ⟨tasks, size⟩
  · rw [tasks] at moved
    rw [size]
    omega
  · rw [tasks, List.count_append] at moved
    rw [size, List.range_succ, List.count_append]
    omega

/-- The attempt of a call is tallied with its task. -/
theorem Tallied.performed {begun : Call} {retries : Int} (tallied : session.Tallied)
    (present : session.calls.get? name = some before) (tasks : begun.tasks = before.tasks)
    (performed : session.Performs begun retries source changed) :
    (source.setCall name changed).Tallied := by
  cases performed with
  | ended absent => exact tallied.move rfl present (Or.inl ⟨tasks, rfl⟩)
  | gated requested => exact tallied.move rfl present (Or.inl ⟨tasks, rfl⟩)
  | sent urlRequest =>
      refine tallied.move rfl present (Or.inr ⟨?_, Table.size_push ..⟩)
      exact congrArg (· ++ [session.nextTask]) tasks

/-- The tasks of the calls together are those of the requester, each once. -/
theorem Tallied.perm (tallied : session.Tallied) :
    (session.calls.records.flatMap (·.tasks)).Perm (List.range session.nextTask) := by
  rw [List.perm_iff_count]
  intro task
  rw [List.count_flatMap]
  exact tallied task

/-- Each task is an attempt of a call. -/
theorem Tallied.exists_call (tallied : session.Tallied) {task : Nat}
    (created : task < session.nextTask) :
    ∃ name call, session.calls.get? name = some call ∧ task ∈ call.tasks := by
  obtain ⟨call, member, own⟩ :=
    List.mem_flatMap.mp (tallied.perm.mem_iff.mpr (List.mem_range.mpr created))
  obtain ⟨name, present⟩ := List.mem_iff_getElem?.mp member
  exact ⟨name, call, present, own⟩

/-- No call has a task twice. -/
theorem Tallied.nodup (tallied : session.Tallied)
    (present : session.calls.get? name = some call) : call.tasks.Nodup := by
  have whole : (session.calls.records.flatMap (·.tasks)).Nodup :=
    tallied.perm.nodup_iff.mpr List.nodup_range
  exact (List.nodup_flatMap.mp whole).1 call (List.mem_of_getElem? present)

/-- There are as many tasks as attempts. -/
theorem Tallied.size_eq (tallied : session.Tallied) :
    session.calls.total (·.tasks.length) = session.nextTask := by
  have lengths := tallied.perm.length_eq
  rw [List.length_flatMap, List.length_range] at lengths
  exact lengths

theorem size_eq_of_uncreated {manager next : AwesomeRequestManager String}
    {label : AwesomeRequestManager.Label String} (taken : manager.step label = some next)
    (uncreated : ∀ key previous, label ≠ .create key previous) :
    next.tasks.size = manager.tasks.size := by
  rcases AwesomeRequestManager.step_size taken with same | ⟨key, previous, created, _⟩
  · exact same
  · exact (uncreated key previous created).elim

/-- Every step keeps the tasks tallied. -/
theorem tallied_step (tallied : session.Tallied) (taken : step session label = some next) :
    next.Tallied := by
  cases stepCases taken with
  | requestData request =>
      intro task
      exact (Table.total_push ..).trans (tallied task)
  | decide name call present deciding =>
      unfold decide Call.decide
      split
      · cases session.shared.requester with
        | none => exact tallied.move rfl present (Or.inl ⟨rfl, rfl⟩)
        | some requester =>
            have tasks : (call.record .fetchStarted).tasks = call.tasks := rfl
            exact tallied.performed present tasks
              (performs session (call.record .fetchStarted) call.request.retryCount requester)
      · split
        · exact tallied.move rfl present (Or.inl ⟨rfl, rfl⟩)
        · exact tallied.move rfl present (Or.inl ⟨rfl, rfl⟩)
  | dispatcher label dispatcher allowed moved => exact tallied
  | runBlock name call retries block urlRequest dispatcher present gated requested moved =>
      exact tallied.move rfl present (Or.inr ⟨rfl, Table.size_push ..⟩)
  | managers label managers allowed moved =>
      have size : managers.requester.tasks.size = session.managers.requester.tasks.size := by
        cases RequestManagers.stepCases moved with
        | requester label stepped =>
            refine size_eq_of_uncreated stepped ?_
            rintro key previous rfl
            cases allowed
        | upload label stepped same => exact congrArg (·.tasks.size) same
        | cancelAllRequests stepped => exact size_eq_of_uncreated stepped nofun
        | cancelUploads cancel call present finished stepped same =>
            exact congrArg (·.tasks.size) same
        | cancelReturn cancel call present finished same same' =>
            exact congrArg (·.tasks.size) same'
      intro task
      exact (tallied task).trans (congrArg (fun size => (List.range size).count task) size.symm)
  | finish name response call retries task data requester present inFlight found honest moved =>
      exact tallied.move rfl present (Or.inl ⟨rfl, size_eq_of_uncreated moved nofun⟩)
  | remove name call retries task outcome requester present answered moved =>
      exact tallied.move rfl present (Or.inl ⟨rfl, size_eq_of_uncreated moved nofun⟩)
  | respond name call retries outcome present removed =>
      apply tallied.move (calls_respond ..) present
      unfold Call.respond respond
      split
      · exact Or.inl ⟨rfl, rfl⟩
      · split <;> exact Or.inl ⟨rfl, rfl⟩
  | retry name call retries requester present waiting installed =>
      exact tallied.performed present rfl (performs session call retries requester)
  | setDefaultCacheRule rule => exact tallied
  | clearCache => exact tallied

/-- The calls of the session keep to their retries. -/
def Modest (session : Session) : Prop := session.calls.All fun _ call => call.WithinRetries

/-- Every step keeps the calls within their retries. -/
theorem modest_step (modest : session.Modest) (taken : step session label = some next) :
    next.Modest := by
  intro name after present
  rcases step_call_inv taken present with ⟨before, found, moves⟩ | ⟨request, _, _, rfl⟩
  · exact withinRetries_moves moves (modest name before found)
  · exact ⟨Nat.le_of_eq (Nat.zero_add _), rfl⟩

/-- **Attempts.** In every run the tasks of the requester are the attempts of the calls: each
task is that of exactly one call, which has it once and has no others. A call makes at most one
attempt more than it has retries, with a reply to each but the one in flight. -/
theorem attempts_within_retries (shared : Shared) (realm : Realm)
    (run : Transition.Run step (started shared realm) labels session) :
    (∀ name call, session.calls.get? name = some call → call.WithinRetries) ∧
      (∀ task < session.managers.requester.tasks.size,
        ∃! name, ∃ call, session.calls.get? name = some call ∧ task ∈ call.tasks) ∧
      (∀ name call, session.calls.get? name = some call → call.tasks.Nodup ∧
        ∀ task ∈ call.tasks, task < session.managers.requester.tasks.size) ∧
      (∀ name other call rival task, session.calls.get? name = some call →
        session.calls.get? other = some rival → task ∈ call.tasks → task ∈ rival.tasks →
        name = other) ∧
      session.calls.total (·.tasks.length) = session.managers.requester.tasks.size ∧
      session.managers.requester.tasks.size ≤
        session.calls.total fun call => call.request.retryCount.toNat + 1 := by
  have owned := owned_run run (owned_started shared realm)
  have modest : session.Modest := run.preserves (fun _ _ _ => modest_step) .empty
  have tallied : session.Tallied :=
    run.preserves (fun _ _ _ => tallied_step) fun _ => rfl
  refine ⟨modest, fun task created => ?_, fun name call present =>
    ⟨tallied.nodup present, owned.known name call present⟩, owned.tasks, tallied.size_eq,
    tallied.size_eq.symm.trans_le (Table.total_le_total ?_)⟩
  · obtain ⟨name, call, present, own⟩ := tallied.exists_call created
    refine ⟨name, ⟨call, present, own⟩, ?_⟩
    rintro other ⟨rival, found, shared⟩
    exact owned.tasks other name rival call task found present shared own
  · intro name call present
    exact (Nat.le_add_right ..).trans (modest name call present).attempts

/-- Two calls with one retry each have created two tasks, the second one for one of them. -/
theorem attempts_within_retries_superseded :
    (superseded 1).managers.requester.tasks.size = 2 ∧
      (∃! name, ∃ call, (superseded 1).calls.get? name = some call ∧ 1 ∈ call.tasks) ∧
      (superseded 1).managers.requester.tasks.size ≤
        (superseded 1).calls.total fun call => call.request.retryCount.toNat + 1 := by
  have run : Transition.Run step (started pickyWorld.shared Realm.empty) (twoCalls 1)
      (superseded 1) := Transition.run_iff_execute.mpr rfl
  obtain ⟨_, attempts, _, _, _, bounded⟩ := attempts_within_retries _ _ run
  exact ⟨by decide, attempts 1 (by decide), bounded⟩

end Attempts

end Session

end AwesomeNetwork
