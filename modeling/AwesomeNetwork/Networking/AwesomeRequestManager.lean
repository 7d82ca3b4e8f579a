import AwesomeNetwork.Foundation
import AwesomeNetwork.Library.Table
import AwesomeNetwork.Library.Transition

/-! # The registry of running tasks

A step is one access to `requestQueue` or one move of a `URLSession` task. The
threads that start tasks, the completion handlers and the cancelling calls take
their steps in any order.
-/

namespace AwesomeNetwork

/-- How far the start of a task has come. A `created` task still has to cancel the
previous one of its key, a `ready` one to be registered, an `added` one to be
resumed. -/
inductive StartProgress where
  | created
  | ready
  | added
  | resumed
deriving DecidableEq, Repr

/-- A task runs, then completes, then its completion handler removes its key. -/
inductive TaskState where
  | running
  | completed
  | removed
deriving DecidableEq, Repr

/-- A data task with how far its start has come. -/
structure URLSessionTask (Key : Type) where
  key : Key
  start : StartProgress
  cancelled : Bool
  state : TaskState
deriving DecidableEq, Repr

namespace URLSessionTask

variable {Key : Type}

/-- `cancel()`, which does nothing to a task that has completed. -/
def cancel (task : URLSessionTask Key) : URLSessionTask Key :=
  if task.state = .running then { task with cancelled := true } else task

/-- The task, its start having come so far. -/
def withStart (start : StartProgress) (task : URLSessionTask Key) : URLSessionTask Key :=
  { task with start := start }

/-- The task in another state. -/
def withState (state : TaskState) (task : URLSessionTask Key) : URLSessionTask Key :=
  { task with state := state }

/-- The task runs and was not cancelled. -/
def Pending (task : URLSessionTask Key) : Prop := task.state = .running ∧ task.cancelled = false

/-- Pending, and past its registration. -/
def Live (task : URLSessionTask Key) : Prop :=
  (task.start = .added ∨ task.start = .resumed) ∧ task.Pending

instance (task : URLSessionTask Key) : Decidable task.Pending := inferInstanceAs (Decidable (_ ∧ _))

instance (task : URLSessionTask Key) : Decidable task.Live := inferInstanceAs (Decidable (_ ∧ _))

/-- A task that was cancelled is not pending. -/
theorem not_pending_cancel (task : URLSessionTask Key) : ¬ task.cancel.Pending := by
  intro pending
  unfold cancel at pending
  split at pending
  · exact Bool.noConfusion pending.2
  · next ended => exact ended pending.1

end URLSessionTask

/-- A call of `cancelRequest` or `cancelAllRequests` that is under way. -/
inductive Cancellation (Key : Type) where
  | removing (key : Key)
  | cancelling (tasks : List Nat)
  | finished
deriving DecidableEq, Repr

/-- The registry, with the tasks of its session and the cancelling calls. -/
structure AwesomeRequestManager (Key : Type) where
  requestQueue : Dictionary Key Nat
  tasks : Table (URLSessionTask Key)
  cancellations : Table (Cancellation Key)

namespace AwesomeRequestManager

/-- An access to the registry, or a move of a task. -/
inductive Label (Key : Type) where
  | create (key : Key) (cancelPrevious : Bool)
  | cancelPrevious (name : Nat)
  | register (name : Nat)
  | resume (name : Nat)
  | finish (name : Nat)
  | remove (name : Nat)
  | cancelRequest (key : Key)
  | removeCancelled (call : Nat)
  | cancelAll
  | cancelNext (call : Nat)
  | removeAll (call : Nat)
deriving DecidableEq, Repr

variable {Key : Type}

/-- No task was ever created. -/
def initial : AwesomeRequestManager Key := ⟨∅, .empty, .empty⟩

/-- One task changes. -/
def modifyTask (manager : AwesomeRequestManager Key) (name : Nat)
    (change : URLSessionTask Key → URLSessionTask Key) : AwesomeRequestManager Key :=
  { manager with tasks := manager.tasks.modify name change }

/-- `session.dataTask(with:)` or `uploadTask(with:from:)`: a suspended task under the
next name. -/
def createTask (manager : AwesomeRequestManager Key) (key : Key) (cancelPrevious : Bool) :
    AwesomeRequestManager Key :=
  let start := if cancelPrevious then .created else .ready
  { manager with tasks := manager.tasks.push ⟨key, start, false, .running⟩ }

/-- The tasks that are registered. -/
def values (manager : AwesomeRequestManager Key) : List Nat :=
  manager.requestQueue.entries.map Sigma.snd

/-- `requestQueue.removeAll()`. -/
def removeAll (manager : AwesomeRequestManager Key) : AwesomeRequestManager Key :=
  { manager with requestQueue := ∅ }

/-- A cancelling call begins. -/
def addCancellation (manager : AwesomeRequestManager Key) (cancellation : Cancellation Key) :
    AwesomeRequestManager Key :=
  { manager with cancellations := manager.cancellations.push cancellation }

/-- A cancelling call goes on. -/
def setCancellation (manager : AwesomeRequestManager Key) (call : Nat)
    (cancellation : Cancellation Key) : AwesomeRequestManager Key :=
  { manager with cancellations := manager.cancellations.modify call fun _ => cancellation }

@[simp] theorem get?_modifyTask (manager : AwesomeRequestManager Key) (name other : Nat)
    (change : URLSessionTask Key → URLSessionTask Key) :
    (manager.modifyTask name change).tasks.get? other =
      if other = name then (manager.tasks.get? other).map change else manager.tasks.get? other :=
  Table.get?_modify ..

@[simp] theorem size_modifyTask (manager : AwesomeRequestManager Key) (name : Nat)
    (change : URLSessionTask Key → URLSessionTask Key) :
    (manager.modifyTask name change).tasks.size = manager.tasks.size :=
  Table.size_modify ..

@[simp] theorem requestQueue_modifyTask (manager : AwesomeRequestManager Key) (name : Nat)
    (change : URLSessionTask Key → URLSessionTask Key) :
    (manager.modifyTask name change).requestQueue = manager.requestQueue := rfl

@[simp] theorem cancellations_modifyTask (manager : AwesomeRequestManager Key) (name : Nat)
    (change : URLSessionTask Key → URLSessionTask Key) :
    (manager.modifyTask name change).cancellations = manager.cancellations := rfl

@[simp] theorem tasks_setCancellation (manager : AwesomeRequestManager Key) (call : Nat)
    (cancellation : Cancellation Key) :
    (manager.setCancellation call cancellation).tasks = manager.tasks := rfl

@[simp] theorem requestQueue_setCancellation (manager : AwesomeRequestManager Key) (call : Nat)
    (cancellation : Cancellation Key) :
    (manager.setCancellation call cancellation).requestQueue = manager.requestQueue := rfl

@[simp] theorem requestQueue_addCancellation (manager : AwesomeRequestManager Key)
    (cancellation : Cancellation Key) :
    (manager.addCancellation cancellation).requestQueue = manager.requestQueue := rfl

variable [DecidableEq Key]

/-- `requestQueue[key]??.cancel()`. -/
def cancelEntry (manager : AwesomeRequestManager Key) (key : Key) : AwesomeRequestManager Key :=
  match manager.requestQueue.lookup key with
  | some name => manager.modifyTask name .cancel
  | none => manager

/-- `requestQueue[key] = task`. -/
def setEntry (manager : AwesomeRequestManager Key) (key : Key) (name : Nat) :
    AwesomeRequestManager Key :=
  { manager with requestQueue := manager.requestQueue.insert key name }

/-- `requestQueue[key] = nil`. -/
def removeEntry (manager : AwesomeRequestManager Key) (key : Key) : AwesomeRequestManager Key :=
  { manager with requestQueue := manager.requestQueue.erase key }

/-- The first part of `addRequest`, when `cancelPrevious` is set. -/
def cancelPreviousRequest (manager : AwesomeRequestManager Key) (name : Nat)
    (task : URLSessionTask Key) : AwesomeRequestManager Key :=
  (manager.cancelEntry task.key).modifyTask name (.withStart .ready)

/-- The second part of `addRequest`. -/
def addRequest (manager : AwesomeRequestManager Key) (name : Nat) (task : URLSessionTask Key) :
    AwesomeRequestManager Key :=
  (manager.setEntry task.key name).modifyTask name (.withStart .added)

/-- `removeRequest`, as the completion handler of a task calls it. -/
def removeRequest (manager : AwesomeRequestManager Key) (name : Nat) (task : URLSessionTask Key) :
    AwesomeRequestManager Key :=
  (manager.removeEntry task.key).modifyTask name (.withState .removed)

/-- One step of the registry; the labels name the thread or the call that makes it. -/
def step (manager : AwesomeRequestManager Key) : Label Key → Option (AwesomeRequestManager Key)
  | .create key cancelPrevious => some (manager.createTask key cancelPrevious)
  | .cancelPrevious name =>
      manager.tasks.when name (·.start = .created) (manager.cancelPreviousRequest name)
  | .register name => manager.tasks.when name (·.start = .ready) (manager.addRequest name)
  | .resume name =>
      manager.tasks.when name (·.start = .added) fun _ =>
        manager.modifyTask name (.withStart .resumed)
  | .finish name =>
      manager.tasks.when name
        -- a cancelled task completes even if it was never resumed
        (fun task => task.state = .running ∧ (task.start = .resumed ∨ task.cancelled = true))
        fun _ => manager.modifyTask name (.withState .completed)
  | .remove name => manager.tasks.when name (·.state = .completed) (manager.removeRequest name)
  | .cancelRequest key => some ((manager.cancelEntry key).addCancellation (.removing key))
  | .removeCancelled call =>
      match manager.cancellations.get? call with
      | some (.removing key) => some ((manager.removeEntry key).setCancellation call .finished)
      | _ => none
  -- the loop runs over the values as they are when it begins
  | .cancelAll => some (manager.addCancellation (.cancelling manager.values))
  | .cancelNext call =>
      match manager.cancellations.get? call with
      | some (.cancelling (name :: names)) =>
          some ((manager.modifyTask name .cancel).setCancellation call (.cancelling names))
      | _ => none
  | .removeAll call =>
      match manager.cancellations.get? call with
      | some (.cancelling []) => some (manager.removeAll.setCancellation call .finished)
      | _ => none

@[simp] theorem tasks_setEntry (manager : AwesomeRequestManager Key) (key : Key) (name : Nat) :
    (manager.setEntry key name).tasks = manager.tasks := rfl

@[simp] theorem tasks_removeEntry (manager : AwesomeRequestManager Key) (key : Key) :
    (manager.removeEntry key).tasks = manager.tasks := rfl

/-- `cancelEntry` cancels the registered task of the key and no other. -/
@[simp] theorem get?_cancelEntry (manager : AwesomeRequestManager Key) (key : Key) (name : Nat) :
    (manager.cancelEntry key).tasks.get? name =
      if manager.requestQueue.lookup key = some name then
        (manager.tasks.get? name).map URLSessionTask.cancel
      else manager.tasks.get? name := by
  unfold cancelEntry
  cases manager.requestQueue.lookup key with
  | none => rfl
  | some registered =>
      by_cases same : name = registered
      · simp only [get?_modifyTask, same, ↓reduceIte]
      · simp only [get?_modifyTask, same, Ne.symm same, Option.some.injEq, ↓reduceIte]

@[simp] theorem size_cancelEntry (manager : AwesomeRequestManager Key) (key : Key) :
    (manager.cancelEntry key).tasks.size = manager.tasks.size := by
  unfold cancelEntry
  cases manager.requestQueue.lookup key with
  | none => rfl
  | some registered => exact size_modifyTask ..

@[simp] theorem requestQueue_cancelEntry (manager : AwesomeRequestManager Key) (key : Key) :
    (manager.cancelEntry key).requestQueue = manager.requestQueue := by
  unfold cancelEntry
  cases manager.requestQueue.lookup key <;> rfl

@[simp] theorem cancellations_cancelEntry (manager : AwesomeRequestManager Key) (key : Key) :
    (manager.cancelEntry key).cancellations = manager.cancellations := by
  unfold cancelEntry
  cases manager.requestQueue.lookup key <;> rfl

variable {manager next : AwesomeRequestManager Key} {call : Nat}

/-- A call of `cancelRequest` ends with the removal of its entry. -/
theorem step_removeCancelled (taken : step manager (.removeCancelled call) = some next) :
    ∃ key, manager.cancellations.get? call = some (.removing key) ∧
      next = (manager.removeEntry key).setCancellation call .finished := by
  unfold step at taken
  dsimp only at taken
  split at taken
  · next key present => exact ⟨key, present, (Option.some.inj taken).symm⟩
  · cases taken

/-- A call of `cancelAllRequests` cancels the next task that it has found. -/
theorem step_cancelNext (taken : step manager (.cancelNext call) = some next) :
    ∃ name names, manager.cancellations.get? call = some (.cancelling (name :: names)) ∧
      next = (manager.modifyTask name .cancel).setCancellation call (.cancelling names) := by
  unfold step at taken
  dsimp only at taken
  split at taken
  · next name names present => exact ⟨name, names, present, (Option.some.inj taken).symm⟩
  · cases taken

/-- A call of `cancelAllRequests` ends by emptying the registry. -/
theorem step_removeAll (taken : step manager (.removeAll call) = some next) :
    manager.cancellations.get? call = some (.cancelling []) ∧
      next = manager.removeAll.setCancellation call .finished := by
  unfold step at taken
  dsimp only at taken
  split at taken
  · next present => exact ⟨present, (Option.some.inj taken).symm⟩
  · cases taken

section Evolution

/-- How a label moves the start of a task. -/
inductive Label.Starts (label : Label Key) (name : Nat) : StartProgress → StartProgress → Prop
  | stay (start : StartProgress) : label.Starts name start start
  | cancelPrevious : label = .cancelPrevious name → label.Starts name .created .ready
  | register : label = .register name → label.Starts name .ready .added
  | resume : label = .resume name → label.Starts name .added .resumed

/-- What a step may do to a task: it keeps the key, moves the start on, and neither
takes back a completion nor a cancellation. -/
structure Label.Evolves (label : Label Key) (name : Nat) (before after : URLSessionTask Key) :
    Prop where
  key : after.key = before.key
  start : label.Starts name before.start after.start
  state : before.state ≠ .running → after.state ≠ .running
  cancelled : before.cancelled = true → after.cancelled = true

variable {label : Label Key} {name other : Nat} {task : URLSessionTask Key}

omit [DecidableEq Key] in
theorem Label.Evolves.refl (label : Label Key) (name : Nat) (task : URLSessionTask Key) :
    label.Evolves name task task :=
  ⟨rfl, .stay _, id, id⟩

omit [DecidableEq Key] in
/-- A task may be cancelled under any label. -/
theorem Label.Evolves.cancel (label : Label Key) (name : Nat) (task : URLSessionTask Key) :
    label.Evolves name task task.cancel := by
  unfold URLSessionTask.cancel
  split
  · exact ⟨rfl, .stay _, id, fun _ => rfl⟩
  · exact .refl label name task

omit [DecidableEq Key] in
/-- The start of a task may go on as the label says. -/
theorem Label.Evolves.withStart {before after : URLSessionTask Key} {start : StartProgress}
    (evolves : label.Evolves name before after) (starts : label.Starts name before.start start) :
    label.Evolves name before (after.withStart start) :=
  ⟨evolves.key, starts, evolves.state, evolves.cancelled⟩

omit [DecidableEq Key] in
/-- A step gets a task through its registration only by registering it. -/
theorem Label.Starts.registered {before after : StartProgress}
    (starts : label.Starts name before after) (ready : after = .added ∨ after = .resumed) :
    (before = .added ∨ before = .resumed) ∨ label = .register name := by
  cases starts with
  | stay => exact Or.inl ready
  | cancelPrevious taken => rcases ready with added | resumed <;> contradiction
  | register taken => exact Or.inr taken
  | resume taken => exact Or.inl (Or.inl rfl)

omit [DecidableEq Key] in
/-- A task that was registered has been registered. -/
theorem Label.Starts.stays_registered {before after : StartProgress}
    (starts : label.Starts name before after) (ready : before = .added ∨ before = .resumed) :
    after = .added ∨ after = .resumed := by
  cases starts with
  | stay => exact ready
  | cancelPrevious taken => rcases ready with added | resumed <;> contradiction
  | register taken => exact Or.inl rfl
  | resume taken => exact Or.inr rfl

omit [DecidableEq Key] in
/-- A task that was resumed has been resumed. -/
theorem Label.Starts.resumed {before after : StartProgress}
    (starts : label.Starts name before after) (done : before = .resumed) : after = .resumed := by
  cases starts with
  | stay => exact done
  | cancelPrevious => cases done
  | register => cases done
  | resume => rfl

omit [DecidableEq Key] in
/-- A new task leaves its first place only by cancelling the previous one. -/
theorem Label.Starts.created {before after : StartProgress}
    (starts : label.Starts name before after) (fresh : before = .created) :
    after = .created ∨ label = .cancelPrevious name := by
  cases starts with
  | stay => exact Or.inl fresh
  | cancelPrevious taken => exact Or.inr taken
  | register => cases fresh
  | resume => cases fresh

omit [DecidableEq Key] in
/-- A pending task was pending before. -/
theorem Label.Evolves.pending {before after : URLSessionTask Key}
    (evolves : label.Evolves name before after) (pending : after.Pending) : before.Pending := by
  refine ⟨?_, ?_⟩
  · by_contra ended
    exact evolves.state ended pending.1
  · cases cancelled : before.cancelled with
    | false => rfl
    | true => exact ((evolves.cancelled cancelled).symm.trans pending.2)

omit [DecidableEq Key] in
theorem get?_modifyTask_evolves (manager : AwesomeRequestManager Key)
    {change : URLSessionTask Key → URLSessionTask Key}
    (present : manager.tasks.get? name = some task)
    (evolves : name = other → label.Evolves name task (change task)) :
    ∃ after, (manager.modifyTask other change).tasks.get? name = some after ∧
      label.Evolves name task after := by
  rw [get?_modifyTask]
  by_cases same : name = other
  · simp only [same, ↓reduceIte]
    rw [← same, present]
    exact ⟨_, rfl, evolves same⟩
  · simp only [same, ↓reduceIte]
    exact ⟨task, present, .refl label name task⟩

theorem get?_cancelEntry_cases (key : Key) (present : manager.tasks.get? name = some task) :
    ∃ after, (manager.cancelEntry key).tasks.get? name = some after ∧
      (after = task ∨ after = task.cancel) := by
  rw [get?_cancelEntry, present]
  split
  · exact ⟨_, rfl, Or.inr rfl⟩
  · exact ⟨_, rfl, Or.inl rfl⟩

/-- A step evolves every task there is. -/
theorem step_task (taken : step manager label = some next)
    (present : manager.tasks.get? name = some task) :
    ∃ after, next.tasks.get? name = some after ∧ label.Evolves name task after := by
  have cancelled (key : Key) : ∃ after, (manager.cancelEntry key).tasks.get? name = some after ∧
      label.Evolves name task after := by
    obtain ⟨after, found, rfl | rfl⟩ := get?_cancelEntry_cases key present
    · exact ⟨after, found, .refl label name after⟩
    · exact ⟨_, found, .cancel label name task⟩
  cases label with
  | create key cancelPrevious =>
      cases taken
      exact ⟨task, Table.get?_push_of_get? _ present, .refl _ name task⟩
  | cancelPrevious other =>
      obtain ⟨started, found, created, rfl⟩ := Table.when_eq_some.mp taken
      obtain ⟨after, kept, evolves⟩ := cancelled started.key
      unfold cancelPreviousRequest
      rw [get?_modifyTask, kept]
      by_cases same : name = other
      · subst same
        cases Option.some.inj (found.symm.trans present)
        rw [if_pos rfl]
        refine ⟨_, rfl, evolves.withStart ?_⟩
        rw [created]
        exact .cancelPrevious rfl
      · rw [if_neg same]
        exact ⟨after, rfl, evolves⟩
  | register other =>
      obtain ⟨started, found, ready, rfl⟩ := Table.when_eq_some.mp taken
      apply get?_modifyTask_evolves (manager.setEntry started.key other) present
      rintro rfl
      cases Option.some.inj (found.symm.trans present)
      apply (Label.Evolves.refl _ name task).withStart
      rw [ready]
      exact .register rfl
  | resume other =>
      obtain ⟨started, found, added, rfl⟩ := Table.when_eq_some.mp taken
      apply get?_modifyTask_evolves manager present
      rintro rfl
      cases Option.some.inj (found.symm.trans present)
      apply (Label.Evolves.refl _ name task).withStart
      rw [added]
      exact .resume rfl
  | finish other =>
      obtain ⟨ended, found, _, rfl⟩ := Table.when_eq_some.mp taken
      apply get?_modifyTask_evolves manager present
      intro _
      exact ⟨rfl, .stay _, fun _ => (nomatch ·), id⟩
  | remove other =>
      obtain ⟨ended, found, _, rfl⟩ := Table.when_eq_some.mp taken
      apply get?_modifyTask_evolves (manager.removeEntry ended.key) present
      intro _
      exact ⟨rfl, .stay _, fun _ => (nomatch ·), id⟩
  | cancelRequest key =>
      cases taken
      exact cancelled key
  | removeCancelled call =>
      obtain ⟨key, _, rfl⟩ := step_removeCancelled taken
      exact ⟨task, present, .refl _ name task⟩
  | cancelAll =>
      cases taken
      exact ⟨task, present, .refl _ name task⟩
  | cancelNext call =>
      obtain ⟨other, names, _, rfl⟩ := step_cancelNext taken
      apply get?_modifyTask_evolves manager present
      intro _
      exact .cancel _ name task
  | removeAll call =>
      obtain ⟨_, rfl⟩ := step_removeAll taken
      exact ⟨task, present, .refl _ name task⟩

/-- A step creates no task, or the one of its label. -/
theorem step_size (taken : step manager label = some next) :
    next.tasks.size = manager.tasks.size ∨
      ∃ key cancelPrevious, label = .create key cancelPrevious ∧
        next.tasks = manager.tasks.push
          ⟨key, if cancelPrevious then .created else .ready, false, .running⟩ := by
  cases label with
  | create key cancelPrevious =>
      cases taken
      exact Or.inr ⟨key, cancelPrevious, rfl, rfl⟩
  | cancelPrevious other =>
      obtain ⟨started, _, _, rfl⟩ := Table.when_eq_some.mp taken
      simp only [cancelPreviousRequest, size_modifyTask, size_cancelEntry, true_or]
  | register other =>
      obtain ⟨started, _, _, rfl⟩ := Table.when_eq_some.mp taken
      simp only [addRequest, size_modifyTask, tasks_setEntry, true_or]
  | resume other =>
      obtain ⟨started, _, _, rfl⟩ := Table.when_eq_some.mp taken
      exact Or.inl (size_modifyTask ..)
  | finish other =>
      obtain ⟨ended, _, _, rfl⟩ := Table.when_eq_some.mp taken
      exact Or.inl (size_modifyTask ..)
  | remove other =>
      obtain ⟨ended, _, _, rfl⟩ := Table.when_eq_some.mp taken
      simp only [removeRequest, size_modifyTask, tasks_removeEntry, true_or]
  | cancelRequest key =>
      cases taken
      exact Or.inl (size_cancelEntry ..)
  | removeCancelled call =>
      obtain ⟨key, _, rfl⟩ := step_removeCancelled taken
      exact Or.inl rfl
  | cancelAll =>
      cases taken
      exact Or.inl rfl
  | cancelNext call =>
      obtain ⟨other, names, _, rfl⟩ := step_cancelNext taken
      exact Or.inl (size_modifyTask ..)
  | removeAll call =>
      obtain ⟨_, rfl⟩ := step_removeAll taken
      exact Or.inl rfl

/-- Every task after a step is an evolved one or the created one. -/
theorem step_task_inv {after : URLSessionTask Key} (taken : step manager label = some next)
    (present : next.tasks.get? name = some after) :
    (∃ task, manager.tasks.get? name = some task ∧ label.Evolves name task after) ∨
      ∃ key cancelPrevious, label = .create key cancelPrevious ∧ name = manager.tasks.size ∧
        after = ⟨key, if cancelPrevious then .created else .ready, false, .running⟩ := by
  cases found : manager.tasks.get? name with
  | some task =>
      obtain ⟨other, kept, evolves⟩ := step_task taken found
      cases Option.some.inj (kept.symm.trans present)
      exact Or.inl ⟨task, rfl, evolves⟩
  | none =>
      have beyond := Table.size_le_of_get?_none found
      have below := Table.lt_size_of_get? present
      rcases step_size taken with same | ⟨key, cancelPrevious, created, tasks⟩
      · omega
      · rw [tasks] at present
        rcases Table.get?_push_cases present with old | ⟨last, rfl⟩
        · rw [found] at old
          cases old
        · exact Or.inr ⟨key, cancelPrevious, created, last, rfl⟩

/-- How a label moves a cancelling call. -/
inductive Label.Proceeds (label : Label Key) (call : Nat) :
    Cancellation Key → Cancellation Key → Prop
  | stay (cancellation : Cancellation Key) : label.Proceeds call cancellation cancellation
  | removeCancelled (key : Key) :
      label = .removeCancelled call → label.Proceeds call (.removing key) .finished
  | cancelNext (name : Nat) (names : List Nat) : label = .cancelNext call →
      label.Proceeds call (.cancelling (name :: names)) (.cancelling names)
  | removeAll : label = .removeAll call → label.Proceeds call (.cancelling []) .finished

omit [DecidableEq Key] in
theorem get?_setCancellation_proceeds (manager : AwesomeRequestManager Key) {other : Nat}
    {cancellation changed : Cancellation Key}
    (present : manager.cancellations.get? call = some cancellation)
    (proceeds : call = other → label.Proceeds call cancellation changed) :
    ∃ after, (manager.setCancellation other changed).cancellations.get? call = some after ∧
      label.Proceeds call cancellation after := by
  unfold setCancellation
  dsimp only
  rw [Table.get?_modify]
  by_cases same : call = other
  · rw [if_pos same, present]
    exact ⟨changed, rfl, proceeds same⟩
  · rw [if_neg same]
    exact ⟨cancellation, present, .stay _⟩

/-- Every step lets each cancelling call proceed. -/
theorem step_cancellation {cancellation : Cancellation Key}
    (taken : step manager label = some next)
    (present : manager.cancellations.get? call = some cancellation) :
    ∃ after, next.cancellations.get? call = some after ∧
      label.Proceeds call cancellation after := by
  cases label with
  | create key cancelPrevious =>
      cases taken
      exact ⟨cancellation, present, .stay _⟩
  | cancelPrevious other =>
      obtain ⟨started, _, _, rfl⟩ := Table.when_eq_some.mp taken
      rw [cancelPreviousRequest, cancellations_modifyTask, cancellations_cancelEntry]
      exact ⟨cancellation, present, .stay _⟩
  | register other =>
      obtain ⟨started, _, _, rfl⟩ := Table.when_eq_some.mp taken
      exact ⟨cancellation, present, .stay _⟩
  | resume other =>
      obtain ⟨started, _, _, rfl⟩ := Table.when_eq_some.mp taken
      exact ⟨cancellation, present, .stay _⟩
  | finish other =>
      obtain ⟨ended, _, _, rfl⟩ := Table.when_eq_some.mp taken
      exact ⟨cancellation, present, .stay _⟩
  | remove other =>
      obtain ⟨ended, _, _, rfl⟩ := Table.when_eq_some.mp taken
      exact ⟨cancellation, present, .stay _⟩
  | cancelRequest key =>
      cases taken
      refine ⟨cancellation, ?_, .stay _⟩
      apply Table.get?_push_of_get?
      rw [cancellations_cancelEntry]
      exact present
  | removeCancelled other =>
      obtain ⟨key, found, rfl⟩ := step_removeCancelled taken
      apply get?_setCancellation_proceeds (manager.removeEntry key) present
      rintro rfl
      cases Option.some.inj (found.symm.trans present)
      exact .removeCancelled key rfl
  | cancelAll =>
      cases taken
      exact ⟨cancellation, Table.get?_push_of_get? _ present, .stay _⟩
  | cancelNext other =>
      obtain ⟨name, names, found, rfl⟩ := step_cancelNext taken
      apply get?_setCancellation_proceeds (manager.modifyTask name .cancel) present
      rintro rfl
      cases Option.some.inj (found.symm.trans present)
      exact .cancelNext name names rfl
  | removeAll other =>
      obtain ⟨found, rfl⟩ := step_removeAll taken
      apply get?_setCancellation_proceeds manager.removeAll present
      rintro rfl
      cases Option.some.inj (found.symm.trans present)
      exact .removeAll rfl

end Evolution

end AwesomeRequestManager

end AwesomeNetwork
