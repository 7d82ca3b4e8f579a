import AwesomeNetwork.Networking.CancelAllRequests

/-! # The registry holds no stale entry

The completion handler of a task removes the key of the task, whatever task is
registered under it by then. A task is registered before it can complete: only a
registered task is cancelled, and only a resumed or cancelled one completes. An entry
is therefore gone at the latest with the removal of its own task.
-/

namespace AwesomeNetwork

namespace URLSessionTask

variable {Key : Type}

/-- The task has been added to the registry. -/
def Added (task : URLSessionTask Key) : Prop := task.start = .added ∨ task.start = .resumed

/-- Cancelling a task does not complete it. -/
theorem state_cancel (task : URLSessionTask Key) : task.cancel.state = task.state := by
  unfold cancel
  split <;> rfl

end URLSessionTask

namespace AwesomeRequestManager

variable {Key : Type} [DecidableEq Key]

/-- Every entry is of a task that was added for its key and whose completion handler
has not yet removed it. -/
def NoStaleEntry (manager : AwesomeRequestManager Key) : Prop :=
  ∀ key name, manager.requestQueue.lookup key = some name →
    ∃ task, manager.tasks.get? name = some task ∧ task.key = key ∧ task.Added ∧
      task.state ≠ .removed

/-- Every task added to the registry has completed, its removal included. -/
def AllCompleted (manager : AwesomeRequestManager Key) : Prop :=
  manager.tasks.All fun _ task => task.Added → task.state = .removed

/-- The step cancels the task. -/
def Aims (manager : AwesomeRequestManager Key) (label : Label Key) (name : Nat) : Prop :=
  match label with
  | .cancelPrevious other => ∃ task, manager.tasks.get? other = some task ∧
      manager.requestQueue.lookup task.key = some name
  | .cancelRequest key => manager.requestQueue.lookup key = some name
  | .cancelNext call => ∃ names,
      manager.cancellations.get? call = some (.cancelling (name :: names))
  | _ => False

/-- What a step makes of a task. -/
inductive Moves (manager : AwesomeRequestManager Key) (label : Label Key) (name : Nat)
    (task : URLSessionTask Key) : URLSessionTask Key → Prop
  | stay : manager.Moves label name task task
  | start (start : StartProgress) :
      label.Starts name task.start start → manager.Moves label name task (task.withStart start)
  | cancel : manager.Aims label name → manager.Moves label name task task.cancel
  | cancelSelf :
      manager.Aims label name → manager.Moves label name task (task.cancel.withStart .ready)
  | finish : label = .finish name → task.state = .running →
      task.start = .resumed ∨ task.cancelled = true →
      manager.Moves label name task (task.withState .completed)
  | remove : label = .remove name → task.state = .completed →
      manager.Moves label name task (task.withState .removed)

/-- Every task that has not been added runs and has not been cancelled. -/
def FreshPending (manager : AwesomeRequestManager Key) : Prop :=
  manager.tasks.All fun _ task => ¬ task.Added → task.Pending

/-- The tasks that a cancelling call still has to cancel have been added. -/
def AimsAtAdded (manager : AwesomeRequestManager Key) : Prop :=
  manager.cancellations.All fun _ cancellation => ∀ names, cancellation = .cancelling names →
    manager.AllAdded (· ∈ names)

/-- The invariant of the registry: its entries, the new tasks and the calls that are
cancelling are as they should be. -/
structure Accounted (manager : AwesomeRequestManager Key) : Prop where
  noStaleEntry : manager.NoStaleEntry
  freshPending : manager.FreshPending
  aimsAtAdded : manager.AimsAtAdded

variable {manager next : AwesomeRequestManager Key} {label : Label Key} {name call : Nat}
  {task : URLSessionTask Key}

theorem get?_modifyTask_moves {other : Nat} {change : URLSessionTask Key → URLSessionTask Key}
    (changed : AwesomeRequestManager Key) (present : changed.tasks.get? name = some task)
    (moves : name = other → manager.Moves label name task (change task)) :
    ∃ after, (changed.modifyTask other change).tasks.get? name = some after ∧
      manager.Moves label name task after := by
  rw [get?_modifyTask]
  by_cases same : name = other
  · rw [if_pos same, present]
    exact ⟨change task, rfl, moves same⟩
  · rw [if_neg same]
    exact ⟨task, present, .stay⟩

/-- A step starts, cancels, completes or removes a task, or leaves it alone. -/
theorem step_moves (taken : step manager label = some next)
    (present : manager.tasks.get? name = some task) :
    ∃ after, next.tasks.get? name = some after ∧ manager.Moves label name task after := by
  cases label with
  | create key cancelPrevious =>
      cases taken
      exact ⟨task, Table.get?_push_of_get? _ present, .stay⟩
  | cancelPrevious other =>
      obtain ⟨started, found, created, rfl⟩ := Table.when_eq_some.mp taken
      rw [cancelPreviousRequest, get?_modifyTask, get?_cancelEntry]
      by_cases registered : manager.requestQueue.lookup started.key = some name
      · have aims : manager.Aims (.cancelPrevious other) name := ⟨started, found, registered⟩
        rw [if_pos registered, present]
        by_cases same : name = other
        · rw [if_pos same]
          exact ⟨_, rfl, .cancelSelf aims⟩
        · rw [if_neg same]
          exact ⟨_, rfl, .cancel aims⟩
      · rw [if_neg registered, present]
        by_cases same : name = other
        · subst same
          cases Option.some.inj (found.symm.trans present)
          rw [if_pos rfl]
          refine ⟨_, rfl, .start _ ?_⟩
          rw [created]
          exact .cancelPrevious rfl
        · rw [if_neg same]
          exact ⟨task, rfl, .stay⟩
  | register other =>
      obtain ⟨started, found, ready, rfl⟩ := Table.when_eq_some.mp taken
      apply get?_modifyTask_moves (manager.setEntry started.key other) present
      rintro rfl
      cases Option.some.inj (found.symm.trans present)
      refine .start _ ?_
      rw [ready]
      exact .register rfl
  | resume other =>
      obtain ⟨started, found, added, rfl⟩ := Table.when_eq_some.mp taken
      apply get?_modifyTask_moves manager present
      rintro rfl
      cases Option.some.inj (found.symm.trans present)
      refine .start _ ?_
      rw [added]
      exact .resume rfl
  | finish other =>
      obtain ⟨ended, found, ⟨running, ready⟩, rfl⟩ := Table.when_eq_some.mp taken
      apply get?_modifyTask_moves manager present
      rintro rfl
      cases Option.some.inj (found.symm.trans present)
      exact .finish rfl running ready
  | remove other =>
      obtain ⟨ended, found, completed, rfl⟩ := Table.when_eq_some.mp taken
      apply get?_modifyTask_moves (manager.removeEntry ended.key) present
      rintro rfl
      cases Option.some.inj (found.symm.trans present)
      exact .remove rfl completed
  | cancelRequest key =>
      cases taken
      unfold addCancellation
      dsimp only
      rw [get?_cancelEntry]
      split
      · next registered =>
          rw [present]
          exact ⟨_, rfl, .cancel registered⟩
      · exact ⟨task, present, .stay⟩
  | removeCancelled other =>
      obtain ⟨key, _, rfl⟩ := step_removeCancelled taken
      exact ⟨task, present, .stay⟩
  | cancelAll =>
      cases taken
      exact ⟨task, present, .stay⟩
  | cancelNext other =>
      obtain ⟨first, names, found, rfl⟩ := step_cancelNext taken
      apply get?_modifyTask_moves manager present
      rintro rfl
      exact .cancel ⟨names, found⟩
  | removeAll other =>
      obtain ⟨_, rfl⟩ := step_removeAll taken
      exact ⟨task, present, .stay⟩

omit [DecidableEq Key] in
theorem get?_setCancellation_inv {other : Nat} {changed cancellation : Cancellation Key}
    (present : (manager.setCancellation other changed).cancellations.get? call =
      some cancellation) :
    manager.cancellations.get? call = some cancellation ∨
      (call = other ∧ cancellation = changed) := by
  unfold setCancellation at present
  dsimp only at present
  rw [Table.get?_modify] at present
  split at present
  · next same =>
      obtain ⟨_, _, rfl⟩ := Option.map_eq_some_iff.mp present
      exact Or.inr ⟨same, rfl⟩
  · exact Or.inl present

/-- A cancelling call after a step was there before, with those tasks and perhaps the
one just cancelled, or it has just begun with the tasks that are registered. -/
theorem step_cancelling_inv {names : List Nat} (taken : step manager label = some next)
    (present : next.cancellations.get? call = some (.cancelling names)) :
    (∃ pending, manager.cancellations.get? call = some (.cancelling pending) ∧
        ∀ name ∈ names, name ∈ pending) ∨
      names = manager.values := by
  have kept (old : manager.cancellations.get? call = some (.cancelling names)) :
      ∃ pending, manager.cancellations.get? call = some (.cancelling pending) ∧
        ∀ name ∈ names, name ∈ pending :=
    ⟨names, old, fun _ => id⟩
  cases label with
  | create key cancelPrevious =>
      cases taken
      exact Or.inl (kept present)
  | cancelPrevious other =>
      obtain ⟨started, _, _, rfl⟩ := Table.when_eq_some.mp taken
      rw [cancelPreviousRequest, cancellations_modifyTask, cancellations_cancelEntry] at present
      exact Or.inl (kept present)
  | register other | resume other | finish other | remove other =>
      obtain ⟨moved, _, _, rfl⟩ := Table.when_eq_some.mp taken
      exact Or.inl (kept present)
  | cancelRequest key =>
      cases taken
      rcases Table.get?_push_cases present with old | ⟨_, fresh⟩
      · rw [cancellations_cancelEntry] at old
        exact Or.inl (kept old)
      · cases fresh
  | removeCancelled other =>
      obtain ⟨key, _, rfl⟩ := step_removeCancelled taken
      rcases get?_setCancellation_inv present with old | ⟨_, fresh⟩
      · exact Or.inl (kept old)
      · cases fresh
  | cancelAll =>
      cases taken
      rcases Table.get?_push_cases present with old | ⟨_, fresh⟩
      · exact Or.inl (kept old)
      · cases fresh
        exact Or.inr rfl
  | cancelNext other =>
      obtain ⟨first, pending, found, rfl⟩ := step_cancelNext taken
      rcases get?_setCancellation_inv present with old | ⟨rfl, fresh⟩
      · exact Or.inl (kept old)
      · cases fresh
        exact Or.inl ⟨first :: names, found, fun _ => List.mem_cons_of_mem first⟩
  | removeAll other =>
      obtain ⟨_, rfl⟩ := step_removeAll taken
      rcases get?_setCancellation_inv present with old | ⟨_, fresh⟩
      · exact Or.inl (kept old)
      · cases fresh

/-- A registered task has been added. -/
theorem NoStaleEntry.added (valid : manager.NoStaleEntry) {key : Key}
    (registered : manager.requestQueue.lookup key = some name) :
    ∃ task, manager.tasks.get? name = some task ∧ task.Added := by
  obtain ⟨task, found, _, added, _⟩ := valid key name registered
  exact ⟨task, found, added⟩

/-- All registered tasks have been added. -/
theorem NoStaleEntry.allAdded_values (valid : manager.NoStaleEntry) :
    manager.AllAdded (· ∈ manager.values) := by
  intro name member
  obtain ⟨⟨key, registered⟩, entry, rfl⟩ := List.mem_map.mp member
  exact valid.added (AList.mem_lookup_iff.mpr entry)

/-- Only a task that has been added is cancelled. -/
theorem Accounted.added_of_aims (valid : manager.Accounted) (aims : manager.Aims label name) :
    ∃ task, manager.tasks.get? name = some task ∧ task.Added := by
  cases label with
  | cancelPrevious other =>
      obtain ⟨_, _, registered⟩ := aims
      exact valid.noStaleEntry.added registered
  | cancelRequest key => exact valid.noStaleEntry.added aims
  | cancelNext call =>
      obtain ⟨names, found⟩ := aims
      exact valid.aimsAtAdded call _ found _ rfl name List.mem_cons_self
  | _ => exact aims.elim

/-- Every step keeps the new tasks pending. -/
theorem freshPending_step (valid : manager.Accounted) (taken : step manager label = some next) :
    next.FreshPending := by
  intro name after present fresh
  rcases step_task_inv taken present with ⟨task, found, evolves⟩ | ⟨_, _, _, _, rfl⟩
  · have early : ¬ task.Added := fun added => fresh (evolves.start.stays_registered added)
    have pending := valid.freshPending name task found early
    have spared : ¬ manager.Aims label name := by
      intro aims
      obtain ⟨other, same, added⟩ := valid.added_of_aims aims
      cases Option.some.inj (same.symm.trans found)
      exact early added
    obtain ⟨other, same, moves⟩ := step_moves taken found
    cases Option.some.inj (same.symm.trans present)
    cases moves with
    | stay => exact pending
    | start => exact pending
    | cancel aims => exact (spared aims).elim
    | cancelSelf aims => exact (spared aims).elim
    | finish _ _ ready =>
        rcases ready with resumed | cancelled
        · exact (early (Or.inr resumed)).elim
        · exact Bool.noConfusion (cancelled.symm.trans pending.2)
    | remove _ completed => cases completed.symm.trans pending.1
  · exact ⟨rfl, rfl⟩

/-- Every step keeps the cancelling calls aimed at tasks that were added. -/
theorem aimsAtAdded_step (valid : manager.Accounted) (taken : step manager label = some next) :
    next.AimsAtAdded := by
  rintro call cancellation present names rfl
  rcases step_cancelling_inv taken present with ⟨pending, found, fewer⟩ | rfl
  · refine allAdded_step (fun name member => ?_) taken
    exact valid.aimsAtAdded call _ found pending rfl name (fewer name member)
  · exact allAdded_step valid.noStaleEntry.allAdded_values taken

/-- A task is in state `removed` after a step only if it was before or the step is the
removal of its key by its completion handler. -/
theorem step_removed {after : URLSessionTask Key} (taken : step manager label = some next)
    (found : manager.tasks.get? name = some task) (present : next.tasks.get? name = some after)
    (removed : after.state = .removed) : task.state = .removed ∨ label = .remove name := by
  obtain ⟨other, same, moves⟩ := step_moves taken found
  cases Option.some.inj (same.symm.trans present)
  cases moves with
  | stay => exact Or.inl removed
  | start => exact Or.inl removed
  | cancel => exact Or.inl (task.state_cancel.symm.trans removed)
  | cancelSelf => exact Or.inl (task.state_cancel.symm.trans removed)
  | finish => cases removed
  | remove removes => exact Or.inr removes

/-- The removal of a task leaves no entry under its key. -/
theorem lookup_remove (taken : step manager (.remove name) = some next)
    (found : manager.tasks.get? name = some task) :
    next.requestQueue.lookup task.key = none := by
  obtain ⟨ended, same, _, rfl⟩ := Table.when_eq_some.mp taken
  cases Option.some.inj (same.symm.trans found)
  rw [removeRequest, requestQueue_modifyTask, lookup_removeEntry_self]

/-- Every step keeps the registry without stale entries. -/
theorem noStaleEntry_step (valid : manager.Accounted) (taken : step manager label = some next) :
    next.NoStaleEntry := by
  intro key name registered
  rcases step_lookup_inv taken registered with old | ⟨rfl, task, found, keyed⟩
  · obtain ⟨task, found, keyed, added, kept⟩ := valid.noStaleEntry key name old
    obtain ⟨after, present, evolves⟩ := step_task taken found
    refine ⟨after, present, evolves.key.trans keyed, evolves.start.stays_registered added, ?_⟩
    intro removed
    rcases step_removed taken found present removed with before | rfl
    · exact kept before
    · have absent := lookup_remove taken found
      rw [keyed, registered] at absent
      cases absent
  · obtain ⟨started, same, ready, rfl⟩ := Table.when_eq_some.mp taken
    cases Option.some.inj (same.symm.trans found)
    have pending := valid.freshPending name task found fun added => by
      rcases added with start | start <;> cases ready.symm.trans start
    refine ⟨task.withStart .added, ?_, keyed, Or.inl rfl, fun removed => ?_⟩
    · rw [addRequest, get?_modifyTask, if_pos rfl, tasks_setEntry, found]
      rfl
    · cases removed.symm.trans pending.1

/-- The empty registry is accounted for. -/
theorem accounted_initial : (initial : AwesomeRequestManager Key).Accounted where
  noStaleEntry key name registered := by cases registered
  freshPending name task present := by cases present
  aimsAtAdded call cancellation present := by cases present

/-- Every step keeps the registry accounted for. -/
theorem accounted_step (valid : manager.Accounted) (taken : step manager label = some next) :
    next.Accounted :=
  ⟨noStaleEntry_step valid taken, freshPending_step valid taken, aimsAtAdded_step valid taken⟩

/-- Without stale entries the registry is empty once every task has completed. -/
theorem NoStaleEntry.empty_of_allCompleted (valid : manager.NoStaleEntry)
    (completed : manager.AllCompleted) : manager.requestQueue = ∅ := by
  refine AList.ext ?_
  by_contra occupied
  obtain ⟨⟨key, name⟩, entry⟩ := List.exists_mem_of_ne_nil _ occupied
  obtain ⟨task, found, _, added, kept⟩ := valid key name (AList.mem_lookup_iff.mpr entry)
  exact kept (completed name task found added)

end AwesomeRequestManager

namespace RequestManagers

variable {Key : Type} [DecidableEq Key] {managers next : RequestManagers Key} {label : Label Key}

/-- Both registries are accounted for. -/
def Accounted (managers : RequestManagers Key) : Prop :=
  managers.requester.Accounted ∧ managers.upload.Accounted

/-- The registry of the uploads stays or makes one of its own steps. -/
theorem step_upload (taken : step managers label = some next) :
    next.upload = managers.upload ∨ ∃ moved, managers.upload.step moved = some next.upload := by
  cases stepCases taken with
  | requester label moved upload => exact Or.inl upload
  | upload label moved => exact Or.inr ⟨label, moved⟩
  | cancelAllRequests moved upload => exact Or.inl upload
  | cancelUploads cancel call present finished moved => exact Or.inr ⟨.cancelAll, moved⟩
  | cancelReturn cancel call present finished upload => exact Or.inl upload

/-- Every step keeps both registries accounted for. -/
theorem accounted_step (valid : managers.Accounted) (taken : step managers label = some next) :
    next.Accounted := by
  constructor
  · rcases step_requester taken with same | ⟨moved, stepped⟩
    · rw [same]
      exact valid.1
    · exact AwesomeRequestManager.accounted_step valid.1 stepped
  · rcases step_upload taken with same | ⟨moved, stepped⟩
    · rw [same]
      exact valid.2
    · exact AwesomeRequestManager.accounted_step valid.2 stepped

/-- **No stale entry.** In every state of every run, each entry of the requester's and
of the uploader's registry is of a task that was added for its key and whose handler
has not removed it; where all added tasks have completed, the registry is empty. -/
theorem no_stale_entry (labels : List (Label Key)) :
    Transition.Always step
      (fun managers =>
        managers.requester.NoStaleEntry ∧ managers.upload.NoStaleEntry ∧
          (managers.requester.AllCompleted → managers.requester.requestQueue = ∅) ∧
          (managers.upload.AllCompleted → managers.upload.requestQueue = ∅))
      initial labels := by
  have accounted : Transition.Always step Accounted (initial : RequestManagers Key) labels :=
    (Transition.Meets.of_forall (fun _ _ => trivial) initial labels).always
      (fun _ _ _ valid (_ : True) taken => accounted_step valid taken)
      ⟨AwesomeRequestManager.accounted_initial, AwesomeRequestManager.accounted_initial⟩
  refine accounted.mono fun managers valid => ?_
  have requests := valid.1.noStaleEntry
  have uploads := valid.2.noStaleEntry
  exact ⟨requests, uploads, requests.empty_of_allCompleted, uploads.empty_of_allCompleted⟩

end RequestManagers

end AwesomeNetwork
