import AwesomeNetwork.Networking.AwesomeRequestManager

/-! # Which live tasks are registered

A task is live from its registration until it completes or is cancelled. The
registry holds one task for each key, so a step can take out the entry of a task
that is still live; as long as no step does, every live task is registered.
-/

namespace AwesomeNetwork

namespace AwesomeRequestManager

variable {Key : Type} [DecidableEq Key]

/-- The task under a name is live. -/
def IsLive (manager : AwesomeRequestManager Key) (name : Nat) : Prop :=
  ∃ task, manager.tasks.get? name = some task ∧ task.Live

/-- Every entry is of a task of its key that has been registered. -/
def WellRegistered (manager : AwesomeRequestManager Key) : Prop :=
  ∀ key name, manager.requestQueue.lookup key = some name →
    ∃ task, manager.tasks.get? name = some task ∧ task.key = key ∧
      (task.start = .added ∨ task.start = .resumed)

/-- Every live task is registered under its key. -/
def LiveRegistered (manager : AwesomeRequestManager Key) : Prop :=
  ∀ name task, manager.tasks.get? name = some task → task.Live →
    manager.requestQueue.lookup task.key = some name

/-- The step takes out an entry of the task: a registration overwrites it, a
completion handler or `cancelRequest` removes its key, or `removeAll` empties the
registry. -/
def Displaces (manager : AwesomeRequestManager Key) (label : Label Key) (name : Nat) : Prop :=
  match label with
  | .register other => name ≠ other ∧ ∃ task, manager.tasks.get? other = some task ∧
      manager.requestQueue.lookup task.key = some name
  | .remove other => ∃ task, manager.tasks.get? other = some task ∧
      manager.requestQueue.lookup task.key = some name
  | .removeCancelled call => ∃ key, manager.cancellations.get? call = some (.removing key) ∧
      manager.requestQueue.lookup key = some name
  | .removeAll _ => ∃ key, manager.requestQueue.lookup key = some name
  | _ => False

/-- The step takes out no entry of a live task. -/
def Undisturbed (manager : AwesomeRequestManager Key) (label : Label Key) : Prop :=
  ∀ name, manager.Displaces label name → ¬ manager.IsLive name

instance (manager : AwesomeRequestManager Key) (name : Nat) : Decidable (manager.IsLive name) :=
  decidable_of_iff (∃ task ∈ manager.tasks.get? name, task.Live) Iff.rfl

instance decidableDisplaces (manager : AwesomeRequestManager Key) :
    ∀ label name, Decidable (manager.Displaces label name)
  | .register other, name => decidable_of_iff (name ≠ other ∧
      ∃ task ∈ manager.tasks.get? other, manager.requestQueue.lookup task.key = some name) Iff.rfl
  | .remove other, name => decidable_of_iff
      (∃ task ∈ manager.tasks.get? other, manager.requestQueue.lookup task.key = some name) Iff.rfl
  | .removeCancelled call, name =>
      match found : manager.cancellations.get? call with
      | some (.removing key) => decidable_of_iff (manager.requestQueue.lookup key = some name)
          ⟨fun registered => ⟨key, found, registered⟩, fun ⟨_, same, registered⟩ => by
            cases found.symm.trans same
            exact registered⟩
      | some (.cancelling _) | some .finished | none =>
          .isFalse fun ⟨_, same, _⟩ => by cases found.symm.trans same
  | .removeAll _, name => decidable_of_iff (name ∈ manager.values) <| by
      refine List.mem_map.trans ⟨?_, ?_⟩
      · rintro ⟨⟨key, _⟩, member, rfl⟩
        exact ⟨key, AList.mem_lookup_iff.mpr member⟩
      · rintro ⟨key, registered⟩
        exact ⟨⟨key, name⟩, AList.mem_lookup_iff.mp registered, rfl⟩
  | .create .., _ | .cancelPrevious _, _ | .resume _, _ | .finish _, _ | .cancelRequest _, _
  | .cancelAll, _ | .cancelNext _, _ => .isFalse id

/-- Only the tasks there are can be live. -/
instance (manager : AwesomeRequestManager Key) (label : Label Key) :
    Decidable (manager.Undisturbed label) :=
  decidable_of_iff (∀ name < manager.tasks.size, manager.Displaces label name →
      ¬ manager.IsLive name)
    ⟨fun spares name displaces ⟨task, present, live⟩ =>
        spares name (Table.lt_size_of_get? present) displaces ⟨task, present, live⟩,
      fun undisturbed name _ => undisturbed name⟩

variable {manager next : AwesomeRequestManager Key} {label : Label Key} {name : Nat} {key : Key}

@[simp] theorem lookup_setEntry_self (manager : AwesomeRequestManager Key) (key : Key)
    (name : Nat) : (manager.setEntry key name).requestQueue.lookup key = some name :=
  AList.lookup_insert _

theorem lookup_setEntry_of_ne {other : Key} (different : other ≠ key) (name : Nat) :
    (manager.setEntry key name).requestQueue.lookup other = manager.requestQueue.lookup other :=
  AList.lookup_insert_ne different

@[simp] theorem lookup_removeEntry_self (manager : AwesomeRequestManager Key) (key : Key) :
    (manager.removeEntry key).requestQueue.lookup key = none :=
  AList.lookup_erase _ _

theorem lookup_removeEntry_of_ne {other : Key} (different : other ≠ key) :
    (manager.removeEntry key).requestQueue.lookup other = manager.requestQueue.lookup other :=
  AList.lookup_erase_ne different

@[simp] theorem lookup_removeAll (manager : AwesomeRequestManager Key) (key : Key) :
    manager.removeAll.requestQueue.lookup key = none := rfl

theorem mem_values_of_lookup (registered : manager.requestQueue.lookup key = some name) :
    name ∈ manager.values :=
  List.mem_map.mpr ⟨⟨key, name⟩, AList.mem_lookup_iff.mp registered, rfl⟩

/-- An entry survives a step that does not displace it. -/
theorem step_lookup (taken : step manager label = some next)
    (registered : manager.requestQueue.lookup key = some name) :
    next.requestQueue.lookup key = some name ∨ manager.Displaces label name := by
  cases label with
  | create other cancelPrevious =>
      cases taken
      exact Or.inl registered
  | cancelPrevious other =>
      obtain ⟨started, _, _, rfl⟩ := Table.when_eq_some.mp taken
      left
      rw [cancelPreviousRequest, requestQueue_modifyTask, requestQueue_cancelEntry]
      exact registered
  | register other =>
      obtain ⟨started, found, _, rfl⟩ := Table.when_eq_some.mp taken
      rw [addRequest, requestQueue_modifyTask]
      by_cases same : key = started.key
      · by_cases own : name = other
        · left
          rw [same, own, lookup_setEntry_self]
        · right
          exact ⟨own, started, found, same ▸ registered⟩
      · left
        rw [lookup_setEntry_of_ne same]
        exact registered
  | resume other =>
      obtain ⟨started, _, _, rfl⟩ := Table.when_eq_some.mp taken
      exact Or.inl registered
  | finish other =>
      obtain ⟨ended, _, _, rfl⟩ := Table.when_eq_some.mp taken
      exact Or.inl registered
  | remove other =>
      obtain ⟨ended, found, _, rfl⟩ := Table.when_eq_some.mp taken
      rw [removeRequest, requestQueue_modifyTask]
      by_cases same : key = ended.key
      · right
        exact ⟨ended, found, same ▸ registered⟩
      · left
        rw [lookup_removeEntry_of_ne same]
        exact registered
  | cancelRequest other =>
      cases taken
      left
      rw [requestQueue_addCancellation, requestQueue_cancelEntry]
      exact registered
  | removeCancelled call =>
      obtain ⟨other, found, rfl⟩ := step_removeCancelled taken
      rw [requestQueue_setCancellation]
      by_cases same : key = other
      · right
        exact ⟨other, found, same ▸ registered⟩
      · left
        rw [lookup_removeEntry_of_ne same]
        exact registered
  | cancelAll =>
      cases taken
      exact Or.inl registered
  | cancelNext call =>
      obtain ⟨other, names, _, rfl⟩ := step_cancelNext taken
      exact Or.inl registered
  | removeAll call => exact Or.inr ⟨key, registered⟩

/-- Every entry after a step was there before or is the one just registered. -/
theorem step_lookup_inv (taken : step manager label = some next)
    (registered : next.requestQueue.lookup key = some name) :
    manager.requestQueue.lookup key = some name ∨
      (label = .register name ∧ ∃ task, manager.tasks.get? name = some task ∧ task.key = key) := by
  cases label with
  | create other cancelPrevious =>
      cases taken
      exact Or.inl registered
  | cancelPrevious other =>
      obtain ⟨started, _, _, rfl⟩ := Table.when_eq_some.mp taken
      rw [cancelPreviousRequest, requestQueue_modifyTask, requestQueue_cancelEntry] at registered
      exact Or.inl registered
  | register other =>
      obtain ⟨started, found, _, rfl⟩ := Table.when_eq_some.mp taken
      rw [addRequest, requestQueue_modifyTask] at registered
      by_cases same : key = started.key
      · rw [same, lookup_setEntry_self] at registered
        cases registered
        exact Or.inr ⟨rfl, started, found, same.symm⟩
      · rw [lookup_setEntry_of_ne same] at registered
        exact Or.inl registered
  | resume other =>
      obtain ⟨started, _, _, rfl⟩ := Table.when_eq_some.mp taken
      exact Or.inl registered
  | finish other =>
      obtain ⟨ended, _, _, rfl⟩ := Table.when_eq_some.mp taken
      exact Or.inl registered
  | remove other =>
      obtain ⟨ended, _, _, rfl⟩ := Table.when_eq_some.mp taken
      rw [removeRequest, requestQueue_modifyTask] at registered
      by_cases same : key = ended.key
      · rw [same, lookup_removeEntry_self] at registered
        cases registered
      · rw [lookup_removeEntry_of_ne same] at registered
        exact Or.inl registered
  | cancelRequest other =>
      cases taken
      rw [requestQueue_addCancellation, requestQueue_cancelEntry] at registered
      exact Or.inl registered
  | removeCancelled call =>
      obtain ⟨other, _, rfl⟩ := step_removeCancelled taken
      rw [requestQueue_setCancellation] at registered
      by_cases same : key = other
      · rw [same, lookup_removeEntry_self] at registered
        cases registered
      · rw [lookup_removeEntry_of_ne same] at registered
        exact Or.inl registered
  | cancelAll =>
      cases taken
      exact Or.inl registered
  | cancelNext call =>
      obtain ⟨other, names, _, rfl⟩ := step_cancelNext taken
      exact Or.inl registered
  | removeAll call =>
      obtain ⟨_, rfl⟩ := step_removeAll taken
      rw [requestQueue_setCancellation, lookup_removeAll] at registered
      cases registered

/-- A task becomes live only by its registration. -/
theorem step_live {after : URLSessionTask Key} (taken : step manager label = some next)
    (present : next.tasks.get? name = some after) (live : after.Live) :
    ∃ task, manager.tasks.get? name = some task ∧ task.key = after.key ∧
      (task.Live ∨ label = .register name) := by
  rcases step_task_inv taken present with ⟨task, found, evolves⟩ | ⟨_, cancelPrevious, _, _, rfl⟩
  · refine ⟨task, found, evolves.key.symm, ?_⟩
    rcases evolves.start.registered live.1 with ready | registers
    · exact Or.inl ⟨ready, evolves.pending live.2⟩
    · exact Or.inr registers
  · cases cancelPrevious <;> rcases live.1 with added | resumed <;> contradiction

/-- Nothing is registered at first. -/
theorem wellRegistered_initial : (initial : AwesomeRequestManager Key).WellRegistered := by
  intro key name registered
  cases registered

/-- Every step keeps each task under its own key. -/
theorem wellRegistered_step (valid : manager.WellRegistered)
    (taken : step manager label = some next) : next.WellRegistered := by
  intro key name registered
  rcases step_lookup_inv taken registered with old | ⟨rfl, task, found, keyed⟩
  · obtain ⟨task, found, keyed, ready⟩ := valid key name old
    obtain ⟨after, kept, evolves⟩ := step_task taken found
    exact ⟨after, kept, evolves.key.trans keyed, evolves.start.stays_registered ready⟩
  · obtain ⟨started, present, _, rfl⟩ := Table.when_eq_some.mp taken
    cases Option.some.inj (present.symm.trans found)
    refine ⟨task.withStart .added, ?_, keyed, Or.inl rfl⟩
    rw [addRequest, get?_modifyTask, if_pos rfl, tasks_setEntry, found]
    rfl

/-- No task is live at first. -/
theorem liveRegistered_initial : (initial : AwesomeRequestManager Key).LiveRegistered := by
  intro name task present
  cases present

/-- A step that takes out no entry of a live task keeps the live tasks registered. -/
theorem liveRegistered_step (registered : manager.LiveRegistered)
    (undisturbed : manager.Undisturbed label) (taken : step manager label = some next) :
    next.LiveRegistered := by
  intro name after present live
  obtain ⟨task, found, keyed, alive | rfl⟩ := step_live taken present live
  · rw [← keyed]
    rcases step_lookup taken (registered name task found alive) with kept | displaced
    · exact kept
    · exact (undisturbed name displaced ⟨task, found, alive⟩).elim
  · obtain ⟨started, same, _, rfl⟩ := Table.when_eq_some.mp taken
    cases Option.some.inj (same.symm.trans found)
    rw [← keyed, addRequest, requestQueue_modifyTask, lookup_setEntry_self]

/-- A step that displaces an entry leaves other tasks than the one it moves alone. -/
theorem displaced_stays_live (taken : step manager label = some next)
    (displaced : manager.Displaces label name) (live : manager.IsLive name) :
    next.IsLive name := by
  obtain ⟨task, found, alive⟩ := live
  refine ⟨task, ?_, alive⟩
  cases label with
  | register other =>
      obtain ⟨started, _, _, rfl⟩ := Table.when_eq_some.mp taken
      rw [addRequest, get?_modifyTask, if_neg displaced.1]
      exact found
  | remove other =>
      obtain ⟨ended, present, completed, rfl⟩ := Table.when_eq_some.mp taken
      have different : name ≠ other := by
        rintro rfl
        cases Option.some.inj (present.symm.trans found)
        rw [alive.2.1] at completed
        cases completed
      rw [removeRequest, get?_modifyTask, if_neg different]
      exact found
  | removeCancelled call =>
      obtain ⟨key, _, rfl⟩ := step_removeCancelled taken
      exact found
  | removeAll call =>
      obtain ⟨_, rfl⟩ := step_removeAll taken
      exact found
  | _ => exact displaced.elim

/-- The key of a task under which a step displaces it no longer leads to it. -/
theorem displaced_unregistered (valid : manager.WellRegistered)
    (taken : step manager label = some next) (displaced : manager.Displaces label name)
    {task : URLSessionTask Key} (present : manager.tasks.get? name = some task) :
    next.requestQueue.lookup task.key ≠ some name := by
  have keyed {key : Key} (registered : manager.requestQueue.lookup key = some name) :
      task.key = key := by
    obtain ⟨other, found, same, _⟩ := valid key name registered
    cases Option.some.inj (found.symm.trans present)
    exact same
  cases label with
  | register other =>
      obtain ⟨started, found, _, rfl⟩ := Table.when_eq_some.mp taken
      obtain ⟨different, owner, same, registered⟩ := displaced
      cases Option.some.inj (found.symm.trans same)
      rw [addRequest, requestQueue_modifyTask, keyed registered, lookup_setEntry_self]
      exact fun equal => different (Option.some.inj equal).symm
  | remove other =>
      obtain ⟨ended, found, _, rfl⟩ := Table.when_eq_some.mp taken
      obtain ⟨owner, same, registered⟩ := displaced
      cases Option.some.inj (found.symm.trans same)
      rw [removeRequest, requestQueue_modifyTask, keyed registered, lookup_removeEntry_self]
      exact (Option.some_ne_none name).symm
  | removeCancelled call =>
      obtain ⟨key, found, rfl⟩ := step_removeCancelled taken
      obtain ⟨other, same, registered⟩ := displaced
      cases Option.some.inj (found.symm.trans same)
      rw [requestQueue_setCancellation, keyed registered, lookup_removeEntry_self]
      exact (Option.some_ne_none name).symm
  | removeAll call =>
      obtain ⟨_, rfl⟩ := step_removeAll taken
      exact (Option.some_ne_none name).symm
  | _ => exact displaced.elim

/-- A step that takes out the entry of a live task leaves it unregistered. -/
theorem not_liveRegistered_step (valid : manager.WellRegistered)
    (disturbed : ¬ manager.Undisturbed label) (taken : step manager label = some next) :
    ¬ next.LiveRegistered := by
  intro registered
  have disturbs : ∃ name, manager.Displaces label name ∧ manager.IsLive name := by
    by_contra none
    exact disturbed fun name displaced live => none ⟨name, displaced, live⟩
  obtain ⟨name, displaced, live⟩ := disturbs
  obtain ⟨after, present, alive⟩ := displaced_stays_live taken displaced live
  obtain ⟨task, found, _⟩ := live
  obtain ⟨kept, same, evolves⟩ := step_task taken found
  cases Option.some.inj (same.symm.trans present)
  apply displaced_unregistered valid taken displaced found
  rw [← evolves.key]
  exact registered name after present alive

end AwesomeRequestManager

end AwesomeNetwork
