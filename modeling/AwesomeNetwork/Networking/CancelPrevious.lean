import AwesomeNetwork.Networking.Registration

/-! # Cancelling the previous request of a key

A start with `cancelPrevious` cancels the task that is registered under its key.
When the tasks of a key are started one after the other, at most one of them is
live as long as each start finds the live one still registered. The completion
handler of an older task, run late, takes that entry out.
-/

namespace AwesomeNetwork

namespace AwesomeRequestManager

variable {Key : Type} [DecidableEq Key]

/-- The tasks of the key are started with `cancelPrevious`, one after the other. -/
def Sequential (key : Key) (manager : AwesomeRequestManager Key) : Label Key → Prop
  | .create other cancelPrevious => other = key → cancelPrevious = true ∧
      manager.tasks.All fun _ task => task.key = key → task.start = .resumed
  | _ => True

/-- A start of the key finds the live task of the key, if any, registered. -/
def FindsPrevious (key : Key) (manager : AwesomeRequestManager Key) : Label Key → Prop
  | .cancelPrevious name => manager.tasks.All fun other task => other = name → task.key = key →
      manager.tasks.All fun previous live => live.key = key → live.Live →
        manager.requestQueue.lookup key = some previous
  | _ => True

/-- At most one task of the key is live. -/
def AtMostOneLive (key : Key) (manager : AwesomeRequestManager Key) : Prop :=
  manager.tasks.All fun first a => manager.tasks.All fun second b =>
    a.key = key → b.key = key → a.start = .resumed → b.start = .resumed →
      a.Pending → b.Pending → first = second

/-- What holds between the starts of a key: at most one of its tasks is not
resumed yet, and at most one that is past its cancellation of the previous one
is pending. -/
structure OneAtATime (key : Key) (manager : AwesomeRequestManager Key) : Prop where
  starting : ∀ first second a b, manager.tasks.get? first = some a →
    manager.tasks.get? second = some b → a.key = key → b.key = key →
    a.start ≠ .resumed → b.start ≠ .resumed → first = second
  pending : ∀ first second a b, manager.tasks.get? first = some a →
    manager.tasks.get? second = some b → a.key = key → b.key = key →
    a.start ≠ .created → b.start ≠ .created → a.Pending → b.Pending → first = second

instance (key : Key) (manager : AwesomeRequestManager Key) :
    ∀ label, Decidable (Sequential key manager label)
  | .create other cancelPrevious =>
      inferInstanceAs (Decidable (other = key → cancelPrevious = true ∧ manager.tasks.All _))
  | .cancelPrevious _ | .register _ | .resume _ | .finish _ | .remove _ | .cancelRequest _
  | .removeCancelled _ | .cancelAll | .cancelNext _ | .removeAll _ => .isTrue trivial

instance (key : Key) (manager : AwesomeRequestManager Key) :
    ∀ label, Decidable (FindsPrevious key manager label)
  | .cancelPrevious name =>
      inferInstanceAs (Decidable (manager.tasks.All fun other task => other = name →
        task.key = key → manager.tasks.All fun previous live => live.key = key → live.Live →
          manager.requestQueue.lookup key = some previous))
  | .create .. | .register _ | .resume _ | .finish _ | .remove _ | .cancelRequest _
  | .removeCancelled _ | .cancelAll | .cancelNext _ | .removeAll _ => .isTrue trivial

instance (key : Key) (manager : AwesomeRequestManager Key) :
    Decidable (AtMostOneLive key manager) :=
  inferInstanceAs (Decidable (manager.tasks.All fun first a => manager.tasks.All fun second b =>
    a.key = key → b.key = key → a.start = .resumed → b.start = .resumed →
      a.Pending → b.Pending → first = second))

variable {manager next : AwesomeRequestManager Key} {label : Label Key} {key : Key}

omit [DecidableEq Key] in
/-- No task is started at first. -/
theorem oneAtATime_initial : OneAtATime key initial where
  starting _ _ _ _ present := nomatch present
  pending _ _ _ _ present := nomatch present

/-- A task of the key that is still being started was being started before the
step, or it is the one just created and every other one is resumed. -/
theorem starting_before {name : Nat} {after : URLSessionTask Key}
    (sequential : Sequential key manager label) (taken : step manager label = some next)
    (present : next.tasks.get? name = some after) (keyed : after.key = key)
    (starting : after.start ≠ .resumed) :
    (∃ task, manager.tasks.get? name = some task ∧ task.key = key ∧ task.start ≠ .resumed) ∨
      (name = manager.tasks.size ∧
        manager.tasks.All fun _ task => task.key = key → task.start = .resumed) := by
  rcases step_task_inv taken present with ⟨task, found, evolves⟩ | ⟨_, _, rfl, last, rfl⟩
  · left
    refine ⟨task, found, evolves.key.symm.trans keyed, ?_⟩
    exact fun resumed => starting (evolves.start.resumed resumed)
  · exact Or.inr ⟨last, (sequential keyed).2⟩

/-- A pending task of the key past its cancellation was so before the step, or this
step is that cancellation. -/
theorem pending_before {name : Nat} {after : URLSessionTask Key}
    (sequential : Sequential key manager label) (taken : step manager label = some next)
    (present : next.tasks.get? name = some after) (keyed : after.key = key)
    (past : after.start ≠ .created) (pending : after.Pending) :
    ∃ task, manager.tasks.get? name = some task ∧ task.key = key ∧ task.Pending ∧
      (task.start ≠ .created ∨ label = .cancelPrevious name) := by
  rcases step_task_inv taken present with ⟨task, found, evolves⟩ | ⟨_, _, rfl, _, rfl⟩
  · refine ⟨task, found, evolves.key.symm.trans keyed, evolves.pending pending, ?_⟩
    by_cases fresh : task.start = .created
    · rcases evolves.start.created fresh with same | cancels
      · exact (past same).elim
      · exact Or.inr cancels
    · exact Or.inl fresh
  · rw [(sequential keyed).1] at past
    exact (past rfl).elim

/-- The registered task of the key is cancelled by the start of the next one. -/
theorem previous_cancelled {name other : Nat} {task after : URLSessionTask Key}
    (taken : step manager (.cancelPrevious name) = some next) (different : other ≠ name)
    (present : manager.tasks.get? name = some task)
    (registered : manager.requestQueue.lookup task.key = some other)
    (found : next.tasks.get? other = some after) : ¬ after.Pending := by
  obtain ⟨started, same, _, rfl⟩ := Table.when_eq_some.mp taken
  cases Option.some.inj (same.symm.trans present)
  rw [cancelPreviousRequest, get?_modifyTask, if_neg different, get?_cancelEntry,
    if_pos registered] at found
  obtain ⟨previous, _, rfl⟩ := Option.map_eq_some_iff.mp found
  exact previous.not_pending_cancel

/-- The cancelling step of a start leaves no other pending task of the key past its
own cancellation. -/
theorem alone_after_cancelPrevious {name other : Nat} {task after : URLSessionTask Key}
    (state : OneAtATime key manager) (sequential : Sequential key manager (.cancelPrevious name))
    (finds : FindsPrevious key manager (.cancelPrevious name))
    (taken : step manager (.cancelPrevious name) = some next)
    (present : manager.tasks.get? name = some task) (keyed : task.key = key)
    (found : next.tasks.get? other = some after) (same : after.key = key)
    (past : after.start ≠ .created) (pending : after.Pending) : other = name := by
  by_contra different
  obtain ⟨previous, existed, keyedPrevious, pendingPrevious, earlier | cancels⟩ :=
    pending_before sequential taken found same past pending
  · obtain ⟨started, created, fresh, _⟩ := Table.when_eq_some.mp taken
    cases Option.some.inj (created.symm.trans present)
    have resumed : previous.start = .resumed := by
      by_contra starting
      apply different
      apply state.starting other name previous task existed present keyedPrevious keyed starting
      rw [fresh]
      exact nofun
    have registered := finds name task present rfl keyed other previous existed keyedPrevious
      ⟨Or.inr resumed, pendingPrevious⟩
    rw [← keyed] at registered
    exact previous_cancelled taken different present registered found pending
  · cases cancels
    exact different rfl

/-- A step in turn, whose start finds the live task registered, keeps this. -/
theorem oneAtATime_step (state : OneAtATime key manager)
    (sequential : Sequential key manager label) (finds : FindsPrevious key manager label)
    (taken : step manager label = some next) : OneAtATime key next where
  starting first second a b presentA presentB keyedA keyedB startingA startingB := by
    rcases starting_before sequential taken presentA keyedA startingA with
      ⟨a', foundA, sameA, earlierA⟩ | ⟨lastA, resumed⟩
    · rcases starting_before sequential taken presentB keyedB startingB with
        ⟨b', foundB, sameB, earlierB⟩ | ⟨_, resumed⟩
      · exact state.starting first second a' b' foundA foundB sameA sameB earlierA earlierB
      · exact (earlierA (resumed first a' foundA sameA)).elim
    · rcases starting_before sequential taken presentB keyedB startingB with
        ⟨b', foundB, sameB, earlierB⟩ | ⟨lastB, _⟩
      · exact (earlierB (resumed second b' foundB sameB)).elim
      · exact lastA.trans lastB.symm
  pending first second a b presentA presentB keyedA keyedB pastA pastB pendingA pendingB := by
    obtain ⟨a', foundA, sameA, stillA, earlierA | rfl⟩ :=
      pending_before sequential taken presentA keyedA pastA pendingA
    · obtain ⟨b', foundB, sameB, stillB, earlierB | rfl⟩ :=
        pending_before sequential taken presentB keyedB pastB pendingB
      · exact state.pending first second a' b' foundA foundB sameA sameB earlierA earlierB
          stillA stillB
      · exact alone_after_cancelPrevious state sequential finds taken foundB sameB presentA keyedA
          pastA pendingA
    · exact (alone_after_cancelPrevious state sequential finds taken foundA sameA presentB keyedB
        pastB pendingB).symm

omit [DecidableEq Key] in
/-- In such a state at most one task is live. -/
theorem OneAtATime.atMostOneLive (state : OneAtATime key manager) : AtMostOneLive key manager := by
  intro first a presentA second b presentB keyedA keyedB resumedA resumedB pendingA pendingB
  apply state.pending first second a b presentA presentB keyedA keyedB ?_ ?_ pendingA pendingB
  · rw [resumedA]
    exact nofun
  · rw [resumedB]
    exact nofun

/-- **One live task for each key.** When the tasks of a key are started with
`cancelPrevious`, one after the other, and each start finds the live one
registered, at most one is live in every state. -/
theorem cancelPrevious_leaves_one_live (key : Key) (labels : List (Label Key))
    (sequential : Transition.Meets step (Sequential key) initial labels)
    (finds : Transition.Meets step (FindsPrevious key) initial labels) :
    Transition.Always step (AtMostOneLive key) initial labels :=
  ((sequential.and finds).always
    (fun _ _ _ state met taken => oneAtATime_step state met.1 met.2 taken)
    oneAtATime_initial).mono fun _ => OneAtATime.atMostOneLive

/-- A start of a task with `cancelPrevious`, to its end. -/
def startCancelling (key : String) (name : Nat) : List (Label String) :=
  [.create key true, .cancelPrevious name, .register name, .resume name]

/-- The completion handler of the cancelled first task runs after the second start:
it takes out the entry of the second task, which the third start then misses. -/
theorem late_handler_leaves_two_live :
    ∃ target, Transition.Run step initial (startCancelling "/items?keyHash=GET" 0 ++
        startCancelling "/items?keyHash=GET" 1 ++ [.finish 0, .remove 0] ++
        startCancelling "/items?keyHash=GET" 2) target ∧
      Transition.Meets step (Sequential "/items?keyHash=GET") initial
        (startCancelling "/items?keyHash=GET" 0 ++ startCancelling "/items?keyHash=GET" 1 ++
          [.finish 0, .remove 0] ++ startCancelling "/items?keyHash=GET" 2) ∧
      ¬ AtMostOneLive "/items?keyHash=GET" target :=
  ⟨_, Transition.run_iff_execute.mpr rfl, by decide, by decide⟩

/-- Two tasks after one that was removed in time. -/
theorem cancelPrevious_leaves_one_live_prompt :
    Transition.Always step (AtMostOneLive "/items?keyHash=GET") initial
      (startCancelling "/items?keyHash=GET" 0 ++ [.finish 0, .remove 0] ++
        startCancelling "/items?keyHash=GET" 1 ++ startCancelling "/items?keyHash=GET" 2) :=
  cancelPrevious_leaves_one_live _ _ (by decide) (by decide)

end AwesomeRequestManager

end AwesomeNetwork
