import AwesomeNetwork.Networking.Session

/-! # Calls after their cancellation

A cancelled attempt reports `nil` like a failed one, so the retry decision does not
see the cancellation, and a call that waits for its delay or in the dispatcher has
no task to cancel. A cancelled call makes no further attempt when it is in flight
and its reply will not be retried.
-/

namespace AwesomeNetwork

/-- The call makes no further attempt, when the attempts for which `cancelled` holds
report `nil`: it has ended, or it has an attempt whose reply is not retried. -/
def Call.NoFurtherAttempt (call : Call) (cancelled : Nat → Prop) : Prop :=
  match call.phase with
  | .inFlight retries task => retries ≤ 0 ∨ ∀ data, (cancelled task → data = none) →
      call.request.isSuccessResponse data = true
  | .answered retries _ outcome | .removed retries outcome =>
      retries ≤ 0 ∨ call.request.isSuccessResponse outcome.data = true
  | .ended => True
  | _ => False

/-- It is enough that the tasks in question are cancelled. -/
theorem Call.NoFurtherAttempt.imp {call : Call} {known cancelled : Nat → Prop}
    (settled : call.NoFurtherAttempt known)
    (kept : ∀ retries task, call.phase = .inFlight retries task → known task → cancelled task) :
    call.NoFurtherAttempt cancelled := by
  unfold NoFurtherAttempt at *
  cases phase : call.phase with
  | inFlight retries task =>
      rw [phase] at settled
      refine settled.imp_right fun accepts data reported => accepts data fun yes => ?_
      exact reported (kept retries task phase yes)
  | _ =>
      rw [phase] at settled
      exact settled

/-- The call has decided and not ended. -/
def Call.Outstanding (call : Call) : Prop := call.phase ≠ .deciding ∧ call.phase ≠ .ended

namespace Session

/-- The task was cancelled. -/
def IsCancelled (session : Session) (task : Nat) : Prop :=
  ∃ data, session.managers.requester.tasks.get? task = some data ∧ data.cancelled = true

/-- The step cancels the call: it begins `cancelAllRequests` while the call is
outstanding, or it cancels the pending task of the call. -/
inductive CancelsCall (session next : Session) (name : Nat) : Label → Prop
  | all (call : Call) : session.calls.get? name = some call → call.Outstanding →
      CancelsCall session next name (.managers .cancelAllRequests)
  | task (label : RequestManagers.Label String) (call : Call) (retries : Int) (task : Nat)
      (data : URLSessionTask String) : session.calls.get? name = some call →
      call.phase = .inFlight retries task →
      session.managers.requester.tasks.get? task = some data → data.Pending →
      next.IsCancelled task → CancelsCall session next name (.managers label)

/-- When the step cancels the call, the call makes no further attempt: of a cancelled
task this is known from the reply `nil`. -/
def CancelsForGood (session : Session) (name : Nat) : Label → Prop
  | .managers .cancelAllRequests => ∀ call, session.calls.get? name = some call →
      call.NoFurtherAttempt session.IsCancelled
  | _ => ∀ call, session.calls.get? name = some call → call.NoFurtherAttempt fun _ => True

variable {session next target : Session} {label : Label} {name : Nat} {before after call : Call}
  {cancelled : Nat → Prop}

/-- A task that was cancelled has been cancelled for good. -/
theorem isCancelled_step (taken : step session label = some next) {task : Nat}
    (already : session.IsCancelled task) : next.IsCancelled task := by
  obtain ⟨data, present, cancelled⟩ := already
  rcases step_requester taken with same | ⟨moved, change⟩
  · exact ⟨data, same ▸ present, cancelled⟩
  · obtain ⟨after, found, evolves⟩ := AwesomeRequestManager.step_task change present
    exact ⟨after, found, evolves.cancelled cancelled⟩

theorem calls_managers {label : RequestManagers.Label String}
    (taken : step session (.managers label) = some next) : next.calls = session.calls := by
  cases stepCases taken with
  | managers _ managers => rfl

/-- A cancelled task has no data. -/
theorem outcome_data_of_cancelled {response : SessionResponse} (cancelled : response.isCancelled) :
    response.outcome.data = none := by
  unfold SessionResponse.isCancelled at cancelled
  obtain ⟨error, failed, code⟩ := Option.map_eq_some_iff.mp cancelled
  apply response.outcome_data_of_error
  unfold SessionResponse.outcome
  rw [failed]
  dsimp only
  split
  · exact nofun
  · split
    · exact nofun
    · exact nofun

/-- A call that makes no further attempt goes on making none, and gets no task. -/
theorem noFurtherAttempt_moves (moves : Moves session label name before after)
    (settled : before.NoFurtherAttempt session.IsCancelled)
    (kept : ∀ task, session.IsCancelled task → cancelled task) :
    after.NoFurtherAttempt cancelled ∧ after.tasks = before.tasks := by
  have quiet := settled
  unfold Call.NoFurtherAttempt at settled
  cases moves with
  | stay => exact ⟨quiet.imp fun _ task _ => kept task, rfl⟩
  | decide own deciding =>
      rw [deciding] at settled
      exact settled.elim
  | runBlock retries block own gated =>
      rw [gated] at settled
      exact settled.elim
  | finish retries task data response own inFlight present honest =>
      rw [inFlight] at settled
      refine ⟨settled.imp_right fun accepts => accepts _ ?_, rfl⟩
      rintro ⟨other, found, known⟩
      cases Option.some.inj (found.symm.trans present)
      exact outcome_data_of_cancelled (honest known)
  | remove retries task outcome own answered =>
      rw [answered] at settled
      exact ⟨settled, rfl⟩
  | respond retries outcome own removed =>
      rw [removed] at settled
      have stops : ¬ before.Retries retries outcome := by
        rintro ⟨rejected, left⟩
        rcases settled with used | accepted
        · omega
        · rw [rejected] at accepted
          cases accepted
      unfold Call.respond
      rw [if_neg stops]
      split <;> exact ⟨trivial, rfl⟩
  | retry retries requester own waiting =>
      rw [waiting] at settled
      exact settled.elim

/-- A cancellation for good leaves the call no further attempt. -/
theorem noFurtherAttempt_of_cancels (cancels : CancelsCall session next name label)
    (forGood : CancelsForGood session name label) (taken : step session label = some next)
    (present : session.calls.get? name = some call) : next.calls.get? name = some call ∧
      call.NoFurtherAttempt next.IsCancelled := by
  cases cancels with
  | all other =>
      rw [calls_managers taken]
      exact ⟨present, (forGood call present).imp fun _ task _ => isCancelled_step taken⟩
  | task label other retries task data found inFlight pending uncancelled known =>
      cases Option.some.inj (found.symm.trans present)
      rw [calls_managers taken]
      refine ⟨present, ?_⟩
      have same (left : Int) (other : Nat) (flying : call.phase = .inFlight left other) :
          next.IsCancelled other := by
        cases inFlight.symm.trans flying
        exact known
      unfold CancelsForGood at forGood
      split at forGood
      · exact (forGood call present).imp fun left other flying _ => same left other flying
      · exact (forGood call present).imp fun left other flying _ => same left other flying

/-- The call has been given these tasks and makes no further attempt. -/
def SettledWith (name : Nat) (tasks : List Nat) (session : Session) : Prop :=
  ∃ call, session.calls.get? name = some call ∧ call.NoFurtherAttempt session.IsCancelled ∧
    call.tasks = tasks

/-- **Cancellation is final** for a call that is cancelled for good: whatever happens
afterwards, no task is created for it. -/
theorem cancelled_call_gets_no_task {labels : List Label}
    (cancels : CancelsCall session next name label) (forGood : CancelsForGood session name label)
    (taken : step session label = some next) (run : Transition.Run step next labels target)
    (present : session.calls.get? name = some call) :
    ∃ after, target.calls.get? name = some after ∧ after.tasks = call.tasks := by
  obtain ⟨kept, settled⟩ := noFurtherAttempt_of_cancels cancels forGood taken present
  have kept : SettledWith name call.tasks target := by
    apply run.preserves _ ⟨call, kept, settled, rfl⟩
    rintro state moved following ⟨current, found, quiet, tasks⟩ stepped
    obtain ⟨later, reached, moves⟩ := step_call stepped found
    obtain ⟨still, same⟩ := noFurtherAttempt_moves moves quiet fun task => isCancelled_step stepped
    exact ⟨later, reached, still, same.trans tasks⟩
  obtain ⟨after, found, _, tasks⟩ := kept
  exact ⟨after, found, tasks⟩

/-- A request that cancels the previous one of its key, with its number of retries. -/
def superseding (retryCount : Int) : AwesomeRequestProtocol where
  urlString := "https://a.example/items"
  urlRequest := some (URLRequest.request ⟨some "https", some "a.example", "/items", none⟩
    (some .GET) none none 15)
  cacheRule := fun _ => .fromURL
  retryCount := retryCount
  cancelPreviousRequest := true

/-- A first call is in flight and a second one has created its task. -/
def twoCalls (retryCount : Int) : List Label :=
  [.requestData (superseding retryCount), .decide 0,
    .managers (.requester (.cancelPrevious 0)), .managers (.requester (.register 0)),
    .managers (.requester (.resume 0)), .requestData (superseding retryCount), .decide 1]

/-- The session in which the second call is about to cancel the task of the first. -/
def superseded (retryCount : Int) : Session :=
  (Transition.execute step (started pickyWorld.shared Realm.empty) (twoCalls retryCount)).getD
    (started pickyWorld.shared Realm.empty)

/-- The first call gets the reply to its cancelled task, while the second one starts. -/
def firstReplied : List Label :=
  [.finish 0 ⟨none, none, some ⟨NSURLErrorCancelled, "cancelled"⟩⟩, .remove 0,
    .managers (.requester (.register 1)), .managers (.requester (.resume 1)), .respond 0]

/-- The superseded call retries, and cancels the one that superseded it. -/
theorem superseded_call_comes_back :
    Transition.Run step (started pickyWorld.shared Realm.empty) (twoCalls 1) (superseded 1) ∧
      ∃ next target before after,
        step (superseded 1) (.managers (.requester (.cancelPrevious 1))) = some next ∧
        CancelsCall (superseded 1) next 0 (.managers (.requester (.cancelPrevious 1))) ∧
        Transition.Run step next
          (firstReplied ++ [.retry 0, .managers (.requester (.cancelPrevious 2))]) target ∧
        (superseded 1).calls.get? 0 = some before ∧ before.tasks = [0] ∧
        target.calls.get? 0 = some after ∧ after.tasks = [0, 2] ∧ target.IsCancelled 1 :=
  ⟨Transition.run_iff_execute.mpr rfl, _, _, _, _, rfl,
    .task _ _ _ _ _ rfl rfl rfl ⟨rfl, rfl⟩ ⟨_, rfl, rfl⟩,
    Transition.run_iff_execute.mpr rfl, rfl, rfl, rfl, rfl, _, rfl, rfl⟩

/-- A superseded call without retries. -/
theorem cancelled_call_gets_no_task_superseded :
    ∃ target, Transition.Run step (superseded 0)
        (.managers (.requester (.cancelPrevious 1)) :: firstReplied) target ∧
      ∃ after, target.calls.get? 0 = some after ∧ after.tasks = [0] := by
  have taken : step (superseded 0) (.managers (.requester (.cancelPrevious 1))) = some _ := rfl
  refine ⟨_, .cons taken (Transition.run_iff_execute.mpr rfl), ?_⟩
  refine cancelled_call_gets_no_task (.task _ _ _ _ _ rfl rfl rfl ⟨rfl, rfl⟩ ⟨_, rfl, rfl⟩) ?_ taken
    (Transition.run_iff_execute.mpr (rfl : Transition.execute step _ firstReplied = some _))
    (rfl : (superseded 0).calls.get? 0 = some _)
  intro call present
  cases present
  exact Or.inl (Int.le_refl 0)

end Session

end AwesomeNetwork
