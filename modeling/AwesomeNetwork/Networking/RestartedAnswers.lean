import AwesomeNetwork.Networking.RestartedOwnership

/-! # Calls under way when the library is started again

A call goes on with the requester that it has decided with: its attempts are tasks of that one,
its retries included, and it is answered as in a session without restarts.
-/

namespace AwesomeNetwork

namespace RestartedSession

variable {session next target : RestartedSession} {label : Label} {labels before after : List Label}
  {name requester : Nat} {useSemaphore : Bool} {timeout : TimeInterval} {rule : AwesomeCacheRule}
  {cacheType : AwesomeCacheType} {realm : Realm}

/-- A call that has decided stays with its requester. -/
theorem serving_step (taken : step session label = some next)
    (bound : session.serving.get? name = some (some requester)) :
    next.serving.get? name = some (some requester) := by
  cases stepCases taken with
  | requestData request => exact Table.get?_push_of_get? _ bound
  | call moving other moved own stepped =>
      change (session.serving.modify other _).get? name = _
      rw [Table.get?_modify]
      split
      · next same =>
          subst same
          rw [bound, requesterOf, bound]
          rfl
      · exact bound
  | _ => exact bound

/-- In every run the calls and their requesters are consistent. -/
theorem consistent_run
    (run : Transition.Run step (started useSemaphore timeout rule cacheType realm) labels target) :
    target.Consistent :=
  run.preserves (fun _ _ _ => consistent_step) (consistent_started ..)

/-- In every run the calls own what they need. -/
theorem owned_run
    (run : Transition.Run step (started useSemaphore timeout rule cacheType realm) labels target) :
    target.Owned := by
  have kept (state : RestartedSession) (label : Label) (next : RestartedSession)
      (both : state.Consistent ∧ state.Owned) (taken : step state label = some next) :
      next.Consistent ∧ next.Owned :=
    ⟨consistent_step both.1 taken, owned_step both.1 both.2 taken⟩
  have first := consistent_started useSemaphore timeout rule cacheType realm
  exact (run.preserves kept
    ⟨first, owned_started useSemaphore timeout rule cacheType realm⟩).2

/-- A call that decides goes to the requester that is installed. -/
theorem serving_decide (consistent : session.Consistent)
    (decides : step session (.call (.decide name)) = some next) :
    next.serving.get? name = some (some session.registries.installed) := by
  cases stepCases decides with
  | call moving other moved own stepped =>
      cases own
      obtain ⟨call, present, deciding, _⟩ := Session.step_decide stepped
      have unbound := consistent.undecided name call present deciding
      have installed : session.requesterOf name = session.registries.installed := by
        unfold requesterOf
        rw [unbound]
        rfl
      rw [serving_absorb consistent present, installed]

/-- A requester serves calls that are there. -/
theorem call_of_serving (consistent : session.Consistent)
    (bound : session.serving.get? name = some (some requester)) :
    ∃ call, session.calls.get? name = some call := by
  have stored := Table.lt_size_of_get? bound
  rw [consistent.serving] at stored
  refine Option.ne_none_iff_exists'.mp fun absent => ?_
  exact absurd stored (Nat.not_lt.mpr (Table.size_le_of_get?_none absent))

/-- **Answers across restarts.** A call that decides while a requester is installed makes all
its attempts with that requester, however often the library is started again: each is a task
of its registry that no other of its calls has, and there is at most one more of them than
there are retries. What the call is delivered is the value that it found in the cache, if any,
and then at most one more answer, the error of the rule or the last reply to these attempts. -/
theorem restarted_answers
    (history : Transition.Run step (started useSemaphore timeout rule cacheType realm) before
      session)
    (decides : step session (.call (.decide name)) = some next)
    (run : Transition.Run step next after target) :
    ∃ call, target.calls.get? name = some call ∧ call.WithinRetries ∧ call.DeliversOwn ∧
      (∀ task ∈ call.tasks, ∃ data,
        (target.registry session.registries.installed).tasks.get? task = some data) ∧
      ∀ other rival, target.calls.get? other = some rival →
        target.serving.get? other = some (some session.registries.installed) →
        ∀ task ∈ call.tasks, task ∈ rival.tasks → name = other := by
  have whole := history.append (.cons decides run)
  have consistent := consistent_run whole
  have owned := owned_run whole session.registries.installed
  have bound : target.serving.get? name = some (some session.registries.installed) :=
    run.preserves (fun _ _ _ bound taken => serving_step taken bound)
      (serving_decide (consistent_run history) decides)
  obtain ⟨call, present⟩ := call_of_serving consistent bound
  have within : target.calls.All fun _ call => call.WithinRetries :=
    all_calls whole (fun _ _ _ => ⟨Nat.le_of_eq (Nat.zero_add _), rfl⟩)
      (fun _ _ _ _ _ => Session.withinRetries_moves) .empty
  have observed : target.calls.All fun _ call => call.Observed :=
    all_calls whole (fun _ _ _ => rfl) (fun _ _ _ _ _ => Session.observed_moves) .empty
  have sees {other : Nat} {rival : Call} (found : target.calls.get? other = some rival)
      (served : target.serving.get? other = some (some session.registries.installed)) :
      (target.view session.registries.installed).calls.get? other = some rival := by
    rw [get?_view, found]
    exact congrArg some (seen_of_eq served)
  refine ⟨call, present, within name call present, (observed name call present).deliversOwn,
    fun task own => ?_, fun other rival found served task own shared => ?_⟩
  · have known := owned.known name call (sees present bound) task own
    refine Option.ne_none_iff_exists'.mp fun absent => ?_
    exact absurd known (Nat.not_lt.mpr (Table.size_le_of_get?_none absent))
  · exact owned.tasks name other call rival task (sees present bound) (sees found served) own
      shared

/-- The starts of the task in the registry of the first requester. -/
def starting (task : Nat) : List Label :=
  [.registries (.requester 0 (.register task)), .registries (.requester 0 (.resume task))]

/-- A reply that the request does not accept. -/
def replying : List Label :=
  [.call (.finish 0 ⟨some [9], some 200, none⟩), .call (.remove 0), .call (.respond 0)]

/-- The library is started again, and all requests are cancelled, while a call is in flight
that retries later. -/
def restarting : List Label :=
  starting 0 ++ [.start true 15 .fromCacheOnly .realm, .registries .cancelAllRequests] ++
    replying ++ [.call (.retry 0)] ++ starting 1 ++ replying

/-- A request is made of a library that has been started. -/
def requested : RestartedSession :=
  (Transition.execute step (started false 15 .fromCacheOrUrl .realm pickyWorld.realm)
    [.requestData pickyRequest]).getD (initial .empty)

/-- The retry goes to the requester that was replaced, and its reply is delivered. -/
theorem restarted_answers_retried : ∃ next target call,
    step requested (.call (.decide 0)) = some next ∧
    Transition.Run step next restarting target ∧ target.calls.get? 0 = some call ∧
    call.trace.filter Event.isDelivery =
      [.delivered (some [1]) none, .delivered (some [9]) none] ∧
    call.tasks = [0, 1] ∧
    ∀ task ∈ call.tasks, ∃ data, (target.registry 0).tasks.get? task = some data := by
  have history : Transition.Run step
      (started false 15 .fromCacheOrUrl .realm pickyWorld.realm) [.requestData pickyRequest]
      requested := Transition.run_iff_execute.mpr rfl
  have run := Transition.run_iff_execute.mpr (rfl : Transition.execute step
    ((requested.step (.call (.decide 0))).getD requested) restarting = some _)
  have decides : step requested (.call (.decide 0)) = some _ := rfl
  obtain ⟨call, present, _, _, attempts, _⟩ := restarted_answers history decides run
  cases present
  exact ⟨_, _, _, decides, run, rfl, rfl, rfl, attempts⟩

end RestartedSession

end AwesomeNetwork
