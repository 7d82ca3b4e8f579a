import AwesomeNetwork.Networking.CancelledCalls
import AwesomeNetwork.Networking.SessionTrace

/-! # What a call can be answered with

Whatever the other calls do, and whatever becomes of the cache rule and of the tasks in the
meantime, a call is answered with the cached value that it found, with the error of the rule
or with the last reply to its own attempts, in this order and each at most once.
-/

namespace AwesomeNetwork

/-- The outcome is that of the last reply to the attempts of the call. -/
def Call.Replied (call : Call) (outcome : Outcome) : Prop :=
  ∃ past response, call.responses = past ++ [response] ∧ response.outcome = outcome

/-- What was observed of the call, by where it stands. -/
def Call.Observed (call : Call) : Prop :=
  match call.phase with
  | .deciding => call.trace = call.servedEvents
  | .gated _ _ | .inFlight _ _ | .waiting _ => call.trace = call.servedEvents ++ [.fetchStarted]
  | .answered _ _ outcome | .removed _ outcome =>
      call.trace = call.servedEvents ++ [.fetchStarted] ∧ call.Replied outcome
  | .ended => call.trace = call.servedEvents ∨
      call.trace = call.servedEvents ++ [.fetchStarted] ∨
      (call.served = none ∧ call.trace = [.delivered none (some cacheRuleError)]) ∨
      ∃ outcome : Outcome, call.Replied outcome ∧ call.trace =
        call.servedEvents ++ [.fetchStarted, .delivered outcome.data outcome.error]

/-- The answers that a call was delivered are the value that it found in the cache, if any, and
then at most one more: the error of the rule or the last reply to its own attempts. -/
def Call.DeliversOwn (call : Call) : Prop :=
  call.trace.filter Event.isDelivery = call.servedEvents ∨
    (call.phase = .ended ∧ call.served = none ∧
      call.trace.filter Event.isDelivery = [.delivered none (some cacheRuleError)]) ∨
    (call.phase = .ended ∧ ∃ past response, call.responses = past ++ [response] ∧
      call.trace.filter Event.isDelivery =
        call.servedEvents ++ [.delivered response.outcome.data response.outcome.error])

/-- An observed call delivers what is its own. -/
theorem Call.Observed.deliversOwn {call : Call} (observed : call.Observed) :
    call.DeliversOwn := by
  have served : call.servedEvents.filter Event.isDelivery = call.servedEvents := by
    unfold Call.servedEvents
    cases call.served <;> rfl
  have started : (call.servedEvents ++ [Event.fetchStarted]).filter Event.isDelivery =
      call.servedEvents := by
    rw [List.filter_append, served]
    exact List.append_nil _
  unfold Call.Observed at observed
  unfold Call.DeliversOwn
  cases phase : call.phase with
  | deciding =>
      rw [phase] at observed
      exact Or.inl (observed ▸ served)
  | gated retries block =>
      rw [phase] at observed
      exact Or.inl (observed ▸ started)
  | inFlight retries task =>
      rw [phase] at observed
      exact Or.inl (observed ▸ started)
  | waiting retries =>
      rw [phase] at observed
      exact Or.inl (observed ▸ started)
  | answered retries task outcome =>
      rw [phase] at observed
      exact Or.inl (observed.1 ▸ started)
  | removed retries outcome =>
      rw [phase] at observed
      exact Or.inl (observed.1 ▸ started)
  | ended =>
      rw [phase] at observed
      rcases observed with trace | trace | ⟨nothing, trace⟩ | ⟨outcome, replied, trace⟩
      · exact Or.inl (trace ▸ served)
      · exact Or.inl (trace ▸ started)
      · refine Or.inr (Or.inl ⟨rfl, nothing, ?_⟩)
        rw [trace]
        rfl
      · obtain ⟨past, response, responses, rfl⟩ := replied
        refine Or.inr (Or.inr ⟨rfl, past, response, responses, ?_⟩)
        rw [trace, List.filter_append, served]
        rfl

namespace Session

variable {session next source target : Session} {label : Label} {labels : List Label}
  {name : Nat} {before after call : Call}

/-- An attempt keeps the call observed. -/
theorem observed_perform (requester : AwesomeRequester) (retries : Int) (block task : Nat)
    (trace : call.trace = call.servedEvents ++ [.fetchStarted]) :
    (call.perform requester retries block task).Observed := by
  unfold Call.perform
  split
  · exact Or.inr (Or.inl trace)
  · split <;> exact trace

/-- Every move keeps the call observed. -/
theorem observed_moves (moves : Moves session label name before after)
    (observed : before.Observed) : after.Observed := by
  cases moves with
  | stay => exact observed
  | decide own deciding =>
      unfold Call.Observed at observed
      rw [deciding] at observed
      unfold Call.decide
      split
      · split
        · exact Or.inl observed
        · apply observed_perform
          exact congrArg (· ++ [Event.fetchStarted]) observed
      · split
        · next unserved =>
            have nothing : before.served = none := by
              unfold Call.didReturnCache at unserved
              cases served : before.served with
              | none => rfl
              | some data =>
                  rw [served] at unserved
                  cases unserved
            refine Or.inr (Or.inr (Or.inl ⟨nothing, ?_⟩))
            have empty : before.servedEvents = [] := by
              unfold Call.servedEvents
              rw [nothing]
              rfl
            change before.trace ++ [Event.delivered none (some cacheRuleError)] = _
            rw [observed, empty]
            rfl
        · exact Or.inl observed
  | runBlock retries block own gated =>
      unfold Call.Observed at observed
      rw [gated] at observed
      exact observed
  | finish retries task data response own inFlight =>
      unfold Call.Observed at observed
      rw [inFlight] at observed
      exact ⟨observed, before.responses, response, rfl, rfl⟩
  | remove retries task outcome own answered =>
      unfold Call.Observed at observed
      rw [answered] at observed
      exact observed
  | respond retries outcome own removed =>
      unfold Call.Observed at observed
      rw [removed] at observed
      obtain ⟨trace, replied⟩ := observed
      unfold Call.respond
      split
      · exact trace
      · split
        · refine Or.inr (Or.inr (Or.inr ⟨outcome, replied, ?_⟩))
          have recorded := congrArg (· ++ [Event.delivered outcome.data outcome.error]) trace
          exact recorded.trans (List.append_assoc ..)
        · exact Or.inr (Or.inl trace)
  | retry retries requester own waiting =>
      unfold Call.Observed at observed
      rw [waiting] at observed
      exact observed_perform requester _ _ _ observed

/-- Every run keeps the calls observed. -/
theorem observed_run (run : Transition.Run step source labels target)
    (observed : source.calls.All fun _ call => call.Observed) :
    target.calls.All fun _ call => call.Observed := by
  apply run.preserves _ observed
  intro state label next all taken name after present
  rcases step_call_inv taken present with ⟨before, found, moves⟩ | ⟨request, _, _, rfl⟩
  · exact observed_moves moves (all name before found)
  · exact rfl

/-- **Answers of a call.** In every run, whatever the rules and the cancellations, what was
delivered to a call is the value it found in the cache, if any, and then at most one more
answer: the error of the rule, when nothing was found, or the last reply to the call's own
attempts, once it has ended. -/
theorem deliveries_of_run (shared : Shared) (realm : Realm)
    (run : Transition.Run step (started shared realm) labels session)
    (present : session.calls.get? name = some call) :
    call.trace.filter Event.isDelivery = call.servedEvents ∨
      (call.phase = .ended ∧ call.served = none ∧
        call.trace.filter Event.isDelivery = [.delivered none (some cacheRuleError)]) ∨
      (call.phase = .ended ∧ ∃ past response, call.responses = past ++ [response] ∧
        call.trace.filter Event.isDelivery =
          call.servedEvents ++ [.delivered response.outcome.data response.outcome.error]) :=
  Call.Observed.deliversOwn (observed_run run .empty name call present)

/-- Two calls of one request overlap: the first one retries after a reply that it does not
accept, and the second one gets a reply that it accepts and ends. -/
def twoReplied : List Label :=
  [.requestData pickyRequest, .decide 0, .managers (.requester (.register 0)),
    .managers (.requester (.resume 0)), .requestData pickyRequest, .decide 1,
    .managers (.requester (.register 1)), .managers (.requester (.resume 1)),
    .finish 0 ⟨some [9], some 200, none⟩, .remove 0, .respond 0, .retry 0,
    .finish 1 ⟨some [1], some 200, none⟩, .remove 1, .respond 1]

/-- The second attempt of the first call gets its reply. -/
def lastReplied : List Label :=
  [.managers (.requester (.register 2)), .managers (.requester (.resume 2)),
    .finish 0 ⟨some [9], some 200, none⟩, .remove 0, .respond 0]

/-- The session after both calls. -/
def bothReplied : Session :=
  (Transition.execute step (started pickyWorld.shared pickyWorld.realm)
    (twoReplied ++ lastReplied)).getD (started pickyWorld.shared pickyWorld.realm)

/-- The first call was delivered the cached value and then the last reply to it. -/
theorem deliveries_of_run_superseded : ∃ call past response,
    Transition.Run step (started pickyWorld.shared pickyWorld.realm) (twoReplied ++ lastReplied)
      bothReplied ∧
    bothReplied.calls.get? 0 = some call ∧ call.responses = past ++ [response] ∧
    call.servedEvents = [.delivered (some [1]) none] ∧
    call.trace.filter Event.isDelivery =
      call.servedEvents ++ [.delivered response.outcome.data response.outcome.error] := by
  have run : Transition.Run step (started pickyWorld.shared pickyWorld.realm)
      (twoReplied ++ lastReplied) bothReplied := Transition.run_iff_execute.mpr rfl
  have present : bothReplied.calls.get? 0 = some _ := rfl
  rcases deliveries_of_run _ _ run present with
    few | ⟨_, unserved, _⟩ | ⟨_, past, response, replied, delivered⟩
  · exact absurd few (by decide)
  · exact absurd unserved (by decide)
  · exact ⟨_, past, response, run, present, replied, rfl, delivered⟩

end Session

end AwesomeNetwork
