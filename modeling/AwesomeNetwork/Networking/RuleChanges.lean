import AwesomeNetwork.Networking.Answers

/-! # Calls under a changing default rule

One call of `requestData` is followed while the default rule is changed, by itself or by
starting the library again. The call reads its rule when it looks at the cache, when it
decides to go to the URL, and once more when the final reply is there; it fetches with
the requester that it found installed at its decision.
-/

namespace AwesomeNetwork

instance (rule : AwesomeCacheRule) (served : Option Data) : Decidable (MustReturnUrl rule served) :=
  inferInstanceAs (Decidable (_ ∧ _))

/-- The deliveries of a call are those of the rule, with the outcome of the last response
where the rule returns what the URL gives. -/
def DeliversAs (rule : AwesomeCacheRule) (served : Option Data) (call : Call) : Prop :=
  ∃ outcome,
    (MustReturnUrl rule served →
      call.responses.getLast?.map SessionResponse.outcome = some outcome) ∧
    call.trace.filter Event.isDelivery =
      (expectedEvents rule served outcome).filter Event.isDelivery

section Deliveries

variable {rule : AwesomeCacheRule} {served : Option Data} {call : Call}

/-- The delivery of what the cache had. -/
def servedDeliveries (served : Option Data) : List Event :=
  served.toList.map fun data => .delivered (some data) none

/-- What was served is all delivered. -/
theorem filter_servedDeliveries (served : Option Data) :
    (servedDeliveries served).filter Event.isDelivery = servedDeliveries served := by
  cases served <;> rfl

/-- The deliveries of a call that has fetched. -/
theorem filter_fetched (served : Option Data) {outcome : Outcome} {returned : Bool}
    (trace : call.trace = (served.toList.map fun data => .delivered (some data) none) ++
      [.fetchStarted] ++ if returned = true then [.delivered outcome.data outcome.error] else []) :
    call.trace.filter Event.isDelivery = servedDeliveries served ++
      if returned = true then [.delivered outcome.data outcome.error] else [] := by
  have begun : (servedDeliveries served ++ [Event.fetchStarted]).filter Event.isDelivery =
      servedDeliveries served := by
    rw [List.filter_append]
    exact (List.append_nil _).trans (filter_servedDeliveries served)
  rw [trace, List.filter_append]
  refine congrArg₂ (· ++ ·) begun ?_
  cases returned <;> rfl

/-- What a rule delivers after the served value. -/
def laterDeliveries (rule : AwesomeCacheRule) (served : Option Data) (outcome : Outcome) :
    List Event :=
  if MustReturnUrl rule served then [.delivered outcome.data outcome.error]
  else if served = none then [.delivered none (some cacheRuleError)]
  else []

/-- The expected deliveries: what was served, and what comes later. -/
theorem filter_expectedEvents (reads : served ≠ none → rule ≠ .fromURL) (outcome : Outcome) :
    (expectedEvents rule served outcome).filter Event.isDelivery =
      servedDeliveries served ++ laterDeliveries rule served outcome := by
  cases served with
  | none => cases rule <;> rfl
  | some data =>
      cases rule with
      | fromURL => exact (reads nofun rfl).elim
      | _ => rfl

/-- Whether a call keeps to a rule is decided by what it delivers after the served value. -/
theorem deliversAs_iff (reads : served ≠ none → rule ≠ .fromURL) {later : List Event}
    (trace : call.trace.filter Event.isDelivery = servedDeliveries served ++ later) :
    DeliversAs rule served call ↔
      ∃ outcome,
        (MustReturnUrl rule served →
          call.responses.getLast?.map SessionResponse.outcome = some outcome) ∧
        later = laterDeliveries rule served outcome := by
  unfold DeliversAs
  simp only [trace, filter_expectedEvents reads, List.append_cancel_left_eq]

/-- A call that was not to fetch keeps to a rule that does not return what the URL gives. -/
theorem deliversAs_refused_iff (reads : served ≠ none → rule ≠ .fromURL)
    (unanswered : call.responses = [])
    (trace : call.trace.filter Event.isDelivery = servedDeliveries served ++
      if served = none then [.delivered none (some cacheRuleError)] else []) :
    DeliversAs rule served call ↔ ¬ MustReturnUrl rule served := by
  rw [deliversAs_iff reads trace, unanswered]
  constructor
  · rintro ⟨outcome, last, _⟩ must
    cases last must
  · intro free
    refine ⟨⟨none, none⟩, fun must => (free must).elim, ?_⟩
    unfold laterDeliveries
    rw [if_neg free]

/-- A call that was dropped keeps to a rule that only returns the served value. -/
theorem deliversAs_dropped_iff (reads : served ≠ none → rule ≠ .fromURL)
    (unanswered : call.responses = [])
    (trace : call.trace.filter Event.isDelivery = servedDeliveries served) :
    DeliversAs rule served call ↔ served ≠ none ∧ ¬ MustReturnUrl rule served := by
  rw [← List.append_nil (servedDeliveries served)] at trace
  rw [deliversAs_iff reads trace, unanswered]
  constructor
  · rintro ⟨outcome, last, later⟩
    have free : ¬ MustReturnUrl rule served := fun must => by cases last must
    refine ⟨fun none => ?_, free⟩
    unfold laterDeliveries at later
    rw [if_neg free, if_pos none] at later
    cases later
  · rintro ⟨present, free⟩
    refine ⟨⟨none, none⟩, fun must => (free must).elim, ?_⟩
    unfold laterDeliveries
    rw [if_neg free, if_neg present]

/-- A call that has fetched keeps to a rule that fetches if nothing was served and that
returns the final reply as the call did. -/
theorem deliversAs_fetched_iff (reads : served ≠ none → rule ≠ .fromURL)
    {response : SessionResponse} {returned : Bool}
    (last : call.responses.getLast? = some response)
    (trace : call.trace.filter Event.isDelivery = servedDeliveries served ++
      if returned then [.delivered response.outcome.data response.outcome.error] else []) :
    DeliversAs rule served call ↔
      (served = none → MustReturnUrl rule served) ∧
        (returned = true ↔ MustReturnUrl rule served) := by
  rw [deliversAs_iff reads trace, last]
  unfold laterDeliveries
  by_cases must : MustReturnUrl rule served
  · simp only [must, forall_const, ↓reduceIte, iff_true, implies_true, true_and]
    constructor
    · rintro ⟨outcome, _, later⟩
      cases returned with
      | false => cases later
      | true => rfl
    · rintro rfl
      exact ⟨response.outcome, rfl, rfl⟩
  · simp only [must, false_implies, ↓reduceIte, iff_false, imp_false, true_and]
    constructor
    · rintro ⟨_, later⟩
      by_cases absent : served = none
      · rw [if_pos absent] at later
        cases returned with
        | false => cases later
        | true =>
            have other : response.outcome.error ≠ some cacheRuleError :=
              response.outcome_error_ne (fun _ => ⟨nofun, nofun, nofun, nofun⟩) nofun
            exact (other (Event.delivered.inj (List.cons.inj later).1).2).elim
      · rw [if_neg absent] at later
        refine ⟨absent, fun returns => ?_⟩
        rw [if_pos returns] at later
        cases later
    · rintro ⟨present, kept⟩
      refine ⟨⟨none, none⟩, ?_⟩
      rw [if_neg present, if_neg kept]

end Deliveries

namespace Call

variable {call : Call} {shared : Shared}

theorem perform_kept (call : Call) (requester : AwesomeRequester) (retries : Int)
    (block task : Nat) :
    (call.perform requester retries block task).served = call.served ∧
      (call.perform requester retries block task).responses = call.responses := by
  unfold perform
  split
  · exact ⟨rfl, rfl⟩
  · split <;> exact ⟨rfl, rfl⟩

theorem decide_kept (call : Call) (shared : Shared) (block task : Nat) :
    (call.decide shared block task).served = call.served ∧
      (call.decide shared block task).responses = call.responses := by
  unfold decide
  split
  · split
    · exact ⟨rfl, rfl⟩
    · exact perform_kept _ _ _ _ _
  · split <;> exact ⟨rfl, rfl⟩

/-- A call that is not to go to the URL ends with what it has served or with an error. -/
theorem decide_refused
    (kept : ¬ (call.request.cacheRule shared).shouldGetFromUrl call.didReturnCache = true)
    (trace : call.trace = call.servedEvents) (block task : Nat) :
    (call.decide shared block task).phase = .ended ∧
      (call.decide shared block task).trace = servedDeliveries call.served ++
        if call.served = none then [.delivered none (some cacheRuleError)] else [] := by
  unfold decide didReturnCache at *
  rw [if_neg kept]
  cases value : call.served with
  | none =>
      refine ⟨rfl, ?_⟩
      change call.trace ++ _ = _
      rw [trace, servedEvents, value]
      rfl
  | some data =>
      refine ⟨rfl, ?_⟩
      change call.trace = _
      rw [trace, servedEvents, value]
      rfl

/-- A call that fetches, whose replies are those of its responses. -/
structure Replying (call : Call) : Prop where
  underway : call.Underway
  answered : ∀ retries task outcome, call.phase = .answered retries task outcome →
    call.responses.getLast?.map SessionResponse.outcome = some outcome
  removed : ∀ retries outcome, call.phase = .removed retries outcome →
    call.responses.getLast?.map SessionResponse.outcome = some outcome

/-- A call under way without an answer is waiting for its reply. -/
theorem Replying.of_unanswered (underway : call.Underway)
    (unanswered : ∀ retries task outcome, call.phase ≠ .answered retries task outcome)
    (unremoved : ∀ retries outcome, call.phase ≠ .removed retries outcome) : call.Replying where
  underway := underway
  answered retries task outcome reached := (unanswered retries task outcome reached).elim
  removed retries outcome reached := (unremoved retries outcome reached).elim

/-- A call that performs a request with a URL waits for a reply. -/
theorem replying_perform (requested : call.request.urlRequest.isSome = true)
    (trace : call.trace = call.servedEvents ++ [.fetchStarted]) (requester : AwesomeRequester)
    (retries : Int) (block task : Nat) : (call.perform requester retries block task).Replying := by
  obtain ⟨urlRequest, present⟩ := Option.isSome_iff_exists.mp requested
  unfold perform
  rw [present]
  dsimp only
  split
  · exact .of_unanswered ⟨nofun, nofun, requested, trace⟩
      (fun _ _ _ reached => nomatch reached) fun _ _ reached => nomatch reached
  · exact .of_unanswered ⟨nofun, nofun, requested, trace⟩
      (fun _ _ _ reached => nomatch reached) fun _ _ reached => nomatch reached

/-- A call that goes to the URL waits for its reply. -/
theorem replying_decide {requester : AwesomeRequester}
    (installed : shared.requester = some requester)
    (asked : (call.request.cacheRule shared).shouldGetFromUrl call.didReturnCache = true)
    (requested : call.request.urlRequest.isSome = true)
    (trace : call.trace = call.servedEvents) (block task : Nat) :
    (call.decide shared block task).Replying := by
  unfold decide
  rw [if_pos asked, installed]
  dsimp only
  apply replying_perform
  · exact requested
  · exact congrArg (· ++ [Event.fetchStarted]) trace

end Call

/-- A call with the configuration that it reads and the requester that it fetches with. -/
structure Delivery where
  shared : Shared
  requester : Option AwesomeRequester
  call : Call

namespace Delivery

/-- A step of one call, or a change of the default rule. -/
inductive Label where
  | setDefaultCacheRule (rule : AwesomeCacheRule)
  | start (useSemaphore : Bool) (defaultRequestTimeout : TimeInterval)
      (defaultCacheRule : AwesomeCacheRule) (cacheType : AwesomeCacheType)
  | decide (block task : Nat)
  | runBlock (task : Nat)
  | finish (response : SessionResponse)
  | remove
  | respond
  | retry (block task : Nat)

/-- A call that has just looked at the cache. -/
def begun (request : AwesomeRequestProtocol) (shared : Shared) (realm : Realm) : Delivery where
  shared := shared
  requester := shared.requester
  call := .start request shared realm

/-- The moves of the call; the names of blocks and tasks are left to the surroundings. -/
def step (delivery : Delivery) : Label → Option Delivery
  | .setDefaultCacheRule rule => some { delivery with shared.defaultCacheRule := rule }
  | .start useSemaphore defaultRequestTimeout defaultCacheRule cacheType =>
      some { delivery with
        shared := AwesomeNetwork.start useSemaphore defaultRequestTimeout defaultCacheRule
          cacheType }
  | .decide block task =>
      match delivery.call.phase with
      | .deciding =>
          some { delivery with
            requester := delivery.shared.requester
            call := delivery.call.decide delivery.shared block task }
      | _ => none
  | .runBlock task =>
      match delivery.call.phase with
      | .gated retries _ => some { delivery with call := delivery.call.send retries task }
      | _ => none
  | .finish response =>
      match delivery.call.phase with
      | .inFlight retries task =>
          some { delivery with call := { delivery.call with
            phase := .answered retries task response.outcome
            responses := delivery.call.responses ++ [response] } }
      | _ => none
  | .remove =>
      match delivery.call.phase with
      | .answered retries _ outcome =>
          some { delivery with call := delivery.call.moveTo (.removed retries outcome) }
      | _ => none
  | .respond =>
      match delivery.call.phase with
      | .removed retries outcome =>
          some { delivery with call := delivery.call.respond delivery.shared retries outcome }
      | _ => none
  | .retry block task =>
      -- the closure of the requester performs the request again, not the installed one
      match delivery.call.phase, delivery.requester with
      | .waiting retries, some requester =>
          some { delivery with call := delivery.call.perform requester retries block task }
      | _, _ => none

/-- What a step does, with the phase that it needs. -/
inductive StepCases (delivery : Delivery) : Label → Delivery → Prop
  | setDefaultCacheRule (rule : AwesomeCacheRule) :
      StepCases delivery (.setDefaultCacheRule rule)
        { delivery with shared.defaultCacheRule := rule }
  | start (useSemaphore : Bool) (defaultRequestTimeout : TimeInterval)
      (defaultCacheRule : AwesomeCacheRule) (cacheType : AwesomeCacheType) :
      StepCases delivery (.start useSemaphore defaultRequestTimeout defaultCacheRule cacheType)
        { delivery with
          shared := AwesomeNetwork.start useSemaphore defaultRequestTimeout defaultCacheRule
            cacheType }
  | decide (block task : Nat) : delivery.call.phase = .deciding →
      StepCases delivery (.decide block task) { delivery with
        requester := delivery.shared.requester
        call := delivery.call.decide delivery.shared block task }
  | runBlock (task : Nat) (retries : Int) (block : Nat) :
      delivery.call.phase = .gated retries block →
      StepCases delivery (.runBlock task) { delivery with call := delivery.call.send retries task }
  | finish (response : SessionResponse) (retries : Int) (task : Nat) :
      delivery.call.phase = .inFlight retries task →
      StepCases delivery (.finish response) { delivery with call := { delivery.call with
        phase := .answered retries task response.outcome
        responses := delivery.call.responses ++ [response] } }
  | remove (retries : Int) (task : Nat) (outcome : Outcome) :
      delivery.call.phase = .answered retries task outcome →
      StepCases delivery .remove
        { delivery with call := delivery.call.moveTo (.removed retries outcome) }
  | respond (retries : Int) (outcome : Outcome) :
      delivery.call.phase = .removed retries outcome →
      StepCases delivery .respond
        { delivery with call := delivery.call.respond delivery.shared retries outcome }
  | retry (block task : Nat) (retries : Int) (requester : AwesomeRequester) :
      delivery.call.phase = .waiting retries → delivery.requester = some requester →
      StepCases delivery (.retry block task)
        { delivery with call := delivery.call.perform requester retries block task }

variable {delivery next source target : Delivery} {label : Label} {labels : List Label}
  {rule : AwesomeCacheRule}

/-- Every step is one of these cases. -/
theorem stepCases (taken : step delivery label = some next) : StepCases delivery label next := by
  cases label with
  | setDefaultCacheRule rule =>
      cases taken
      exact .setDefaultCacheRule rule
  | start useSemaphore defaultRequestTimeout defaultCacheRule cacheType =>
      cases taken
      exact .start useSemaphore defaultRequestTimeout defaultCacheRule cacheType
  | decide block task =>
      unfold step at taken
      dsimp only at taken
      split at taken
      · next deciding =>
          cases taken
          exact .decide block task deciding
      · cases taken
  | runBlock task =>
      unfold step at taken
      dsimp only at taken
      split at taken
      · next retries block gated =>
          cases taken
          exact .runBlock task retries block gated
      · cases taken
  | finish response =>
      unfold step at taken
      dsimp only at taken
      split at taken
      · next retries task inFlight =>
          cases taken
          exact .finish response retries task inFlight
      · cases taken
  | remove =>
      unfold step at taken
      dsimp only at taken
      split at taken
      · next retries task outcome answered =>
          cases taken
          exact .remove retries task outcome answered
      · cases taken
  | respond =>
      unfold step at taken
      dsimp only at taken
      split at taken
      · next retries outcome removed =>
          cases taken
          exact .respond retries outcome removed
      · cases taken
  | retry block task =>
      unfold step at taken
      dsimp only at taken
      split at taken
      · next retries requester waiting found =>
          cases taken
          exact .retry block task retries requester waiting found
      · cases taken

/-- The rule that the call decides by sends it to its URL if the given rule has it return
what the URL gives, and if nothing was served only then. -/
def DecidesAs (rule : AwesomeCacheRule) (delivery : Delivery) : Prop :=
  (MustReturnUrl rule delivery.call.served →
    (delivery.call.request.cacheRule delivery.shared).shouldGetFromUrl
        delivery.call.didReturnCache = true ∧
      delivery.call.request.urlRequest.isSome = true) ∧
  (delivery.call.served = none →
    (delivery.call.request.cacheRule delivery.shared).shouldGetFromUrl
      delivery.call.didReturnCache = true → MustReturnUrl rule delivery.call.served)

/-- The rule read at the final reply returns it as the given rule does. -/
def RepliesAs (rule : AwesomeCacheRule) (delivery : Delivery) : Prop :=
  (delivery.call.request.cacheRule delivery.shared).shouldReturnUrlData
    delivery.call.didReturnCache = true ↔ MustReturnUrl rule delivery.call.served

/-- The rules in force where the call reads its rule again act as the given one. -/
def KeepsDelivery (rule : AwesomeCacheRule) (delivery : Delivery) : Label → Prop
  | .decide _ _ => delivery.DecidesAs rule
  | .respond => ∀ retries outcome, delivery.call.phase = .removed retries outcome →
      ¬ delivery.call.Retries retries outcome → delivery.RepliesAs rule
  | _ => True

/-- A call that has ended stays as it is. -/
theorem ended_run (rule : AwesomeCacheRule) (run : Transition.Run step source labels target)
    (ended : source.call.phase = .ended) :
    target.call = source.call ∧ Transition.Meets step (KeepsDelivery rule) source labels := by
  induction run with
  | nil => exact ⟨rfl, trivial⟩
  | cons taken _ ih =>
      rw [Transition.Meets.cons_iff taken]
      cases stepCases taken with
      | setDefaultCacheRule changed | start useSemaphore timeout changed cacheType =>
          exact ⟨(ih ended).1, trivial, (ih ended).2⟩
      | decide block task reached => cases reached.symm.trans ended
      | runBlock task retries block reached => cases reached.symm.trans ended
      | finish response retries task reached => cases reached.symm.trans ended
      | remove retries task outcome reached => cases reached.symm.trans ended
      | respond retries outcome reached => cases reached.symm.trans ended
      | retry block task retries requester reached => cases reached.symm.trans ended

/-- A step of a call that fetches goes on fetching or takes the final reply. -/
theorem replying_step (replying : delivery.call.Replying)
    (taken : step delivery label = some next) :
    (next.call.Replying ∧ next.call.served = delivery.call.served ∧
        KeepsDelivery rule delivery label) ∨
      ∃ retries outcome, label = .respond ∧ delivery.call.phase = .removed retries outcome ∧
        ¬ delivery.call.Retries retries outcome ∧
        next.call = delivery.call.respond delivery.shared retries outcome := by
  obtain ⟨⟨decided, unfinished, requested, trace⟩, answered, removed⟩ := replying
  cases stepCases taken with
  | setDefaultCacheRule changed | start useSemaphore timeout changed cacheType =>
      exact Or.inl ⟨⟨⟨decided, unfinished, requested, trace⟩, answered, removed⟩, rfl, trivial⟩
  | decide block task reached => exact (decided reached).elim
  | runBlock task retries block gated =>
      exact Or.inl ⟨.of_unanswered ⟨nofun, nofun, requested, trace⟩
        (fun _ _ _ reached => nomatch reached) (fun _ _ reached => nomatch reached), rfl, trivial⟩
  | finish response retries task inFlight =>
      refine Or.inl ⟨⟨⟨nofun, nofun, requested, trace⟩, ?_, (fun _ _ moved => nomatch moved)⟩,
        rfl, trivial⟩
      intro retries task outcome reached
      cases reached
      rw [List.getLast?_append, List.getLast?_singleton]
      rfl
  | remove retries task outcome reached =>
      refine Or.inl ⟨⟨⟨nofun, nofun, requested, trace⟩, (fun _ _ _ moved => nomatch moved), ?_⟩,
        rfl, trivial⟩
      intro left reply moved
      cases moved
      exact answered retries task outcome reached
  | respond retries outcome reached =>
      by_cases retried : delivery.call.Retries retries outcome
      · left
        unfold Call.respond
        rw [if_pos retried]
        refine ⟨.of_unanswered ⟨nofun, nofun, requested, trace⟩
          (fun _ _ _ reached => nomatch reached) (fun _ _ reached => nomatch reached), rfl, ?_⟩
        intro left reply same final
        cases reached.symm.trans same
        exact (final retried).elim
      · exact Or.inr ⟨retries, outcome, rfl, reached, retried, rfl⟩
  | retry block task retries requester waiting found =>
      exact Or.inl ⟨Call.replying_perform requested trace requester retries block task,
        (delivery.call.perform_kept requester retries block task).1, trivial⟩

/-- A call that fetches and ends has returned the reply of its last response or not, and
the run keeps to a rule when that is what the rule says. -/
theorem replying_ended (run : Transition.Run step source labels target)
    (replying : source.call.Replying) (ended : target.call.phase = .ended) :
    ∃ response returned, target.call.responses.getLast? = some response ∧
      target.call.trace = source.call.servedEvents ++ [.fetchStarted] ++
        (if returned = true then [.delivered response.outcome.data response.outcome.error]
          else []) ∧
      (Transition.Meets step (KeepsDelivery rule) source labels ↔
        (returned = true ↔ MustReturnUrl rule source.call.served)) := by
  induction run with
  | nil => exact (replying.underway.unfinished ended).elim
  | @cons source middle target label labels taken rest ih =>
      rw [Transition.Meets.cons_iff taken]
      rcases replying_step replying taken with
        ⟨still, same, keeps⟩ | ⟨retries, outcome, rfl, removed, final, moved⟩
      · obtain ⟨response, returned, last, trace, meets⟩ := ih still ended
        unfold Call.servedEvents at trace ⊢
        rw [same] at trace meets
        exact ⟨response, returned, last, trace, (and_iff_right keeps).trans meets⟩
      · obtain ⟨response, last, rfl⟩ :=
          Option.map_eq_some_iff.mp (replying.removed retries outcome removed)
        have ends : middle.call.phase = .ended := by
          rw [moved]
          unfold Call.respond
          rw [if_neg final]
          split <;> rfl
        obtain ⟨same, meets⟩ := ended_run rule rest ends
        refine ⟨response, (source.call.request.cacheRule source.shared).shouldReturnUrlData
          source.call.didReturnCache, ?_, ?_, ?_⟩
        · rw [same, moved]
          unfold Call.respond
          rw [if_neg final]
          split <;> exact last
        · rw [same, moved, ← replying.underway.trace_eq]
          unfold Call.respond
          rw [if_neg final]
          split
          · rfl
          · exact (List.append_nil _).symm
        · rw [and_iff_left meets]
          constructor
          · intro keeps
            exact keeps retries response.outcome removed final
          · intro agrees left reply reached _
            exact agrees

/-- From the decision of a call on. -/
theorem decided_deliversAs_iff (reads : source.call.served ≠ none → rule ≠ .fromURL)
    (installed : source.shared.requester.isSome = true) {block task : Nat}
    (trace : source.call.trace = source.call.servedEvents) (unanswered : source.call.responses = [])
    (run : Transition.Run step { source with
      requester := source.shared.requester
      call := source.call.decide source.shared block task } labels target)
    (ended : target.call.phase = .ended) :
    DeliversAs rule source.call.served target.call ↔
      source.DecidesAs rule ∧
        Transition.Meets step (KeepsDelivery rule) { source with
          requester := source.shared.requester
          call := source.call.decide source.shared block task } labels := by
  obtain ⟨requester, installed⟩ := Option.isSome_iff_exists.mp installed
  obtain ⟨served, responses⟩ := source.call.decide_kept source.shared block task
  rw [unanswered] at responses
  unfold DecidesAs
  by_cases asked : (source.call.request.cacheRule source.shared).shouldGetFromUrl
      source.call.didReturnCache = true
  · cases requested : source.call.request.urlRequest with
    | some urlRequest =>
        have replying := Call.replying_decide installed asked (by rw [requested]; rfl) trace
          block task
        obtain ⟨response, returned, last, final, meets⟩ := replying_ended run replying ended
        dsimp only at final meets
        unfold Call.servedEvents at final
        rw [served] at final meets
        rw [meets, deliversAs_fetched_iff reads last (filter_fetched source.call.served final)]
        refine and_congr_left fun _ => ⟨fun needs => ?_, fun keeps none => keeps.2 none asked⟩
        exact ⟨fun _ => ⟨asked, rfl⟩, fun none _ => needs none⟩
    | none =>
        obtain ⟨ends, dropped⟩ := Call.decide_of_no_url installed asked requested block task
        obtain ⟨same, meets⟩ := ended_run rule run ends
        have silent : target.call.trace.filter Event.isDelivery =
            servedDeliveries source.call.served := by
          rw [same, dropped, trace, List.filter_append]
          exact (List.append_nil _).trans (filter_servedDeliveries _)
        rw [and_iff_left meets, deliversAs_dropped_iff reads (same ▸ responses) silent]
        constructor
        · rintro ⟨present, free⟩
          exact ⟨fun must => (free must).elim, fun none => (present none).elim⟩
        · rintro ⟨needs, needed⟩
          have free : ¬ MustReturnUrl rule source.call.served :=
            fun must => Bool.false_ne_true (needs must).2
          exact ⟨fun none => free (needed none asked), free⟩
  · obtain ⟨ends, refused⟩ := Call.decide_refused asked trace block task
    obtain ⟨same, meets⟩ := ended_run rule run ends
    have delivered : target.call.trace.filter Event.isDelivery =
        servedDeliveries source.call.served ++
          if source.call.served = none then [.delivered none (some cacheRuleError)] else [] := by
      rw [same, refused, List.filter_append, filter_servedDeliveries]
      split <;> rfl
    rw [and_iff_left meets, deliversAs_refused_iff reads (same ▸ responses) delivered]
    constructor
    · intro free
      exact ⟨fun must => (free must).elim, fun _ goes => (asked goes).elim⟩
    · rintro ⟨needs, _⟩ must
      exact asked (needs must).1

/-- From the look at the cache on: the rule may change before the call decides. -/
theorem deciding_deliversAs_iff (run : Transition.Run step source labels target)
    (reads : source.call.served ≠ none → rule ≠ .fromURL)
    (installed : source.shared.requester.isSome = true) (undecided : source.call.phase = .deciding)
    (trace : source.call.trace = source.call.servedEvents)
    (unanswered : source.call.responses = []) (ended : target.call.phase = .ended) :
    DeliversAs rule source.call.served target.call ↔
      Transition.Meets step (KeepsDelivery rule) source labels := by
  induction run with
  | nil => cases undecided.symm.trans ended
  | cons taken rest ih =>
      rw [Transition.Meets.cons_iff taken]
      cases stepCases taken with
      | setDefaultCacheRule changed =>
          exact (ih reads installed undecided trace unanswered ended).trans
            (and_iff_right trivial).symm
      | start useSemaphore timeout changed cacheType =>
          exact (ih reads rfl undecided trace unanswered ended).trans (and_iff_right trivial).symm
      | decide block task =>
          exact decided_deliversAs_iff reads installed trace unanswered rest ended
      | runBlock task retries block reached => cases reached.symm.trans undecided
      | finish response retries task reached => cases reached.symm.trans undecided
      | remove retries task outcome reached => cases reached.symm.trans undecided
      | respond retries outcome reached => cases reached.symm.trans undecided
      | retry block task retries requester reached => cases reached.symm.trans undecided

/-- **Deliveries under a changing rule.** The completions delivered to a call are those of
the rule that it was made under exactly when the rules it decides and replies by act as
that rule. -/
theorem ended_deliversAs_iff (request : AwesomeRequestProtocol) (shared : Shared) (realm : Realm)
    (installed : shared.requester.isSome = true)
    (run : Transition.Run step (begun request shared realm) labels target)
    (ended : target.call.phase = .ended) :
    DeliversAs (request.cacheRule shared) (request.servedData shared realm) target.call ↔
      Transition.Meets step (KeepsDelivery (request.cacheRule shared))
        (begun request shared realm) labels :=
  deciding_deliversAs_iff run rule_ne_fromURL_of_servedData installed rfl rfl rfl ended

/-- The call decides, the rule is changed, and the only attempt gets a reply. -/
def changeWhileFetching (rule : AwesomeCacheRule) : List Label :=
  [.decide 0 0, .setDefaultCacheRule rule, .finish ⟨some [1], some 200, none⟩, .remove, .respond]

/-- The rule becomes `fromCacheOnly` while the call fetches: nothing is delivered. -/
theorem change_silences_call :
    ((itemsRequest "a.example").cacheRule = fun shared => shared.defaultCacheRule) ∧
      ∃ target, Transition.Run step
          (begun (itemsRequest "a.example") AwesomeNetwork.started Realm.empty)
          (changeWhileFetching .fromCacheOnly) target ∧
        target.call.phase = .ended ∧ target.call.trace.filter Event.isDelivery = [] ∧
        ¬ DeliversAs .fromCacheOrUrl none target.call := by
  refine ⟨rfl, _, Transition.run_iff_execute.mpr rfl, rfl, rfl, ?_⟩
  rintro ⟨outcome, _, delivered⟩
  have expected :=
    delivered.trans (filter_expectedEvents (fun present => (present rfl).elim) outcome)
  cases expected

/-- A call whose rule stays as it is. -/
theorem ended_deliversAs_iff_items :
    DeliversAs .fromCacheOrUrl none
        { Call.start (itemsRequest "a.example") AwesomeNetwork.started Realm.empty with
          phase := .ended
          trace := [.fetchStarted, .delivered (some [1]) none]
          responses := [⟨some [1], some 200, none⟩]
          tasks := [0] } ↔
      Transition.Meets step (KeepsDelivery .fromCacheOrUrl)
        (begun (itemsRequest "a.example") AwesomeNetwork.started Realm.empty)
        (changeWhileFetching .fromURL) :=
  ended_deliversAs_iff (itemsRequest "a.example") AwesomeNetwork.started Realm.empty rfl
    (Transition.run_iff_execute.mpr
      (rfl : Transition.execute step
        (begun (itemsRequest "a.example") AwesomeNetwork.started Realm.empty)
        (changeWhileFetching .fromURL) = some _)) rfl

end Delivery

namespace Session

variable {source next target : Session} {label : Label} {labels : List Label} {name : Nat}
  {call : Call}

/-- What a call of a session reads. -/
def delivery (session : Session) (call : Call) : Delivery :=
  ⟨session.shared, session.shared.requester, call⟩

/-- Only a change of the rule changes the configuration. -/
theorem step_shared_eq (taken : step source label = some next)
    (steady : ∀ rule, label ≠ .setDefaultCacheRule rule) : next.shared = source.shared := by
  cases stepCases taken with
  | decide other call =>
      unfold decide
      dsimp only [setCall]
      split
      · split
        · rfl
        · exact shared_performRequest ..
      · rfl
  | respond other call retries outcome =>
      unfold respond
      dsimp only [setCall]
      split <;> rfl
  | retry other call retries requester => exact shared_performRequest ..
  | setDefaultCacheRule rule => exact (steady rule rfl).elim
  | _ => rfl

/-- A move of a call in a session is a run of the call by itself. -/
theorem Moves.delivery {before after : Call} (moves : Moves source label name before after) :
    ∃ steps, Transition.Run Delivery.step (source.delivery before) steps
      (source.delivery after) := by
  cases moves with
  | stay => exact ⟨[], .nil _⟩
  | decide own undecided =>
      refine ⟨[.decide source.nextBlock source.nextTask], .single ?_⟩
      unfold Delivery.step Session.delivery
      dsimp only
      rw [undecided]
  | runBlock retries block own gated =>
      refine ⟨[.runBlock source.nextTask], .single ?_⟩
      unfold Delivery.step Session.delivery
      dsimp only
      rw [gated]
  | finish retries task data response own inFlight =>
      refine ⟨[.finish response], .single ?_⟩
      unfold Delivery.step Session.delivery
      dsimp only
      rw [inFlight]
  | remove retries task outcome own answered =>
      refine ⟨[.remove], .single ?_⟩
      unfold Delivery.step Session.delivery
      dsimp only
      rw [answered]
  | respond retries outcome own removed =>
      refine ⟨[.respond], .single ?_⟩
      unfold Delivery.step Session.delivery
      dsimp only
      rw [removed]
  | retry retries requester own waiting installed =>
      refine ⟨[.retry source.nextBlock source.nextTask], .single ?_⟩
      unfold Delivery.step Session.delivery
      dsimp only
      rw [waiting, installed]

/-- A step of a session takes each of its calls through steps of its own. -/
theorem delivery_step (taken : step source label = some next)
    (present : source.calls.get? name = some call) :
    ∃ steps after, next.calls.get? name = some after ∧
      Transition.Run Delivery.step (source.delivery call) steps (next.delivery after) := by
  by_cases changes : ∃ rule, label = .setDefaultCacheRule rule
  · obtain ⟨rule, rfl⟩ := changes
    cases taken
    exact ⟨[.setDefaultCacheRule rule], call, present, .single rfl⟩
  · obtain ⟨after, kept, moves⟩ := step_call taken present
    obtain ⟨steps, moved⟩ := moves.delivery
    refine ⟨steps, after, kept, ?_⟩
    unfold delivery at moved ⊢
    rw [step_shared_eq taken fun rule set => changes ⟨rule, set⟩]
    exact moved

/-- **The calls of a session.** A session takes each of its calls through a run of its own. -/
theorem delivery_run (run : Transition.Run step source labels target)
    (present : source.calls.get? name = some call) :
    ∃ moves last, target.calls.get? name = some last ∧
      Transition.Run Delivery.step (source.delivery call) moves (target.delivery last) := by
  induction run generalizing call with
  | nil => exact ⟨[], call, present, .nil _⟩
  | cons taken _ ih =>
      obtain ⟨first, after, kept, moved⟩ := delivery_step taken present
      obtain ⟨rest, last, found, continued⟩ := ih kept
      exact ⟨first ++ rest, last, found, moved.append continued⟩

end Session

end AwesomeNetwork
