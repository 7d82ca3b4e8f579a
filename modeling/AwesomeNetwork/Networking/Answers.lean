import AwesomeNetwork.Caching.Isolation
import AwesomeNetwork.Networking.SessionTrace

/-! # Which calls are answered

A call that has run to its end has answered its caller unless it had to return
what its URL gives and its request has no URL: `performRequest` then returns
without calling the completion. A rule that has become `fromCacheOnly` by the time
of the final reply withholds that reply.
-/

namespace AwesomeNetwork

/-- The rule sends the call to the URL and has it return what it finds there. -/
def MustReturnUrl (rule : AwesomeCacheRule) (served : Option Data) : Prop :=
  rule.shouldGetFromUrl served.isSome = true ∧ rule.shouldReturnUrlData served.isSome = true

/-- The completion was invoked; with an error, when there was no URL to return the
data of. -/
def Answered (request : AwesomeRequestProtocol) (rule : AwesomeCacheRule) (served : Option Data)
    (trace : List Event) : Prop :=
  (∃ data error, .delivered data error ∈ trace) ∧
    (request.urlRequest = none → MustReturnUrl rule served →
      ∃ data error, .delivered data (some error) ∈ trace)

variable {request : AwesomeRequestProtocol} {world : World} {requester : AwesomeRequester}

/-- Without a URL, a call is answered unless it must return what the URL gives. -/
theorem answered_of_no_url (rule : AwesomeCacheRule) (served : Option Data)
    (fetches : Fetches rule served) (absent : request.urlRequest = none) :
    Answered request rule served
        ((served.toList.map fun data => .delivered (some data) none) ++ [.fetchStarted]) ↔
      ¬ MustReturnUrl rule served := by
  constructor
  · rintro ⟨_, errs⟩ returns
    obtain ⟨data, error, member⟩ := errs absent returns
    cases served <;> simp at member
  · intro returns
    refine ⟨?_, fun _ must => (returns must).elim⟩
    cases served with
    | some data => exact ⟨some data, none, List.mem_cons_self⟩
    | none =>
        have reached : MustReturnUrl rule none := by
          refine ⟨(shouldGetFromUrl_iff _ _).mpr fetches, ?_⟩
          exact (shouldReturnUrlData_iff fetches (fun same => (same rfl).elim)).mpr (Or.inl rfl)
        exact (returns reached).elim

/-- A call between its decision to go to the URL and its end. -/
structure Call.Underway (call : Call) : Prop where
  decided : call.phase ≠ .deciding
  unfinished : call.phase ≠ .ended
  requested : call.request.urlRequest.isSome = true
  trace_eq : call.trace = call.servedEvents ++ [.fetchStarted]

/-- A call that performs a request with a URL is under way. -/
theorem Call.underway_perform {call : Call} (requested : call.request.urlRequest.isSome = true)
    (trace : call.trace = call.servedEvents ++ [.fetchStarted]) (requester : AwesomeRequester)
    (retries : Int) (block task : Nat) : (call.perform requester retries block task).Underway := by
  obtain ⟨urlRequest, present⟩ := Option.isSome_iff_exists.mp requested
  unfold perform
  rw [present]
  dsimp only
  split
  · exact ⟨nofun, nofun, requested, trace⟩
  · exact ⟨nofun, nofun, requested, trace⟩

/-- A call that is to go to the URL of its request is under way. -/
theorem Call.underway_decide {call : Call} {shared : Shared} {urlRequest : URLRequest}
    (installed : shared.requester = some requester)
    (asked : (call.request.cacheRule shared).shouldGetFromUrl call.didReturnCache = true)
    (requested : call.request.urlRequest = some urlRequest)
    (trace : call.trace = call.servedEvents) (block task : Nat) :
    (call.decide shared block task).Underway := by
  unfold decide
  rw [if_pos asked, installed]
  dsimp only
  apply underway_perform
  · exact Option.isSome_iff_exists.mpr ⟨urlRequest, requested⟩
  · exact congrArg (· ++ [Event.fetchStarted]) trace

/-- A call that is to go to the URL of a request without one ends in silence. -/
theorem Call.decide_of_no_url {call : Call} {shared : Shared}
    (installed : shared.requester = some requester)
    (asked : (call.request.cacheRule shared).shouldGetFromUrl call.didReturnCache = true)
    (absent : call.request.urlRequest = none) (block task : Nat) :
    (call.decide shared block task).phase = .ended ∧
      (call.decide shared block task).trace = call.trace ++ [.fetchStarted] := by
  unfold decide
  rw [if_pos asked, installed]
  dsimp only
  unfold perform
  have dropped : (call.record .fetchStarted).request.urlRequest = none := absent
  rw [dropped]
  exact ⟨rfl, rfl⟩

/-- A call that is not to go to the URL ends answered. -/
theorem Call.decide_of_not_asked {call : Call} {shared : Shared}
    (kept : ¬ (call.request.cacheRule shared).shouldGetFromUrl call.didReturnCache = true)
    (trace : call.trace = call.servedEvents) (block task : Nat) :
    (call.decide shared block task).phase = .ended ∧
      ∃ data error, .delivered data error ∈ (call.decide shared block task).trace := by
  unfold decide didReturnCache at *
  rw [if_neg kept]
  cases value : call.served with
  | none => exact ⟨rfl, _, _, List.mem_append_right _ (List.mem_singleton_self _)⟩
  | some data =>
      refine ⟨rfl, some data, none, ?_⟩
      change _ ∈ call.trace
      rw [trace, servedEvents, value]
      exact List.mem_cons_self

/-- The final reply reaches the caller when a value was served before or the rule
returns it. -/
theorem Call.delivered_respond {call : Call} (underway : call.Underway) {shared : Shared}
    {retries : Int} {outcome : Outcome} (final : ¬ call.Retries retries outcome) :
    (∃ data error, .delivered data error ∈ (call.respond shared retries outcome).trace) ↔
      (call.served = none → call.request.cacheRule shared ≠ .fromCacheOnly) := by
  unfold respond didReturnCache
  rw [if_neg final]
  cases value : call.served with
  | some data =>
      refine iff_of_true ⟨some data, none, ?_⟩ nofun
      have first : .delivered (some data) none ∈ call.trace := by
        rw [underway.trace_eq, servedEvents, value]
        exact List.mem_cons_self
      split
      · exact List.mem_append_left _ first
      · exact first
  | none =>
      have silent : call.trace = [.fetchStarted] := by
        rw [underway.trace_eq, servedEvents, value]
        rfl
      by_cases only : call.request.cacheRule shared = .fromCacheOnly
      · rw [if_neg (by rw [only]; exact nofun)]
        refine iff_of_false ?_ fun returns => returns rfl only
        rintro ⟨data, error, member⟩
        change _ ∈ call.trace at member
        rw [silent] at member
        cases List.mem_singleton.mp member
      · have returns :
            (call.request.cacheRule shared).shouldReturnUrlData (none : Option Data).isSome =
              true := by
          cases rule : call.request.cacheRule shared with
          | fromCacheOnly => exact (only rule).elim
          | _ => rfl
        rw [if_pos returns]
        exact iff_of_true ⟨_, _, List.mem_append_right _ (List.mem_singleton_self _)⟩ fun _ => only

namespace Session

variable {session source next deciding decided target : Session} {label : Label}
  {labels : List Label} {name : Nat} {call last : Call}

/-- The step does not withhold the final reply from a caller that nothing was
returned to. -/
def ReturnsReply (name : Nat) (session : Session) : Label → Prop
  | .respond other => other = name → ∀ call retries outcome,
      session.calls.get? name = some call → call.phase = .removed retries outcome →
      ¬ call.Retries retries outcome → call.served = none →
      call.request.cacheRule session.shared ≠ .fromCacheOnly
  | _ => True

/-- Only the reply to the call itself can fail to be returned. -/
theorem returnsReply_of_ne (other : label ≠ .respond name) : ReturnsReply name session label := by
  cases label with
  | respond responding =>
      intro same
      exact (other (congrArg Label.respond same)).elim
  | _ => trivial

/-- A call that has no final reply yet withholds none. -/
theorem returnsReply_of_phase (present : session.calls.get? name = some call)
    (unreplied : ∀ retries outcome, call.phase = .removed retries outcome →
      call.Retries retries outcome) : ReturnsReply name session label := by
  by_cases responds : label = .respond name
  · subst responds
    intro _ other retries outcome found removed final
    cases Option.some.inj (found.symm.trans present)
    exact (final (unreplied retries outcome removed)).elim
  · exact returnsReply_of_ne responds

/-- The reply to a call is that of its last task. -/
theorem step_respond (taken : step session (.respond name) = some next) :
    ∃ call retries outcome, session.calls.get? name = some call ∧
      call.phase = .removed retries outcome ∧
      next.calls.get? name = some (call.respond session.shared retries outcome) := by
  cases stepCases taken with
  | respond _ call retries outcome present removed =>
      refine ⟨call, retries, outcome, present, removed, ?_⟩
      rw [calls_setCall, calls_respond, Table.get?_modify_self, present]
      rfl

/-- A call decides when it was deciding. -/
theorem step_decide (taken : step session (.decide name) = some next) :
    ∃ call, session.calls.get? name = some call ∧ call.phase = .deciding ∧
      next.calls.get? name =
        some (call.decide session.shared session.nextBlock session.nextTask) := by
  cases stepCases taken with
  | decide _ call present undecided =>
      refine ⟨call, present, undecided, ?_⟩
      rw [calls_setCall, calls_decide, Table.get?_modify_self, present]
      rfl

/-- A call that has ended stays as it is. -/
theorem Moves.of_ended {before after : Call} (moves : Moves session label name before after)
    (ended : before.phase = .ended) : after = before := by
  cases moves with
  | stay => rfl
  | decide own reached => cases reached.symm.trans ended
  | runBlock retries block own reached => cases reached.symm.trans ended
  | finish retries task data response own reached => cases reached.symm.trans ended
  | remove retries task outcome own reached => cases reached.symm.trans ended
  | respond retries outcome own reached => cases reached.symm.trans ended
  | retry retries requester own reached => cases reached.symm.trans ended

/-- A call that is still deciding moves by deciding. -/
theorem Moves.of_deciding {before after : Call} (moves : Moves session label name before after)
    (undecided : before.phase = .deciding) (other : label ≠ .decide name) : after = before := by
  cases moves with
  | stay => rfl
  | decide own reached => exact (other own).elim
  | runBlock retries block own reached => cases reached.symm.trans undecided
  | finish retries task data response own reached => cases reached.symm.trans undecided
  | remove retries task outcome own reached => cases reached.symm.trans undecided
  | respond retries outcome own reached => cases reached.symm.trans undecided
  | retry retries requester own reached => cases reached.symm.trans undecided

/-- A call under way stays so until its reply. -/
theorem Moves.underway {before after : Call} (moves : Moves session label name before after)
    (other : label ≠ .respond name) (underway : before.Underway) : after.Underway := by
  obtain ⟨decided, unfinished, requested, trace⟩ := underway
  cases moves with
  | stay => exact ⟨decided, unfinished, requested, trace⟩
  | decide own undecided => exact (decided undecided).elim
  | runBlock retries block own gated => exact ⟨nofun, nofun, requested, trace⟩
  | finish retries task data response own inFlight => exact ⟨nofun, nofun, requested, trace⟩
  | remove retries task outcome own answered => exact ⟨nofun, nofun, requested, trace⟩
  | respond retries outcome own removed => exact (other own).elim
  | retry retries requester own waiting => exact Call.underway_perform requested trace _ _ _ _

/-- A call that has ended stays as it is. -/
theorem ended_run (run : Transition.Run step source labels target)
    (present : source.calls.get? name = some call) (ended : call.phase = .ended) :
    target.calls.get? name = some call ∧
      Transition.Meets step (ReturnsReply name) source labels := by
  induction run with
  | nil => exact ⟨present, trivial⟩
  | cons taken _ ih =>
      obtain ⟨after, found, moves⟩ := step_call taken present
      rw [moves.of_ended ended] at found
      obtain ⟨kept, rest⟩ := ih found
      refine ⟨kept, (Transition.Meets.cons_iff taken).mpr ⟨?_, rest⟩⟩
      exact returnsReply_of_phase present fun retries outcome removed => by
        cases removed.symm.trans ended

/-- Decomposition of a run at the step in which a call decides. -/
theorem ended_decides (run : Transition.Run step source labels target)
    (present : source.calls.get? name = some call) (undecided : call.phase = .deciding)
    (found : target.calls.get? name = some last) (ended : last.phase = .ended) :
    ∃ before deciding decided during, labels = before ++ .decide name :: during ∧
      Transition.Run step source before deciding ∧
      step deciding (.decide name) = some decided ∧ Transition.Run step decided during target ∧
      deciding.calls.get? name = some call := by
  induction run with
  | nil =>
      cases Option.some.inj (present.symm.trans found)
      cases undecided.symm.trans ended
  | @cons source middle target label labels taken rest ih =>
      by_cases decides : label = .decide name
      · subst decides
        exact ⟨[], source, middle, labels, rfl, .nil _, taken, rest, present⟩
      · obtain ⟨after, kept, moves⟩ := step_call taken present
        rw [moves.of_deciding undecided decides] at kept
        obtain ⟨before, deciding, decided, during, rfl, waits, decision, continues, held⟩ :=
          ih kept found
        exact ⟨label :: before, deciding, decided, during, rfl, .cons taken waits, decision,
          continues, held⟩

/-- A call under way that ends was answered exactly when its final reply was not
withheld. -/
theorem underway_delivered_iff (run : Transition.Run step source labels target)
    (present : source.calls.get? name = some call) (underway : call.Underway)
    (found : target.calls.get? name = some last) (ended : last.phase = .ended) :
    (∃ data error, .delivered data error ∈ last.trace) ↔
      Transition.Meets step (ReturnsReply name) source labels := by
  induction run generalizing call with
  | nil =>
      cases Option.some.inj (present.symm.trans found)
      exact (underway.unfinished ended).elim
  | @cons source middle target label labels taken rest ih =>
      rw [Transition.Meets.cons_iff taken]
      by_cases responds : label = .respond name
      · subst responds
        obtain ⟨other, retries, outcome, same, removed, replied⟩ := step_respond taken
        cases Option.some.inj (same.symm.trans present)
        by_cases retried : call.Retries retries outcome
        · have again : (call.respond source.shared retries outcome).Underway := by
            unfold Call.respond
            rw [if_pos retried]
            exact ⟨nofun, nofun, underway.requested, underway.trace_eq⟩
          have kept : ReturnsReply name source (.respond name) := by
            apply returnsReply_of_phase present
            intro left reply reached
            cases removed.symm.trans reached
            exact retried
          rw [and_iff_right kept]
          exact ih replied again found
        · -- the final reply: the call ends here, and the rest of the run leaves it alone
          have ends : (call.respond source.shared retries outcome).phase = .ended := by
            unfold Call.respond
            rw [if_neg retried]
            split <;> rfl
          obtain ⟨kept, quiet⟩ := ended_run rest replied ends
          cases Option.some.inj (kept.symm.trans found)
          rw [and_iff_left quiet, Call.delivered_respond underway retried]
          constructor
          · intro returns _ other left reply reached phase final nothing
            cases Option.some.inj (reached.symm.trans present)
            exact returns nothing
          · intro returns nothing
            exact returns rfl call retries outcome present removed retried nothing
      · obtain ⟨after, reached, moves⟩ := step_call taken present
        rw [and_iff_right (returnsReply_of_ne responds)]
        exact ih reached (moves.underway responds underway) found

/-- From the decision of a call on: it was answered exactly when it has a URL or need
not return what is there, and its final reply was not withheld. -/
theorem decided_answered_iff (installed : deciding.shared.requester = some requester)
    (decides : step deciding (.decide name) = some decided)
    (present : deciding.calls.get? name = some call) (trace : call.trace = call.servedEvents)
    (run : Transition.Run step decided labels target)
    (found : target.calls.get? name = some last) (ended : last.phase = .ended) :
    Answered call.request (call.request.cacheRule deciding.shared) call.served last.trace ↔
      (call.request.urlRequest.isSome = true ∨
          ¬ MustReturnUrl (call.request.cacheRule deciding.shared) call.served) ∧
        Transition.Meets step (ReturnsReply name) decided labels := by
  obtain ⟨other, same, _, moved⟩ := step_decide decides
  cases Option.some.inj (same.symm.trans present)
  by_cases asked : (call.request.cacheRule deciding.shared).shouldGetFromUrl call.didReturnCache =
      true
  · cases requested : call.request.urlRequest with
    | some urlRequest =>
        have underway := Call.underway_decide installed asked requested trace deciding.nextBlock
          deciding.nextTask
        have delivered := underway_delivered_iff run moved underway found ended
        rw [← delivered]
        unfold Answered
        rw [and_iff_left fun absent => nomatch requested.symm.trans absent]
        exact (and_iff_right (Or.inl rfl)).symm
    | none =>
        obtain ⟨ends, dropped⟩ := Call.decide_of_no_url installed asked requested
          deciding.nextBlock deciding.nextTask
        obtain ⟨kept, quiet⟩ := ended_run run moved ends
        cases Option.some.inj (kept.symm.trans found)
        rw [and_iff_left quiet, dropped, trace, or_iff_right (nofun : ¬ Option.isSome none = true)]
        exact answered_of_no_url _ _ ((shouldGetFromUrl_iff _ _).mp asked) requested
  · obtain ⟨ends, data, error, answers⟩ := Call.decide_of_not_asked asked trace
      deciding.nextBlock deciding.nextTask
    obtain ⟨kept, quiet⟩ := ended_run run moved ends
    cases Option.some.inj (kept.symm.trans found)
    have stays : ¬ MustReturnUrl (call.request.cacheRule deciding.shared) call.served :=
      fun must => asked must.1
    exact iff_of_true ⟨⟨data, error, answers⟩, fun _ must => (stays must).elim⟩
      ⟨Or.inr stays, quiet⟩

/-- **No request is dropped, unless it has no URL or its rule changes.** Every call
that has ended went through its decision, and was answered exactly when its
request has a URL or need not return what is there, and the rule does not
withhold the final reply. -/
theorem ended_answered_iff (installed : source.shared.requester = some requester)
    (begins : step source (.requestData request) = some next)
    (run : Transition.Run step next labels target)
    (present : target.calls.get? source.calls.size = some call) (ended : call.phase = .ended) :
    ∃ before deciding decided during, labels = before ++ .decide source.calls.size :: during ∧
      Transition.Run step next before deciding ∧
      step deciding (.decide source.calls.size) = some decided ∧
      (Answered request (request.cacheRule deciding.shared)
          (request.servedData source.shared source.realm) call.trace ↔
        (request.urlRequest.isSome = true ∨ ¬ MustReturnUrl (request.cacheRule deciding.shared)
            (request.servedData source.shared source.realm)) ∧
          Transition.Meets step (ReturnsReply source.calls.size) decided during) := by
  cases begins
  obtain ⟨before, deciding, decided, during, split, waits, decides, continues, held⟩ :=
    ended_decides run (Table.get?_push_self ..) rfl present ended
  refine ⟨before, deciding, decided, during, split, waits, decides, ?_⟩
  have still : deciding.shared.requester = some requester :=
    (requester_run waits).trans installed
  exact decided_answered_iff still decides held rfl continues present ended

/-- A request for a string that is no URL, straight from its URL. -/
def unbuildable : AwesomeRequestProtocol where
  urlString := "https://a.example:port/items"
  urlRequest := none
  cacheRule := fun _ => .fromURL

/-- A call for a string that is no URL ends without an answer. -/
theorem unbuildable_unanswered :
    unbuildable.urlRequest = unbuildable.defaultUrlRequest twoHosts AwesomeNetwork.started ∧
      ∃ target call, Transition.Run step (started AwesomeNetwork.started Realm.empty)
          [.requestData unbuildable, .decide 0] target ∧
        target.calls.get? 0 = some call ∧ call.phase = .ended ∧ call.trace = [.fetchStarted] ∧
        ¬ Answered unbuildable .fromURL none call.trace := by
  refine ⟨rfl, _, _, Transition.run_iff_execute.mpr rfl, rfl, rfl, rfl, ?_⟩
  rintro ⟨⟨data, error, member⟩, _⟩
  cases List.mem_singleton.mp member

/-- The moves of the first call of a session from its decision to its end, when its
only attempt gets `[1]`. -/
def fetchOnce : List Label :=
  [.decide 0, .managers (.requester (.register 0)), .managers (.requester (.resume 0)),
    .finish 0 ⟨some [1], some 200, none⟩, .remove 0, .respond 0]

/-- The session in which the first call, of `pickyRequest`, has begun. -/
def pickyIssued : Session where
  shared := pickyWorld.shared
  realm := pickyWorld.realm
  dispatcher := .initial
  managers := .initial
  calls := ⟨[.start pickyRequest pickyWorld.shared pickyWorld.realm]⟩

/-- A call that is answered from the cache and by a fetch. -/
theorem ended_trace_picky : ∃ target call,
    Transition.Run step pickyIssued fetchOnce target ∧ target.calls.get? 0 = some call ∧
      call.trace = (requestData pickyRequest deliver (call.world pickyWorld.shared
        pickyWorld.realm)).trace := by
  have run := Transition.run_iff_execute.mpr
    (rfl : Transition.execute step pickyIssued fetchOnce = some _)
  have unconditional : Transition.Meets step (fun _ _ => True) pickyIssued fetchOnce :=
    Transition.Meets.of_forall (fun _ _ => trivial) pickyIssued fetchOnce
  have steady : Transition.Always step (Steady pickyRequest .fromCacheAndUrl) pickyIssued
      fetchOnce :=
    unconditional.always (fun _ _ _ _ _ _ => rfl) rfl
  refine ⟨_, _, run, rfl, ?_⟩
  exact ended_trace (rfl : pickyWorld.shared.requester = some ⟨false⟩)
    (rfl : step (started pickyWorld.shared pickyWorld.realm) (.requestData pickyRequest) =
      some pickyIssued) run steady rfl rfl

/-- The same call, decided and answered. -/
theorem ended_answered_iff_picky :
    ∃ before deciding decided during, fetchOnce = before ++ .decide 0 :: during ∧
      Transition.Run step pickyIssued before deciding ∧
      step deciding (.decide 0) = some decided ∧
      (Answered pickyRequest .fromCacheAndUrl (some [1])
          [.delivered (some [1]) none, .fetchStarted, .delivered (some [1]) none] ↔
        (pickyRequest.urlRequest.isSome = true ∨ ¬ MustReturnUrl .fromCacheAndUrl (some [1])) ∧
          Transition.Meets step (ReturnsReply 0) decided during) :=
  ended_answered_iff (rfl : pickyWorld.shared.requester = some ⟨false⟩)
    (rfl : step (started pickyWorld.shared pickyWorld.realm) (.requestData pickyRequest) =
      some pickyIssued)
    (Transition.run_iff_execute.mpr
      (rfl : Transition.execute step pickyIssued fetchOnce = some _)) rfl rfl

end Session

end AwesomeNetwork
