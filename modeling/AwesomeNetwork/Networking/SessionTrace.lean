import AwesomeNetwork.Networking.Session
import Mathlib.Data.List.GetD

/-! # Calls of a session and the sequential program

However the calls of a session interleave, a call that has ended was observed
doing what the sequential `requestData` does with the cache that the call found
and the responses that it got, provided that its cache rule did not change.
-/

namespace AwesomeNetwork

namespace Call

/-- The delivery of what the cache had. -/
def servedEvents (call : Call) : List Event :=
  call.served.toList.map fun data => .delivered (some data) none

/-- The world in which the sequential program meets the responses of the call. -/
def world (call : Call) (shared : Shared) (realm : Realm) : World where
  shared := shared
  realm := realm
  session := fun index => call.responses.getD index ⟨none, none, none⟩
  tasks := 0
  trace := []

/-- A call in the middle of its fetch, with the responses to its past attempts. -/
structure Fetching (call : Call) (rule : AwesomeCacheRule) (retries : Int)
    (past : List SessionResponse) : Prop where
  trace_eq : call.trace = call.servedEvents ++ [.fetchStarted]
  fetches : Fetches rule call.served
  requested : call.request.urlRequest.isSome = true
  rejected : ∀ response ∈ past, call.request.rejects response.outcome = true
  count : retries + past.length = call.request.retryCount
  left : past ≠ [] → 0 ≤ retries

/-- A call follows the sequential program from the configuration and the cache that
it found. -/
def Follows (call : Call) (shared : Shared) (realm : Realm) : Prop :=
  call.served = call.request.servedData shared realm ∧
    match call.phase with
    | .deciding => call.trace = call.servedEvents ∧ call.responses = []
    | .gated retries _ | .inFlight retries _ | .waiting retries =>
        call.Fetching (call.request.cacheRule shared) retries call.responses
    | .answered retries _ outcome | .removed retries outcome =>
        ∃ past response, call.responses = past ++ [response] ∧ response.outcome = outcome ∧
          call.Fetching (call.request.cacheRule shared) retries past
    | .ended => call.trace = (requestData call.request deliver (call.world shared realm)).trace

variable {call : Call} {shared current : Shared} {realm : Realm} {retries : Int}
  {requester : AwesomeRequester} {past : List SessionResponse} {response : SessionResponse}

/-- A new call follows the sequential program. -/
theorem follows_start (request : AwesomeRequestProtocol) (shared : Shared) (realm : Realm) :
    (start request shared realm).Follows shared realm :=
  ⟨rfl, rfl, rfl⟩

/-- The tape of a call begins with the responses that it got. -/
theorem getD_responses (responses : call.responses = past ++ [response]) {index : Nat}
    (inside : index ≤ past.length) :
    ((call.world shared realm).session index).outcome =
      (past.map SessionResponse.outcome ++ [response.outcome]).getD index response.outcome := by
  have bound : index < (past ++ [response]).length := by
    rw [List.length_append, List.length_singleton]
    omega
  have mapped : past.map SessionResponse.outcome ++ [response.outcome] =
      (past ++ [response]).map SessionResponse.outcome := by
    rw [List.map_append, List.map_singleton]
  rw [mapped, List.getD_map, List.getD_eq_getElem _ _ bound]
  unfold world
  dsimp only
  rw [responses, List.getD_eq_getElem _ _ bound]

/-- The final outcome of the sequential program in the world of a call is the last
one of the call. -/
theorem finalOutcome_world {rule : AwesomeCacheRule} (fetching : call.Fetching rule retries past)
    (responses : call.responses = past ++ [response])
    (stops : ¬ call.Retries retries response.outcome) :
    call.request.finalOutcome (call.world shared realm) call.request.retryCount =
      response.outcome := by
  have count := fetching.count
  have left := fetching.left
  have within : past.length ≤ call.request.retryCount.toNat := by
    cases past with
    | nil => exact Nat.zero_le _
    | cons first past =>
        have remaining := left (List.cons_ne_nil _ _)
        omega
  have reads (index : Nat) (inside : index ≤ (past.map SessionResponse.outcome).length) :
      (call.world shared realm).outcomes (0 + index) =
        (past.map SessionResponse.outcome ++ [response.outcome]).getD index response.outcome := by
    rw [List.length_map] at inside
    rw [Nat.zero_add]
    exact getD_responses responses inside
  have rejected (outcome : Outcome) (member : outcome ∈ past.map SessionResponse.outcome) :
      call.request.rejects outcome = true := by
    obtain ⟨earlier, present, rfl⟩ := List.mem_map.mp member
    exact fetching.rejected earlier present
  have exhausts (again : call.request.rejects response.outcome = true) :
      (past.map SessionResponse.outcome).length = call.request.retryCount.toNat := by
    have used : ¬ 0 < retries := fun some =>
      stops ⟨(Bool.not_eq_true' _).mp again, some⟩
    rw [List.length_map]
    omega
  rw [← List.length_map] at within
  exact (Retry.attempts_of_history _ _ reads rejected within exhausts).2

/-- A fetch that ends delivers what the sequential program delivers. -/
theorem trace_of_fetched (served : call.served = call.request.servedData shared realm)
    (installed : shared.requester = some requester)
    (fetching : call.Fetching (call.request.cacheRule shared) retries past)
    (responses : call.responses = past ++ [response])
    (stops : ¬ call.Retries retries response.outcome) :
    (requestData call.request deliver (call.world shared realm)).trace = call.trace ++
      if (call.request.cacheRule shared).shouldReturnUrlData call.didReturnCache then
        [.delivered response.outcome.data response.outcome.error] else [] := by
  obtain ⟨urlRequest, present⟩ := Option.isSome_iff_exists.mp fetching.requested
  have fetches := fetching.fetches
  rw [requestData_trace installed present, finalOutcome_world fetching responses stops,
    fetching.trace_eq]
  unfold servedEvents didReturnCache
  rw [served] at fetches ⊢
  exact expectedEvents_fetching fetches rule_ne_fromURL_of_servedData

/-- A call that performs an attempt follows it. -/
theorem follows_perform (served : call.served = call.request.servedData shared realm)
    (fetching : call.Fetching (call.request.cacheRule shared) retries call.responses)
    (requester : AwesomeRequester) (block task : Nat) :
    (call.perform requester retries block task).Follows shared realm := by
  obtain ⟨urlRequest, present⟩ := Option.isSome_iff_exists.mp fetching.requested
  unfold perform
  rw [present]
  dsimp only
  split
  · exact ⟨served, fetching.trace_eq, fetching.fetches, fetching.requested, fetching.rejected,
      fetching.count, fetching.left⟩
  · exact ⟨served, fetching.trace_eq, fetching.fetches, fetching.requested, fetching.rejected,
      fetching.count, fetching.left⟩

/-- A call that decides under an unchanged rule follows it. -/
theorem follows_decide (served : call.served = call.request.servedData shared realm)
    (trace : call.trace = call.servedEvents) (fresh : call.responses = [])
    (steady : call.request.cacheRule current = call.request.cacheRule shared)
    (installed : shared.requester = some requester) (same : current.requester = shared.requester)
    (block task : Nat) : (call.decide current block task).Follows shared realm := by
  unfold decide didReturnCache
  rw [steady]
  by_cases fetches : Fetches (call.request.cacheRule shared) call.served
  · rw [if_pos ((shouldGetFromUrl_iff _ _).mpr fetches), same, installed]
    dsimp only
    have started : (call.record .fetchStarted).trace = call.servedEvents ++ [.fetchStarted] := by
      rw [← trace]
      rfl
    cases present : call.request.urlRequest with
    | none =>
        unfold perform
        have absent : (call.record .fetchStarted).request.urlRequest = none := present
        rw [absent]
        refine ⟨served, started.trans ?_⟩
        change _ = (requestData call.request deliver (call.world shared realm)).trace
        rw [served] at fetches
        rw [requestData_of_no_url installed present fetches, beforeFetch_trace]
        unfold servedEvents
        rw [served]
        rfl
    | some urlRequest =>
        have requested : call.request.urlRequest.isSome = true := by rw [present]; rfl
        have fetching : (call.record .fetchStarted).Fetching
            (call.request.cacheRule shared) call.request.retryCount [] :=
          ⟨started, fetches, requested, nofun, Int.add_zero _, fun nonempty => (nonempty rfl).elim⟩
        have unanswered : (call.record .fetchStarted).responses = [] := fresh
        rw [← unanswered] at fetching
        refine follows_perform ?_ fetching requester block task
        exact served
  · rw [if_neg fun asked => fetches ((shouldGetFromUrl_iff _ _).mp asked)]
    have stays := fetches
    rw [served] at stays
    have sequential :=
      @requestData_trace_not_fetching call.request (call.world shared realm) stays
    have reads : call.request.servedData (call.world shared realm).shared
        (call.world shared realm).realm = call.served := served.symm
    unfold servedEvents at trace
    cases value : call.served with
    | none =>
        rw [reads, value] at sequential
        rw [value] at trace
        refine ⟨served, ?_⟩
        change call.trace ++ _ = (requestData call.request deliver (call.world shared realm)).trace
        rw [sequential, trace]
        rfl
    | some data =>
        rw [reads, value] at sequential
        rw [value] at trace
        refine ⟨served, ?_⟩
        change call.trace = (requestData call.request deliver (call.world shared realm)).trace
        rw [sequential, trace]
        rfl

/-- A call that handles its reply under an unchanged rule follows it. -/
theorem follows_respond (follows : call.Follows shared realm) {outcome : Outcome}
    (removed : call.phase = .removed retries outcome)
    (steady : call.request.cacheRule current = call.request.cacheRule shared)
    (installed : shared.requester = some requester) :
    (call.respond current retries outcome).Follows shared realm := by
  obtain ⟨served, progress⟩ := follows
  rw [removed] at progress
  obtain ⟨past, response, responses, rfl, fetching⟩ := progress
  unfold respond
  by_cases retried : call.Retries retries response.outcome
  · rw [if_pos retried]
    refine ⟨served, fetching.trace_eq, fetching.fetches, fetching.requested, ?_, ?_, ?_⟩
    · intro earlier member
      change earlier ∈ call.responses at member
      rw [responses] at member
      rcases List.mem_append.mp member with before | last
      · exact fetching.rejected earlier before
      · rw [List.mem_singleton.mp last]
        exact (Bool.not_eq_true' _).mpr retried.1
    · have count := fetching.count
      change retries - 1 + (call.responses.length : Int) = call.request.retryCount
      rw [responses, List.length_append, List.length_singleton]
      omega
    · intro _
      have some := retried.2
      omega
  · rw [if_neg retried, steady]
    have sequential := trace_of_fetched served installed fetching responses retried
    split
    · next returned =>
        rw [if_pos returned] at sequential
        exact ⟨served, sequential.symm⟩
    · next kept =>
        rw [if_neg kept, List.append_nil] at sequential
        exact ⟨served, sequential.symm⟩

/-- Every move under an unchanged rule follows it. -/
theorem follows_moves {session : Session} {label : Session.Label} {name : Nat}
    {before after : Call}
    (moves : session.Moves label name before after) (follows : before.Follows shared realm)
    (steady : before.request.cacheRule session.shared = before.request.cacheRule shared)
    (installed : shared.requester = some requester)
    (same : session.shared.requester = shared.requester) : after.Follows shared realm := by
  obtain ⟨served, progress⟩ := follows
  cases moves with
  | stay => exact ⟨served, progress⟩
  | decide own deciding =>
      rw [deciding] at progress
      exact follows_decide served progress.1 progress.2 steady installed same _ _
  | runBlock retries block own gated =>
      rw [gated] at progress
      exact ⟨served, progress.trace_eq, progress.fetches, progress.requested, progress.rejected,
        progress.count, progress.left⟩
  | finish retries task data response own inFlight =>
      rw [inFlight] at progress
      exact ⟨served, before.responses, response, rfl, rfl, progress.trace_eq, progress.fetches,
        progress.requested, progress.rejected, progress.count, progress.left⟩
  | remove retries task outcome own answered =>
      rw [answered] at progress
      obtain ⟨past, response, responses, outcome, fetching⟩ := progress
      exact ⟨served, past, response, responses, outcome, fetching.trace_eq, fetching.fetches,
        fetching.requested, fetching.rejected, fetching.count, fetching.left⟩
  | respond retries outcome own removed =>
      exact follows_respond ⟨served, progress⟩ removed steady installed
  | retry retries again own waiting =>
      rw [waiting] at progress
      exact follows_perform served progress again _ _

end Call

namespace Session

variable {session next source target : Session} {label : Label} {name : Nat}

/-- The request and the served value of a call are fixed. -/
theorem Moves.fixed {before after : Call} (moves : Moves session label name before after) :
    after.request = before.request ∧ after.served = before.served := by
  have performed (call : Call) (requester : AwesomeRequester) (retries : Int) (block task : Nat) :
      (call.perform requester retries block task).request = call.request ∧
        (call.perform requester retries block task).served = call.served := by
    unfold Call.perform
    split
    · exact ⟨rfl, rfl⟩
    · split <;> exact ⟨rfl, rfl⟩
  cases moves with
  | stay => exact ⟨rfl, rfl⟩
  | decide own deciding =>
      unfold Call.decide
      split
      · split
        · exact ⟨rfl, rfl⟩
        · exact performed (before.record .fetchStarted) _ _ _ _
      · split <;> exact ⟨rfl, rfl⟩
  | runBlock retries block own gated => exact ⟨rfl, rfl⟩
  | finish retries task data response own inFlight => exact ⟨rfl, rfl⟩
  | remove retries task outcome own answered => exact ⟨rfl, rfl⟩
  | respond retries outcome own removed =>
      unfold Call.respond
      split
      · exact ⟨rfl, rfl⟩
      · split <;> exact ⟨rfl, rfl⟩
  | retry retries requester own waiting => exact performed before _ _ _ _

/-- The cache rule of the request is what it was. -/
def Steady (request : AwesomeRequestProtocol) (rule : AwesomeCacheRule) (session : Session) :
    Prop :=
  request.cacheRule session.shared = rule

/-- A call that begins in a session follows the sequential program, from the
configuration and the cache it finds, for as long as its cache rule is steady. -/
theorem call_follows {request : AwesomeRequestProtocol} {requester : AwesomeRequester}
    {labels : List Label} (installed : source.shared.requester = some requester)
    (begins : step source (.requestData request) = some next)
    (run : Transition.Run step next labels target)
    (steady : Transition.Always step (Steady request (request.cacheRule source.shared)) next
      labels) :
    ∃ call, target.calls.get? source.calls.size = some call ∧ call.request = request ∧
      call.Follows source.shared source.realm := by
  have shared : next.shared.requester = source.shared.requester := (step_shared begins).1
  have initially : ∃ call, next.calls.get? source.calls.size = some call ∧
      call.request = request ∧ call.Follows source.shared source.realm := by
    cases begins
    exact ⟨_, Table.get?_push_self .., rfl, Call.follows_start request _ _⟩
  clear begins
  induction run with
  | nil => exact initially
  | @cons session middle target label labels taken _ ih =>
      apply ih (steady.2 middle taken)
      · exact (step_shared taken).1.trans shared
      · obtain ⟨before, present, asked, follows⟩ := initially
        obtain ⟨after, found, moves⟩ := step_call taken present
        refine ⟨after, found, moves.fixed.1.trans asked, ?_⟩
        apply Call.follows_moves moves follows ?_ installed shared
        rw [asked]
        exact steady.1

/-- **Refinement of the sequential program.** A call that has ended, with its rule
steady, was observed doing what the sequential program does in its world. -/
theorem ended_trace {request : AwesomeRequestProtocol} {requester : AwesomeRequester}
    {labels : List Label} {call : Call} (installed : source.shared.requester = some requester)
    (begins : step source (.requestData request) = some next)
    (run : Transition.Run step next labels target)
    (steady : Transition.Always step (Steady request (request.cacheRule source.shared)) next labels)
    (present : target.calls.get? source.calls.size = some call) (ended : call.phase = .ended) :
    call.trace =
      (requestData request deliver (call.world source.shared source.realm)).trace := by
  obtain ⟨other, found, rfl, _, follows⟩ := call_follows installed begins run steady
  cases Option.some.inj (found.symm.trans present)
  rw [ended] at follows
  exact follows

end Session

end AwesomeNetwork
