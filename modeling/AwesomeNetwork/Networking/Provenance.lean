import AwesomeNetwork.Caching.Isolation
import AwesomeNetwork.Networking.SessionTrace

/-! # Where cached values come from

The completion of a data task passes on the body of every reply but those of status
401, and the body of the final reply is saved. A cached value is therefore the body of
some reply; its status is one of success when no other reply carries a body.
-/

namespace AwesomeNetwork

/-- The reply has a status in 200...299, the check of `AwesomeUpload.upload`. -/
def SessionResponse.HasSuccessStatus (response : SessionResponse) : Prop :=
  ∃ code, response.statusCode = some code ∧ 200 ≤ code ∧ code ≤ 299

/-- The data is the body of a reply with a status of success. -/
def SessionResponse.Supplies (response : SessionResponse) (data : Data) : Prop :=
  response.error = none ∧ response.data = some data ∧ response.HasSuccessStatus

/-- The data of an outcome is the body of the response. -/
theorem SessionResponse.data_of_outcome {response : SessionResponse} {data : Data}
    (body : response.outcome.data = some data) :
    response.error = none ∧ response.data = some data := by
  unfold outcome at body
  split at body
  · split at body
    · cases body
    · split at body
      · cases body
      · split at body <;> cases body
  · next unfailed =>
      split at body
      · cases body
      · exact ⟨unfailed, body⟩

/-- Saving adds nothing to what can be read but the data saved. -/
theorem data_saveToCache_inv {request : AwesomeRequestProtocol} {shared : Shared} {realm : Realm}
    {saved : Option Data} {key : String} {data : Data}
    (read : AwesomeRealmCache.data (request.saveToCache saved shared realm) key = some data) :
    AwesomeRealmCache.data realm key = some data ∨ saved = some data := by
  cases saved with
  | none =>
      rw [request.saveToCache_none] at read
      exact Or.inl read
  | some saved =>
      rw [request.saveToCache_some] at read
      split at read
      · rw [AwesomeRealmCache.data_save] at read
        split at read
        · exact Or.inr read
        · exact Or.inl read
      · exact Or.inl read

/-- A value served from the cache is in the cache. -/
theorem cached_of_servedData {request : AwesomeRequestProtocol} {shared : Shared} {realm : Realm}
    {data : Data} (served : request.servedData shared realm = some data) :
    ∃ key, AwesomeRealmCache.data realm key = some data := by
  obtain ⟨_, cached, _⟩ := servedData_eq_some_iff.mp served
  rw [request.cachedData_eq] at cached
  obtain ⟨manager, _, keyed⟩ := Option.bind_eq_some_iff.mp cached
  obtain ⟨key, _, read⟩ := Option.bind_eq_some_iff.mp keyed
  exact ⟨key, read⟩

/-- The reply of the call is on its way to the cache. -/
def Call.Awaits (call : Call) (outcome : Outcome) : Prop :=
  match call.phase with
  | .answered _ _ reply | .removed _ reply => reply = outcome
  | _ => False

/-- A call that has just begun an attempt awaits no outcome. -/
theorem Call.not_awaits_perform (call : Call) (requester : AwesomeRequester) (retries : Int)
    (block task : Nat) (outcome : Outcome) :
    ¬ (call.perform requester retries block task).Awaits outcome := by
  unfold perform
  split
  · exact id
  · split <;> exact id

namespace Session

/-- Some reply of the session supplies the data. -/
def Supplied (session : Session) (data : Data) : Prop :=
  ∃ name call response, session.calls.get? name = some call ∧ response ∈ call.responses ∧
    response.Supplies data

/-- Every cached value, and every value served from the cache, is the body of a reply
with a status of success. -/
structure Provenance (session : Session) : Prop where
  cached : ∀ key data, AwesomeRealmCache.data session.realm key = some data →
    session.Supplied data
  served : ∀ name call data, session.calls.get? name = some call → call.served = some data →
    session.Supplied data

/-- A reply with a body has a status of success. -/
def RepliesWithSuccess (_ : Session) : Label → Prop
  | .finish _ response => response.outcome.data ≠ none → response.HasSuccessStatus
  | _ => True

/-- The data that a call is about to save was supplied by a reply. -/
def AwaitedSupplied (session : Session) : Prop :=
  ∀ name call outcome data, session.calls.get? name = some call → call.Awaits outcome →
    outcome.data = some data → session.Supplied data

variable {session next : Session} {label : Label} {name : Nat} {data : Data}

/-- A call gets its responses from its own tasks only. -/
theorem Moves.responses {before after : Call} (moves : Moves session label name before after) :
    after.responses = before.responses ∨
      ∃ response, label = .finish name response ∧
        after.responses = before.responses ++ [response] := by
  have performed (call : Call) (requester : AwesomeRequester) (retries : Int)
      (block task : Nat) :
      (call.perform requester retries block task).responses = call.responses := by
    unfold Call.perform
    split
    · rfl
    · split <;> rfl
  cases moves with
  | stay => exact Or.inl rfl
  | decide own deciding =>
      left
      unfold Call.decide
      split
      · split
        · rfl
        · exact performed (before.record .fetchStarted) _ _ _ _
      · split <;> rfl
  | runBlock => exact Or.inl rfl
  | finish retries task data response own => exact Or.inr ⟨response, own, rfl⟩
  | remove => exact Or.inl rfl
  | respond retries outcome own removed =>
      left
      unfold Call.respond
      split
      · rfl
      · split <;> rfl
  | retry retries requester own waiting => exact Or.inl (performed before _ _ _ _)

/-- The reply that a call awaits after a step is the one it awaited, or it has just come. -/
theorem Moves.awaits {before after : Call} {outcome : Outcome}
    (moves : Moves session label name before after) (awaited : after.Awaits outcome) :
    before.Awaits outcome ∨ ∃ response, label = .finish name response ∧
      outcome = response.outcome ∧ after.responses = before.responses ++ [response] := by
  cases moves with
  | stay => exact Or.inl awaited
  | decide own deciding =>
      refine (?_ : ¬ (before.decide _ _ _).Awaits outcome).elim awaited
      unfold Call.decide
      split
      · split
        · exact id
        · exact Call.not_awaits_perform _ _ _ _ _ outcome
      · split <;> exact id
  | runBlock => exact awaited.elim
  | finish retries task data response own =>
      cases awaited
      exact Or.inr ⟨response, own, rfl, rfl⟩
  | remove retries task reply own answered =>
      left
      unfold Call.Awaits
      rw [answered]
      exact awaited
  | respond retries reply own removed =>
      refine (?_ : ¬ (before.respond _ _ _).Awaits outcome).elim awaited
      unfold Call.respond
      split
      · exact id
      · split <;> exact id
  | retry retries requester own waiting =>
      exact (Call.not_awaits_perform before requester _ _ _ outcome awaited).elim

theorem realm_performRequest (session : Session) (request : AwesomeRequestProtocol)
    (requester : AwesomeRequester) :
    (session.performRequest request requester).realm = session.realm := by
  unfold performRequest
  split
  · rfl
  · split <;> rfl

/-- What can be read after a step could be read before, or a call awaited it. -/
theorem step_cached {key : String} (taken : step session label = some next)
    (read : AwesomeRealmCache.data next.realm key = some data) :
    AwesomeRealmCache.data session.realm key = some data ∨
      ∃ other call outcome, session.calls.get? other = some call ∧ call.Awaits outcome ∧
        outcome.data = some data := by
  cases stepCases taken with
  | decide other call =>
      left
      unfold decide at read
      dsimp only [setCall] at read
      split at read
      · split at read
        · exact read
        · rw [realm_performRequest] at read
          exact read
      · exact read
  | respond other call retries outcome present removed =>
      unfold respond at read
      dsimp only [setCall] at read
      split at read
      · exact Or.inl read
      · rcases data_saveToCache_inv read with old | saved
        · exact Or.inl old
        · refine Or.inr ⟨other, call, outcome, present, ?_, saved⟩
          unfold Call.Awaits
          rw [removed]
  | retry other call retries requester =>
      left
      dsimp only [setCall] at read
      rw [realm_performRequest] at read
      exact read
  | clearCache =>
      unfold AwesomeNetwork.clearCache at read
      dsimp only at read
      split at read
      · cases read
      · exact Or.inl read
  | _ => exact Or.inl read

/-- What was supplied has been supplied for good. -/
theorem supplied_step (taken : step session label = some next) (supplied : session.Supplied data) :
    next.Supplied data := by
  obtain ⟨name, call, response, present, member, supplies⟩ := supplied
  obtain ⟨after, found, moves⟩ := step_call taken present
  refine ⟨name, after, response, found, ?_, supplies⟩
  rcases moves.responses with same | ⟨reply, _, added⟩
  · rw [same]
    exact member
  · rw [added]
    exact List.mem_append_left [reply] member

/-- A step whose replies are successes keeps the provenance of the cache. -/
theorem provenance_step (provenance : session.Provenance) (awaited : session.AwaitedSupplied)
    (replies : session.RepliesWithSuccess label) (taken : step session label = some next) :
    next.Provenance ∧ next.AwaitedSupplied := by
  refine ⟨⟨fun key data read => ?_, fun name call data present served => ?_⟩, ?_⟩
  · apply supplied_step taken
    rcases step_cached taken read with old | ⟨name, call, outcome, present, awaits, body⟩
    · exact provenance.cached key data old
    · exact awaited name call outcome data present awaits body
  · apply supplied_step taken
    rcases step_call_inv taken present with ⟨before, found, moves⟩ | ⟨request, _, _, rfl⟩
    · exact provenance.served name before data found (moves.fixed.2.symm.trans served)
    · obtain ⟨key, read⟩ := cached_of_servedData served
      exact provenance.cached key data read
  · intro name call outcome data present awaits body
    rcases step_call_inv taken present with ⟨before, found, moves⟩ | ⟨request, _, _, rfl⟩
    · rcases moves.awaits awaits with earlier | ⟨response, rfl, rfl, added⟩
      · exact supplied_step taken (awaited name before outcome data found earlier body)
      · obtain ⟨unfailed, carried⟩ := SessionResponse.data_of_outcome body
        have success := replies (Option.ne_none_iff_exists'.mpr ⟨data, body⟩)
        refine ⟨name, call, response, present, ?_, unfailed, carried, success⟩
        rw [added]
        exact List.mem_append_right before.responses (List.mem_singleton_self response)
    · exact awaits.elim

/-- The cache manager stays installed throughout a run. -/
theorem cacheManager_run {source target : Session} {labels : List Label}
    (run : Transition.Run step source labels target) :
    target.shared.cacheManager = source.shared.cacheManager := by
  induction run with
  | nil => rfl
  | cons taken _ ih => exact ih.trans (step_shared taken).2

/-- A step supplies data only with the reply that it brings. -/
theorem supplied_step_inv (taken : step session label = some next)
    (supplied : next.Supplied data) :
    session.Supplied data ∨
      ∃ name response, label = .finish name response ∧ response.Supplies data := by
  obtain ⟨name, after, response, present, member, supplies⟩ := supplied
  rcases step_call_inv taken present with ⟨before, found, moves⟩ | ⟨request, _, _, rfl⟩
  · rcases moves.responses with same | ⟨reply, own, added⟩
    · rw [same] at member
      exact Or.inl ⟨name, before, response, found, member, supplies⟩
    · rw [added, List.mem_append, List.mem_singleton] at member
      rcases member with old | rfl
      · exact Or.inl ⟨name, before, response, found, old, supplies⟩
      · exact Or.inr ⟨name, response, own, supplies⟩
  · cases member

/-- A reply ends the task of the call and is on its way to the completion handler. -/
theorem step_finish {response : SessionResponse}
    (taken : step session (.finish name response) = some next) :
    ∃ call retries task ended, session.calls.get? name = some call ∧
      next.shared = session.shared ∧
      next.calls.get? name = some { call with
        phase := .answered retries task response.outcome
        responses := call.responses ++ [response] } ∧
      next.managers.requester.tasks.get? task = some ended ∧ ended.state = .completed := by
  cases stepCases taken with
  | finish _ _ call retries task running requester present inFlight found honest moved =>
      obtain ⟨ended, there, _, rfl⟩ := Table.when_eq_some.mp moved
      refine ⟨call, retries, task, ended.withState .completed, present, rfl, ?_, ?_, rfl⟩
      · exact (Table.get?_modify_self ..).trans (congrArg (Option.map _) present)
      · exact (Table.get?_modify_self ..).trans (congrArg (Option.map _) there)

/-- The completion handler of an answered call removes the key of its task. -/
theorem step_remove_answered {call : Call} {retries : Int} {task : Nat} {outcome : Outcome}
    {completed : URLSessionTask String} (present : session.calls.get? name = some call)
    (answered : call.phase = .answered retries task outcome)
    (found : session.managers.requester.tasks.get? task = some completed)
    (ended : completed.state = .completed) :
    ∃ middle, step session (.remove name) = some middle ∧ middle.shared = session.shared ∧
      middle.calls.get? name = some (call.moveTo (.removed retries outcome)) := by
  have removes : session.managers.requester.step (.remove task) = some _ :=
    Table.when_eq_some.mpr ⟨completed, found, ended, rfl⟩
  refine ⟨{ session with
    managers.requester := session.managers.requester.removeRequest task completed }.setCall name
      (call.moveTo (.removed retries outcome)), ?_, rfl, ?_⟩
  · unfold step
    dsimp only
    rw [present]
    dsimp only
    rw [answered]
    dsimp only
    rw [removes]
    rfl
  · exact (Table.get?_modify_self ..).trans (congrArg (Option.map _) present)

/-- The final reply of a call is saved. -/
theorem step_respond_saves {call : Call} {retries : Int} {outcome : Outcome}
    (present : session.calls.get? name = some call)
    (removed : call.phase = .removed retries outcome) (final : ¬ call.Retries retries outcome) :
    ∃ last, step session (.respond name) = some last ∧
      last.realm = call.request.saveToCache outcome.data session.shared session.realm := by
  refine ⟨(session.respond call retries outcome).setCall name
    (call.respond session.shared retries outcome), ?_, ?_⟩
  · unfold step
    dsimp only
    rw [present]
    dsimp only
    rw [removed]
  · unfold respond
    rw [if_neg final]
    rfl

/-- A body that no successful reply has brought is cached when it comes with a reply
that is accepted. -/
theorem unsupplied_body_cached {manager : AwesomeCacheManager} {call : Call} {key : String}
    {response : SessionResponse} (taken : step session (.finish name response) = some next)
    (present : session.calls.get? name = some call)
    (cached : session.shared.cacheManager = some manager)
    (keyed : call.request.effectiveKey = some key)
    (accepted : call.request.isSuccessResponse (some data) = true)
    (body : response.outcome.data = some data) (failed : ¬ response.HasSuccessStatus)
    (unsupplied : ¬ session.Supplied data) :
    ∃ last, Transition.Run step next [.remove name, .respond name] last ∧ ¬ last.Provenance := by
  obtain ⟨other, retries, task, ended, found, finished, answered, tasked, completed⟩ :=
    step_finish taken
  cases Option.some.inj (found.symm.trans present)
  obtain ⟨middle, removes, shared, removed⟩ := step_remove_answered answered rfl tasked completed
  obtain ⟨last, responds, saved⟩ := step_respond_saves removed rfl fun retried => by
    have rejected := retried.1
    rw [body] at rejected
    exact Bool.noConfusion (rejected.symm.trans accepted)
  refine ⟨last, .cons removes (.single responds), fun provenance => ?_⟩
  have read : AwesomeRealmCache.data last.realm key = some data := by
    have saves : last.realm =
        call.request.saveToCache (some data) session.shared middle.realm := by
      rw [saved, body, shared, finished]
      rfl
    rw [saves, AwesomeRequestProtocol.saveToCache_some, cached, keyed]
    dsimp only
    rw [AwesomeRealmCache.data_save, if_pos rfl]
  rcases supplied_step_inv responds (provenance.cached key data read) with
    supplied | ⟨_, _, other, _⟩
  · rcases supplied_step_inv removes supplied with supplied | ⟨_, _, other, _⟩
    · rcases supplied_step_inv taken supplied with supplied | ⟨_, _, same, supplies⟩
      · exact unsupplied supplied
      · cases same
        exact failed supplies.2.2
    · cases other
  · cases other

/-- **Provenance of cached values.** From an empty cache, as long as the replies that
carry a body have a status of success, every value that is cached or served from the
cache is the body of such a reply. The body of any other reply, if no successful one
has brought it, is cached once its call accepts it. -/
theorem provenance_of_success (shared : Shared) (realm : Realm) (manager : AwesomeCacheManager)
    (installed : shared.cacheManager = some manager)
    (empty : ∀ key, AwesomeRealmCache.data realm key = none) (labels : List Label) :
    (Transition.Meets step RepliesWithSuccess (started shared realm) labels →
      Transition.Always step Provenance (started shared realm) labels) ∧
    ∀ session next name call response data, Transition.Run step (started shared realm) labels
        session → step session (.finish name response) = some next →
      session.calls.get? name = some call → call.request.effectiveKey.isSome = true →
      call.request.isSuccessResponse (some data) = true → response.outcome.data = some data →
      ¬ response.HasSuccessStatus → ¬ session.Supplied data →
      ∃ last, Transition.Run step next [.remove name, .respond name] last ∧
        ¬ last.Provenance := by
  constructor
  · intro replies
    have kept : ∀ session label next, session.Provenance ∧ session.AwaitedSupplied →
        session.RepliesWithSuccess label → step session label = some next →
        next.Provenance ∧ next.AwaitedSupplied :=
      fun _ _ _ valid met taken => provenance_step valid.1 valid.2 met taken
    refine (replies.always kept ⟨⟨?_, ?_⟩, ?_⟩).mono fun _ => And.left
    · intro key data read
      cases (empty key).symm.trans read
    · intro name call data present
      cases present
    · intro name call outcome data present
      cases present
  · intro session next name call response data run taken present keyed accepted body failed
      unsupplied
    obtain ⟨key, keyed⟩ := Option.isSome_iff_exists.mp keyed
    have cached := (cacheManager_run run).trans installed
    exact unsupplied_body_cached taken present cached keyed accepted body failed unsupplied

/-- The first call of a session gets a reply to its only attempt, and the same request
is made again. -/
def fetchTwice (response : SessionResponse) : List Label :=
  [.requestData (itemsRequest "a.example"), .decide 0, .managers (.requester (.register 0)),
    .managers (.requester (.resume 0)), .finish 0 response, .remove 0, .respond 0,
    .requestData (itemsRequest "a.example")]

/-- A page that a server sends with status 404. -/
def errorPage : SessionResponse := ⟨some [60, 33], some 404, none⟩

/-- The error page of the first call is served to the second one as good data. -/
theorem error_page_served :
    ∃ target call, Transition.Run step (started AwesomeNetwork.started Realm.empty)
        (fetchTwice errorPage) target ∧
      target.calls.get? 1 = some call ∧ call.trace = [.delivered (some [60, 33]) none] ∧
      ¬ target.Provenance := by
  refine ⟨_, _, Transition.run_iff_execute.mpr rfl, rfl, rfl, fun provenance => ?_⟩
  obtain ⟨name, call, response, present, member, _, _, code, reported, _, small⟩ :=
    provenance.served 1 _ [60, 33] rfl rfl
  match name with
  | 0 =>
      cases present
      cases List.mem_singleton.mp member
      cases reported
      exact absurd small (by decide)
  | 1 =>
      cases present
      cases member
  | other + 2 => cases present

/-- A fetch that is answered with success. -/
theorem provenance_of_success_items :
    Transition.Always step Provenance (started AwesomeNetwork.started Realm.empty)
      (fetchTwice ⟨some [1], some 200, none⟩) := by
  refine (provenance_of_success AwesomeNetwork.started Realm.empty ⟨.realm⟩ rfl (fun _ => rfl)
    (fetchTwice ⟨some [1], some 200, none⟩)).1 ?_
  have success : SessionResponse.HasSuccessStatus ⟨some [1], some 200, none⟩ :=
    ⟨200, rfl, by decide, by decide⟩
  refine Transition.Meets.of_forall_mem (fun label member session => ?_) _
  simp only [fetchTwice, List.mem_cons, List.not_mem_nil, or_false] at member
  rcases member with rfl | rfl | rfl | rfl | rfl | rfl | rfl | rfl
  case inr.inr.inr.inr.inl => exact fun _ => success
  all_goals trivial

end Session

end AwesomeNetwork
