import AwesomeNetwork.Caching.History
import AwesomeNetwork.Networking.AwesomeDispatcher
import AwesomeNetwork.Networking.CancelAllRequests
import AwesomeNetwork.Networking.RequestData

/-! # Sessions

A session runs any number of `requestData` calls side by side over the shared
configuration, the cache, the dispatcher and the registries. Each step is a move
of one call, of the dispatcher or of a registry, or a change of the configuration.
-/

namespace AwesomeNetwork

/-- Where a call stands. `deciding` is between the cache and the URL; the counts are
the retries left. -/
inductive Phase where
  | deciding
  | gated (retries : Int) (block : Nat)
  | inFlight (retries : Int) (task : Nat)
  | answered (retries : Int) (task : Nat) (outcome : Outcome)
  | removed (retries : Int) (outcome : Outcome)
  | waiting (retries : Int)
  | ended
deriving DecidableEq, Repr

/-- A call of `requestData`: the value served from the cache, what was observed of
it, and the responses to its attempts and their tasks. -/
structure Call where
  request : AwesomeRequestProtocol
  served : Option Data
  phase : Phase
  trace : List Event
  responses : List SessionResponse
  tasks : List Nat

/-- The library with its calls: configuration, cache, dispatcher and registries. -/
structure Session where
  shared : Shared
  realm : Realm
  dispatcher : AwesomeDispatcher
  managers : RequestManagers String
  calls : Table Call

namespace Call

/-- The call after `dataFromCache` has looked at the cache. -/
def start (request : AwesomeRequestProtocol) (shared : Shared) (realm : Realm) : Call :=
  let served := request.servedData shared realm
  { request := request
    served := served
    phase := .deciding
    trace := served.toList.map fun data => .delivered (some data) none
    responses := []
    tasks := [] }

/-- Whether the call has found something in the cache. -/
def didReturnCache (call : Call) : Bool := call.served.isSome

/-- An event is entered in the trace of the call. -/
def record (call : Call) (event : Event) : Call := { call with trace := call.trace ++ [event] }

/-- The call goes on to another phase. -/
def moveTo (call : Call) (phase : Phase) : Call := { call with phase := phase }

/-- `performRequest(_:cancelPrevious:completion:)` has created the task. -/
def send (call : Call) (retries : Int) (task : Nat) : Call :=
  { call with phase := .inFlight retries task, tasks := call.tasks ++ [task] }

/-- `performRequest(_:completion:)`, where `block` and `task` are the next names of
the dispatcher and of the registry. -/
def perform (call : Call) (requester : AwesomeRequester) (retries : Int) (block task : Nat) :
    Call :=
  match call.request.urlRequest with
  | none => call.moveTo .ended
  | some _ =>
      if requester.useSemaphore then call.moveTo (.gated retries block) else call.send retries task

/-- The rest of `dataFromCache`, with `performRequestRetrying` of `requestData`. -/
def decide (call : Call) (shared : Shared) (block task : Nat) : Call :=
  if (call.request.cacheRule shared).shouldGetFromUrl call.didReturnCache then
    match shared.requester with
    | none => call.moveTo .ended
    | some requester =>
        (call.record .fetchStarted).perform requester call.request.retryCount block task
  else if !call.didReturnCache then
    (call.record (.delivered none (some cacheRuleError))).moveTo .ended
  else call.moveTo .ended

/-- The attempt is retried. -/
def Retries (call : Call) (retries : Int) (outcome : Outcome) : Prop :=
  call.request.isSuccessResponse outcome.data = false ∧ 0 < retries

instance (call : Call) (retries : Int) (outcome : Outcome) :
    Decidable (call.Retries retries outcome) := inferInstanceAs (Decidable (_ ∧ _))

/-- The completion handlers of `performRequestRetrying` and `requestData`. -/
def respond (call : Call) (shared : Shared) (retries : Int) (outcome : Outcome) : Call :=
  if call.Retries retries outcome then call.moveTo (.waiting (retries - 1))
  else if (call.request.cacheRule shared).shouldReturnUrlData call.didReturnCache then
    (call.record (.delivered outcome.data outcome.error)).moveTo .ended
  else call.moveTo .ended

end Call

/-- The reply to a cancelled task. -/
def SessionResponse.isCancelled (response : SessionResponse) : Prop :=
  response.error.map NSError.code = some NSURLErrorCancelled

instance (response : SessionResponse) : Decidable response.isCancelled :=
  inferInstanceAs (Decidable (_ = _))

namespace Session

/-- A step of a session. -/
inductive Label where
  | requestData (request : AwesomeRequestProtocol)
  | decide (call : Nat)
  | dispatcher (label : AwesomeDispatcher.Label)
  | runBlock (call : Nat)
  | managers (label : RequestManagers.Label String)
  | finish (call : Nat) (response : SessionResponse)
  | remove (call : Nat)
  | respond (call : Nat)
  | retry (call : Nat)
  | setDefaultCacheRule (rule : AwesomeCacheRule)
  | clearCache

/-- A session as `AwesomeNetwork.start` leaves it. -/
def started (shared : Shared) (realm : Realm) : Session where
  shared := shared
  realm := realm
  dispatcher := .initial
  managers := .initial
  calls := .empty

/-- One call changes. -/
def setCall (session : Session) (name : Nat) (call : Call) : Session :=
  { session with calls := session.calls.modify name fun _ => call }

/-- The name of the next block of the dispatcher. -/
def nextBlock (session : Session) : Nat := session.dispatcher.blocks.size

/-- The name of the next task of the requester. -/
def nextTask (session : Session) : Nat := session.managers.requester.tasks.size

/-- Hand the request to the dispatcher or create its data task. -/
def performRequest (session : Session) (request : AwesomeRequestProtocol)
    (requester : AwesomeRequester) : Session :=
  match request.urlRequest with
  | none => session
  | some urlRequest =>
      if requester.useSemaphore then
        { session with dispatcher := session.dispatcher.executeBlock true }
      else
        { session with
          managers.requester := session.managers.requester.createTask urlRequest.urlCacheKey
            request.cancelPreviousRequest }

/-- The effect of `decide` outside the call. -/
def decide (session : Session) (call : Call) : Session :=
  if (call.request.cacheRule session.shared).shouldGetFromUrl call.didReturnCache then
    match session.shared.requester with
    | none => session
    | some requester => session.performRequest call.request requester
  else session

/-- The effect of `respond` outside the call: the final reply is saved. -/
def respond (session : Session) (call : Call) (retries : Int) (outcome : Outcome) : Session :=
  if call.Retries retries outcome then session
  else
    { session with realm := call.request.saveToCache outcome.data session.shared session.realm }

/-- The moves of the dispatcher that are not moves of a call. -/
def dispatches : AwesomeDispatcher.Label → Bool
  | .executeBlock _ | .run _ => false
  | _ => true

/-- The moves of the registries that are not moves of a call: creating and ending a
task of the requester belongs to a call. -/
def manages : RequestManagers.Label String → Bool
  | .requester (.create _ _) | .requester (.finish _) | .requester (.remove _) => false
  | _ => true

/-- One step of a session; a label that does not fit the call yields no successor. -/
def step (session : Session) : Label → Option Session
  | .requestData request =>
      some { session with
        calls := session.calls.push (.start request session.shared session.realm) }
  | .decide name =>
      session.calls.when name (·.phase = .deciding) fun call =>
        (session.decide call).setCall name
          (call.decide session.shared session.nextBlock session.nextTask)
  | .dispatcher label =>
      if dispatches label then
        (session.dispatcher.step label).map fun dispatcher =>
          { session with dispatcher := dispatcher }
      else none
  | .runBlock name =>
      match session.calls.get? name with
      | some call =>
          match call.phase, call.request.urlRequest with
          | .gated retries block, some urlRequest =>
              (session.dispatcher.step (.run block)).map fun dispatcher =>
                { session with
                  dispatcher := dispatcher
                  managers.requester := session.managers.requester.createTask
                    urlRequest.urlCacheKey call.request.cancelPreviousRequest }.setCall name
                  (call.send retries session.nextTask)
          | _, _ => none
      | none => none
  | .managers label =>
      if manages label then
        (session.managers.step label).map fun managers => { session with managers := managers }
      else none
  | .finish name response =>
      match session.calls.get? name with
      | some call =>
          match call.phase with
          | .inFlight retries task =>
              match session.managers.requester.tasks.get? task with
              | some data =>
                  -- the session answers a cancelled task with `NSURLErrorCancelled`
                  if data.cancelled = true → response.isCancelled then
                    (session.managers.requester.step (.finish task)).map fun requester =>
                      { session with managers.requester := requester }.setCall name
                        { call with
                          phase := .answered retries task response.outcome
                          responses := call.responses ++ [response] }
                  else none
              | none => none
          | _ => none
      | none => none
  | .remove name =>
      match session.calls.get? name with
      | some call =>
          match call.phase with
          | .answered retries task outcome =>
              (session.managers.requester.step (.remove task)).map fun requester =>
                { session with managers.requester := requester }.setCall name
                  (call.moveTo (.removed retries outcome))
          | _ => none
      | none => none
  | .respond name =>
      match session.calls.get? name with
      | some call =>
          match call.phase with
          | .removed retries outcome =>
              some ((session.respond call retries outcome).setCall name
                (call.respond session.shared retries outcome))
          | _ => none
      | none => none
  | .retry name =>
      match session.calls.get? name with
      | some call =>
          match call.phase, session.shared.requester with
          | .waiting retries, some requester =>
              some ((session.performRequest call.request requester).setCall name
                (call.perform requester retries session.nextBlock session.nextTask))
          | _, _ => none
      | none => none
  | .setDefaultCacheRule rule =>
      some { session with shared.defaultCacheRule := rule }
  | .clearCache =>
      some { session with realm := AwesomeNetwork.clearCache session.shared session.realm }

/-- What a step does, with the call that it moves. -/
inductive StepCases (session : Session) : Label → Session → Prop
  | requestData (request : AwesomeRequestProtocol) :
      StepCases session (.requestData request) { session with
        calls := session.calls.push (.start request session.shared session.realm) }
  | decide (name : Nat) (call : Call) :
      session.calls.get? name = some call → call.phase = .deciding →
      StepCases session (.decide name) ((session.decide call).setCall name
        (call.decide session.shared session.nextBlock session.nextTask))
  | dispatcher (label : AwesomeDispatcher.Label) (dispatcher : AwesomeDispatcher) :
      dispatches label = true → session.dispatcher.step label = some dispatcher →
      StepCases session (.dispatcher label) { session with dispatcher := dispatcher }
  | runBlock (name : Nat) (call : Call) (retries : Int) (block : Nat) (urlRequest : URLRequest)
      (dispatcher : AwesomeDispatcher) :
      session.calls.get? name = some call → call.phase = .gated retries block →
      call.request.urlRequest = some urlRequest →
      session.dispatcher.step (.run block) = some dispatcher →
      StepCases session (.runBlock name) ({ session with
        dispatcher := dispatcher
        managers.requester := session.managers.requester.createTask urlRequest.urlCacheKey
          call.request.cancelPreviousRequest }.setCall name (call.send retries session.nextTask))
  | managers (label : RequestManagers.Label String) (managers : RequestManagers String) :
      manages label = true → session.managers.step label = some managers →
      StepCases session (.managers label) { session with managers := managers }
  | finish (name : Nat) (response : SessionResponse) (call : Call) (retries : Int) (task : Nat)
      (data : URLSessionTask String) (requester : AwesomeRequestManager String) :
      session.calls.get? name = some call → call.phase = .inFlight retries task →
      session.managers.requester.tasks.get? task = some data →
      (data.cancelled = true → response.isCancelled) →
      session.managers.requester.step (.finish task) = some requester →
      StepCases session (.finish name response)
        ({ session with managers.requester := requester }.setCall name { call with
          phase := .answered retries task response.outcome
          responses := call.responses ++ [response] })
  | remove (name : Nat) (call : Call) (retries : Int) (task : Nat) (outcome : Outcome)
      (requester : AwesomeRequestManager String) :
      session.calls.get? name = some call → call.phase = .answered retries task outcome →
      session.managers.requester.step (.remove task) = some requester →
      StepCases session (.remove name)
        ({ session with managers.requester := requester }.setCall name
          (call.moveTo (.removed retries outcome)))
  | respond (name : Nat) (call : Call) (retries : Int) (outcome : Outcome) :
      session.calls.get? name = some call → call.phase = .removed retries outcome →
      StepCases session (.respond name) ((session.respond call retries outcome).setCall name
        (call.respond session.shared retries outcome))
  | retry (name : Nat) (call : Call) (retries : Int) (requester : AwesomeRequester) :
      session.calls.get? name = some call → call.phase = .waiting retries →
      session.shared.requester = some requester →
      StepCases session (.retry name)
        ((session.performRequest call.request requester).setCall name
          (call.perform requester retries session.nextBlock session.nextTask))
  | setDefaultCacheRule (rule : AwesomeCacheRule) :
      StepCases session (.setDefaultCacheRule rule)
        { session with shared.defaultCacheRule := rule }
  | clearCache :
      StepCases session .clearCache
        { session with realm := AwesomeNetwork.clearCache session.shared session.realm }

variable {session next : Session} {label : Label} {name : Nat}

/-- Every step is one of these cases. -/
theorem stepCases (taken : step session label = some next) : StepCases session label next := by
  cases label with
  | requestData request =>
      cases taken
      exact .requestData request
  | decide name =>
      obtain ⟨call, present, deciding, rfl⟩ := Table.when_eq_some.mp taken
      exact .decide name call present deciding
  | dispatcher label =>
      unfold step at taken
      dsimp only at taken
      split at taken
      · next allowed =>
          obtain ⟨dispatcher, moved, rfl⟩ := Option.map_eq_some_iff.mp taken
          exact .dispatcher label dispatcher allowed moved
      · cases taken
  | runBlock name =>
      unfold step at taken
      dsimp only at taken
      split at taken
      · next call present =>
          split at taken
          · next retries block urlRequest gated requested =>
              obtain ⟨dispatcher, moved, rfl⟩ := Option.map_eq_some_iff.mp taken
              exact .runBlock name call retries block urlRequest dispatcher present gated requested
                moved
          · cases taken
      · cases taken
  | managers label =>
      unfold step at taken
      dsimp only at taken
      split at taken
      · next allowed =>
          obtain ⟨managers, moved, rfl⟩ := Option.map_eq_some_iff.mp taken
          exact .managers label managers allowed moved
      · cases taken
  | finish name response =>
      unfold step at taken
      dsimp only at taken
      split at taken
      · next call present =>
          split at taken
          · next retries task inFlight =>
              split at taken
              · next data found =>
                  split at taken
                  · next honest =>
                      obtain ⟨requester, moved, rfl⟩ := Option.map_eq_some_iff.mp taken
                      exact .finish name response call retries task data requester present inFlight
                        found honest moved
                  · cases taken
              · cases taken
          · cases taken
      · cases taken
  | remove name =>
      unfold step at taken
      dsimp only at taken
      split at taken
      · next call present =>
          split at taken
          · next retries task outcome answered =>
              obtain ⟨requester, moved, rfl⟩ := Option.map_eq_some_iff.mp taken
              exact .remove name call retries task outcome requester present answered moved
          · cases taken
      · cases taken
  | respond name =>
      unfold step at taken
      dsimp only at taken
      split at taken
      · next call present =>
          split at taken
          · next retries outcome removed =>
              cases taken
              exact .respond name call retries outcome present removed
          · cases taken
      · cases taken
  | retry name =>
      unfold step at taken
      dsimp only at taken
      split at taken
      · next call present =>
          split at taken
          · next retries requester waiting installed =>
              cases taken
              exact .retry name call retries requester present waiting installed
          · cases taken
      · cases taken
  | setDefaultCacheRule rule =>
      cases taken
      exact .setDefaultCacheRule rule
  | clearCache =>
      cases taken
      exact .clearCache

/-- The moves of the call `name` in a session. -/
inductive Moves (session : Session) (label : Label) (name : Nat) (before : Call) : Call → Prop
  | stay : Moves session label name before before
  | decide : label = .decide name → before.phase = .deciding → Moves session label name before
      (before.decide session.shared session.nextBlock session.nextTask)
  | runBlock (retries : Int) (block : Nat) : label = .runBlock name →
      before.phase = .gated retries block →
      Moves session label name before (before.send retries session.nextTask)
  | finish (retries : Int) (task : Nat) (data : URLSessionTask String)
      (response : SessionResponse) : label = .finish name response →
      before.phase = .inFlight retries task →
      session.managers.requester.tasks.get? task = some data →
      (data.cancelled = true → response.isCancelled) →
      Moves session label name before { before with
        phase := .answered retries task response.outcome
        responses := before.responses ++ [response] }
  | remove (retries : Int) (task : Nat) (outcome : Outcome) : label = .remove name →
      before.phase = .answered retries task outcome →
      Moves session label name before (before.moveTo (.removed retries outcome))
  | respond (retries : Int) (outcome : Outcome) : label = .respond name →
      before.phase = .removed retries outcome →
      Moves session label name before (before.respond session.shared retries outcome)
  | retry (retries : Int) (requester : AwesomeRequester) : label = .retry name →
      before.phase = .waiting retries → session.shared.requester = some requester →
      Moves session label name before
        (before.perform requester retries session.nextBlock session.nextTask)

@[simp] theorem calls_setCall (session : Session) (name : Nat) (call : Call) :
    (session.setCall name call).calls = session.calls.modify name fun _ => call := rfl

@[simp] theorem calls_performRequest (session : Session) (request : AwesomeRequestProtocol)
    (requester : AwesomeRequester) :
    (session.performRequest request requester).calls = session.calls := by
  unfold performRequest
  split
  · rfl
  · split <;> rfl

@[simp] theorem calls_decide (session : Session) (call : Call) :
    (session.decide call).calls = session.calls := by
  unfold decide
  split
  · split
    · rfl
    · exact calls_performRequest ..
  · rfl

@[simp] theorem calls_respond (session : Session) (call : Call) (retries : Int)
    (outcome : Outcome) : (session.respond call retries outcome).calls = session.calls := by
  unfold respond
  split <;> rfl

/-- Setting the record of one call moves every call. -/
theorem get?_setCall_moves {source : Session} {other : Nat} {before call changed : Call}
    (calls : source.calls = session.calls) (present : session.calls.get? name = some before)
    (moved : session.calls.get? other = some call)
    (moves : Moves session label other call changed) :
    ∃ after, (source.setCall other changed).calls.get? name = some after ∧
      Moves session label name before after := by
  rw [calls_setCall, calls, Table.get?_modify, present]
  by_cases same : name = other
  · subst same
    cases Option.some.inj (moved.symm.trans present)
    rw [if_pos rfl]
    exact ⟨changed, rfl, moves⟩
  · rw [if_neg same]
    exact ⟨before, rfl, .stay⟩

/-- A step moves every call there is. -/
theorem step_call {before : Call} (taken : step session label = some next)
    (present : session.calls.get? name = some before) :
    ∃ after, next.calls.get? name = some after ∧ Moves session label name before after := by
  cases stepCases taken with
  | requestData request => exact ⟨before, Table.get?_push_of_get? _ present, .stay⟩
  | decide other call moved deciding =>
      exact get?_setCall_moves (calls_decide ..) present moved (.decide rfl deciding)
  | dispatcher label dispatcher => exact ⟨before, present, .stay⟩
  | runBlock other call retries block urlRequest dispatcher moved gated =>
      exact get?_setCall_moves rfl present moved (.runBlock retries block rfl gated)
  | managers label managers => exact ⟨before, present, .stay⟩
  | finish other response call retries task data requester moved inFlight found honest =>
      exact get?_setCall_moves rfl present moved
        (.finish retries task data response rfl inFlight found honest)
  | remove other call retries task outcome requester moved answered =>
      exact get?_setCall_moves rfl present moved (.remove retries task outcome rfl answered)
  | respond other call retries outcome moved removed =>
      exact get?_setCall_moves (calls_respond ..) present moved
        (.respond retries outcome rfl removed)
  | retry other call retries requester moved waiting installed =>
      exact get?_setCall_moves (calls_performRequest ..) present moved
        (.retry retries requester rfl waiting installed)
  | setDefaultCacheRule rule => exact ⟨before, present, .stay⟩
  | clearCache => exact ⟨before, present, .stay⟩

/-- Every call after a step is a moved one or the one that begins. -/
theorem step_call_inv {after : Call} (taken : step session label = some next)
    (present : next.calls.get? name = some after) :
    (∃ before, session.calls.get? name = some before ∧ Moves session label name before after) ∨
      ∃ request, label = .requestData request ∧ name = session.calls.size ∧
        after = .start request session.shared session.realm := by
  cases found : session.calls.get? name with
  | some before =>
      obtain ⟨other, kept, moves⟩ := step_call taken found
      cases Option.some.inj (kept.symm.trans present)
      exact Or.inl ⟨before, rfl, moves⟩
  | none =>
      have absent {source : Session} {other : Nat} {changed : Call}
          (calls : source.calls = session.calls) :
          (source.setCall other changed).calls.get? name = none := by
        rw [calls_setCall, calls, Table.get?_modify, found]
        split <;> rfl
      cases stepCases taken with
      | requestData request =>
          rcases Table.get?_push_cases present with old | ⟨last, rfl⟩
          · rw [found] at old
            cases old
          · exact Or.inr ⟨request, rfl, last, rfl⟩
      | decide other call => cases (absent (calls_decide ..)).symm.trans present
      | dispatcher label dispatcher => cases found.symm.trans present
      | runBlock other call => cases (absent rfl).symm.trans present
      | managers label managers => cases found.symm.trans present
      | finish other response call => cases (absent rfl).symm.trans present
      | remove other call => cases (absent rfl).symm.trans present
      | respond other call => cases (absent (calls_respond ..)).symm.trans present
      | retry other call => cases (absent (calls_performRequest ..)).symm.trans present
      | setDefaultCacheRule rule => cases found.symm.trans present
      | clearCache => cases found.symm.trans present

theorem shared_performRequest (session : Session) (request : AwesomeRequestProtocol)
    (requester : AwesomeRequester) :
    (session.performRequest request requester).shared = session.shared := by
  unfold performRequest
  split
  · rfl
  · split <;> rfl

/-- The requester and the cache manager stay installed. -/
theorem step_shared (taken : step session label = some next) :
    next.shared.requester = session.shared.requester ∧
      next.shared.cacheManager = session.shared.cacheManager := by
  cases stepCases taken with
  | decide other call =>
      unfold decide
      dsimp only [setCall]
      split
      · split
        · exact ⟨rfl, rfl⟩
        · rw [shared_performRequest]
          exact ⟨rfl, rfl⟩
      · exact ⟨rfl, rfl⟩
  | respond other call retries outcome =>
      unfold respond
      dsimp only [setCall]
      split <;> exact ⟨rfl, rfl⟩
  | retry other call retries requester =>
      dsimp only [setCall]
      rw [shared_performRequest]
      exact ⟨rfl, rfl⟩
  | _ => exact ⟨rfl, rfl⟩

/-- The requester stays installed throughout a run. -/
theorem requester_run {source target : Session} {labels : List Label}
    (run : Transition.Run step source labels target) :
    target.shared.requester = source.shared.requester := by
  induction run with
  | nil => rfl
  | cons taken _ ih => exact ih.trans (step_shared taken).1

/-- A step of the requester's registry is a step of the registries. -/
theorem managers_step_requester {label : AwesomeRequestManager.Label String}
    {managers : RequestManagers String} {requester : AwesomeRequestManager String}
    (moved : managers.requester.step label = some requester) :
    managers.step (.requester label) = some { managers with requester := requester } := by
  change (managers.requester.step label).map _ = _
  rw [moved]
  rfl

/-- A step of the session is a step of the registries or leaves them alone. -/
theorem step_managers (taken : step session label = some next) :
    next.managers = session.managers ∨
      ∃ moved, session.managers.step moved = some next.managers := by
  have performed (request : AwesomeRequestProtocol) (requester : AwesomeRequester) :
      (session.performRequest request requester).managers = session.managers ∨
        ∃ moved, session.managers.step moved =
          some (session.performRequest request requester).managers := by
    unfold performRequest
    split
    · exact Or.inl rfl
    · next urlRequest _ =>
        split
        · exact Or.inl rfl
        · exact Or.inr ⟨.requester (.create urlRequest.urlCacheKey request.cancelPreviousRequest),
            managers_step_requester rfl⟩
  cases stepCases taken with
  | requestData request => exact Or.inl rfl
  | decide other call =>
      unfold decide
      dsimp only [setCall]
      split
      · split
        · exact Or.inl rfl
        · next requester _ => exact performed call.request requester
      · exact Or.inl rfl
  | dispatcher label dispatcher => exact Or.inl rfl
  | runBlock other call retries block urlRequest dispatcher =>
      exact Or.inr ⟨.requester (.create urlRequest.urlCacheKey call.request.cancelPreviousRequest),
        managers_step_requester rfl⟩
  | managers label managers allowed changed => exact Or.inr ⟨label, changed⟩
  | finish other response call retries task data requester moved inFlight found honest ended =>
      exact Or.inr ⟨_, managers_step_requester ended⟩
  | remove other call retries task outcome requester moved answered ended =>
      exact Or.inr ⟨_, managers_step_requester ended⟩
  | respond other call retries outcome =>
      unfold respond
      dsimp only [setCall]
      split <;> exact Or.inl rfl
  | retry other call retries requester => exact performed call.request requester
  | setDefaultCacheRule rule => exact Or.inl rfl
  | clearCache => exact Or.inl rfl

/-- The registry of the requester stays or makes one of its own steps. -/
theorem step_requester (taken : step session label = some next) :
    next.managers.requester = session.managers.requester ∨
      ∃ moved, session.managers.requester.step moved = some next.managers.requester := by
  rcases step_managers taken with same | ⟨moved, changed⟩
  · exact Or.inl (congrArg RequestManagers.requester same)
  · exact RequestManagers.step_requester changed

/-- **The registries under a session.** The registries of a session go through one of
their own runs. -/
theorem managers_run {source target : Session} {labels : List Label}
    (run : Transition.Run step source labels target) :
    ∃ moves, Transition.Run RequestManagers.step source.managers moves target.managers := by
  refine run.simulate Session.managers fun state label following taken => ?_
  rcases step_managers taken with same | ⟨moved, changed⟩
  · rw [same]
    exact ⟨[], .nil _⟩
  · exact ⟨[moved], .single changed⟩

end Session

end AwesomeNetwork
