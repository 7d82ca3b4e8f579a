import AwesomeNetwork.Caching.SessionHistory
import AwesomeNetwork.Networking.Restarts
import AwesomeNetwork.Networking.Settlement

/-! # Sessions with restarts

`AwesomeNetwork.start` may be called at any time, while requests are under way. A call of
`requestData` decides with the requester that is installed then, and `performRequestRetrying`
stays with that one; the dispatcher, the cache and the configuration are those of all. A step
of a call is therefore a step in the session of its own requester.
-/

namespace AwesomeNetwork

/-- The requesters installed so far, in order, with their registries, and for each call the
requester that it has decided with. -/
structure RestartedSession where
  shared : Shared
  realm : Realm
  dispatcher : AwesomeDispatcher
  requesters : Table AwesomeRequester
  registries : Generations String
  calls : Table Call
  serving : Table (Option Nat)

/-- The call that a step of its own moves. -/
def Session.Label.call? : Session.Label → Option Nat
  | .decide name | .runBlock name | .finish name _ | .remove name | .respond name
  | .retry name => some name
  | _ => none

namespace Session

/-- What a call that takes a step makes of the gate: it is away from it afterwards, or it has
come to it with a new block, or its block has run. -/
inductive AtGate (dispatcher : AwesomeDispatcher) (before after : Call) : AwesomeDispatcher → Prop
  | away : after.block? = none → AtGate dispatcher before after dispatcher
  | arrives : after.block? = some dispatcher.blocks.size →
      after.request.urlRequest.isSome = true →
      AtGate dispatcher before after (dispatcher.executeBlock true)
  | leaves (block : Nat) (next : AwesomeDispatcher) : before.block? = some block →
      dispatcher.step (.run block) = some next → after.block? = none →
      AtGate dispatcher before after next

/-- A step of one call, which looks at no other call. -/
structure LocalStep (session : Session) (label : Label) (name : Nat) (before after : Call)
    (next : Session) : Prop where
  present : session.calls.get? name = some before
  calls : next.calls = session.calls.modify name fun _ => after
  gate : AtGate session.dispatcher before after next.dispatcher
  decided : after.phase ≠ .deciding
  elsewhere : ∀ calls : Table Call, calls.get? name = some before →
    step { session with calls := calls } label =
      some { next with calls := calls.modify name fun _ => after }

variable {session next : Session} {label : Label} {name : Nat} {call : Call}

theorem performRequest_elsewhere (session : Session) (calls : Table Call)
    (request : AwesomeRequestProtocol) (requester : AwesomeRequester) :
    ({ session with calls := calls }).performRequest request requester =
      { session.performRequest request requester with calls := calls } := by
  unfold performRequest
  cases request.urlRequest with
  | none => rfl
  | some urlRequest =>
      dsimp only
      split <;> rfl

theorem decide_elsewhere (session : Session) (calls : Table Call) (call : Call) :
    ({ session with calls := calls }).decide call =
      { session.decide call with calls := calls } := by
  unfold decide
  dsimp only
  split
  · split
    · rfl
    · exact performRequest_elsewhere ..
  · rfl

theorem respond_elsewhere (session : Session) (calls : Table Call) (call : Call) (retries : Int)
    (outcome : Outcome) :
    ({ session with calls := calls }).respond call retries outcome =
      { session.respond call retries outcome with calls := calls } := by
  unfold respond
  split <;> rfl

/-- An attempt arrives at the gate or goes by it. -/
theorem Performs.atGate {retries : Int} {before begun after : Call}
    (performed : session.Performs begun retries next after) :
    AtGate session.dispatcher before after next.dispatcher := by
  cases performed with
  | ended => exact .away rfl
  | gated requested => exact .arrives rfl requested
  | sent urlRequest => exact .away rfl

/-- A call that performs an attempt has decided. -/
theorem Performs.decided {retries : Int} {begun after : Call}
    (performed : session.Performs begun retries next after) : after.phase ≠ .deciding := by
  cases performed <;> exact nofun

/-- A call has decided after its decision. -/
theorem decided_decide (session : Session) (call : Call) :
    (call.decide session.shared session.nextBlock session.nextTask).phase ≠ .deciding := by
  unfold Call.decide
  split
  · cases session.shared.requester with
    | none => exact nofun
    | some requester =>
        exact (performs session (call.record .fetchStarted) call.request.retryCount
          requester).decided
  · split <;> exact nofun

/-- A decision brings the call to the gate or past it. -/
theorem atGate_decide (session : Session) (call : Call) :
    AtGate session.dispatcher call
      (call.decide session.shared session.nextBlock session.nextTask)
      (session.decide call).dispatcher := by
  unfold decide Call.decide
  split
  · cases session.shared.requester with
    | none => exact .away rfl
    | some requester =>
        exact (performs session (call.record .fetchStarted) call.request.retryCount
          requester).atGate
  · split <;> exact .away rfl

/-- The steps of a call are local. -/
theorem localStep (own : label.call? = some name) (taken : step session label = some next) :
    ∃ before after, LocalStep session label name before after next := by
  cases stepCases taken with
  | decide other call present deciding =>
      cases own
      refine ⟨call, _, present, ?_, atGate_decide session call, decided_decide session call,
        fun calls found => ?_⟩
      · rw [calls_setCall, calls_decide]
      · refine Table.when_eq_some.mpr ⟨call, found, deciding, ?_⟩
        rw [decide_elsewhere session calls call]
        rfl
  | runBlock other call retries block urlRequest dispatcher present gated requested moved =>
      cases own
      have held : call.block? = some block := by
        unfold Call.block?
        rw [gated]
      refine ⟨call, _, present, rfl, .leaves block dispatcher held moved rfl, by rintro ⟨⟩,
        fun calls found => ?_⟩
      simp only [step, found, gated, requested, moved, Option.map_some]
      rfl
  | finish other response call retries task data requester present inFlight known honest moved =>
      cases own
      refine ⟨call, _, present, rfl, .away rfl, by rintro ⟨⟩, fun calls found => ?_⟩
      simp only [step, found, inFlight, known, if_pos honest, moved, Option.map_some]
      rfl
  | remove other call retries task outcome requester present answered moved =>
      cases own
      refine ⟨call, _, present, rfl, .away rfl, by rintro ⟨⟩, fun calls found => ?_⟩
      simp only [step, found, answered, moved, Option.map_some]
      rfl
  | respond other call retries outcome present removed =>
      cases own
      have dispatcher : (session.respond call retries outcome).dispatcher = session.dispatcher := by
        unfold respond
        split <;> rfl
      have gone : (call.respond session.shared retries outcome).block? = none ∧
          (call.respond session.shared retries outcome).phase ≠ .deciding := by
        unfold Call.respond
        split
        · exact ⟨rfl, by rintro ⟨⟩⟩
        · split <;> exact ⟨rfl, by rintro ⟨⟩⟩
      refine ⟨call, call.respond session.shared retries outcome, present, ?_, ?_, gone.2,
        fun calls found => ?_⟩
      · rw [calls_setCall, calls_respond]
      · change AtGate _ _ _ (session.respond call retries outcome).dispatcher
        rw [dispatcher]
        exact .away gone.1
      · simp only [step, found, removed]
        rw [respond_elsewhere session calls call]
        rfl
  | retry other call retries requester present waiting installed =>
      cases own
      have performed := performs session call retries requester
      refine ⟨call, _, present, ?_, performed.atGate, performed.decided, fun calls found => ?_⟩
      · rw [calls_setCall, calls_performRequest]
      · simp only [step, found, waiting, installed]
        rw [performRequest_elsewhere session calls]
        rfl
  | _ => cases own

end Session

namespace RestartedSession

/-- A step of a session, or a start of the library. -/
inductive Label where
  | start (useSemaphore : Bool) (defaultRequestTimeout : TimeInterval)
      (defaultCacheRule : AwesomeCacheRule) (cacheType : AwesomeCacheType)
  | requestData (request : AwesomeRequestProtocol)
  | call (label : Session.Label)
  | dispatcher (label : AwesomeDispatcher.Label)
  | registries (label : Generations.Label String)
  | setDefaultCacheRule (rule : AwesomeCacheRule)
  | clearCache

/-- What `AwesomeNetwork.start` does. -/
def start (session : RestartedSession) (useSemaphore : Bool) (defaultRequestTimeout : TimeInterval)
    (defaultCacheRule : AwesomeCacheRule) (cacheType : AwesomeCacheType) : RestartedSession :=
  { session with
    shared := AwesomeNetwork.start useSemaphore defaultRequestTimeout defaultCacheRule cacheType
    requesters := session.requesters.push ⟨useSemaphore⟩
    registries.requesters := session.registries.requesters.push .initial }

/-- The library before its first start. -/
def initial (realm : Realm) : RestartedSession where
  shared := ⟨.fromCacheOrUrl, 15, none, none⟩
  realm := realm
  dispatcher := .initial
  requesters := .empty
  registries := .initial
  calls := .empty
  serving := .empty

/-- The requester of a call; one that has not decided will go to the installed one. -/
def requesterOf (session : RestartedSession) (name : Nat) : Nat :=
  (session.serving.get? name).join.getD session.registries.installed

/-- The registry of a requester. -/
def registry (session : RestartedSession) (requester : Nat) : AwesomeRequestManager String :=
  (session.registries.requesters.get? requester).getD .initial

/-- The session of a requester. A retry goes to the requester itself, whatever is installed. -/
def sessionOf (session : RestartedSession) (requester : Nat) (label : Session.Label) : Session where
  shared :=
    match label with
    | .retry _ => { session.shared with requester := session.requesters.get? requester }
    | _ => session.shared
  realm := session.realm
  dispatcher := session.dispatcher
  managers := ⟨session.registry requester, session.registries.upload, .empty⟩
  calls := session.calls

/-- The sessions after a step of the call in that of the requester. -/
def absorb (session : RestartedSession) (name requester : Nat) (moved : Session) :
    RestartedSession :=
  { session with
    realm := moved.realm
    dispatcher := moved.dispatcher
    registries := session.registries.setRequester requester moved.managers.requester
    calls := moved.calls
    serving := session.serving.modify name fun _ => some requester }

/-- The moves of the registries that are not moves of a call or a start. -/
def manages : Generations.Label String → Bool
  | .start => false
  | .requester _ label => Session.manages (.requester label)
  | _ => true

/-- One step of a session with restarts. -/
def step (session : RestartedSession) : Label → Option RestartedSession
  | .start useSemaphore timeout rule cacheType =>
      some (session.start useSemaphore timeout rule cacheType)
  | .requestData request =>
      some { session with
        calls := session.calls.push (.start request session.shared session.realm)
        serving := session.serving.push none }
  | .call label =>
      match label.call? with
      | some name =>
          ((session.sessionOf (session.requesterOf name) label).step label).map
            (session.absorb name (session.requesterOf name))
      | none => none
  | .dispatcher label =>
      if Session.dispatches label then
        (session.dispatcher.step label).map fun dispatcher =>
          { session with dispatcher := dispatcher }
      else none
  | .registries label =>
      if manages label then
        (session.registries.step label).map fun registries =>
          { session with registries := registries }
      else none
  | .setDefaultCacheRule rule => some { session with shared.defaultCacheRule := rule }
  | .clearCache =>
      some { session with realm := AwesomeNetwork.clearCache session.shared session.realm }

/-- What a step does. -/
inductive StepCases (session : RestartedSession) : Label → RestartedSession → Prop
  | start (useSemaphore : Bool) (timeout : TimeInterval) (rule : AwesomeCacheRule)
      (cacheType : AwesomeCacheType) :
      StepCases session (.start useSemaphore timeout rule cacheType)
        (session.start useSemaphore timeout rule cacheType)
  | requestData (request : AwesomeRequestProtocol) :
      StepCases session (.requestData request) { session with
        calls := session.calls.push (.start request session.shared session.realm)
        serving := session.serving.push none }
  | call (label : Session.Label) (name : Nat) (moved : Session) : label.call? = some name →
      (session.sessionOf (session.requesterOf name) label).step label = some moved →
      StepCases session (.call label) (session.absorb name (session.requesterOf name) moved)
  | dispatcher (label : AwesomeDispatcher.Label) (dispatcher : AwesomeDispatcher) :
      Session.dispatches label = true → session.dispatcher.step label = some dispatcher →
      StepCases session (.dispatcher label) { session with dispatcher := dispatcher }
  | registries (label : Generations.Label String) (registries : Generations String) :
      manages label = true → session.registries.step label = some registries →
      StepCases session (.registries label) { session with registries := registries }
  | setDefaultCacheRule (rule : AwesomeCacheRule) :
      StepCases session (.setDefaultCacheRule rule)
        { session with shared.defaultCacheRule := rule }
  | clearCache :
      StepCases session .clearCache
        { session with realm := AwesomeNetwork.clearCache session.shared session.realm }

variable {session next source target : RestartedSession} {label : Label} {labels : List Label}
  {name requester : Nat}

/-- Every step is one of these cases. -/
theorem stepCases (taken : step session label = some next) : StepCases session label next := by
  cases label with
  | start useSemaphore timeout rule cacheType =>
      cases taken
      exact .start useSemaphore timeout rule cacheType
  | requestData request =>
      cases taken
      exact .requestData request
  | call label =>
      unfold step at taken
      dsimp only at taken
      split at taken
      · next name own =>
          obtain ⟨moved, stepped, rfl⟩ := Option.map_eq_some_iff.mp taken
          exact .call label name moved own stepped
      · cases taken
  | dispatcher label =>
      obtain ⟨allowed, moves⟩ := Option.ite_none_right_eq_some.mp taken
      obtain ⟨dispatcher, stepped, rfl⟩ := Option.map_eq_some_iff.mp moves
      exact .dispatcher label dispatcher allowed stepped
  | registries label =>
      obtain ⟨allowed, moves⟩ := Option.ite_none_right_eq_some.mp taken
      obtain ⟨registries, stepped, rfl⟩ := Option.map_eq_some_iff.mp moves
      exact .registries label registries allowed stepped
  | setDefaultCacheRule rule =>
      cases taken
      exact .setDefaultCacheRule rule
  | clearCache =>
      cases taken
      exact .clearCache

/-- A call is moved in the session of its requester, or it begins. -/
theorem step_moves {after : Call} (taken : step session label = some next)
    (present : next.calls.get? name = some after) :
    (∃ before, session.calls.get? name = some before ∧
        ∃ (view : Session) (moved : Session.Label), view.Moves moved name before after) ∨
      ∃ request, label = .requestData request ∧ name = session.calls.size ∧
        after = .start request session.shared session.realm := by
  have stays (same : next.calls = session.calls) : ∃ before,
      session.calls.get? name = some before ∧
        ∃ (view : Session) (moved : Session.Label), view.Moves moved name before after :=
    ⟨after, same ▸ present, session.sessionOf 0 .clearCache, .clearCache, .stay⟩
  cases stepCases taken with
  | start => exact Or.inl (stays rfl)
  | requestData request =>
      rcases Table.get?_push_cases present with old | ⟨last, rfl⟩
      · exact Or.inl ⟨after, old, session.sessionOf 0 .clearCache, .clearCache, .stay⟩
      · exact Or.inr ⟨request, rfl, last, rfl⟩
  | call label other moved own stepped =>
      rcases Session.step_call_inv stepped present with ⟨before, found, moves⟩ | ⟨_, rfl, _⟩
      · exact Or.inl ⟨before, found, _, _, moves⟩
      · cases own
  | dispatcher => exact Or.inl (stays rfl)
  | registries => exact Or.inl (stays rfl)
  | setDefaultCacheRule => exact Or.inl (stays rfl)
  | clearCache => exact Or.inl (stays rfl)

/-- What holds of a call when it begins and is kept by its moves holds of every call. -/
theorem all_calls {predicate : Call → Prop} (run : Transition.Run step source labels target)
    (begins : ∀ request shared realm, predicate (.start request shared realm))
    (kept : ∀ (view : Session) moved name before after, view.Moves moved name before after →
      predicate before → predicate after)
    (all : source.calls.All fun _ => predicate) : target.calls.All fun _ => predicate := by
  apply run.preserves _ all
  intro state label next all taken name after present
  rcases step_moves taken present with ⟨before, found, view, moved, moves⟩ | ⟨request, _, _, rfl⟩
  · exact kept view moved name before after moves (all name before found)
  · exact begins request _ _

/-- The requesters and their registries correspond, and so do the calls and what is kept of
their requesters; a call that has not decided has made no attempt. -/
structure Consistent (session : RestartedSession) : Prop where
  requesters : session.requesters.size = session.registries.requesters.size
  started : 0 < session.requesters.size
  installed : session.shared.requester =
    session.requesters.get? session.registries.installed
  serving : session.serving.size = session.calls.size
  bound : ∀ name requester, session.serving.get? name = some (some requester) →
    requester < session.requesters.size
  undecided : ∀ name call, session.calls.get? name = some call → call.phase = .deciding →
    session.serving.get? name = some none
  untried : ∀ name call, session.calls.get? name = some call →
    session.serving.get? name = some none → call.tasks = []

/-- The library after its first start. -/
def started (useSemaphore : Bool) (timeout : TimeInterval) (rule : AwesomeCacheRule)
    (cacheType : AwesomeCacheType) (realm : Realm) : RestartedSession :=
  (initial realm).start useSemaphore timeout rule cacheType

/-- After the first start everything is consistent. -/
theorem consistent_started (useSemaphore : Bool) (timeout : TimeInterval)
    (rule : AwesomeCacheRule) (cacheType : AwesomeCacheType) (realm : Realm) :
    (started useSemaphore timeout rule cacheType realm).Consistent where
  requesters := rfl
  started := Nat.one_pos
  installed := rfl
  serving := rfl
  bound := fun _ _ present => nomatch present
  undecided := fun _ _ present => nomatch present
  untried := fun _ _ present => nomatch present

/-- The requester of a call was installed. -/
theorem Consistent.requesterOf_lt (consistent : session.Consistent) (name : Nat) :
    session.requesterOf name < session.requesters.size := by
  unfold requesterOf
  cases bound : (session.serving.get? name).join with
  | none =>
      have started := consistent.started
      have same := consistent.requesters
      change session.registries.requesters.size - 1 < _
      omega
  | some requester => exact consistent.bound name requester (Option.join_eq_some_iff.mp bound)

/-- What happens to the registries without a start leaves their number as it is. -/
theorem size_of_managed {label : Generations.Label String} {registries : Generations String}
    (allowed : manages label = true) (taken : session.registries.step label = some registries) :
    registries.requesters.size = session.registries.requesters.size := by
  cases Generations.stepCases taken with
  | start => cases allowed
  | requester _ _ _ _ _ _ _ same => rw [same, Table.size_modify]
  | cancelAllRequests _ _ _ _ same => rw [same, Table.size_modify]
  | upload _ same => exact congrArg Table.size same
  | cancelNone _ same => exact congrArg Table.size same
  | cancelUploads _ _ _ _ _ same => exact congrArg Table.size same
  | cancelReturn _ _ _ same => exact congrArg Table.size same

/-- A restart keeps everything consistent. -/
theorem consistent_start (consistent : session.Consistent) (useSemaphore : Bool)
    (timeout : TimeInterval) (rule : AwesomeCacheRule) (cacheType : AwesomeCacheType) :
    (session.start useSemaphore timeout rule cacheType).Consistent where
  requesters := by
    unfold start
    rw [Table.size_push, Table.size_push, consistent.requesters]
  started := by
    unfold start
    rw [Table.size_push]
    exact Nat.succ_pos _
  installed := by
    unfold start Generations.installed
    dsimp only
    rw [Table.size_push, Nat.add_sub_cancel, ← consistent.requesters]
    exact (Table.get?_push_self ..).symm
  serving := consistent.serving
  bound := fun name requester present => by
    unfold start
    rw [Table.size_push]
    exact Nat.lt_succ_of_lt (consistent.bound name requester present)
  undecided := consistent.undecided
  untried := consistent.untried

/-- A new call keeps everything consistent. -/
theorem consistent_requestData (consistent : session.Consistent)
    (request : AwesomeRequestProtocol) :
    ({ session with
        calls := session.calls.push (.start request session.shared session.realm)
        serving := session.serving.push none } : RestartedSession).Consistent := by
  refine ⟨consistent.requesters, consistent.started, consistent.installed, ?_, ?_, ?_, ?_⟩
  · rw [Table.size_push, Table.size_push, consistent.serving]
  · intro name requester present
    rcases Table.get?_push_cases present with old | ⟨_, fresh⟩
    · exact consistent.bound name requester old
    · cases fresh
  · intro name call present deciding
    rcases Table.get?_push_cases present with old | ⟨last, _⟩
    · exact Table.get?_push_of_get? _ (consistent.undecided name call old deciding)
    · rw [last, ← consistent.serving]
      exact Table.get?_push_self ..
  · intro name call present unbound
    rcases Table.get?_push_cases present with old | ⟨_, rfl⟩
    · rcases Table.get?_push_cases unbound with same | ⟨last, _⟩
      · exact consistent.untried name call old same
      · have below := Table.lt_size_of_get? old
        have sizes := consistent.serving
        omega
    · rfl

/-- A call that takes a step has decided, with its requester. -/
theorem consistent_call (consistent : session.Consistent) {moving : Session.Label}
    {moved : Session} (own : moving.call? = some name)
    (stepped : (session.sessionOf (session.requesterOf name) moving).step moving = some moved) :
    (session.absorb name (session.requesterOf name) moved).Consistent := by
  obtain ⟨before, after, moves⟩ := Session.localStep own stepped
  have size : (session.registries.setRequester (session.requesterOf name)
      moved.managers.requester).requesters.size = session.registries.requesters.size :=
    Table.size_modify ..
  refine ⟨consistent.requesters.trans size.symm, consistent.started, ?_, ?_, ?_, ?_, ?_⟩
  · refine consistent.installed.trans (congrArg session.requesters.get? ?_)
    exact congrArg (· - 1) size.symm
  · unfold absorb
    rw [moves.calls, Table.size_modify, Table.size_modify]
    exact consistent.serving
  · intro other requester present
    change (session.serving.modify name _).get? other = _ at present
    rw [Table.get?_modify] at present
    split at present
    · obtain ⟨_, _, same⟩ := Option.map_eq_some_iff.mp present
      cases same
      exact consistent.requesterOf_lt name
    · exact consistent.bound other requester present
  · intro other call present deciding
    change moved.calls.get? other = _ at present
    change (session.serving.modify name _).get? other = _
    rw [moves.calls, Table.get?_modify] at present
    split at present
    · obtain ⟨_, _, rfl⟩ := Option.map_eq_some_iff.mp present
      exact (moves.decided deciding).elim
    · next different =>
        rw [Table.get?_modify_of_ne _ _ different]
        exact consistent.undecided other call present deciding
  · intro other call present unbound
    change (session.serving.modify name _).get? other = _ at unbound
    change moved.calls.get? other = _ at present
    rw [moves.calls] at present
    rw [Table.get?_modify] at present unbound
    split at unbound
    · obtain ⟨_, _, same⟩ := Option.map_eq_some_iff.mp unbound
      cases same
    · next different =>
        rw [if_neg different] at present
        exact consistent.untried other call present unbound

/-- Every step keeps everything consistent. -/
theorem consistent_step (consistent : session.Consistent)
    (taken : step session label = some next) : next.Consistent := by
  cases stepCases taken with
  | start useSemaphore timeout rule cacheType => exact consistent_start consistent ..
  | requestData request => exact consistent_requestData consistent request
  | call moving name moved own stepped => exact consistent_call consistent own stepped
  | registries label registries allowed moved =>
      have size := size_of_managed allowed moved
      refine ⟨consistent.requesters.trans size.symm, consistent.started, ?_,
        consistent.serving, consistent.bound, consistent.undecided, consistent.untried⟩
      refine consistent.installed.trans (congrArg session.requesters.get? ?_)
      exact congrArg (· - 1) size.symm
  | _ =>
      exact ⟨consistent.requesters, consistent.started, consistent.installed,
        consistent.serving, consistent.bound, consistent.undecided, consistent.untried⟩

end RestartedSession

end AwesomeNetwork
