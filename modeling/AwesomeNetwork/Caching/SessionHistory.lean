import AwesomeNetwork.Caching.LastSaved
import AwesomeNetwork.Networking.Answers
import AwesomeNetwork.Networking.OwnReplies
import AwesomeNetwork.Networking.Provenance

/-! # The cache under concurrent calls

A step of a session acts on the cache as one operation or none: the final reply of a call is
saved in one step, and a call looks at the cache in one. However the calls overlap, each of
them finds what a map would hold after the operations of the steps before it.
-/

namespace AwesomeNetwork

namespace Session

/-- What a step does to the cache. -/
def cacheOperations (session : Session) : Label → List CacheOperation
  | .respond name =>
      match session.calls.get? name with
      | some call =>
          match call.phase with
          | .removed retries outcome =>
              if call.Retries retries outcome then []
              else [.saveToCache call.request outcome.data]
          | _ => []
      | none => []
  | .clearCache => [.clearCache]
  | _ => []

variable {session next source target : Session} {label : Label} {labels : List Label}
  {name : Nat} {call : Call} {shared current : Shared} {manager : AwesomeCacheManager}

/-- Of the configuration, an operation reads the cache manager only. -/
theorem perform_congr (same : current.cacheManager = shared.cacheManager)
    (operation : CacheOperation) (realm : Realm) :
    operation.perform current realm = operation.perform shared realm := by
  cases operation with
  | saveToCache request data =>
      cases data with
      | none => exact (request.saveToCache_none ..).trans (request.saveToCache_none ..).symm
      | some data =>
          unfold CacheOperation.perform
          dsimp only
          rw [request.saveToCache_some, request.saveToCache_some, same]
  | saveCacheRequest data urlRequest =>
      unfold CacheOperation.perform
      rw [same]
  | saveCacheKey data cacheKey =>
      unfold CacheOperation.perform
      rw [same]
  | clearCache =>
      unfold CacheOperation.perform AwesomeNetwork.clearCache
      rw [same]

theorem performAll_congr (same : current.cacheManager = shared.cacheManager)
    (operations : List CacheOperation) (realm : Realm) :
    CacheOperation.performAll current realm operations =
      CacheOperation.performAll shared realm operations := by
  induction operations generalizing realm with
  | nil => rfl
  | cons operation operations ih =>
      have first := perform_congr same operation realm
      have rest := ih (operation.perform current realm)
      rw [first] at rest
      exact (congrArg (CacheOperation.performAll current · operations) first).trans rest

/-- A step acts on the cache by its operation. -/
theorem realm_step (taken : step session label = some next) :
    next.realm =
      CacheOperation.performAll session.shared session.realm (session.cacheOperations label) := by
  cases stepCases taken with
  | decide name call present deciding =>
      unfold decide
      dsimp only [setCall]
      split
      · split
        · rfl
        · exact realm_performRequest ..
      · rfl
  | respond name call retries outcome present removed =>
      simp only [cacheOperations, respond, setCall, present, removed]
      split <;> rfl
  | retry name call retries requester =>
      dsimp only [setCall]
      exact realm_performRequest ..
  | _ => rfl

/-- **The cache of a run.** It is the one that the operations of the steps leave. -/
theorem realm_run (run : Transition.Run step source labels target) :
    target.realm = CacheOperation.performAll source.shared source.realm
      (Transition.emitted step cacheOperations source labels) := by
  induction run with
  | nil => rfl
  | cons taken _ ih =>
      rw [ih, Transition.emitted_cons taken, performAll_congr (step_shared taken).2,
        realm_step taken]
      exact List.foldl_append.symm

/-- What is read under a key after operations is the last data that they saved there, or what
was there before if they spared the key. -/
theorem data_performAll_iff (installed : shared.cacheManager = some manager) {realm : Realm}
    {operations : List CacheOperation} {key : String} {data : Data} :
    AwesomeRealmCache.data (CacheOperation.performAll shared realm operations) key = some data ↔
      CacheOperation.LastSaved key data operations ∨
        ((∀ operation ∈ operations, operation.Spares key) ∧
          AwesomeRealmCache.data realm key = some data) := by
  rw [CacheOperation.data_performAll, KeyValue.applyAll_eq_some_iff,
    ← CacheOperation.lastSaved_iff installed, List.forall_mem_map]
  simp only [CacheOperation.spares_iff installed]

/-- The save of a run is that of a call's last reply. -/
theorem saved_step (observed : session.calls.All fun _ call => call.Observed)
    (taken : step session label = some next) {operation : CacheOperation}
    (member : operation ∈ session.cacheOperations label) :
    operation = .clearCache ∨ ∃ name call past response, next.calls.get? name = some call ∧
      call.phase = .ended ∧ call.responses = past ++ [response] ∧
      operation = .saveToCache call.request response.outcome.data := by
  cases stepCases taken with
  | respond name call retries outcome present removed =>
      simp only [cacheOperations, present, removed] at member
      have seen : call.Observed := observed name call present
      unfold Call.Observed at seen
      rw [removed] at seen
      obtain ⟨_, past, response, responses, rfl⟩ := seen
      split at member
      · cases member
      · next final =>
          rw [List.mem_singleton.mp member]
          refine Or.inr ⟨name, call.respond session.shared retries response.outcome, past,
            response, ?_, ?_⟩
          · rw [calls_setCall, calls_respond, Table.get?_modify_self, present]
            rfl
          · unfold Call.respond
            rw [if_neg final]
            split <;> exact ⟨rfl, responses, rfl⟩
  | clearCache => exact Or.inl (List.mem_singleton.mp member)
  | _ => cases member

/-- Every operation of a run clears the cache or saves the last reply to a call that has
ended. -/
theorem saved_run (run : Transition.Run step source labels target)
    (observed : source.calls.All fun _ call => call.Observed) {operation : CacheOperation}
    (member : operation ∈ Transition.emitted step cacheOperations source labels) :
    operation = .clearCache ∨ ∃ name call past response, target.calls.get? name = some call ∧
      call.phase = .ended ∧ call.responses = past ++ [response] ∧
      operation = .saveToCache call.request response.outcome.data := by
  induction run with
  | nil => cases member
  | cons taken rest ih =>
      rw [Transition.emitted_cons taken] at member
      rcases List.mem_append.mp member with first | later
      · refine (saved_step observed taken first).imp_right ?_
        rintro ⟨name, call, past, response, present, ended, replied⟩
        exact ⟨name, call, past, response, (ended_run rest present ended).1, ended, replied⟩
      · exact ih (observed_run (.single taken) observed) later

/-- **Concurrent calls and the cache.** A call that begins after any run is served exactly the
data that its rule lets it read and its request accepts, and that was saved last under its
effective key since the cache was cleared, or was there from the beginning; and everything
saved is the last reply to some call that has ended. -/
theorem served_iff_lastSaved (installed : shared.cacheManager = some manager) (realm : Realm)
    {before after : List Label} {request : AwesomeRequestProtocol} {data : Data}
    (history : Transition.Run step (started shared realm) before session)
    (begins : step session (.requestData request) = some next)
    (run : Transition.Run step next after target)
    (present : target.calls.get? session.calls.size = some call) :
    (call.served = some data ↔
      (request.cacheRule session.shared).shouldGetFromCache = true ∧
        request.isSuccessResponse (some data) = true ∧
        ∃ key, request.effectiveKey = some key ∧
          (CacheOperation.LastSaved key data
              (Transition.emitted step cacheOperations (started shared realm) before) ∨
            ((∀ operation ∈ Transition.emitted step cacheOperations (started shared realm) before,
                operation.Spares key) ∧
              AwesomeRealmCache.data realm key = some data))) ∧
    ∀ operation ∈ Transition.emitted step cacheOperations (started shared realm) before,
      operation = .clearCache ∨ ∃ name call past response, session.calls.get? name = some call ∧
        call.phase = .ended ∧ call.responses = past ++ [response] ∧
        operation = .saveToCache call.request response.outcome.data := by
  refine ⟨?_, fun operation => saved_run history .empty⟩
  have managed : session.shared.cacheManager = some manager :=
    (cacheManager_run history).trans installed
  have served : call.served = request.servedData session.shared session.realm := by
    cases begins
    have kept : ∃ other, target.calls.get? session.calls.size = some other ∧
        other.served = request.servedData session.shared session.realm := by
      apply run.preserves _ ⟨_, Table.get?_push_self .., rfl⟩
      rintro state label following ⟨other, found, same⟩ taken
      obtain ⟨later, reached, moves⟩ := step_call taken found
      exact ⟨later, reached, moves.fixed.2.trans same⟩
    obtain ⟨other, found, same⟩ := kept
    cases Option.some.inj (found.symm.trans present)
    exact same
  rw [served, servedData_eq_some_iff, request.cachedData_eq, managed, Option.bind_some,
    realm_run history]
  refine and_congr_right fun _ => and_comm.trans (and_congr_right fun _ => ?_)
  rw [Option.bind_eq_some_iff]
  exact exists_congr fun key => and_congr_right fun _ => data_performAll_iff installed

/-- The session in which the second call has saved its reply and the first one is in flight. -/
def secondReplied : Session :=
  (Transition.execute step (started pickyWorld.shared Realm.empty) twoReplied).getD
    (started pickyWorld.shared Realm.empty)

/-- A third call begins, and the first one gets its last reply. -/
def thirdBegun : Session :=
  (Transition.execute step secondReplied (.requestData pickyRequest :: lastReplied)).getD
    secondReplied

/-- The third call is served `[1]`, which was saved last while the first one was in flight. -/
theorem served_iff_lastSaved_first :
    Transition.Run step (started pickyWorld.shared Realm.empty) twoReplied secondReplied ∧
      Transition.Run step secondReplied (.requestData pickyRequest :: lastReplied) thirdBegun ∧
      (∃ call, thirdBegun.calls.get? 2 = some call ∧ call.served = some [1]) ∧
      ∃ key, pickyRequest.effectiveKey = some key ∧ CacheOperation.LastSaved key [1]
        (Transition.emitted step cacheOperations (started pickyWorld.shared Realm.empty)
          twoReplied) := by
  have history : Transition.Run step (started pickyWorld.shared Realm.empty) twoReplied
      secondReplied := Transition.run_iff_execute.mpr rfl
  have rest : Transition.Run step secondReplied (.requestData pickyRequest :: lastReplied)
      thirdBegun := Transition.run_iff_execute.mpr rfl
  obtain ⟨next, begins, run⟩ := rest.cons_inv
  have present : thirdBegun.calls.get? secondReplied.calls.size = some _ := rfl
  obtain ⟨_, _, key, keyed, saved | ⟨_, stored⟩⟩ :=
    (served_iff_lastSaved rfl Realm.empty history begins run present).1.mp rfl
  · exact ⟨history, rest, ⟨_, present, rfl⟩, key, keyed, saved⟩
  · cases stored

end Session

end AwesomeNetwork
