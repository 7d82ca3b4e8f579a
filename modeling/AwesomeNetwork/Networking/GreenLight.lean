import AwesomeNetwork.Networking.Session

/-! # Requests before the green light

The dispatcher's semaphore starts with a count of one and every block that gets
through lets the next one through. A request that has a URL to go to therefore
gets its task without any release; the gate holds back only what would not go to
a URL anyway.
-/

namespace AwesomeNetwork

namespace Session

/-- No call has made a task. -/
def NoTask (session : Session) : Prop := session.calls.All fun _ call => call.tasks = []

/-- The step does not release the dispatcher, and no wait times out in it. -/
def Unreleased : Label → Prop
  | .dispatcher .releaseSemaphore | .dispatcher .releaseSignal | .dispatcher (.expire _) => False
  | _ => True

/-- The step hands a request over to be sent to its URL. -/
def HandsOver (session : Session) : Label → Prop
  | .decide name => ∃ call, session.calls.get? name = some call ∧
      call.request.urlRequest.isSome = true ∧
      (call.request.cacheRule session.shared).shouldGetFromUrl call.didReturnCache = true
  | _ => False

instance decidableHandsOver (session : Session) : ∀ label, Decidable (session.HandsOver label)
  | .decide name => decidable_of_iff (∃ call ∈ session.calls.get? name,
      call.request.urlRequest.isSome = true ∧
        (call.request.cacheRule session.shared).shouldGetFromUrl call.didReturnCache = true) Iff.rfl
  | .requestData _ | .dispatcher _ | .runBlock _ | .managers _ | .finish .. | .remove _
  | .respond _ | .retry _ | .setDefaultCacheRule _ | .clearCache => .isFalse id

/-- No call has got as far as the dispatcher. -/
def Idle (session : Session) : Prop :=
  session.calls.All fun _ call => (call.phase = .deciding ∨ call.phase = .ended) ∧ call.tasks = []

variable {session next : Session} {label : Label} {request : AwesomeRequestProtocol}
  {shared : Shared} {realm : Realm}

/-- A call that needs no URL ends with its decision. -/
theorem decide_of_not_handed {call : Call} (shared : Shared) (block task : Nat)
    (kept : ¬ (call.request.urlRequest.isSome = true ∧
      (call.request.cacheRule shared).shouldGetFromUrl call.didReturnCache = true)) :
    (call.decide shared block task).phase = .ended ∧
      (call.decide shared block task).tasks = call.tasks := by
  unfold Call.decide
  split
  · next asked =>
      have absent : call.request.urlRequest = none := by
        cases present : call.request.urlRequest with
        | none => rfl
        | some urlRequest =>
            rw [present] at kept
            exact (kept ⟨rfl, asked⟩).elim
      split
      · exact ⟨rfl, rfl⟩
      · unfold Call.perform
        have dropped : (call.record .fetchStarted).request.urlRequest = none := absent
        rw [dropped]
        exact ⟨rfl, rfl⟩
  · split <;> exact ⟨rfl, rfl⟩

/-- Without a request that is handed over, the session stays idle. -/
theorem idle_step (idle : session.Idle) (kept : ¬ session.HandsOver label)
    (taken : step session label = some next) : next.Idle := by
  intro name after present
  rcases step_call_inv taken present with ⟨before, found, moves⟩ | ⟨request, _, _, rfl⟩
  · obtain ⟨phase, tasks⟩ := idle name before found
    have settled {other : Phase} (reached : before.phase = other) :
        other = .deciding ∨ other = .ended := reached ▸ phase
    cases moves with
    | stay => exact ⟨phase, tasks⟩
    | decide own deciding =>
        subst own
        have dropped := decide_of_not_handed session.shared session.nextBlock session.nextTask
          fun handed => kept ⟨before, found, handed⟩
        exact ⟨Or.inr dropped.1, dropped.2.trans tasks⟩
    | runBlock retries block own gated => rcases settled gated with same | same <;> cases same
    | finish retries task data response own inFlight =>
        rcases settled inFlight with same | same <;> cases same
    | remove retries task outcome own answered =>
        rcases settled answered with same | same <;> cases same
    | respond retries outcome own removed => rcases settled removed with same | same <;> cases same
    | retry retries requester own waiting => rcases settled waiting with same | same <;> cases same
  · exact ⟨Or.inl rfl, rfl⟩

/-- A session is idle at first. -/
theorem idle_started (shared : Shared) (realm : Realm) : (started shared realm).Idle := by
  intro name call present
  cases (Table.get?_empty name).symm.trans present

/-- In an idle session no call has a task. -/
theorem Idle.noTask (idle : session.Idle) : session.NoTask :=
  fun name call present => (idle name call present).2

/-- The moves that take the first call of a session through the closed gate. -/
def passGate (request : AwesomeRequestProtocol) : List Label :=
  [.requestData request, .decide 0, .dispatcher (.enter 0), .dispatcher (.acquire 0),
    .dispatcher (.dispatch 0), .runBlock 0]

/-- No release is among the steps through the gate. -/
theorem passGate_unreleased (request : AwesomeRequestProtocol) :
    ∀ label ∈ passGate request, Unreleased label := by
  intro label member
  simp only [passGate, List.mem_cons, List.not_mem_nil, or_false] at member
  rcases member with rfl | rfl | rfl | rfl | rfl | rfl <;> trivial

/-- A call with a URL to go to puts a block at the gate. -/
theorem decide_gated (session : Session) (call : Call) {urlRequest : URLRequest}
    (block task : Nat) (gated : session.shared.requester = some ⟨true⟩)
    (present : call.request.urlRequest = some urlRequest)
    (asked : (call.request.cacheRule session.shared).shouldGetFromUrl call.didReturnCache = true) :
    session.decide call = { session with dispatcher := session.dispatcher.executeBlock true } ∧
      call.decide session.shared block task =
        (call.record .fetchStarted).moveTo (.gated call.request.retryCount block) := by
  constructor
  · unfold decide performRequest
    rw [if_pos asked, gated, present]
    rfl
  · unfold Call.decide Call.perform
    rw [if_pos asked, gated]
    dsimp only
    have kept : (call.record .fetchStarted).request.urlRequest = some urlRequest := present
    rw [kept]
    rfl

/-- A block that runs gets its call a task. -/
theorem step_runBlock {name block : Nat} {call : Call} {retries : Int} {urlRequest : URLRequest}
    {dispatcher : AwesomeDispatcher} (present : session.calls.get? name = some call)
    (gated : call.phase = .gated retries block)
    (requested : call.request.urlRequest = some urlRequest)
    (ran : session.dispatcher.step (.run block) = some dispatcher) :
    ∃ next, step session (.runBlock name) = some next ∧
      next.calls.get? name = some (call.send retries session.nextTask) := by
  unfold step
  dsimp only
  rw [present]
  dsimp only
  rw [gated, requested]
  dsimp only
  rw [ran]
  refine ⟨_, rfl, ?_⟩
  rw [calls_setCall, Table.get?_modify_self, present]
  rfl

/-- The first request of a session goes through the closed gate. -/
theorem passGate_creates_task (gated : shared.requester = some ⟨true⟩)
    (requested : request.urlRequest.isSome = true)
    (fetches : Fetches (request.cacheRule shared) (request.servedData shared realm)) :
    ∃ target, Transition.Run step (started shared realm) (passGate request) target ∧
      ∃ call, target.calls.get? 0 = some call ∧ call.request = request ∧ call.tasks = [0] := by
  obtain ⟨urlRequest, present⟩ := Option.isSome_iff_exists.mp requested
  let issued : Session :=
    { started shared realm with calls := ⟨[.start request shared realm]⟩ }
  let waiting : Call :=
    ((Call.start request shared realm).record .fetchStarted).moveTo (.gated request.retryCount 0)
  let held : Session :=
    { issued with dispatcher := AwesomeDispatcher.initial.executeBlock true, calls := ⟨[waiting]⟩ }
  have asked : (request.cacheRule shared).shouldGetFromUrl
      (Call.start request shared realm).didReturnCache = true :=
    (shouldGetFromUrl_iff _ _).mpr fetches
  have decided : step issued (.decide 0) = some held := by
    unfold step
    dsimp only
    apply Table.when_eq_some.mpr
    refine ⟨Call.start request shared realm, rfl, rfl, ?_⟩
    obtain ⟨session, call⟩ := decide_gated issued (.start request shared realm)
      issued.nextBlock issued.nextTask gated present asked
    rw [session, call]
    rfl
  have passes : ∃ passed, Transition.Run step held
      [.dispatcher (.enter 0), .dispatcher (.acquire 0), .dispatcher (.dispatch 0)] passed ∧
      passed.calls.get? 0 = some waiting ∧
      passed.nextTask = 0 ∧ ∃ dispatcher, passed.dispatcher.step (.run 0) = some dispatcher :=
    ⟨_, Transition.run_iff_execute.mpr rfl, rfl, rfl, _, rfl⟩
  obtain ⟨passed, passing, found, first, dispatcher, ran⟩ := passes
  obtain ⟨target, created, sent⟩ := step_runBlock found rfl present ran
  rw [first] at sent
  exact ⟨target, .cons rfl (.cons decided (passing.snoc created)), _, sent, rfl, rfl⟩

/-- **The gate before the green light.** Started with the semaphore, a run that
hands nothing over creates no task; and every request with a URL to go to has a
run without release or timeout that creates its task. -/
theorem gate_holds_iff (shared : Shared) (realm : Realm) (gated : shared.requester = some ⟨true⟩) :
    (∀ labels, Transition.Meets step (fun session label => ¬ session.HandsOver label)
        (started shared realm) labels →
      Transition.Always step NoTask (started shared realm) labels) ∧
      ∀ request : AwesomeRequestProtocol, request.urlRequest.isSome = true →
        Fetches (request.cacheRule shared) (request.servedData shared realm) →
          ∃ labels target, Transition.Run step (started shared realm) labels target ∧
            (∀ label ∈ labels, Unreleased label) ∧ ¬ target.NoTask := by
  constructor
  · intro labels kept
    have idle : Transition.Always step Idle (started shared realm) labels :=
      kept.always (fun _ _ _ idle kept taken => idle_step idle kept taken)
        (idle_started shared realm)
    exact idle.mono fun _ => Idle.noTask
  · intro request requested fetches
    obtain ⟨target, run, call, present, _, tasks⟩ := passGate_creates_task gated requested fetches
    refine ⟨passGate request, target, run, passGate_unreleased request, fun none => ?_⟩
    exact List.cons_ne_nil _ _ (tasks.symm.trans (none 0 call present))

/-- The library, started with the semaphore. -/
def gatedShared : Shared := start true 15 .fromCacheOrUrl .realm

/-- With the semaphore and without a release, the first request gets its task. -/
theorem first_request_passes :
    ∃ target, Transition.Run step (started gatedShared Realm.empty) (passGate pickyRequest) target ∧
      (∀ label ∈ passGate pickyRequest, Unreleased label) ∧ ¬ target.NoTask := by
  obtain ⟨target, run, call, present, _, tasks⟩ :=
    passGate_creates_task (rfl : gatedShared.requester = some ⟨true⟩)
      (rfl : pickyRequest.urlRequest.isSome = true) (Or.inr (Or.inl rfl))
  refine ⟨target, run, passGate_unreleased pickyRequest, fun none => ?_⟩
  exact List.cons_ne_nil _ _ (tasks.symm.trans (none 0 call present))

/-- Two requests that are not handed over: one has no URL to go to, and one only reads the
cache. -/
def notHandedOver : List Label :=
  [.requestData { pickyRequest with urlRequest := none },
    .requestData { pickyRequest with cacheRule := fun _ => .fromCacheOnly }, .decide 1, .decide 0]

/-- These two requests create no task, and a third one would, without a release. -/
theorem gate_holds_iff_picky :
    (∃ target, Transition.Run step (started gatedShared Realm.empty) notHandedOver target ∧
        target.calls.size = 2 ∧ target.NoTask) ∧
      ∃ labels target, Transition.Run step (started gatedShared Realm.empty) labels target ∧
        (∀ label ∈ labels, Unreleased label) ∧ ¬ target.NoTask := by
  obtain ⟨holds, passes⟩ := gate_holds_iff gatedShared Realm.empty rfl
  have run := Transition.run_iff_execute.mpr (rfl : Transition.execute step
    (started gatedShared Realm.empty) notHandedOver = some _)
  have kept : Transition.Meets step (fun session label => ¬ session.HandsOver label)
      (started gatedShared Realm.empty) notHandedOver := by
    decide
  exact ⟨⟨_, run, rfl, (holds notHandedOver kept).finally run⟩, passes pickyRequest rfl (by decide)⟩

end Session

end AwesomeNetwork
