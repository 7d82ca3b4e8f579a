import AwesomeNetwork.Networking.RestartedAnswers

/-! # Sessions settle across restarts

The work of all requesters, those that were replaced included, is paid for by the calls. A start
brings none in and takes none away.
-/

namespace AwesomeNetwork

namespace RestartedSession

/-- The steps ahead when the library is left alone. -/
def work (session : RestartedSession) : Nat :=
  session.calls.total Call.work + session.dispatcher.work +
    session.registries.requesters.total (·.work)

/-- The steps that bring calls to their end. -/
def Label.inner : Label → Bool
  | .call _ => true
  | .dispatcher label => label.inner
  | .registries (.requester _ label) => label.inner
  | _ => false

/-- The work that comes with a new call. -/
def newWork (_ : RestartedSession) : Label → Nat
  | .requestData request => 12 * (request.retryCount.toNat + 1)
  | _ => 0

variable {session next target : RestartedSession} {label : Label} {labels : List Label}
  {name requester : Nat} {call : Call} {useSemaphore : Bool} {timeout : TimeInterval}
  {rule : AwesomeCacheRule} {cacheType : AwesomeCacheType} {realm : Realm}

/-- A change of one registry changes its own work only. -/
theorem work_setRequester {registries : Generations String}
    {manager : AwesomeRequestManager String}
    (present : registries.requesters.get? requester = some manager)
    (after : AwesomeRequestManager String) :
    (registries.setRequester requester after).requesters.total (·.work) + manager.work =
      registries.requesters.total (·.work) + after.work :=
  Table.total_modify (·.work) (fun _ => after) present

/-- A step of a call takes as much off the work as it does in the session of its requester. -/
theorem work_call (consistent : session.Consistent) {moving : Session.Label} {moved : Session}
    (own : moving.call? = some name)
    (stepped : (session.sessionOf (session.requesterOf name) moving).step moving = some moved) :
    (session.absorb name (session.requesterOf name) moved).work + 1 ≤ session.work := by
  have spent := Session.work_step stepped
  have inner : moving.inner = true := by cases moving <;> first | rfl | cases own
  have nothing : Session.newWork (session.sessionOf (session.requesterOf name) moving) moving =
      0 := by
    cases moving <;> first | rfl | cases own
  have below := consistent.requesterOf_lt name
  rw [consistent.requesters] at below
  obtain ⟨manager, present⟩ : ∃ manager,
      session.registries.requesters.get? (session.requesterOf name) = some manager :=
    Option.ne_none_iff_exists'.mp fun absent =>
      absurd below (Nat.not_lt.mpr (Table.size_le_of_get?_none absent))
  have registry : session.registry (session.requesterOf name) = manager := by
    unfold registry
    rw [present]
    rfl
  have replaced := work_setRequester present moved.managers.requester
  rw [inner, nothing] at spent
  unfold Session.work sessionOf at spent
  dsimp only at spent
  rw [registry] at spent
  unfold work absorb
  dsimp only
  change _ + 1 ≤ _ at spent
  omega

/-- Every inner step is one less ahead, and only new calls bring work in. -/
theorem work_step (consistent : session.Consistent) (taken : step session label = some next) :
    next.work + label.inner.toNat ≤ session.work + session.newWork label := by
  cases stepCases taken with
  | start useSemaphore timeout rule cacheType =>
      have added := Table.total_push session.registries.requesters
        (.initial : AwesomeRequestManager String) (·.work)
      have none : (AwesomeRequestManager.initial : AwesomeRequestManager String).work = 0 := rfl
      unfold work start
      dsimp only
      rw [added, none]
      exact Nat.le_refl _
  | requestData request =>
      have added := Table.total_push session.calls (.start request session.shared session.realm)
        Call.work
      have ahead : (Call.start request session.shared session.realm).work =
        12 * (request.retryCount.toNat + 1) := rfl
      have outer : (Label.requestData request).inner.toNat = 0 := rfl
      unfold work newWork
      dsimp only
      omega
  | call moving name moved own stepped => exact work_call consistent own stepped
  | dispatcher label dispatcher allowed moved =>
      have spent := AwesomeDispatcher.work_step moved (by rintro _ rfl; cases allowed)
      unfold work
      change _ + label.inner.toNat ≤ _
      dsimp only
      omega
  | registries label registries allowed moved =>
      unfold work
      dsimp only
      have kept (same : registries.requesters = session.registries.requesters)
          (outer : (Label.registries label).inner = false) :
          session.calls.total Call.work + session.dispatcher.work +
              registries.requesters.total (·.work) + (Label.registries label).inner.toNat ≤
            session.calls.total Call.work + session.dispatcher.work +
              session.registries.requesters.total (·.work) := by
        rw [same, outer]
        exact Nat.le_refl _
      cases Generations.stepCases moved with
      | start => cases allowed
      | requester other act manager after present alone stepped same =>
          have spent := AwesomeRequestManager.work_step stepped (by rintro _ _ rfl; cases allowed)
          have replaced := Table.total_modify (·.work) (fun _ => after) present
          rw [same]
          change _ + act.inner.toNat ≤ _
          omega
      | cancelAllRequests manager cancelling present stepped same =>
          have spent := AwesomeRequestManager.work_step stepped nofun
          have replaced := Table.total_modify (·.work) (fun _ => cancelling) present
          rw [same]
          change _ + 0 ≤ _
          omega
      | upload _ same => exact kept same rfl
      | cancelNone _ same => exact kept same rfl
      | cancelUploads _ _ _ _ _ same => exact kept same rfl
      | cancelReturn _ _ _ same => exact kept same rfl
  | setDefaultCacheRule rule => exact Nat.le_refl _
  | clearCache => exact Nat.le_refl _

/-- Waits at the gate time out, and each call has what it needs. -/
structure Attended (session : RestartedSession) : Prop where
  consistent : session.Consistent
  owned : session.Owned
  orderly : session.dispatcher.InOrder
  times : session.dispatcher.timeout.isSome = true

/-- A step moves the dispatcher by one of its own steps or leaves it alone. -/
theorem step_dispatcher (taken : step session label = some next) :
    next.dispatcher = session.dispatcher ∨
      ∃ moved, session.dispatcher.step moved = some next.dispatcher := by
  cases stepCases taken with
  | call moving name moved own stepped => exact Session.step_dispatcher stepped
  | dispatcher label dispatcher allowed moved => exact Or.inr ⟨label, moved⟩
  | _ => exact Or.inl rfl

/-- After the first start the session is attended. -/
theorem attended_started (useSemaphore : Bool) (timeout : TimeInterval) (rule : AwesomeCacheRule)
    (cacheType : AwesomeCacheType) (realm : Realm) :
    (started useSemaphore timeout rule cacheType realm).Attended where
  consistent := consistent_started useSemaphore timeout rule cacheType realm
  owned := owned_started useSemaphore timeout rule cacheType realm
  orderly := fun _ _ present => nomatch present
  times := rfl

/-- Every step keeps the session attended. -/
theorem attended_step (attended : session.Attended) (taken : step session label = some next) :
    next.Attended := by
  refine ⟨consistent_step attended.consistent taken,
    owned_step attended.consistent attended.owned taken, ?_, ?_⟩
  · rcases step_dispatcher taken with same | ⟨moved, changed⟩
    · exact same ▸ attended.orderly
    · exact AwesomeDispatcher.inOrder_step attended.orderly changed
  · rcases step_dispatcher taken with same | ⟨moved, changed⟩
    · exact same ▸ attended.times
    · rw [AwesomeDispatcher.timeout_step changed]
      exact attended.times

section Still

variable (still : Transition.Still step (fun label => label.inner = true) session)

include still

/-- In a session that rests, no call has a step. -/
theorem call_still (moving : Session.Label) (own : moving.call? = some name) :
    (session.sessionOf (session.requesterOf name) moving).step moving = none := by
  have none := still (.call moving) rfl
  unfold step at none
  dsimp only at none
  rw [own] at none
  exact Option.map_eq_none_iff.mp none

/-- In a session that rests, the dispatcher has no step. -/
theorem dispatcher_still (label : AwesomeDispatcher.Label) (inner : label.inner = true) :
    session.dispatcher.step label = none := by
  have none := still (.dispatcher label) inner
  have allowed : Session.dispatches label = true := by cases label <;> first | rfl | cases inner
  unfold step at none
  dsimp only at none
  rw [if_pos allowed] at none
  exact Option.map_eq_none_iff.mp none

/-- In a session that rests, no registry has a step. -/
theorem registry_still (requester : Nat) (label : AwesomeRequestManager.Label String)
    (inner : label.inner = true) : (session.registry requester).step label = none := by
  have none := still (.registries (.requester requester label)) inner
  have allowed : manages (.requester requester label) = true := by
    cases label <;> first | rfl | cases inner
  have alone : Generations.single label = true := by cases label <;> first | rfl | cases inner
  unfold step at none
  dsimp only at none
  rw [if_pos allowed, Option.map_eq_none_iff] at none
  unfold Generations.step at none
  dsimp only at none
  unfold registry
  cases found : session.registries.requesters.get? requester with
  | none => cases label <;> first | rfl | cases inner
  | some manager =>
      rw [found] at none
      dsimp only at none
      rw [if_pos alone] at none
      exact Option.map_eq_none_iff.mp none

/-- **At rest.** When no inner step is enabled, every call has ended, those of the requesters
that were replaced included. -/
theorem ended_of_still (attended : session.Attended)
    (present : session.calls.get? name = some call) : call.phase = .ended := by
  have sees : (session.view (session.requesterOf name)).calls.get? name = some call := by
    rw [get?_view, present]
    exact congrArg some (seen_requesterOf session name call)
  have provided : (session.view (session.requesterOf name)).Provides call :=
    (attended.owned (session.requesterOf name)).provides name call sees
  have found (moving : Session.Label) :
      (session.sessionOf (session.requesterOf name) moving).calls.get? name = some call := present
  unfold Session.Provides at provided
  cases phase : call.phase with
  | deciding => exact (Table.when_ne_none present phase (call_still still (.decide name) rfl)).elim
  | gated retries block =>
      rw [phase] at provided
      obtain ⟨urlRequest, requested⟩ := Option.isSome_iff_exists.mp provided.1
      obtain ⟨gated, stored, dispatched⟩ := AwesomeDispatcher.dispatched_of_still
        attended.orderly attended.times (dispatcher_still still) provided.2
      have none := call_still still (.runBlock name) rfl
      simp only [Session.step, found, phase, requested, Option.map_eq_none_iff] at none
      exact (Table.when_ne_none stored dispatched none).elim
  | inFlight retries task =>
      rw [phase] at provided
      obtain ⟨_, data, stored, running⟩ := provided
      have resumed := AwesomeRequestManager.resumed_of_still
        (registry_still still (session.requesterOf name)) stored
      let response : SessionResponse := ⟨none, none, some ⟨NSURLErrorCancelled, "cancelled"⟩⟩
      have honest : data.cancelled = true → response.isCancelled := fun _ => rfl
      have none := call_still still (.finish name response) rfl
      have known : (session.sessionOf (session.requesterOf name)
          (.finish name response)).managers.requester.tasks.get? task = some data := stored
      simp only [Session.step, found, phase, known, if_pos honest, Option.map_eq_none_iff] at none
      exact (Table.when_ne_none stored ⟨running, Or.inl resumed⟩ none).elim
  | answered retries task outcome =>
      rw [phase] at provided
      obtain ⟨_, data, stored, completed⟩ := provided
      have none := call_still still (.remove name) rfl
      simp only [Session.step, found, phase, Option.map_eq_none_iff] at none
      exact (Table.when_ne_none stored completed none).elim
  | removed retries outcome =>
      have none := call_still still (.respond name) rfl
      simp only [Session.step, found, phase, reduceCtorEq] at none
  | waiting retries =>
      have below := attended.consistent.requesterOf_lt name
      obtain ⟨requester, installed⟩ : ∃ requester,
          session.requesters.get? (session.requesterOf name) = some requester :=
        Option.ne_none_iff_exists'.mp fun absent =>
          absurd below (Nat.not_lt.mpr (Table.size_le_of_get?_none absent))
      have none := call_still still (.retry name) rfl
      have own : (session.sessionOf (session.requesterOf name)
          (.retry name)).shared.requester = some requester := installed
      simp only [Session.step, found, phase, own, reduceCtorEq] at none
  | ended => rfl

end Still

/-- **Settling across restarts.** In every run, with starts at any moments, the steps taken for
the calls, with those still ahead, number at most 12 for each attempt that the calls may make.
From any state of a run, however the steps are scheduled, so many bring the library to rest; at
rest every call has ended, whether its requester is installed or was replaced; and rest can be
reached from everywhere. -/
theorem restarted_settles
    (run : Transition.Run step (started useSemaphore timeout rule cacheType realm) labels
      session) :
    session.work + Transition.tally step (fun _ label => label.inner.toNat)
        (started useSemaphore timeout rule cacheType realm) labels ≤
      Transition.tally step newWork (started useSemaphore timeout rule cacheType realm) labels ∧
    (∀ more last, Transition.Run step session more last →
      (∀ label ∈ more, label.inner = true) → last.work + more.length ≤ session.work) ∧
    (Transition.Still step (fun label => label.inner = true) session →
      ∀ name call, session.calls.get? name = some call → call.phase = .ended) ∧
    ∃ more last, Transition.Run step session more last ∧
      (∀ label ∈ more, label.inner = true) ∧
      ∀ name call, last.calls.get? name = some call → call.phase = .ended := by
  have first := attended_started useSemaphore timeout rule cacheType realm
  have attended : session.Attended := run.preserves (fun _ _ _ => attended_step) first
  have spends (state : RestartedSession) (label : Label) (next : RestartedSession)
      (valid : state.Attended) (inner : label.inner = true)
      (taken : step state label = some next) : next.work < state.work := by
    have spent := work_step valid.consistent taken
    have nothing : state.newWork label = 0 := by
      cases label <;> first | rfl | cases inner
    rw [inner, nothing] at spent
    exact spent
  refine ⟨?_, ?_, ?_, ?_⟩
  · have paid := run.budget (.of_forall (fun _ _ => trivial) _ _)
      (fun _ _ _ valid _ => attended_step valid) (fun _ _ _ valid _ => work_step valid.consistent)
      first
    exact paid.trans_eq (Nat.zero_add _)
  · intro more last continued only
    exact continued.length_le (fun _ _ _ valid _ => attended_step valid) spends attended only
  · exact fun still name call => ended_of_still still attended
  · exact Transition.exists_settled (fun _ _ _ valid _ => attended_step valid) spends
      (fun state valid still name call => ended_of_still still valid) attended

/-- The call in flight of a requester that is replaced ends. -/
theorem restarted_settles_replaced : ∃ session more last,
    Transition.Run step requested [.call (.decide 0), .start true 15 .fromCacheOnly .realm]
      session ∧
    Transition.Run step session more last ∧ (∀ label ∈ more, label.inner = true) ∧
    ∀ name call, last.calls.get? name = some call → call.phase = .ended := by
  have run := Transition.run_iff_execute.mpr (rfl : Transition.execute step requested
    [.call (.decide 0), .start true 15 .fromCacheOnly .realm] = some _)
  have before : Transition.Run step (started false 15 .fromCacheOrUrl .realm pickyWorld.realm)
      [.requestData pickyRequest] requested := Transition.run_iff_execute.mpr rfl
  exact ⟨_, _, _, run, (restarted_settles (before.append run)).2.2.2.choose_spec.choose_spec⟩

end RestartedSession

end AwesomeNetwork
