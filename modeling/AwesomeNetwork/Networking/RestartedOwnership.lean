import AwesomeNetwork.Networking.RestartedSession

/-! # What the calls of several requesters own

The calls of one requester are seen with those of the others, of which it sees no more than
that they wait at the gate. In this view a step of a call of another requester is one at the
gate, and each call owns its block and its tasks as in a session without restarts.
-/

namespace AwesomeNetwork

/-- What the session of one requester sees of a call of another one. -/
def Call.foreign (call : Call) : Call :=
  { call with
    tasks := []
    phase :=
      match call.phase with
      | .gated retries block => .gated retries block
      | _ => .ended }

namespace Call

theorem block?_foreign (call : Call) : call.foreign.block? = call.block? := by
  unfold block? foreign
  cases call.phase <;> rfl

theorem phase_foreign {call : Call} {block : Nat} (own : call.block? = some block) :
    ∃ retries, call.foreign.phase = .gated retries block := by
  unfold block? at own
  split at own
  · next retries other phase =>
      cases own
      refine ⟨retries, ?_⟩
      unfold foreign
      rw [phase]
  · cases own

theorem ended_foreign {call : Call} (gone : call.block? = none) : call.foreign.phase = .ended := by
  unfold block? at gone
  unfold foreign
  cases phase : call.phase with
  | gated retries block =>
      rw [phase] at gone
      cases gone
  | _ => rfl

end Call

namespace Session

variable {session source : Session} {name : Nat} {before changed : Call}

/-- Ownership looks at the calls, at the dispatcher and at the registry. -/
theorem Owned.congr (owned : session.Owned) (calls : source.calls = session.calls)
    (dispatcher : source.dispatcher = session.dispatcher)
    (requester : source.managers.requester = session.managers.requester) : source.Owned :=
  owned.keep calls (fun _ holds => dispatcher ▸ holds) (fun _ _ has => requester ▸ has)
    (Nat.le_of_eq (congrArg (·.tasks.size) requester.symm))

/-- A step of a call of another requester leaves the calls what they own. -/
theorem Owned.foreign (owned : session.Owned) (present : session.calls.get? name = some before)
    {original after : Call} {dispatcher : AwesomeDispatcher}
    (gate : AtGate session.dispatcher original after dispatcher)
    (block : before.block? = original.block?) (untried : before.tasks = []) :
    ({ session with dispatcher := dispatcher }.setCall name after.foreign).Owned := by
  have tasks : after.foreign.tasks = before.tasks := untried.symm
  have idle (gone : after.block? = none) (source : Session) : source.Provides after.foreign := by
    unfold Provides
    rw [Call.ended_foreign gone]
    trivial
  cases gate with
  | away gone =>
      exact owned.quiet present (after.block?_foreign.trans gone) tasks (idle gone session)
  | arrives new requested =>
      apply owned.move present
      · rfl
      · exact spares_executeBlock session before
      · refine ⟨fun block own => ?_, Or.inl tasks, Nat.le_refl _⟩
        cases new.symm.trans (after.block?_foreign.symm.trans own)
        exact Or.inr rfl
      · obtain ⟨retries, phase⟩ := Call.phase_foreign new
        unfold Provides
        rw [phase]
        exact ⟨requested, holds_executeBlock session.dispatcher⟩
  | leaves own next waited run gone =>
      apply owned.move present
      · rfl
      · apply spares_dispatcher run
        intro other same
        cases same
        exact block.trans waited
      · exact gains_none (after.block?_foreign.trans gone) tasks (Nat.le_refl _)
      · exact idle gone _

end Session

namespace RestartedSession

/-- The call as the session of the requester sees it. -/
def seen (session : RestartedSession) (requester name : Nat) (call : Call) : Call :=
  match session.serving.get? name with
  | some (some other) => if other = requester then call else call.foreign
  | _ => call

/-- The session of the requester, which sees its own calls and the gate. -/
def view (session : RestartedSession) (requester : Nat) : Session :=
  { session.sessionOf requester .clearCache with
    calls := session.calls.mapNamed (session.seen requester) }

/-- Each call owns its block, and its tasks in the registry of its requester. -/
def Owned (session : RestartedSession) : Prop := ∀ requester, (session.view requester).Owned

variable {session next target : RestartedSession} {label : Label} {labels : List Label}
  {name requester other : Nat} {call before after : Call} {moved : Session} {moving : Session.Label}

theorem get?_view (session : RestartedSession) (requester name : Nat) :
    (session.view requester).calls.get? name =
      (session.calls.get? name).map (session.seen requester name) :=
  Table.get?_mapNamed ..

theorem seen_of_ne (served : session.serving.get? name = some (some other))
    (different : other ≠ requester) : session.seen requester name call = call.foreign := by
  unfold seen
  rw [served]
  exact if_neg different

theorem seen_of_eq (served : session.serving.get? name = some (some requester)) :
    session.seen requester name call = call := by
  unfold seen
  rw [served]
  exact if_pos rfl

/-- A call sees itself in the session of its requester. -/
theorem seen_requesterOf (session : RestartedSession) (name : Nat) (call : Call) :
    session.seen (session.requesterOf name) name call = call := by
  unfold seen requesterOf
  cases session.serving.get? name with
  | none => rfl
  | some served =>
      cases served with
      | none => rfl
      | some other => exact if_pos rfl

/-- The others see of a call that it is at the gate, and none of its tasks. -/
theorem seen_other (consistent : session.Consistent)
    (present : session.calls.get? name = some call) (different : session.requesterOf name ≠ other) :
    (session.seen other name call).block? = call.block? ∧
      (session.seen other name call).tasks = [] := by
  have stored : name < session.serving.size :=
    consistent.serving ▸ Table.lt_size_of_get? present
  cases served : session.serving.get? name with
  | none => exact absurd stored (Nat.not_lt.mpr (Table.size_le_of_get?_none served))
  | some bound =>
      cases bound with
      | none =>
          have same : session.seen other name call = call := by
            unfold seen
            rw [served]
          rw [same]
          exact ⟨rfl, consistent.untried name call present served⟩
      | some requester =>
          have own : session.requesterOf name = requester := by
            unfold requesterOf
            rw [served]
            rfl
          rw [seen_of_ne served (own ▸ different)]
          exact ⟨call.block?_foreign, rfl⟩

/-- A call is served by the requester whose step it makes. -/
theorem serving_absorb (consistent : session.Consistent)
    (present : session.calls.get? name = some call) :
    (session.absorb name requester moved).serving.get? name = some (some requester) := by
  have stored : name < session.serving.size :=
    consistent.serving ▸ Table.lt_size_of_get? present
  change (session.serving.modify name _).get? name = _
  rw [Table.get?_modify_self]
  cases served : session.serving.get? name with
  | none => exact absurd stored (Nat.not_lt.mpr (Table.size_le_of_get?_none served))
  | some bound => rfl

/-- A step of a call changes its record in every view, and no other one. -/
theorem calls_view_absorb (consistent : session.Consistent)
    (moves : (session.sessionOf requester moving).LocalStep moving name before after moved)
    (other : Nat) :
    ((session.absorb name requester moved).view other).calls =
      (session.view other).calls.modify name fun _ =>
        if requester = other then after else after.foreign := by
  have present : session.calls.get? name = some before := moves.present
  have bound : (session.absorb name requester moved).serving.get? name = some (some requester) :=
    serving_absorb consistent present
  apply Table.ext_get?
  intro sought
  rw [get?_view, Table.get?_modify, get?_view]
  change (moved.calls.get? sought).map _ = _
  rw [moves.calls, Table.get?_modify]
  by_cases same : sought = name
  · subst same
    rw [if_pos rfl, if_pos rfl]
    change ((session.calls.get? sought).map fun _ => after).map _ = _
    rw [present]
    by_cases own : requester = other
    · subst own
      rw [if_pos rfl]
      exact congrArg some (seen_of_eq bound)
    · rw [if_neg own]
      exact congrArg some (seen_of_ne bound own)
  · rw [if_neg same, if_neg same]
    have unchanged : (session.absorb name requester moved).serving.get? sought =
        session.serving.get? sought := Table.get?_modify_of_ne _ _ same
    have alike : (session.absorb name requester moved).seen other sought =
        session.seen other sought := by
      funext call
      unfold seen
      rw [unchanged]
    rw [alike]
    rfl

/-- A step of a call changes the registry of its own requester. -/
theorem registry_absorb (consistent : session.Consistent)
    (bound : requester < session.requesters.size) (name : Nat) (moved : Session) (other : Nat) :
    (session.absorb name requester moved).registry other =
      if requester = other then moved.managers.requester else session.registry other := by
  unfold registry
  change ((session.registries.requesters.modify requester _).get? other).getD _ = _
  rw [Table.get?_modify]
  by_cases same : other = requester
  · subst same
    rw [if_pos rfl, if_pos rfl]
    cases found : session.registries.requesters.get? other with
    | none =>
        rw [consistent.requesters] at bound
        exact absurd bound (Nat.not_lt.mpr (Table.size_le_of_get?_none found))
    | some manager => rfl
  · rw [if_neg same, if_neg (Ne.symm same)]

/-- A step of a call keeps the ownership in every view: in that of its own requester it is a
step of the session, and in the others one at the gate. -/
theorem owned_call (consistent : session.Consistent) (owned : session.Owned)
    (own : moving.call? = some name)
    (stepped : (session.sessionOf (session.requesterOf name) moving).step moving = some moved) :
    (session.absorb name (session.requesterOf name) moved).Owned := by
  intro other
  obtain ⟨before, after, moves⟩ := Session.localStep own stepped
  have present : session.calls.get? name = some before := moves.present
  have calls := calls_view_absorb consistent moves other
  have registry := registry_absorb consistent (consistent.requesterOf_lt name) name moved other
  by_cases same : session.requesterOf name = other
  · rw [if_pos same] at registry calls
    have found : (session.view other).calls.get? name = some before := by
      rw [get?_view, present, ← same]
      exact congrArg some (seen_requesterOf session name before)
    have taken := moves.elsewhere (session.view other).calls found
    have ready : ({ session.sessionOf (session.requesterOf name) moving with
        calls := (session.view other).calls }).Owned := by
      rw [same]
      exact (owned other).congr rfl rfl rfl
    exact (Session.owned_step ready taken).congr calls rfl registry
  · rw [if_neg same] at registry calls
    obtain ⟨block, untried⟩ := seen_other consistent present same
    have found : (session.view other).calls.get? name = some (session.seen other name before) := by
      rw [get?_view, present]
      rfl
    have gate : Session.AtGate (session.view other).dispatcher before after moved.dispatcher :=
      moves.gate
    exact ((owned other).foreign found gate block untried).congr calls rfl registry

/-- The registry of the requester loses no task and none of them changes its state, as long as
no call moves. -/
theorem registry_managed {taken : Generations.Label String} {registries : Generations String}
    (allowed : manages taken = true) (stepped : session.registries.step taken = some registries)
    (requester : Nat) :
    (∀ task state, (session.registry requester).HasTask task state →
        ({ session with registries := registries }.registry requester).HasTask task state) ∧
      (session.registry requester).tasks.size ≤
        ({ session with registries := registries }.registry requester).tasks.size := by
  unfold registry
  cases found : session.registries.requesters.get? requester with
  | none => exact ⟨fun _ _ ⟨_, present, _⟩ => (nomatch present), Nat.zero_le _⟩
  | some manager =>
      obtain ⟨after, reached, acts⟩ := Generations.step_acts stepped found
      dsimp only
      rw [reached]
      cases acts with
      | stay => exact ⟨fun _ _ => id, Nat.le_refl _⟩
      | own label _ same _ moved =>
          refine ⟨fun task state has => ?_, AwesomeRequestManager.size_le_step moved⟩
          refine (AwesomeRequestManager.hasTask_step moved has).resolve_right ?_
          rintro (rfl | rfl) <;> subst same <;> cases allowed
      | cancelAll _ _ _ moved =>
          refine ⟨fun task state has => ?_, AwesomeRequestManager.size_le_step moved⟩
          exact (AwesomeRequestManager.hasTask_step moved has).resolve_right
            (not_or.mpr ⟨nofun, nofun⟩)

/-- A restart changes no registry. -/
theorem registry_start (useSemaphore : Bool) (timeout : TimeInterval) (rule : AwesomeCacheRule)
    (cacheType : AwesomeCacheType) (requester : Nat) :
    (session.start useSemaphore timeout rule cacheType).registry requester =
      session.registry requester := by
  unfold registry start
  dsimp only
  rw [Table.get?_push]
  split
  · next last =>
      rw [last, Table.get?_size]
      rfl
  · rfl

/-- A call that begins is seen by all. -/
theorem calls_view_push (consistent : session.Consistent) (call : Call) (requester : Nat) :
    ({ session with
        calls := session.calls.push call
        serving := session.serving.push none }.view requester).calls =
      (session.view requester).calls.push call := by
  have size : (session.view requester).calls.size = session.calls.size := List.length_mapIdx ..
  apply Table.ext_get?
  intro name
  rw [get?_view, Table.get?_push, Table.get?_push, size, get?_view]
  unfold seen
  dsimp only
  rw [Table.get?_push, consistent.serving]
  by_cases last : name = session.calls.size
  · simp only [if_pos last, Option.map_some]
  · simp only [if_neg last]

/-- After the first start the calls own what they need. -/
theorem owned_started (useSemaphore : Bool) (timeout : TimeInterval) (rule : AwesomeCacheRule)
    (cacheType : AwesomeCacheType) (realm : Realm) :
    (started useSemaphore timeout rule cacheType realm).Owned := by
  intro requester
  exact ⟨.empty, fun _ _ _ _ _ present => (nomatch present),
    fun _ _ _ _ _ present => (nomatch present), .empty⟩

/-- **Ownership across restarts.** Every step keeps what each call holds, and for each call
alone. -/
theorem owned_step (consistent : session.Consistent) (owned : session.Owned)
    (taken : step session label = some next) : next.Owned := by
  cases stepCases taken with
  | start useSemaphore timeout rule cacheType =>
      intro requester
      exact (owned requester).congr rfl rfl (registry_start ..)
  | requestData request =>
      intro requester
      have begins : (session.view requester).step (.requestData request) = some _ := rfl
      exact (Session.owned_step (owned requester) begins).congr
        (calls_view_push consistent _ requester) rfl rfl
  | call moving name moved own stepped => exact owned_call consistent owned own stepped
  | dispatcher label dispatcher allowed moved =>
      intro requester
      have moves : (session.view requester).step (.dispatcher label) =
          some { session.view requester with dispatcher := dispatcher } := by
        change (if _ then (session.dispatcher.step label).map _ else none) = _
        rw [if_pos allowed, moved]
        rfl
      exact (Session.owned_step (owned requester) moves).congr rfl rfl rfl
  | registries label registries allowed moved =>
      intro requester
      obtain ⟨kept, size⟩ := registry_managed allowed moved requester
      exact (owned requester).keep rfl (fun _ => id) kept size
  | setDefaultCacheRule rule =>
      intro requester
      exact (owned requester).congr rfl rfl rfl
  | clearCache =>
      intro requester
      exact (owned requester).congr rfl rfl rfl

end RestartedSession

end AwesomeNetwork
