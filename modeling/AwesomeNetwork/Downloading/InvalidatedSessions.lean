import AwesomeNetwork.Downloading.Attribution

/-! # Asking an invalidated session

A call of `download` makes a session and asks the one that the shared object then holds
for a task. A session that was invalidated in between raises an exception. A call would raise
in some state of a run exactly when a step invalidates the shared session while a call is at
that point.
-/

namespace AwesomeNetwork

namespace AwesomeDownload

/-- The session that the shared object holds, if any, gives out tasks. -/
def SessionValid (downloads : AwesomeDownload) : Prop :=
  ∀ session, downloads.session = some session → downloads.sessions.get? session = some false

/-- A call is about to ask the session for its task. -/
def Asking (downloads : AwesomeDownload) : Prop :=
  ∃ name call, downloads.calls.get? name = some call ∧ call.stage = .makingTask

/-- No call that is about to ask for its task would raise if it asked in this state. -/
def NoneRaises (downloads : AwesomeDownload) : Prop :=
  ∀ name call, downloads.calls.get? name = some call → call.stage = .makingTask →
    ∀ removal, (step downloads (.advance name removal)).isSome

/-- The step invalidates the session that the shared object holds. -/
inductive Invalidates (downloads : AwesomeDownload) : Label → Prop
  | call (name : Nat) (removal : Removal) (call : DownloadCall) :
      downloads.calls.get? name = some call → call.stage = .cancellingSession →
      Invalidates downloads (.advance name removal)
  | delegate (name : Nat) (goesThrough : Bool) (transfer : Transfer) :
      downloads.transfers.get? name = some transfer → transfer.status = .finished →
      Invalidates downloads (.deliver name goesThrough)
  | cancelDownload (cancel : Nat) : downloads.cancels.get? cancel = some .cancellingSession →
      Invalidates downloads (.advanceCancel cancel)

/-- No call is about to ask a session that the step invalidates. -/
def SessionSpared (downloads : AwesomeDownload) (label : Label) : Prop :=
  downloads.Asking → downloads.session ≠ none → ¬ downloads.Invalidates label

variable {downloads next : AwesomeDownload} {label : Label} {name : Nat} {call : DownloadCall}

/-- The statement that asks for the task goes through exactly with a valid session. -/
theorem step_makingTask_isSome_iff (present : downloads.calls.get? name = some call)
    (asking : call.stage = .makingTask) (removal : Removal) :
    (step downloads (.advance name removal)).isSome ↔ downloads.SessionValid := by
  rw [step_advance_eq present]
  unfold advance SessionValid
  rw [asking]
  dsimp only
  cases held : downloads.session with
  | none => exact iff_of_true rfl nofun
  | some session =>
      dsimp only
      split
      · next valid => exact iff_of_true rfl fun _ same => Option.some.inj same ▸ valid
      · next invalid => exact iff_of_false nofun fun valid => invalid (valid session rfl)

/-- No call would raise when the session is valid whenever one asks it. -/
theorem noneRaises_iff : downloads.NoneRaises ↔ (downloads.Asking → downloads.SessionValid) := by
  constructor
  · rintro none ⟨name, call, present, asking⟩
    exact (step_makingTask_isSome_iff present asking .succeeds).mp
      (none name call present asking .succeeds)
  · intro valid name call present asking removal
    exact (step_makingTask_isSome_iff present asking removal).mpr
      (valid ⟨name, call, present, asking⟩)

theorem sessionValid_congr (session : next.session = downloads.session)
    (sessions : next.sessions = downloads.sessions) :
    next.SessionValid ↔ downloads.SessionValid := by
  unfold SessionValid
  rw [session, sessions]

/-- What an invalidation does to the session of the shared object. -/
theorem not_sessionValid_of_invalidated {session : Nat} (held : downloads.session = some session)
    (valid : downloads.SessionValid) (kept : next.session = downloads.session)
    (invalidated : next.sessions = downloads.sessions.modify session fun _ => true) :
    ¬ next.SessionValid := by
  intro still
  have present := still session (kept.trans held)
  rw [invalidated, Table.get?_modify_self, valid session held] at present
  cases present

/-- Cancelling the task leaves the sessions alone. -/
theorem sessions_cancelTask (downloads : AwesomeDownload) :
    downloads.cancelTask.session = downloads.session ∧
      downloads.cancelTask.sessions = downloads.sessions := by
  unfold cancelTask
  split <;> exact ⟨rfl, rfl⟩

/-- Invalidating the session invalidates the one that the object holds. -/
theorem sessions_invalidateAndCancel {session : Nat} (held : downloads.session = some session) :
    downloads.invalidateAndCancel.session = downloads.session ∧
      downloads.invalidateAndCancel.sessions =
        downloads.sessions.modify session fun _ => true := by
  unfold invalidateAndCancel
  rw [held]
  exact ⟨rfl, rfl⟩

theorem sessions_finishTasksAndInvalidate {session : Nat}
    (held : downloads.session = some session) :
    downloads.finishTasksAndInvalidate.session = downloads.session ∧
      downloads.finishTasksAndInvalidate.sessions =
        downloads.sessions.modify session fun _ => true := by
  unfold finishTasksAndInvalidate
  rw [held]
  exact ⟨rfl, rfl⟩

theorem invalidateAndCancel_of_none (gone : downloads.session = none) :
    downloads.invalidateAndCancel = downloads := by
  unfold invalidateAndCancel
  rw [gone]

theorem finishTasksAndInvalidate_of_none (gone : downloads.session = none) :
    downloads.finishTasksAndInvalidate = downloads := by
  unfold finishTasksAndInvalidate
  rw [gone]

theorem step_advanceCancel {cancel : Nat}
    (taken : step downloads (.advanceCancel cancel) = some next) :
    (downloads.cancels.get? cancel = some .cancellingTask ∧
        next = { downloads.cancelTask with
          cancels := downloads.cancels.modify cancel fun _ => .cancellingSession }) ∨
      downloads.cancels.get? cancel = some .cancellingSession ∧
        next = { downloads.invalidateAndCancel with
          cancels := downloads.cancels.modify cancel fun _ => .returned } := by
  unfold step at taken
  dsimp only at taken
  split at taken
  · next cancelling => exact Or.inl ⟨cancelling, (Option.some.inj taken).symm⟩
  · next cancelling => exact Or.inr ⟨cancelling, (Option.some.inj taken).symm⟩
  · cases taken

/-- A step keeps the session, invalidates it, gives it up or makes a valid one. -/
theorem sessionValid_step (taken : step downloads label = some next) :
    (next.SessionValid ↔ downloads.SessionValid) ∨ next.SessionValid ∨
      (downloads.session ≠ none ∧ downloads.Invalidates label) := by
  have kept : ∀ effect : AwesomeDownload, effect.session = downloads.session →
      effect.sessions = downloads.sessions → (effect.SessionValid ↔ downloads.SessionValid) :=
    fun _ session sessions => sessionValid_congr session sessions
  cases stepCases taken with
  | write other removal call stage effect found writes =>
      generalize reached : call.stage = before at writes
      cases writes with
      | cancelTask =>
          obtain ⟨session, sessions⟩ := sessions_cancelTask downloads
          exact Or.inl (kept _ session sessions)
      | cancelSession =>
          by_cases gone : downloads.session = none
          · rw [invalidateAndCancel_of_none gone]
            exact Or.inl (kept _ rfl rfl)
          · exact Or.inr (Or.inr ⟨gone, .call other removal call found reached⟩)
      | session =>
          refine Or.inr (Or.inl ?_)
          rintro session ⟨⟩
          exact Table.get?_push_self ..
      | _ => exact Or.inl (kept _ rfl rfl)
  | deliver other goesThrough transfer status effect found handles =>
      generalize reached : transfer.status = before at handles
      cases handles with
      | finishSession =>
          by_cases gone : downloads.session = none
          · rw [finishTasksAndInvalidate_of_none gone]
            exact Or.inl (kept _ rfl rfl)
          · exact Or.inr (Or.inr ⟨gone, .delegate other goesThrough transfer found reached⟩)
      | clearSession => exact Or.inr (Or.inl nofun)
      | cancelTask =>
          obtain ⟨session, sessions⟩ := sessions_cancelTask downloads
          exact Or.inl (kept _ session sessions)
      | _ => exact Or.inl (kept _ rfl rfl)
  | cancelTask cancel =>
      obtain ⟨session, sessions⟩ := sessions_cancelTask downloads
      exact Or.inl (kept _ session sessions)
  | cancelSession cancel =>
      rcases step_advanceCancel taken with ⟨_, same⟩ | ⟨cancelling, _⟩
      · rw [same]
        obtain ⟨session, sessions⟩ := sessions_cancelTask downloads
        exact Or.inl (kept _ session sessions)
      · by_cases gone : downloads.session = none
        · rw [invalidateAndCancel_of_none gone]
          exact Or.inl (kept _ rfl rfl)
        · exact Or.inr (Or.inr ⟨gone, .cancelDownload cancel cancelling⟩)
  | runProgress progress rest queued =>
      left
      unfold runProgress
      split <;> exact kept _ rfl rfl
  | runDownloaded other success rest queued =>
      left
      unfold runDownloaded
      split <;> exact kept _ rfl rfl
  | _ => exact Or.inl (kept _ rfl rfl)

/-- A step that invalidates the session leaves it to the shared object. -/
theorem session_of_invalidates {session : Nat} (held : downloads.session = some session)
    (invalidates : downloads.Invalidates label) (taken : step downloads label = some next) :
    next.session = downloads.session ∧
      next.sessions = downloads.sessions.modify session fun _ => true := by
  cases invalidates with
  | call name removal call present cancelling =>
      rw [step_advance_eq present] at taken
      unfold advance at taken
      rw [cancelling] at taken
      cases Option.some.inj taken
      exact sessions_invalidateAndCancel held
  | delegate name goesThrough transfer present finished =>
      rw [step_deliver_eq present] at taken
      unfold deliver at taken
      rw [finished] at taken
      cases Option.some.inj taken
      exact sessions_finishTasksAndInvalidate held
  | cancelDownload cancel cancelling =>
      rcases step_advanceCancel taken with ⟨other, _⟩ | ⟨_, rfl⟩
      · cases cancelling.symm.trans other
      · exact sessions_invalidateAndCancel held

/-- A call that asks still asks after a step that invalidates the session. -/
theorem asking_of_invalidates (asking : downloads.Asking)
    (invalidates : downloads.Invalidates label) (taken : step downloads label = some next) :
    next.Asking := by
  obtain ⟨name, call, present, making⟩ := asking
  obtain ⟨after, found, moves⟩ := step_call taken present
  have other : ∀ removal, label ≠ .advance name removal := by
    rintro removal rfl
    cases invalidates with
    | call _ _ caller known cancelling =>
        cases Option.some.inj (known.symm.trans present)
        cases making.symm.trans cancelling
  refine ⟨name, after, found, ?_⟩
  cases moves with
  | stay => exact making
  | check removal _ _ advances | write removal _ _ advances =>
      exact (other removal advances).elim
  | answer => exact making

/-- A call asks after it has made a session. -/
theorem asking_step (asking : next.Asking) (taken : step downloads label = some next) :
    downloads.Asking ∨ next.SessionValid := by
  obtain ⟨name, after, found, making⟩ := asking
  rcases step_call_inv taken found with ⟨before, present, moves⟩ | ⟨_, _, _, _, _, rfl⟩
  · cases moves with
    | stay => exact Or.inl ⟨name, _, present, making⟩
    | check removal files changed advances checks =>
        cases checks <;> cases making
    | write removal stage effect advances writes =>
        generalize reached : before.stage = stage' at writes
        cases writes with
        | session =>
            right
            subst advances
            rw [step_advance_eq present] at taken
            unfold advance at taken
            rw [reached] at taken
            cases Option.some.inj taken
            rintro session ⟨⟩
            exact Table.get?_push_self ..
        | _ => cases making
    | answer => exact Or.inl ⟨name, before, present, making⟩
  · cases making

/-- A step that spares the session keeps every call from raising. -/
theorem noneRaises_step (safe : downloads.NoneRaises) (spared : downloads.SessionSpared label)
    (taken : step downloads label = some next) : next.NoneRaises := by
  rw [noneRaises_iff] at safe ⊢
  intro asking
  rcases asking_step asking taken with asked | valid
  · rcases sessionValid_step taken with same | valid | ⟨held, invalidates⟩
    · exact same.mpr (safe asked)
    · exact valid
    · exact (spared asked held invalidates).elim
  · exact valid

/-- After a step that does not, a call would raise. -/
theorem not_noneRaises_step (safe : downloads.NoneRaises)
    (unspared : ¬ downloads.SessionSpared label) (taken : step downloads label = some next) :
    ¬ next.NoneRaises := by
  unfold SessionSpared at unspared
  push Not at unspared
  obtain ⟨asking, held, invalidates⟩ := unspared
  obtain ⟨session, same⟩ := Option.ne_none_iff_exists'.mp held
  rw [noneRaises_iff] at safe ⊢
  obtain ⟨kept, invalidated⟩ := session_of_invalidates same invalidates taken
  intro valid
  exact not_sessionValid_of_invalidated same (safe asking) kept invalidated
    (valid (asking_of_invalidates asking invalidates taken))

variable {files : FileSystem} {labels : List Label} {target : AwesomeDownload}

/-- **Invalidated sessions.** In no state of a run would a call that is about to ask for its
task raise if it asked there, exactly when no step invalidates the session of the shared
object while a call is about to ask it. -/
theorem noneRaises_always_iff (run : Transition.Run step (initial files) labels target) :
    Transition.Always step NoneRaises (initial files) labels ↔
      Transition.Meets step SessionSpared (initial files) labels := by
  have kept : ∀ (state : AwesomeDownload) (label : Label) (next : AwesomeDownload),
      True → step state label = some next → True := fun _ _ _ _ _ => trivial
  have initially : (initial files).NoneRaises := fun _ _ present => nomatch present
  exact Transition.always_iff_meets kept
    (fun _ _ _ _ safe spared taken => noneRaises_step safe spared taken)
    (fun _ _ _ _ safe unspared taken => not_noneRaises_step safe unspared taken)
    run trivial initially

/-- The delegate of a first download invalidates the session that the second has made. -/
def asksTooLate : List Label :=
  startDownload 0 (episode "a.mp4") ++ [.finish 0 [1]] ++
    .download (some (episode "b.mp4")) (some "aaNetworking") false ::
      List.replicate 8 (.advance 1 .succeeds) ++ [.deliver 0 true]

/-- A session that is invalidated before its call asks. -/
theorem noneRaises_always_iff_late :
    ¬ Transition.Meets step SessionSpared (initial .empty) asksTooLate := by
  have run := Transition.run_iff_execute.mpr
    (rfl : Transition.execute step (initial .empty) asksTooLate = some _)
  intro spared
  have safe := ((noneRaises_always_iff run).mpr spared).finally run
  have raises := safe 1 _ rfl rfl .succeeds
  cases raises

end AwesomeDownload

end AwesomeNetwork
