import AwesomeNetwork.Networking.Registration

/-! # Cancelling every request

`AwesomeNetwork.cancelAllRequests` goes through the registry of the requester and
then through the one of `AwesomeUpload.shared`: it cancels what a registry holds
when it looks and empties the registry afterwards. Everything started before is
cancelled when it returns, as long as no step takes out the entry of a live task.
-/

namespace AwesomeNetwork

/-- How far a call of `AwesomeNetwork.cancelAllRequests` has come: it is in the
cancelling call of one of the two registries, or it has returned. -/
inductive CancelProgress where
  | requester (call : Nat)
  | upload (call : Nat)
  | returned
deriving DecidableEq, Repr

/-- The registries of the requester and of `AwesomeUpload.shared`. -/
structure RequestManagers (Key : Type) where
  requester : AwesomeRequestManager Key
  upload : AwesomeRequestManager Key
  cancels : Table CancelProgress

namespace AwesomeRequestManager

variable {Key : Type} [DecidableEq Key] {manager next : AwesomeRequestManager Key}
  {label : Label Key} {names : Nat → Prop} {call : Nat}

/-- The named tasks have been registered. -/
def AllAdded (manager : AwesomeRequestManager Key) (names : Nat → Prop) : Prop :=
  ∀ name, names name → ∃ task, manager.tasks.get? name = some task ∧
    (task.start = .added ∨ task.start = .resumed)

/-- None of the named tasks is live. -/
def NoneLive (manager : AwesomeRequestManager Key) (names : Nat → Prop) : Prop :=
  ∀ name, names name → ¬ manager.IsLive name

/-- The cancelling call still has all live ones of the tasks before it. -/
def Covers (manager : AwesomeRequestManager Key) (call : Nat) (names : Nat → Prop) : Prop :=
  match manager.cancellations.get? call with
  | some (.cancelling pending) => ∀ name, names name → manager.IsLive name → name ∈ pending
  | some .finished => manager.NoneLive names
  | _ => False

/-- A task that was registered has been registered for good. -/
theorem allAdded_step (added : manager.AllAdded names) (taken : step manager label = some next) :
    next.AllAdded names := by
  intro name member
  obtain ⟨task, found, ready⟩ := added name member
  obtain ⟨after, present, evolves⟩ := step_task taken found
  exact ⟨after, present, evolves.start.stays_registered ready⟩

/-- A task that has been registered does not come back to life. -/
theorem isLive_of_step (added : manager.AllAdded names) (taken : step manager label = some next)
    {name : Nat} (member : names name) (live : next.IsLive name) : manager.IsLive name := by
  obtain ⟨after, present, alive⟩ := live
  obtain ⟨task, found, _, earlier | rfl⟩ := step_live taken present alive
  · exact ⟨task, found, earlier⟩
  · obtain ⟨started, same, ready, _⟩ := Table.when_eq_some.mp taken
    obtain ⟨other, known, early⟩ := added name member
    cases Option.some.inj (same.symm.trans known)
    rw [ready] at early
    rcases early with added | resumed <;> contradiction

/-- A task that is no longer live stays so. -/
theorem noneLive_step (added : manager.AllAdded names) (dead : manager.NoneLive names)
    (taken : step manager label = some next) : next.NoneLive names :=
  fun name member live => dead name member (isLive_of_step added taken member live)

/-- The task that a cancelling call gets to is not live afterwards. -/
theorem not_isLive_cancelNext {name : Nat} {pending : List Nat}
    (taken : step manager (.cancelNext call) = some next)
    (present : manager.cancellations.get? call = some (.cancelling (name :: pending))) :
    ¬ next.IsLive name := by
  rintro ⟨after, found, live⟩
  obtain ⟨other, names, same, rfl⟩ := step_cancelNext taken
  cases Option.some.inj (same.symm.trans present)
  rw [tasks_setCancellation, get?_modifyTask, if_pos rfl] at found
  obtain ⟨task, _, rfl⟩ := Option.map_eq_some_iff.mp found
  exact task.not_pending_cancel live.2

/-- A call that covers tasks goes on covering them. -/
theorem covers_step (added : manager.AllAdded names) (covers : manager.Covers call names)
    (taken : step manager label = some next) : next.Covers call names := by
  unfold Covers at covers
  cases present : manager.cancellations.get? call with
  | none =>
      rw [present] at covers
      exact covers.elim
  | some cancellation =>
      rw [present] at covers
      obtain ⟨after, found, proceeds⟩ := step_cancellation taken present
      unfold Covers
      rw [found]
      cases proceeds with
      | stay =>
          cases cancellation with
          | removing key => exact covers
          | cancelling pending =>
              intro name member live
              exact covers name member (isLive_of_step added taken member live)
          | finished => exact noneLive_step added covers taken
      | removeCancelled key => exact covers.elim
      | cancelNext first pending same =>
          subst same
          intro name member live
          rcases List.mem_cons.mp
            (covers name member (isLive_of_step added taken member live)) with rfl | later
          · exact (not_isLive_cancelNext taken present live).elim
          · exact later
      | removeAll =>
          intro name member live
          exact List.not_mem_nil (covers name member (isLive_of_step added taken member live))

/-- A cancelling call starts with every live task, when the live tasks are registered. -/
theorem covers_cancelAll (registered : manager.LiveRegistered) (names : Nat → Prop)
    (taken : step manager .cancelAll = some next) :
    next.Covers manager.cancellations.size names := by
  cases taken
  unfold Covers addCancellation
  dsimp only
  rw [Table.get?_push_self]
  rintro name _ ⟨task, present, live⟩
  exact mem_values_of_lookup (registered name task present live)

omit [DecidableEq Key] in
/-- When the call has finished, the tasks it covers are not live. -/
theorem Covers.noneLive (covers : manager.Covers call names)
    (finished : manager.cancellations.get? call = some .finished) : manager.NoneLive names := by
  unfold Covers at covers
  rw [finished] at covers
  exact covers

end AwesomeRequestManager

namespace RequestManagers

variable {Key : Type} [DecidableEq Key]

/-- A step of one of the registries or of a call of `cancelAllRequests`. -/
inductive Label (Key : Type) where
  | requester (label : AwesomeRequestManager.Label Key)
  | upload (label : AwesomeRequestManager.Label Key)
  | cancelAllRequests
  | cancelUploads (cancel : Nat)
  | cancelReturn (cancel : Nat)
deriving DecidableEq, Repr

/-- Both registries are empty. -/
def initial : RequestManagers Key := ⟨.initial, .initial, .empty⟩

/-- `AwesomeUpload.upload` never asks to cancel the previous task. -/
def uploads : AwesomeRequestManager.Label Key → Bool
  | .create _ cancelPrevious => !cancelPrevious
  | _ => true

/-- One step of the two registries and of the calls that go through them. -/
def step (managers : RequestManagers Key) : Label Key → Option (RequestManagers Key)
  | .requester label =>
      (managers.requester.step label).map fun requester => { managers with requester := requester }
  | .upload label =>
      if uploads label then
        (managers.upload.step label).map fun upload => { managers with upload := upload }
      else none
  | .cancelAllRequests =>
      (managers.requester.step .cancelAll).map fun requester =>
        { managers with
          requester := requester
          cancels := managers.cancels.push (.requester managers.requester.cancellations.size) }
  | .cancelUploads cancel =>
      match managers.cancels.get? cancel with
      | some (.requester call) =>
          if managers.requester.cancellations.get? call = some .finished then
            (managers.upload.step .cancelAll).map fun upload =>
              { managers with
                upload := upload
                cancels := managers.cancels.modify cancel fun _ =>
                  .upload managers.upload.cancellations.size }
          else none
      | _ => none
  | .cancelReturn cancel =>
      match managers.cancels.get? cancel with
      | some (.upload call) =>
          if managers.upload.cancellations.get? call = some .finished then
            some { managers with cancels := managers.cancels.modify cancel fun _ => .returned }
          else none
      | _ => none

/-- In both registries, every live task is registered. -/
def LiveRegistered (managers : RequestManagers Key) : Prop :=
  managers.requester.LiveRegistered ∧ managers.upload.LiveRegistered

/-- The step takes out no entry of a live task of either registry. -/
def Undisturbed (managers : RequestManagers Key) : Label Key → Prop
  | .requester label => managers.requester.Undisturbed label
  | .upload label => managers.upload.Undisturbed label
  | _ => True

instance decidableUndisturbed (managers : RequestManagers Key) :
    ∀ label, Decidable (managers.Undisturbed label)
  | .requester label => inferInstanceAs (Decidable (managers.requester.Undisturbed label))
  | .upload label => inferInstanceAs (Decidable (managers.upload.Undisturbed label))
  | .cancelAllRequests | .cancelUploads _ | .cancelReturn _ => .isTrue trivial

/-- In both registries, each task is under its own key. -/
def WellRegistered (managers : RequestManagers Key) : Prop :=
  managers.requester.WellRegistered ∧ managers.upload.WellRegistered

/-- What a step does to the two registries and to the calls under way. -/
inductive StepCases (managers next : RequestManagers Key) : Label Key → Prop
  | requester (label : AwesomeRequestManager.Label Key) :
      managers.requester.step label = some next.requester → next.upload = managers.upload →
      next.cancels = managers.cancels → StepCases managers next (.requester label)
  | upload (label : AwesomeRequestManager.Label Key) :
      managers.upload.step label = some next.upload → next.requester = managers.requester →
      next.cancels = managers.cancels → StepCases managers next (.upload label)
  | cancelAllRequests :
      managers.requester.step .cancelAll = some next.requester → next.upload = managers.upload →
      next.cancels =
        managers.cancels.push (.requester managers.requester.cancellations.size) →
      StepCases managers next .cancelAllRequests
  | cancelUploads (cancel call : Nat) :
      managers.cancels.get? cancel = some (.requester call) →
      managers.requester.cancellations.get? call = some .finished →
      managers.upload.step .cancelAll = some next.upload → next.requester = managers.requester →
      next.cancels = managers.cancels.modify cancel
        (fun _ => .upload managers.upload.cancellations.size) →
      StepCases managers next (.cancelUploads cancel)
  | cancelReturn (cancel call : Nat) :
      managers.cancels.get? cancel = some (.upload call) →
      managers.upload.cancellations.get? call = some .finished →
      next.upload = managers.upload → next.requester = managers.requester →
      next.cancels = managers.cancels.modify cancel (fun _ => .returned) →
      StepCases managers next (.cancelReturn cancel)

variable {managers next : RequestManagers Key} {label : Label Key}

/-- Every step is one of these cases. -/
theorem stepCases (taken : step managers label = some next) : StepCases managers next label := by
  cases label with
  | requester label =>
      obtain ⟨requester, moved, rfl⟩ := Option.map_eq_some_iff.mp taken
      exact .requester label moved rfl rfl
  | upload label =>
      unfold step at taken
      dsimp only at taken
      split at taken
      · obtain ⟨upload, moved, rfl⟩ := Option.map_eq_some_iff.mp taken
        exact .upload label moved rfl rfl
      · cases taken
  | cancelAllRequests =>
      cases taken
      exact .cancelAllRequests rfl rfl rfl
  | cancelUploads cancel =>
      unfold step at taken
      dsimp only at taken
      split at taken
      · next call present =>
          split at taken
          · next finished =>
              obtain ⟨upload, moved, rfl⟩ := Option.map_eq_some_iff.mp taken
              exact .cancelUploads cancel call present finished moved rfl rfl
          · cases taken
      · cases taken
  | cancelReturn cancel =>
      unfold step at taken
      dsimp only at taken
      split at taken
      · next call present =>
          split at taken
          · next finished =>
              cases taken
              exact .cancelReturn cancel call present finished rfl rfl rfl
          · cases taken
      · cases taken

/-- The registry of the requester stays or makes one of its own steps. -/
theorem step_requester (taken : step managers label = some next) :
    next.requester = managers.requester ∨
      ∃ moved, managers.requester.step moved = some next.requester := by
  cases stepCases taken with
  | requester label moved => exact Or.inr ⟨label, moved⟩
  | upload label moved requester => exact Or.inl requester
  | cancelAllRequests moved => exact Or.inr ⟨.cancelAll, moved⟩
  | cancelUploads cancel call present finished moved requester => exact Or.inl requester
  | cancelReturn cancel call present finished upload requester => exact Or.inl requester

/-- Nothing is registered at first. -/
theorem wellRegistered_initial : (initial : RequestManagers Key).WellRegistered :=
  ⟨AwesomeRequestManager.wellRegistered_initial, AwesomeRequestManager.wellRegistered_initial⟩

/-- Every step keeps each task under its own key. -/
theorem wellRegistered_step (valid : managers.WellRegistered)
    (taken : step managers label = some next) : next.WellRegistered := by
  unfold WellRegistered
  cases stepCases taken with
  | requester label moved upload =>
      rw [upload]
      exact ⟨AwesomeRequestManager.wellRegistered_step valid.1 moved, valid.2⟩
  | upload label moved requester =>
      rw [requester]
      exact ⟨valid.1, AwesomeRequestManager.wellRegistered_step valid.2 moved⟩
  | cancelAllRequests moved upload =>
      rw [upload]
      exact ⟨AwesomeRequestManager.wellRegistered_step valid.1 moved, valid.2⟩
  | cancelUploads cancel call present finished moved requester =>
      rw [requester]
      exact ⟨valid.1, AwesomeRequestManager.wellRegistered_step valid.2 moved⟩
  | cancelReturn cancel call present finished upload requester =>
      rw [upload, requester]
      exact valid

/-- No task is live at first. -/
theorem liveRegistered_initial : (initial : RequestManagers Key).LiveRegistered :=
  ⟨AwesomeRequestManager.liveRegistered_initial, AwesomeRequestManager.liveRegistered_initial⟩

/-- A call that begins takes out no entry. -/
theorem undisturbed_cancelAll (manager : AwesomeRequestManager Key) :
    manager.Undisturbed .cancelAll :=
  fun _ => False.elim

/-- A step that takes out no entry of a live task keeps every live task registered. -/
theorem liveRegistered_step (registered : managers.LiveRegistered)
    (undisturbed : managers.Undisturbed label) (taken : step managers label = some next) :
    next.LiveRegistered := by
  unfold LiveRegistered
  cases stepCases taken with
  | requester label moved upload =>
      rw [upload]
      exact ⟨AwesomeRequestManager.liveRegistered_step registered.1 undisturbed moved, registered.2⟩
  | upload label moved requester =>
      rw [requester]
      exact ⟨registered.1, AwesomeRequestManager.liveRegistered_step registered.2 undisturbed moved⟩
  | cancelAllRequests moved upload =>
      rw [upload]
      exact ⟨AwesomeRequestManager.liveRegistered_step registered.1 (undisturbed_cancelAll _) moved,
        registered.2⟩
  | cancelUploads cancel call present finished moved requester =>
      rw [requester]
      exact ⟨registered.1,
        AwesomeRequestManager.liveRegistered_step registered.2 (undisturbed_cancelAll _) moved⟩
  | cancelReturn cancel call present finished upload requester =>
      rw [upload, requester]
      exact registered

/-- After a step that takes out the entry of a live task, not every live task is registered.
-/
theorem not_liveRegistered_step (valid : managers.WellRegistered)
    (disturbed : ¬ managers.Undisturbed label) (taken : step managers label = some next) :
    ¬ next.LiveRegistered := by
  intro registered
  cases stepCases taken with
  | requester label moved =>
      exact AwesomeRequestManager.not_liveRegistered_step valid.1 disturbed moved registered.1
  | upload label moved =>
      exact AwesomeRequestManager.not_liveRegistered_step valid.2 disturbed moved registered.2
  | cancelAllRequests => exact disturbed trivial
  | cancelUploads => exact disturbed trivial
  | cancelReturn => exact disturbed trivial

/-- The live tasks are registered throughout a run exactly when none of its steps
takes out the entry of a live task. -/
theorem liveRegistered_iff_undisturbed {labels : List (Label Key)} {target : RequestManagers Key}
    (run : Transition.Run step initial labels target) :
    Transition.Always step LiveRegistered initial labels ↔
      Transition.Meets step Undisturbed initial labels :=
  Transition.always_iff_meets (fun _ _ _ valid taken => wellRegistered_step valid taken)
    (fun _ _ _ _ registered undisturbed taken => liveRegistered_step registered undisturbed taken)
    (fun _ _ _ valid _ disturbed taken => not_liveRegistered_step valid disturbed taken)
    run wellRegistered_initial liveRegistered_initial

section Cancelling

/-- Where a call of `cancelAllRequests` stands with the tasks that were there when
it began: those of the registry under way are covered, those of the one before
are dead. -/
def Standing (managers : RequestManagers Key) (cancel : Nat) (requests uploads : Nat → Prop) :
    Prop :=
  match managers.cancels.get? cancel with
  | some (.requester call) => managers.requester.Covers call requests
  | some (.upload call) =>
      managers.requester.NoneLive requests ∧ managers.upload.Covers call uploads
  | some .returned => managers.requester.NoneLive requests ∧ managers.upload.NoneLive uploads
  | none => False

/-- A call of `cancelAllRequests` that has begun with these tasks registered. -/
structure Cancelling (cancel : Nat) (requests uploads : Nat → Prop)
    (managers : RequestManagers Key) : Prop where
  registered : managers.LiveRegistered
  requestsAdded : managers.requester.AllAdded requests
  uploadsAdded : managers.upload.AllAdded uploads
  standing : managers.Standing cancel requests uploads

variable {cancel : Nat} {requests uploads : Nat → Prop}

/-- The standing of a call survives a step that does not move the call itself. -/
theorem standing_of_step (state : Cancelling cancel requests uploads managers)
    (requester : next.requester = managers.requester ∨
      ∃ label, managers.requester.step label = some next.requester)
    (upload : next.upload = managers.upload ∨
      ∃ label, managers.upload.step label = some next.upload)
    (kept : next.cancels.get? cancel = managers.cancels.get? cancel) :
    next.Standing cancel requests uploads := by
  have covers {call : Nat} (before : managers.requester.Covers call requests) :
      next.requester.Covers call requests := by
    rcases requester with same | ⟨label, moved⟩
    · rw [same]
      exact before
    · exact AwesomeRequestManager.covers_step state.requestsAdded before moved
  have coversUploads {call : Nat} (before : managers.upload.Covers call uploads) :
      next.upload.Covers call uploads := by
    rcases upload with same | ⟨label, moved⟩
    · rw [same]
      exact before
    · exact AwesomeRequestManager.covers_step state.uploadsAdded before moved
  have dead (before : managers.requester.NoneLive requests) :
      next.requester.NoneLive requests := by
    rcases requester with same | ⟨label, moved⟩
    · rw [same]
      exact before
    · exact AwesomeRequestManager.noneLive_step state.requestsAdded before moved
  have deadUploads (before : managers.upload.NoneLive uploads) : next.upload.NoneLive uploads := by
    rcases upload with same | ⟨label, moved⟩
    · rw [same]
      exact before
    · exact AwesomeRequestManager.noneLive_step state.uploadsAdded before moved
  have standing := state.standing
  unfold Standing at standing ⊢
  rw [kept]
  cases found : managers.cancels.get? cancel with
  | none =>
      rw [found] at standing
      exact standing
  | some progress =>
      rw [found] at standing
      cases progress with
      | requester call => exact covers standing
      | upload call => exact ⟨dead standing.1, coversUploads standing.2⟩
      | returned => exact ⟨dead standing.1, deadUploads standing.2⟩

/-- Undisturbed steps keep the call on its way. -/
theorem cancelling_step (state : Cancelling cancel requests uploads managers)
    (undisturbed : managers.Undisturbed label) (taken : step managers label = some next) :
    Cancelling cancel requests uploads next := by
  have registered := liveRegistered_step state.registered undisturbed taken
  have standing := state.standing
  cases stepCases taken with
  | requester label moved upload cancels =>
      refine ⟨registered, AwesomeRequestManager.allAdded_step state.requestsAdded moved, ?_, ?_⟩
      · rw [upload]
        exact state.uploadsAdded
      · exact standing_of_step state (.inr ⟨_, moved⟩) (.inl upload) (by rw [cancels])
  | upload label moved requester cancels =>
      refine ⟨registered, ?_, AwesomeRequestManager.allAdded_step state.uploadsAdded moved, ?_⟩
      · rw [requester]
        exact state.requestsAdded
      · exact standing_of_step state (.inl requester) (.inr ⟨_, moved⟩) (by rw [cancels])
  | cancelAllRequests moved upload cancels =>
      refine ⟨registered, AwesomeRequestManager.allAdded_step state.requestsAdded moved, ?_, ?_⟩
      · rw [upload]
        exact state.uploadsAdded
      · apply standing_of_step state (.inr ⟨_, moved⟩) (.inl upload)
        have present : cancel ≠ managers.cancels.size := by
          rintro rfl
          unfold Standing at standing
          rw [Table.get?_size] at standing
          exact standing
        rw [cancels, Table.get?_push, if_neg present]
  | cancelUploads other call present finished moved requester cancels =>
      refine ⟨registered, ?_, AwesomeRequestManager.allAdded_step state.uploadsAdded moved, ?_⟩
      · rw [requester]
        exact state.requestsAdded
      · by_cases same : cancel = other
        · subst same
          unfold Standing at standing ⊢
          rw [present] at standing
          rw [cancels, Table.get?_modify_self, present, requester]
          exact ⟨AwesomeRequestManager.Covers.noneLive standing finished,
            AwesomeRequestManager.covers_cancelAll state.registered.2 uploads moved⟩
        · apply standing_of_step state (.inl requester) (.inr ⟨_, moved⟩)
          rw [cancels, Table.get?_modify_of_ne _ _ same]
  | cancelReturn other call present finished upload requester cancels =>
      refine ⟨registered, ?_, ?_, ?_⟩
      · rw [requester]
        exact state.requestsAdded
      · rw [upload]
        exact state.uploadsAdded
      · by_cases same : cancel = other
        · subst same
          unfold Standing at standing ⊢
          rw [present] at standing
          rw [cancels, Table.get?_modify_self, present, requester, upload]
          exact ⟨standing.1, AwesomeRequestManager.Covers.noneLive standing.2 finished⟩
        · apply standing_of_step state (.inl requester) (.inl upload)
          rw [cancels, Table.get?_modify_of_ne _ _ same]

/-- When `cancelAllRequests` begins, it stands to cover every task there is. -/
theorem cancelling_begins (registered : managers.LiveRegistered)
    (requestsAdded : managers.requester.AllAdded requests)
    (uploadsAdded : managers.upload.AllAdded uploads)
    (taken : step managers .cancelAllRequests = some next) :
    Cancelling managers.cancels.size requests uploads next := by
  have undisturbed : managers.Undisturbed .cancelAllRequests := trivial
  have still := liveRegistered_step registered undisturbed taken
  cases stepCases taken with
  | cancelAllRequests moved upload cancels =>
      refine ⟨still, AwesomeRequestManager.allAdded_step requestsAdded moved, ?_, ?_⟩
      · rw [upload]
        exact uploadsAdded
      · unfold Standing
        rw [cancels, Table.get?_push_self]
        exact AwesomeRequestManager.covers_cancelAll registered.1 requests moved

end Cancelling

end RequestManagers

namespace AwesomeRequestManager

variable {Key : Type}

/-- The task was resumed. -/
def HasResumed (manager : AwesomeRequestManager Key) (name : Nat) : Prop :=
  ∃ task, manager.tasks.get? name = some task ∧ task.start = .resumed

/-- The task has completed or was cancelled. -/
def HasEnded (manager : AwesomeRequestManager Key) (name : Nat) : Prop :=
  ∃ task, manager.tasks.get? name = some task ∧ (task.state ≠ .running ∨ task.cancelled = true)

theorem hasEnded_of_noneLive {manager : AwesomeRequestManager Key} {names : Nat → Prop} {name : Nat}
    (added : manager.AllAdded names) (dead : manager.NoneLive names) (member : names name) :
    manager.HasEnded name := by
  obtain ⟨task, present, ready⟩ := added name member
  refine ⟨task, present, ?_⟩
  by_contra pending
  obtain ⟨running, uncancelled⟩ := not_or.mp pending
  exact dead name member
    ⟨task, present, ready, not_not.mp running, Bool.eq_false_iff.mpr uncancelled⟩

end AwesomeRequestManager

namespace RequestManagers

variable {Key : Type} [DecidableEq Key]

/-- Every task that was resumed in the source has completed or is cancelled. -/
def AllEnded (source target : RequestManagers Key) : Prop :=
  (∀ name, source.requester.HasResumed name → target.requester.HasEnded name) ∧
    ∀ name, source.upload.HasResumed name → target.upload.HasEnded name

/-- **Completeness of `cancelAllRequests`.** The live tasks are registered
throughout a run exactly when no step takes out the entry of a live task; and in
such a run every task that was resumed before `cancelAllRequests` began has
completed or is cancelled when it returns. -/
theorem cancelAllRequests_complete {labels : List (Label Key)} {target : RequestManagers Key}
    (run : Transition.Run step initial labels target) :
    (Transition.Always step LiveRegistered initial labels ↔
        Transition.Meets step Undisturbed initial labels) ∧
      (Transition.Meets step Undisturbed initial labels → ∀ before during source,
        labels = before ++ .cancelAllRequests :: during →
        Transition.Run step initial before source →
          target.cancels.get? source.cancels.size = some .returned → AllEnded source target) := by
  refine ⟨liveRegistered_iff_undisturbed run, ?_⟩
  rintro undisturbed before during source rfl first returned
  have registered : source.LiveRegistered :=
    ((liveRegistered_iff_undisturbed first).mpr undisturbed.left).finally first
  obtain ⟨middle, begins, rest⟩ := (run.of_append first).cons_inv
  have resumed {manager : AwesomeRequestManager Key} : manager.AllAdded manager.HasResumed := by
    rintro name ⟨task, present, resumed⟩
    exact ⟨task, present, Or.inr resumed⟩
  have state : Cancelling source.cancels.size source.requester.HasResumed source.upload.HasResumed
      target :=
    rest.preserves_of_meets ((undisturbed.right first).2 middle begins)
      (fun _ _ _ state met taken => cancelling_step state met taken)
      (cancelling_begins registered resumed resumed begins)
  have standing := state.standing
  unfold Standing at standing
  rw [returned] at standing
  refine ⟨fun name member => ?_, fun name member => ?_⟩
  · exact AwesomeRequestManager.hasEnded_of_noneLive state.requestsAdded standing.1 member
  · exact AwesomeRequestManager.hasEnded_of_noneLive state.uploadsAdded standing.2 member

/-- Start the task `name` of the requester, without cancelling a previous one. -/
def startRequest (key : String) (name : Nat) : List (Label String) :=
  [.requester (.create key false), .requester (.register name), .requester (.resume name)]

/-- A call of `cancelAllRequests`, the first one, that finds one task in the
registry of the requester and none in the other. -/
def cancelOneRequest : List (Label String) :=
  [.cancelAllRequests, .requester (.cancelNext 0), .requester (.removeAll 0), .cancelUploads 0,
    .upload (.removeAll 0), .cancelReturn 0]

theorem shared_key_escapes :
    ∃ source target,
      Transition.Run step initial (startRequest "/items?keyHash=GET" 0 ++
        startRequest "/items?keyHash=GET" 1) source ∧
      Transition.Run step source cancelOneRequest target ∧
      target.cancels.get? source.cancels.size = some .returned ∧
      ¬ AllEnded source target ∧ ¬ LiveRegistered source := by
  refine ⟨_, _, Transition.run_iff_execute.mpr rfl, Transition.run_iff_execute.mpr rfl, rfl, ?_, ?_⟩
  · intro ended
    obtain ⟨task, present, finished⟩ := ended.1 0 ⟨_, rfl, rfl⟩
    cases present
    rcases finished with stopped | cancelled
    · exact stopped rfl
    · cases cancelled
  · intro registered
    have first := registered.1 0 _ rfl ⟨Or.inr rfl, rfl, rfl⟩
    cases first

/-- Two requests with different keys and an upload have been resumed. -/
def startThree : List (Label String) :=
  startRequest "/items?keyHash=GET" 0 ++ startRequest "/users?keyHash=GET" 1 ++
    [.upload (.create "/items?keyHash=POST" false), .upload (.register 0), .upload (.resume 0)]

/-- A call of `cancelAllRequests`, the first one, that finds these three. -/
def cancelThree : List (Label String) :=
  [.cancelAllRequests, .requester (.cancelNext 0), .requester (.cancelNext 0),
    .requester (.removeAll 0), .cancelUploads 0, .upload (.cancelNext 0), .upload (.removeAll 0),
    .cancelReturn 0]

/-- All three tasks are cancelled when the call returns. -/
theorem cancelAllRequests_complete_one : ∃ source target,
    Transition.Run step initial startThree source ∧
      Transition.Run step initial (startThree ++ cancelThree) target ∧
      Transition.Always step LiveRegistered initial (startThree ++ cancelThree) ∧
      AllEnded source target ∧ target.requester.HasEnded 0 ∧ target.requester.HasEnded 1 ∧
      target.upload.HasEnded 0 := by
  have begins := Transition.run_iff_execute.mpr
    (rfl : Transition.execute step initial startThree = some _)
  have run := Transition.run_iff_execute.mpr
    (rfl : Transition.execute step initial (startThree ++ cancelThree) = some _)
  have undisturbed : Transition.Meets step Undisturbed initial (startThree ++ cancelThree) := by
    decide
  obtain ⟨iff, complete⟩ := cancelAllRequests_complete run
  have ended := complete undisturbed startThree _ _ rfl begins rfl
  exact ⟨_, _, begins, run, iff.mpr undisturbed, ended, ended.1 0 ⟨_, rfl, rfl⟩,
    ended.1 1 ⟨_, rfl, rfl⟩, ended.2 0 ⟨_, rfl, rfl⟩⟩

end RequestManagers

end AwesomeNetwork
