import AwesomeNetwork.Networking.StaleEntries

/-! # Starting the library again

Each `AwesomeNetwork.start` installs a requester with an empty registry. What is under way
keeps the requester that it has found, and so does a call of `cancelAllRequests`; the
uploads have one registry throughout. The requests of a requester that was replaced are
out of the reach of `cancelAllRequests`.
-/

namespace AwesomeNetwork

/-- A task is cancelled if it was, or if it still runs. -/
theorem URLSessionTask.cancelled_cancel {Key : Type} (task : URLSessionTask Key) :
    task.cancel.cancelled = true ↔ task.cancelled = true ∨ task.state = .running := by
  unfold cancel
  split
  · next running => simp only [running, or_true]
  · next ended => simp only [ended, or_false]

namespace AwesomeRequestManager

/-- The step cancels the task that it finds under a key. -/
def Label.cancelsEntry {Key : Type} : Label Key → Bool
  | .cancelPrevious _ | .cancelRequest _ => true
  | _ => false

/-- No cancelling call is going through the registry. -/
def NoneCancelling {Key : Type} (manager : AwesomeRequestManager Key) : Prop :=
  ∀ call names, manager.cancellations.get? call ≠ some (.cancelling names)

variable {Key : Type} [DecidableEq Key] {manager next : AwesomeRequestManager Key}
  {label : Label Key} {name call : Nat} {task after : URLSessionTask Key}

/-- A step that aims at a task cancels it. -/
theorem get?_of_aims (taken : step manager label = some next) (aims : manager.Aims label name)
    (present : manager.tasks.get? name = some task) :
    ∃ after, next.tasks.get? name = some after ∧ after.cancelled = task.cancel.cancelled := by
  cases label with
  | cancelPrevious other =>
      obtain ⟨started, found, _, rfl⟩ := Table.when_eq_some.mp taken
      obtain ⟨same, found', registered⟩ := aims
      cases Option.some.inj (found'.symm.trans found)
      simp only [cancelPreviousRequest, get?_modifyTask, get?_cancelEntry, registered, present,
        ↓reduceIte, Option.map_some]
      split <;> exact ⟨_, rfl, rfl⟩
  | cancelRequest key =>
      cases taken
      have registered : manager.requestQueue.lookup key = some name := aims
      refine ⟨task.cancel, ?_, rfl⟩
      change (manager.cancelEntry key).tasks.get? name = _
      simp only [get?_cancelEntry, registered, present, ↓reduceIte, Option.map_some]
  | cancelNext call =>
      obtain ⟨first, names, found, rfl⟩ := step_cancelNext taken
      obtain ⟨others, same⟩ := aims
      cases Option.some.inj (same.symm.trans found)
      refine ⟨task.cancel, ?_, rfl⟩
      simp only [tasks_setCancellation, get?_modifyTask, present, ↓reduceIte, Option.map_some]
  | _ => exact aims.elim

/-- A step cancels a task exactly when it aims at it while it runs. -/
theorem step_cancelled_iff (taken : step manager label = some next)
    (present : manager.tasks.get? name = some task)
    (found : next.tasks.get? name = some after) :
    after.cancelled = true ↔
      task.cancelled = true ∨ (manager.Aims label name ∧ task.state = .running) := by
  by_cases aims : manager.Aims label name
  · obtain ⟨other, same, cancelled⟩ := get?_of_aims taken aims present
    cases Option.some.inj (same.symm.trans found)
    simp only [cancelled, URLSessionTask.cancelled_cancel, aims, true_and]
  · obtain ⟨other, same, moves⟩ := step_moves taken present
    cases Option.some.inj (same.symm.trans found)
    simp only [aims, false_and, or_false]
    cases moves with
    | cancel aimed => exact (aims aimed).elim
    | cancelSelf aimed => exact (aims aimed).elim
    | _ => exact Iff.rfl

/-- Only `cancelAllRequests` begins to go through the registry. -/
theorem cancelling_step_inv {names : List Nat} (taken : step manager label = some next)
    (present : next.cancellations.get? call = some (.cancelling names)) :
    (∃ pending, manager.cancellations.get? call = some (.cancelling pending)) ∨
      (label = .cancelAll ∧ call = manager.cancellations.size) := by
  have kept {other : Nat} {changed : Cancellation Key} {source : AwesomeRequestManager Key}
      (same : source.cancellations = manager.cancellations)
      (from' : ∀ names, changed = .cancelling names →
        ∃ pending, manager.cancellations.get? other = some (.cancelling pending))
      (present : (source.setCancellation other changed).cancellations.get? call =
        some (.cancelling names)) :
      ∃ pending, manager.cancellations.get? call = some (.cancelling pending) := by
    rcases get?_setCancellation_inv present with old | ⟨rfl, fresh⟩
    · rw [same] at old
      exact ⟨names, old⟩
    · exact from' names fresh.symm
  cases label with
  | create key cancelPrevious =>
      cases taken
      exact Or.inl ⟨names, present⟩
  | cancelPrevious other =>
      obtain ⟨started, _, _, rfl⟩ := Table.when_eq_some.mp taken
      rw [cancelPreviousRequest, cancellations_modifyTask, cancellations_cancelEntry] at present
      exact Or.inl ⟨names, present⟩
  | register other | resume other | finish other | remove other =>
      obtain ⟨moved, _, _, rfl⟩ := Table.when_eq_some.mp taken
      exact Or.inl ⟨names, present⟩
  | cancelRequest key =>
      cases taken
      rcases Table.get?_push_cases present with old | ⟨_, fresh⟩
      · rw [cancellations_cancelEntry] at old
        exact Or.inl ⟨names, old⟩
      · cases fresh
  | removeCancelled other =>
      obtain ⟨key, _, rfl⟩ := step_removeCancelled taken
      exact Or.inl (kept rfl (by rintro _ ⟨⟩) present)
  | cancelAll =>
      cases taken
      rcases Table.get?_push_cases present with old | ⟨last, _⟩
      · exact Or.inl ⟨names, old⟩
      · exact Or.inr ⟨rfl, last⟩
  | cancelNext other =>
      obtain ⟨first, pending, found, rfl⟩ := step_cancelNext taken
      exact Or.inl (kept rfl (fun _ _ => ⟨_, found⟩) present)
  | removeAll other =>
      obtain ⟨_, rfl⟩ := step_removeAll taken
      exact Or.inl (kept rfl (by rintro _ ⟨⟩) present)

/-- Without `cancelAll` no call begins to cancel everything. -/
theorem noneCancelling_step (none : manager.NoneCancelling) (other : label ≠ .cancelAll)
    (taken : step manager label = some next) : next.NoneCancelling := by
  intro call names present
  rcases cancelling_step_inv taken present with ⟨pending, earlier⟩ | ⟨begun, _⟩
  · exact none call pending earlier
  · exact other begun

/-- A task that has been cancelled stays so. -/
theorem cancelled_run {labels : List (Label Key)} {target : AwesomeRequestManager Key}
    (run : Transition.Run step manager labels target)
    (present : manager.tasks.get? name = some task) (cancelled : task.cancelled = true) :
    ∃ after, target.tasks.get? name = some after ∧ after.cancelled = true := by
  induction run generalizing task with
  | nil => exact ⟨task, present, cancelled⟩
  | cons taken _ ih =>
      obtain ⟨after, found, evolves⟩ := step_task taken present
      exact ih found (evolves.cancelled cancelled)

end AwesomeRequestManager

/-- Where a call of `AwesomeNetwork.cancelAllRequests` stands: in the registry of the
requester that it has found, with none there, in the registry of the uploads, or done. -/
inductive CancelAllStage where
  | requester (generation call : Nat)
  | absent
  | upload (call : Nat)
  | returned
deriving DecidableEq, Repr

/-- The registries of the requesters installed so far, in order, and that of
`AwesomeUpload.shared`. -/
structure Generations (Key : Type) where
  requesters : Table (AwesomeRequestManager Key)
  upload : AwesomeRequestManager Key
  cancels : Table CancelAllStage

namespace Generations

/-- A step of the library with restarts, by the requester it belongs to. -/
inductive Label (Key : Type) where
  | start
  | requester (generation : Nat) (label : AwesomeRequestManager.Label Key)
  | upload (label : AwesomeRequestManager.Label Key)
  | cancelAllRequests
  | cancelUploads (cancel : Nat)
  | cancelReturn (cancel : Nat)
deriving DecidableEq, Repr

variable {Key : Type} [DecidableEq Key]

/-- The library before its first start. -/
def initial : Generations Key := ⟨.empty, .initial, .empty⟩

/-- The registry of one requester changes. -/
def setRequester (generations : Generations Key) (generation : Nat)
    (manager : AwesomeRequestManager Key) : Generations Key :=
  { generations with requesters := generations.requesters.modify generation fun _ => manager }

/-- The name of the installed requester, when there is one. -/
def installed (generations : Generations Key) : Nat := generations.requesters.size - 1

/-- The call is through with the registry of the requester. -/
def passed (generations : Generations Key) : CancelAllStage → Bool
  | .requester generation call =>
      (generations.requesters.get? generation).bind (·.cancellations.get? call) = some .finished
  | .absent => true
  | _ => false

/-- Only `cancelAllRequests` goes through a whole registry. -/
def single : AwesomeRequestManager.Label Key → Bool
  | .cancelAll => false
  | _ => true

/-- One step of the library: a restart installs a requester, and every other step is one of
a registry or of a call. -/
def step (generations : Generations Key) : Label Key → Option (Generations Key)
  | .start => some { generations with requesters := generations.requesters.push .initial }
  | .requester generation label =>
      match generations.requesters.get? generation with
      | some manager =>
          if single label then (manager.step label).map (generations.setRequester generation)
          else none
      | none => none
  | .upload label =>
      if single label && RequestManagers.uploads label then
        (generations.upload.step label).map fun upload => { generations with upload := upload }
      else none
  | .cancelAllRequests =>
      match generations.requesters.get? generations.installed with
      | some manager =>
          (manager.step .cancelAll).map fun cancelling =>
            { generations.setRequester generations.installed cancelling with
              cancels := generations.cancels.push
                (.requester generations.installed manager.cancellations.size) }
      | none => some { generations with cancels := generations.cancels.push .absent }
  | .cancelUploads cancel =>
      match generations.cancels.get? cancel with
      | some stage =>
          if generations.passed stage then
            (generations.upload.step .cancelAll).map fun upload =>
              { generations with
                upload := upload
                cancels := generations.cancels.modify cancel fun _ =>
                  .upload generations.upload.cancellations.size }
          else none
      | none => none
  | .cancelReturn cancel =>
      match generations.cancels.get? cancel with
      | some (.upload call) =>
          if generations.upload.cancellations.get? call = some .finished then
            some { generations with
              cancels := generations.cancels.modify cancel fun _ => .returned }
          else none
      | _ => none

/-- What a step does to the requesters and to the calls of `cancelAllRequests`. -/
inductive StepCases (generations next : Generations Key) : Label Key → Prop
  | start : next.requesters = generations.requesters.push .initial →
      next.cancels = generations.cancels → StepCases generations next .start
  | requester (generation : Nat) (label : AwesomeRequestManager.Label Key)
      (manager moved : AwesomeRequestManager Key) :
      generations.requesters.get? generation = some manager → label ≠ .cancelAll →
      manager.step label = some moved →
      next.requesters = generations.requesters.modify generation (fun _ => moved) →
      next.cancels = generations.cancels →
      StepCases generations next (.requester generation label)
  | upload (label : AwesomeRequestManager.Label Key) :
      next.requesters = generations.requesters → next.cancels = generations.cancels →
      StepCases generations next (.upload label)
  | cancelAllRequests (manager cancelling : AwesomeRequestManager Key) :
      generations.requesters.get? generations.installed = some manager →
      manager.step .cancelAll = some cancelling →
      next.requesters =
        generations.requesters.modify generations.installed (fun _ => cancelling) →
      next.cancels = generations.cancels.push
        (.requester generations.installed manager.cancellations.size) →
      StepCases generations next .cancelAllRequests
  | cancelNone : generations.requesters.get? generations.installed = none →
      next.requesters = generations.requesters →
      next.cancels = generations.cancels.push .absent →
      StepCases generations next .cancelAllRequests
  | cancelUploads (cancel call : Nat) (stage : CancelAllStage) :
      generations.cancels.get? cancel = some stage → generations.passed stage = true →
      next.requesters = generations.requesters →
      next.cancels = generations.cancels.modify cancel (fun _ => .upload call) →
      StepCases generations next (.cancelUploads cancel)
  | cancelReturn (cancel call : Nat) :
      generations.cancels.get? cancel = some (.upload call) →
      next.requesters = generations.requesters →
      next.cancels = generations.cancels.modify cancel (fun _ => .returned) →
      StepCases generations next (.cancelReturn cancel)

variable {generations next target : Generations Key} {label : Label Key}
  {labels : List (Label Key)} {generation name call cancel : Nat}
  {manager : AwesomeRequestManager Key}

/-- Every step is one of these cases. -/
theorem stepCases (taken : step generations label = some next) :
    StepCases generations next label := by
  cases label with
  | start =>
      cases taken
      exact .start rfl rfl
  | requester generation label =>
      unfold step at taken
      dsimp only at taken
      split at taken
      · next manager present =>
          obtain ⟨alone, moves⟩ := Option.ite_none_right_eq_some.mp taken
          obtain ⟨moved, stepped, rfl⟩ := Option.map_eq_some_iff.mp moves
          refine .requester generation label manager moved present ?_ stepped rfl rfl
          rintro rfl
          cases alone
      · cases taken
  | upload label =>
      obtain ⟨_, moves⟩ := Option.ite_none_right_eq_some.mp taken
      obtain ⟨upload, _, rfl⟩ := Option.map_eq_some_iff.mp moves
      exact .upload label rfl rfl
  | cancelAllRequests =>
      unfold step at taken
      dsimp only at taken
      split at taken
      · next manager present =>
          obtain ⟨cancelling, stepped, rfl⟩ := Option.map_eq_some_iff.mp taken
          exact .cancelAllRequests manager cancelling present stepped rfl rfl
      · next absent =>
          cases taken
          exact .cancelNone absent rfl rfl
  | cancelUploads cancel =>
      unfold step at taken
      dsimp only at taken
      split at taken
      · next stage present =>
          obtain ⟨through, moves⟩ := Option.ite_none_right_eq_some.mp taken
          obtain ⟨upload, _, rfl⟩ := Option.map_eq_some_iff.mp moves
          exact .cancelUploads cancel _ stage present through rfl rfl
      · cases taken
  | cancelReturn cancel =>
      unfold step at taken
      dsimp only at taken
      split at taken
      · next call present =>
          obtain ⟨_, same⟩ := Option.ite_none_right_eq_some.mp taken
          cases same
          exact .cancelReturn cancel call present rfl rfl
      · cases taken

/-- What a step does to the registry of one requester. -/
inductive Acts (generations : Generations Key) (label : Label Key) (generation : Nat)
    (manager : AwesomeRequestManager Key) : AwesomeRequestManager Key → Prop
  | stay : (∀ moved, label ≠ .requester generation moved) →
      generations.Acts label generation manager manager
  | own (moved : AwesomeRequestManager.Label Key) (after : AwesomeRequestManager Key) :
      label = .requester generation moved → moved ≠ .cancelAll →
      manager.step moved = some after → generations.Acts label generation manager after
  | cancelAll (after : AwesomeRequestManager Key) :
      label = .cancelAllRequests → generation = generations.installed →
      manager.step .cancelAll = some after → generations.Acts label generation manager after

/-- The registries move only by their own steps. -/
theorem step_acts (taken : step generations label = some next)
    (present : generations.requesters.get? generation = some manager) :
    ∃ after, next.requesters.get? generation = some after ∧
      generations.Acts label generation manager after := by
  have stays (same : next.requesters = generations.requesters)
      (foreign : ∀ moved, label ≠ .requester generation moved) :
      ∃ after, next.requesters.get? generation = some after ∧
        generations.Acts label generation manager after :=
    ⟨manager, same ▸ present, .stay foreign⟩
  cases stepCases taken with
  | start requesters =>
      refine ⟨manager, ?_, .stay nofun⟩
      rw [requesters]
      exact Table.get?_push_of_get? _ present
  | requester other moved found after known alone stepped requesters =>
      rw [requesters, Table.get?_modify]
      by_cases same : generation = other
      · subst same
        cases Option.some.inj (known.symm.trans present)
        rw [if_pos rfl, present]
        exact ⟨after, rfl, .own moved after rfl alone stepped⟩
      · rw [if_neg same]
        refine ⟨manager, present, .stay fun _ equal => ?_⟩
        cases equal
        exact same rfl
  | upload label requesters => exact stays requesters nofun
  | cancelAllRequests found after known stepped requesters =>
      rw [requesters, Table.get?_modify]
      by_cases same : generation = generations.installed
      · rw [if_pos same, present]
        rw [← same] at known
        cases Option.some.inj (known.symm.trans present)
        exact ⟨after, rfl, .cancelAll after rfl same stepped⟩
      · rw [if_neg same]
        exact ⟨manager, present, .stay nofun⟩
  | cancelNone _ requesters => exact stays requesters nofun
  | cancelUploads _ _ _ _ _ requesters => exact stays requesters nofun
  | cancelReturn _ _ _ requesters => exact stays requesters nofun

/-- A registry after a step was there before or is the empty one of a new requester. -/
theorem step_acts_inv {after : AwesomeRequestManager Key}
    (taken : step generations label = some next)
    (present : next.requesters.get? generation = some after) :
    (∃ manager, generations.requesters.get? generation = some manager ∧
      generations.Acts label generation manager after) ∨ after = .initial := by
  cases found : generations.requesters.get? generation with
  | some manager =>
      obtain ⟨other, same, acts⟩ := step_acts taken found
      cases Option.some.inj (same.symm.trans present)
      exact Or.inl ⟨manager, rfl, acts⟩
  | none =>
      have none (same : next.requesters = generations.requesters) : after = .initial := by
        rw [same, found] at present
        cases present
      have modified {other : Nat} {moved : AwesomeRequestManager Key}
          (requesters : next.requesters = generations.requesters.modify other fun _ => moved) :
          after = .initial := by
        rw [requesters, Table.get?_modify, found] at present
        split at present <;> cases present
      cases stepCases taken with
      | start requesters =>
          rw [requesters] at present
          rcases Table.get?_push_cases present with old | ⟨_, fresh⟩
          · cases found.symm.trans old
          · exact Or.inr fresh
      | requester _ _ _ _ _ _ _ requesters => exact Or.inr (modified requesters)
      | upload _ requesters => exact Or.inr (none requesters)
      | cancelAllRequests _ _ _ _ requesters => exact Or.inr (modified requesters)
      | cancelNone _ requesters => exact Or.inr (none requesters)
      | cancelUploads _ _ _ _ _ requesters => exact Or.inr (none requesters)
      | cancelReturn _ _ _ requesters => exact Or.inr (none requesters)

theorem size_le_of_step (taken : step generations label = some next) :
    generations.requesters.size ≤ next.requesters.size := by
  cases stepCases taken with
  | start requesters =>
      rw [requesters, Table.size_push]
      exact Nat.le_succ _
  | requester _ _ _ _ _ _ _ requesters => simp only [requesters, Table.size_modify, le_refl]
  | cancelAllRequests _ _ _ _ requesters => simp only [requesters, Table.size_modify, le_refl]
  | upload _ requesters => exact le_of_eq (congrArg Table.size requesters.symm)
  | cancelNone _ requesters => exact le_of_eq (congrArg Table.size requesters.symm)
  | cancelUploads _ _ _ _ _ requesters => exact le_of_eq (congrArg Table.size requesters.symm)
  | cancelReturn _ _ _ requesters => exact le_of_eq (congrArg Table.size requesters.symm)

/-- Each registry goes through one of its own runs. -/
theorem registry_run (run : Transition.Run step generations labels target)
    (present : generations.requesters.get? generation = some manager) :
    ∃ later moves, target.requesters.get? generation = some later ∧
      Transition.Run AwesomeRequestManager.step manager moves later := by
  induction run generalizing manager with
  | nil => exact ⟨manager, [], present, .nil manager⟩
  | cons taken _ ih =>
      obtain ⟨after, found, acts⟩ := step_acts taken present
      obtain ⟨later, moves, reached, continued⟩ := ih found
      cases acts with
      | stay => exact ⟨later, moves, reached, continued⟩
      | own moved _ _ _ stepped => exact ⟨later, moved :: moves, reached, .cons stepped continued⟩
      | cancelAll _ _ _ stepped =>
          exact ⟨later, .cancelAll :: moves, reached, .cons stepped continued⟩

/-- A call of `cancelAllRequests` leaves the registry of its requester only when it is
through with it. -/
theorem step_stage (taken : step generations label = some next)
    (present : generations.cancels.get? cancel = some (.requester generation call)) :
    next.cancels.get? cancel = some (.requester generation call) ∨
      (generations.passed (.requester generation call) = true ∧
        next.requesters = generations.requesters) := by
  have pushed {stage : CancelAllStage} (cancels : next.cancels = generations.cancels.push stage) :
      next.cancels.get? cancel = some (.requester generation call) := by
    rw [cancels]
    exact Table.get?_push_of_get? _ present
  cases stepCases taken with
  | start _ cancels => exact Or.inl (cancels ▸ present)
  | requester _ _ _ _ _ _ _ _ cancels => exact Or.inl (cancels ▸ present)
  | upload _ _ cancels => exact Or.inl (cancels ▸ present)
  | cancelAllRequests _ _ _ _ _ cancels => exact Or.inl (pushed cancels)
  | cancelNone _ _ cancels => exact Or.inl (pushed cancels)
  | cancelUploads other _ stage found through requesters cancels =>
      by_cases same : cancel = other
      · subst same
        cases Option.some.inj (found.symm.trans present)
        exact Or.inr ⟨through, requesters⟩
      · rw [cancels, Table.get?_modify_of_ne _ _ same]
        exact Or.inl present
  | cancelReturn other _ found _ cancels =>
      have different : cancel ≠ other := by
        rintro rfl
        cases found.symm.trans present
      rw [cancels, Table.get?_modify_of_ne _ _ different]
      exact Or.inl present

/-- Whatever goes through the registry of a requester is a call of `cancelAllRequests`
that has found this requester. -/
def Attributed (generations : Generations Key) : Prop :=
  ∀ generation manager call names, generations.requesters.get? generation = some manager →
    manager.cancellations.get? call = some (.cancelling names) →
    ∃ cancel, generations.cancels.get? cancel = some (.requester generation call)

/-- Every step keeps the cancelling calls attributed. -/
theorem attributed_step (attributed : generations.Attributed)
    (taken : step generations label = some next) : next.Attributed := by
  intro generation after call names present cancelling
  rcases step_acts_inv taken present with ⟨manager, found, acts⟩ | rfl
  · have kept {names : List Nat}
        (earlier : manager.cancellations.get? call = some (.cancelling names)) :
        ∃ cancel, next.cancels.get? cancel = some (.requester generation call) := by
      obtain ⟨cancel, standing⟩ := attributed generation manager call names found earlier
      rcases step_stage taken standing with still | ⟨through, _⟩
      · exact ⟨cancel, still⟩
      · simp only [passed, found, Option.bind_some, earlier, Option.some.injEq, reduceCtorEq,
          decide_false, Bool.false_eq_true] at through
    cases acts with
    | stay => exact kept cancelling
    | own moved _ _ alone stepped =>
        rcases AwesomeRequestManager.cancelling_step_inv stepped cancelling with
          ⟨_, earlier⟩ | ⟨begun, _⟩
        · exact kept earlier
        · exact (alone begun).elim
    | cancelAll _ begins last stepped =>
        rcases AwesomeRequestManager.cancelling_step_inv stepped cancelling with
          ⟨_, earlier⟩ | ⟨_, rfl⟩
        · exact kept earlier
        · subst begins
          cases stepCases taken with
          | cancelAllRequests known _ there _ _ cancels =>
              rw [last] at found ⊢
              cases Option.some.inj (there.symm.trans found)
              exact ⟨generations.cancels.size, cancels ▸ Table.get?_push_self ..⟩
          | cancelNone absent =>
              rw [last, absent] at found
              cases found
  · cases cancelling

/-- In every run the cancelling calls are attributed. -/
theorem attributed_run (run : Transition.Run step (initial : Generations Key) labels generations) :
    generations.Attributed :=
  run.preserves (fun _ _ _ attributed taken => attributed_step attributed taken)
    fun _ _ _ _ present => nomatch present

/-- The requester has been replaced, and no cancelling call goes through its registry. -/
def Replaced (generation : Nat) (generations : Generations Key) : Prop :=
  generation + 1 < generations.requesters.size ∧
    ∀ manager, generations.requesters.get? generation = some manager → manager.NoneCancelling

/-- The step is not one of the requester that finds the task under its key and cancels it
while it runs. -/
def Spares (generation name : Nat) (generations : Generations Key) : Label Key → Prop
  | .requester other label =>
      other = generation → label.cancelsEntry = true → ∀ manager task,
        generations.requesters.get? generation = some manager →
        manager.tasks.get? name = some task → manager.Aims label name → task.state ≠ .running
  | _ => True

/-- A requester that was replaced stays replaced. -/
theorem replaced_step (replaced : Replaced generation generations)
    (taken : step generations label = some next) : Replaced generation next := by
  obtain ⟨past, none⟩ := replaced
  refine ⟨lt_of_lt_of_le past (size_le_of_step taken), fun after present => ?_⟩
  rcases step_acts_inv taken present with ⟨manager, found, acts⟩ | rfl
  · cases acts with
    | stay => exact none after found
    | own moved _ _ alone stepped =>
        exact AwesomeRequestManager.noneCancelling_step (none manager found) alone stepped
    | cancelAll _ _ last =>
        unfold installed at last
        omega
  · exact nofun

/-- In the registry of a replaced requester a task is cancelled by the steps that do not
spare it and by no others. -/
theorem replaced_step_cancelled {task after : URLSessionTask Key}
    {later : AwesomeRequestManager Key} (replaced : Replaced generation generations)
    (taken : step generations label = some next)
    (present : generations.requesters.get? generation = some manager)
    (found : manager.tasks.get? name = some task) (pending : task.cancelled = false)
    (acts : generations.Acts label generation manager later)
    (reached : later.tasks.get? name = some after) :
    after.cancelled = false ↔ Spares generation name generations label := by
  cases acts with
  | stay foreign =>
      cases Option.some.inj (found.symm.trans reached)
      refine iff_of_true pending ?_
      cases label with
      | requester other moved =>
          rintro rfl
          exact (foreign moved rfl).elim
      | _ => trivial
  | own moved _ same alone stepped =>
      subst same
      have told := AwesomeRequestManager.step_cancelled_iff stepped found reached
      rw [pending, Bool.false_eq_true, false_or] at told
      rw [← Bool.not_eq_true, told]
      constructor
      · intro spared _ _ manager' task' present' found' aims running
        cases Option.some.inj (present'.symm.trans present)
        cases Option.some.inj (found'.symm.trans found)
        exact spared ⟨aims, running⟩
      · rintro spares ⟨aims, running⟩
        have entry : moved.cancelsEntry = true := by
          cases moved with
          | cancelPrevious | cancelRequest => rfl
          | cancelNext call =>
              obtain ⟨names, cancelling⟩ := aims
              exact (replaced.2 manager present call _ cancelling).elim
          | _ => exact aims.elim
        exact spares rfl entry manager task present found aims running
  | cancelAll _ _ last =>
      have past := replaced.1
      unfold installed at last
      omega

/-- **The requests of a replaced requester.** Once the calls of `cancelAllRequests` made
before are past its registry, a request of a requester that was replaced is cancelled only
by another one of that requester that takes its key; no call of `cancelAllRequests` reaches
it, however many follow. -/
theorem replaced_pending_iff {before : List (Label Key)} {task : URLSessionTask Key}
    (history : Transition.Run step initial before generations)
    (replaced : generation + 1 < generations.requesters.size)
    (past : ∀ cancel call, generations.cancels.get? cancel ≠ some (.requester generation call))
    (present : generations.requesters.get? generation = some manager)
    (found : manager.tasks.get? name = some task) (pending : task.cancelled = false)
    (run : Transition.Run step generations labels target) :
    ∃ later after, target.requesters.get? generation = some later ∧
      later.tasks.get? name = some after ∧
      (after.cancelled = false ↔
        Transition.Meets step (Spares generation name) generations labels) := by
  have settled : Replaced generation generations := by
    refine ⟨replaced, fun manager present call names cancelling => ?_⟩
    obtain ⟨cancel, standing⟩ := attributed_run history generation manager call names present
      cancelling
    exact past cancel call standing
  clear history replaced past
  induction run generalizing manager task with
  | nil => exact ⟨manager, task, present, found, iff_of_true pending trivial⟩
  | @cons source middle target label labels taken rest ih =>
      obtain ⟨moved, there, acts⟩ := step_acts taken present
      have continues : ∃ other, moved.tasks.get? name = some other := by
        cases acts with
        | stay => exact ⟨task, found⟩
        | own _ _ _ _ stepped | cancelAll _ _ _ stepped =>
            obtain ⟨other, reached, _⟩ := AwesomeRequestManager.step_task stepped found
            exact ⟨other, reached⟩
      obtain ⟨other, reached⟩ := continues
      have told := replaced_step_cancelled settled taken present found pending acts reached
      rw [Transition.Meets.cons_iff taken]
      by_cases spares : Spares generation name source label
      · obtain ⟨later, after, last, final, same⟩ :=
          ih there reached (told.mpr spares) (replaced_step settled taken)
        exact ⟨later, after, last, final, same.trans (and_iff_right spares).symm⟩
      · have cancelled : other.cancelled = true :=
          eq_true_of_ne_false fun live => spares (told.mp live)
        obtain ⟨later, moves, last, continued⟩ := registry_run rest there
        obtain ⟨after, final, stays⟩ :=
          AwesomeRequestManager.cancelled_run continued reached cancelled
        refine ⟨later, after, last, final, iff_of_false ?_ fun meets => spares meets.1⟩
        rw [stays]
        exact nofun

/-- A request of the first requester. -/
def requested : List (Label String) :=
  [.start, .requester 0 (.create "a" false), .requester 0 (.register 0), .requester 0 (.resume 0)]

/-- The state in which a request was registered. -/
def beforeRestart : Generations String := (Transition.execute step initial requested).getD initial

/-- The same after one more start. -/
def afterRestart : Generations String := (beforeRestart.step .start).getD initial

/-- Its registry. -/
def requesting : AwesomeRequestManager String :=
  (Transition.execute AwesomeRequestManager.step .initial
    [.create "a" false, .register 0, .resume 0]).getD .initial

/-- A request runs on when the library has been started again before the cancelling. -/
theorem replaced_pending_iff_restarted : ∃ target later after,
    Transition.Run step afterRestart
      [.cancelAllRequests, .requester 1 (.removeAll 0), .cancelUploads 0] target ∧
    target.requesters.get? 0 = some later ∧ later.tasks.get? 0 = some after ∧
    after.cancelled = false := by
  have history : Transition.Run step initial (requested ++ [.start]) afterRestart :=
    Transition.run_iff_execute.mpr rfl
  have run := Transition.run_iff_execute.mpr (rfl : Transition.execute step afterRestart
    [.cancelAllRequests, .requester 1 (.removeAll 0), .cancelUploads 0] = some _)
  have present : afterRestart.requesters.get? 0 = some requesting := rfl
  have found : requesting.tasks.get? 0 = some ⟨"a", .resumed, false, .running⟩ := rfl
  obtain ⟨later, after, last, final, told⟩ :=
    replaced_pending_iff history (by decide) (fun _ _ => nofun) present found rfl run
  refine ⟨_, later, after, run, last, final, told.mpr ?_⟩
  refine Transition.Meets.of_forall_mem (fun label member state => ?_) _
  simp only [List.mem_cons, List.not_mem_nil, or_false] at member
  rcases member with rfl | rfl | rfl
  · trivial
  · intro other
    cases other
  · trivial

/-- A call of `cancelAllRequests` that began with the given tasks of its requester goes
through them, or it is through with the registry. -/
structure Reaching (generation cancel call : Nat) (names : Nat → Prop)
    (manager : AwesomeRequestManager Key) (generations : Generations Key) : Prop where
  present : generations.requesters.get? generation = some manager
  added : manager.AllAdded names
  covers : manager.Covers call names
  stage : generations.cancels.get? cancel = some (.requester generation call) ∨
    manager.cancellations.get? call = some .finished

/-- A call that has found its tasks still reaches them after a step. -/
theorem reaching_step {names : Nat → Prop}
    (reaching : Reaching generation cancel call names manager generations)
    (taken : step generations label = some next) :
    ∃ later, Reaching generation cancel call names later next := by
  obtain ⟨present, added, covers, stage⟩ := reaching
  obtain ⟨after, found, acts⟩ := step_acts taken present
  have standing (finished : manager.cancellations.get? call = some .finished →
      after.cancellations.get? call = some .finished) :
      next.cancels.get? cancel = some (.requester generation call) ∨
        after.cancellations.get? call = some .finished := by
    rcases stage with still | through
    · refine (step_stage taken still).imp_right fun ⟨through, _⟩ => finished ?_
      simpa only [passed, present, Option.bind_some, decide_eq_true_eq] using through
    · exact Or.inr (finished through)
  have moves {moved : AwesomeRequestManager.Label Key} (stepped : manager.step moved = some after) :
      Reaching generation cancel call names after next := by
    refine ⟨found, AwesomeRequestManager.allAdded_step added stepped,
      AwesomeRequestManager.covers_step added covers stepped, standing fun through => ?_⟩
    obtain ⟨kept, same, proceeds⟩ := AwesomeRequestManager.step_cancellation stepped through
    cases proceeds
    exact same
  cases acts with
  | stay => exact ⟨_, found, added, covers, standing id⟩
  | own _ _ _ _ stepped => exact ⟨after, moves stepped⟩
  | cancelAll _ _ _ stepped => exact ⟨after, moves stepped⟩

/-- **The requests of the installed requester.** A call of `cancelAllRequests` that begins
while every live request of the installed requester is registered has ended all of them once
it is past the registry, whatever is started or installed meanwhile. -/
theorem installed_none_live
    (present : generations.requesters.get? generations.installed = some manager)
    (registered : manager.LiveRegistered)
    (begins : step generations .cancelAllRequests = some next)
    (run : Transition.Run step next labels target)
    (past : target.cancels.get? generations.cancels.size ≠
      some (.requester generations.installed manager.cancellations.size)) :
    ∃ later, target.requesters.get? generations.installed = some later ∧
      later.NoneLive fun name => ∃ task, manager.tasks.get? name = some task ∧ task.Added := by
  obtain ⟨later, reaching⟩ : ∃ later, Reaching generations.installed generations.cancels.size
      manager.cancellations.size
      (fun name => ∃ task, manager.tasks.get? name = some task ∧ task.Added) later target := by
    apply run.preserves
    · rintro _ _ _ ⟨_, before⟩ taken
      exact reaching_step before taken
    cases stepCases begins with
    | cancelNone absent => cases absent.symm.trans present
    | cancelAllRequests known after there stepped requesters cancels =>
        cases Option.some.inj (there.symm.trans present)
        refine ⟨after, ?_, ?_, AwesomeRequestManager.covers_cancelAll registered _ stepped, ?_⟩
        · rw [requesters, Table.get?_modify_self, present]
          rfl
        · exact AwesomeRequestManager.allAdded_step (fun _ => id) stepped
        · rw [cancels]
          exact Or.inl (Table.get?_push_self ..)
  exact ⟨later, reaching.present, reaching.covers.noneLive (reaching.stage.resolve_left past)⟩

/-- The library is started again while the request is being cancelled. -/
theorem installed_none_live_restarted : ∃ next target later,
    step beforeRestart .cancelAllRequests = some next ∧
    Transition.Run step next
      [.start, .requester 0 (.cancelNext 0), .requester 0 (.removeAll 0), .cancelUploads 0] target ∧
    target.requesters.get? 0 = some later ∧ ¬ later.IsLive 0 := by
  have run := Transition.run_iff_execute.mpr (rfl : Transition.execute step
    ((beforeRestart.step .cancelAllRequests).getD initial)
    [.start, .requester 0 (.cancelNext 0), .requester 0 (.removeAll 0), .cancelUploads 0] = some _)
  have present : beforeRestart.requesters.get? beforeRestart.installed = some requesting := rfl
  have registered : requesting.LiveRegistered := by
    intro name task found live
    have first : name = 0 := Nat.lt_one_iff.mp (Table.lt_size_of_get? found)
    subst first
    cases found
    rfl
  obtain ⟨later, last, dead⟩ := installed_none_live present registered rfl run nofun
  exact ⟨_, _, later, rfl, run, last, dead 0 ⟨_, rfl, Or.inr rfl⟩⟩

end Generations

end AwesomeNetwork
