import AwesomeNetwork.Library.Transition

/-! # Blocks that wait for serial queues

A program changes a shared state and hands blocks to serial queues, waiting until they have
run. A queue runs one block at a time, so the queues of the blocks that wait are occupied
until the innermost block has ended. Blocks of other threads are not part of this: they leave
a queue without waiting for the program.
-/

namespace SerialQueue

/-- A program: effects on the state, and blocks that it waits for. -/
inductive Program (Queue State : Type*) where
  | done
  | act (effect : State → State) (rest : Program Queue State)
  | sync (queue : Queue) (body rest : Program Queue State)

variable {Queue State : Type*}

namespace Program

/-- What the program does to the state when it never has to wait for itself. -/
def effect : Program Queue State → State → State
  | .done, state => state
  | .act effect rest, state => rest.effect (effect state)
  | .sync _ body rest, state => rest.effect (body.effect state)

/-- No block is handed to a queue that is occupied until the block has run. -/
def Free : List Queue → Program Queue State → Prop
  | _, .done => True
  | occupied, .act _ rest => rest.Free occupied
  | occupied, .sync queue body rest =>
      queue ∉ occupied ∧ body.Free (queue :: occupied) ∧ rest.Free occupied

end Program

/-- A block, as far as it has not run. -/
structure Frame (Queue State : Type*) where
  queue : Queue
  program : Program Queue State

/-- The blocks of a call, the innermost first, and the queues of those that wait for it. -/
structure Call (Queue State : Type*) where
  frames : List (Frame Queue State)
  context : List Queue
  state : State

variable [DecidableEq Queue]

namespace Call

/-- The queues that are running a block of the call or of its callers. -/
def occupied (call : Call Queue State) : List Queue :=
  call.frames.map Frame.queue ++ call.context

/-- One step of the innermost block. A block for an occupied queue never begins. -/
def step (call : Call Queue State) (_ : Unit) : Option (Call Queue State) :=
  match call.frames with
  | [] => none
  | ⟨_, .done⟩ :: [] => none
  | ⟨_, .done⟩ :: frame :: frames => some { call with frames := frame :: frames }
  | ⟨queue, .act effect rest⟩ :: frames =>
      some { call with frames := ⟨queue, rest⟩ :: frames, state := effect call.state }
  | ⟨queue, .sync target body rest⟩ :: frames =>
      if target ∈ call.occupied then none
      else some { call with frames := ⟨target, body⟩ :: ⟨queue, rest⟩ :: frames }

/-- The innermost block waits for a queue that is occupied until it ends. -/
def Blocked (call : Call Queue State) : Prop :=
  ∃ queue target body rest frames,
    call.frames = ⟨queue, .sync target body rest⟩ :: frames ∧ target ∈ call.occupied

end Call

/-- The call of a program on a queue. -/
def Program.call (program : Program Queue State) (queue : Queue) (context : List Queue)
    (state : State) : Call Queue State :=
  ⟨[⟨queue, program⟩], context, state⟩

/-- The call comes to its end and leaves the state. -/
def Program.Returns (program : Program Queue State) (queue : Queue) (context : List Queue)
    (state after : State) : Prop :=
  ∃ labels, Transition.Run Call.step (program.call queue context state) labels
    ((Program.done : Program Queue State).call queue context after)

/-- The call comes to a block that never begins. -/
def Program.Hangs (program : Program Queue State) (queue : Queue) (context : List Queue)
    (state : State) : Prop :=
  ∃ labels blocked, Transition.Run Call.step (program.call queue context state) labels blocked ∧
    blocked.Blocked

namespace Call

variable {queue : Queue} {context : List Queue} {state after : State}
  {frames : List (Frame Queue State)} {program : Program Queue State}

/-- A blocked call makes no step. -/
theorem Blocked.step_eq_none {call : Call Queue State} (blocked : call.Blocked) :
    call.step () = none := by
  obtain ⟨queue, target, body, rest, frames, innermost, taken⟩ := blocked
  unfold step
  rw [innermost]
  exact if_pos taken

/-- A block for a queue that is free is entered. -/
theorem step_sync {target : Queue} {body rest : Program Queue State}
    (outside : target ∉
      occupied (⟨⟨queue, .sync target body rest⟩ :: frames, context, state⟩ : Call Queue State)) :
    step ⟨⟨queue, .sync target body rest⟩ :: frames, context, state⟩ () =
      some ⟨⟨target, body⟩ :: ⟨queue, rest⟩ :: frames, context, state⟩ :=
  if_neg outside

/-- A program that is free runs to its end, whatever waits for it. -/
theorem run_of_free
    (free : program.Free (occupied ⟨⟨queue, program⟩ :: frames, context, state⟩)) :
    ∃ labels, Transition.Run step ⟨⟨queue, program⟩ :: frames, context, state⟩ labels
      ⟨⟨queue, .done⟩ :: frames, context, program.effect state⟩ := by
  induction program generalizing queue frames state with
  | done => exact ⟨[], .nil _⟩
  | act effect rest ih =>
      have continues : ∃ labels, Transition.Run step
          ⟨⟨queue, rest⟩ :: frames, context, effect state⟩ labels
            ⟨⟨queue, .done⟩ :: frames, context, rest.effect (effect state)⟩ := ih free
      obtain ⟨labels, run⟩ := continues
      exact ⟨() :: labels, .cons rfl run⟩
  | sync target body rest ihBody ihRest =>
      obtain ⟨outside, inner, later⟩ := free
      have ran : ∃ labels, Transition.Run step
          ⟨⟨target, body⟩ :: ⟨queue, rest⟩ :: frames, context, state⟩ labels
            ⟨⟨target, .done⟩ :: ⟨queue, rest⟩ :: frames, context, body.effect state⟩ :=
        ihBody inner
      have continues : ∃ labels, Transition.Run step
          ⟨⟨queue, rest⟩ :: frames, context, body.effect state⟩ labels
            ⟨⟨queue, .done⟩ :: frames, context, rest.effect (body.effect state)⟩ := ihRest later
      obtain ⟨first, ran⟩ := ran
      obtain ⟨second, continues⟩ := continues
      -- the waiting block goes on when the inner one has ended
      exact ⟨() :: (first ++ () :: second), .cons (step_sync outside)
        (ran.append (.cons rfl continues))⟩

/-- A program that is not free comes to a block that never begins. -/
theorem run_of_not_free
    (conflict : ¬ program.Free (occupied ⟨⟨queue, program⟩ :: frames, context, state⟩)) :
    ∃ labels blocked, Transition.Run step ⟨⟨queue, program⟩ :: frames, context, state⟩ labels
      blocked ∧ blocked.Blocked := by
  induction program generalizing queue frames state with
  | done => exact (conflict trivial).elim
  | act effect rest ih =>
      have continues : ∃ labels blocked, Transition.Run step
          ⟨⟨queue, rest⟩ :: frames, context, effect state⟩ labels blocked ∧ blocked.Blocked :=
        ih conflict
      obtain ⟨labels, blocked, run, waits⟩ := continues
      exact ⟨() :: labels, blocked, .cons rfl run, waits⟩
  | sync target body rest ihBody ihRest =>
      by_cases outside : target ∈
          occupied (⟨⟨queue, .sync target body rest⟩ :: frames, context, state⟩ : Call Queue State)
      · exact ⟨[], _, .nil _, queue, target, body, rest, frames, rfl, outside⟩
      by_cases inner : body.Free (target ::
          occupied (⟨⟨queue, .sync target body rest⟩ :: frames, context, state⟩ : Call Queue State))
      · have ran : ∃ labels, Transition.Run step
            ⟨⟨target, body⟩ :: ⟨queue, rest⟩ :: frames, context, state⟩ labels
              ⟨⟨target, .done⟩ :: ⟨queue, rest⟩ :: frames, context, body.effect state⟩ :=
          run_of_free inner
        have continues : ∃ labels blocked, Transition.Run step
            ⟨⟨queue, rest⟩ :: frames, context, body.effect state⟩ labels blocked ∧
              blocked.Blocked := ihRest fun later => conflict ⟨outside, inner, later⟩
        obtain ⟨first, ran⟩ := ran
        obtain ⟨second, blocked, run, waits⟩ := continues
        exact ⟨() :: (first ++ () :: second), blocked, .cons (step_sync outside)
          (ran.append (.cons rfl run)), waits⟩
      · have continues : ∃ labels blocked, Transition.Run step
            ⟨⟨target, body⟩ :: ⟨queue, rest⟩ :: frames, context, state⟩ labels blocked ∧
              blocked.Blocked := ihBody inner
        obtain ⟨labels, blocked, run, waits⟩ := continues
        exact ⟨() :: labels, blocked, .cons (step_sync outside) run, waits⟩

/-- A call has one end. -/
theorem end_unique {source first second : Call Queue State} {labels labels' : List Unit}
    (run : Transition.Run step source labels first) (ends : first.step () = none)
    (run' : Transition.Run step source labels' second) (ends' : second.step () = none) :
    first = second := by
  induction run generalizing labels' with
  | nil =>
      cases run' with
      | nil => rfl
      | cons taken _ => cases ends.symm.trans taken
  | cons taken _ ih =>
      cases run' with
      | nil => cases ends'.symm.trans taken
      | cons taken' rest =>
          cases Option.some.inj (taken.symm.trans taken')
          exact ih ends rest

end Call

namespace Program

variable {program : Program Queue State} {queue : Queue} {context : List Queue}
  {state after : State}

/-- A program that never waits for an occupied queue returns. -/
theorem returns_of_free (free : program.Free (queue :: context)) :
    program.Returns queue context state (program.effect state) :=
  Call.run_of_free free

/-- A program that waits for an occupied queue hangs. -/
theorem hangs_of_not_free (conflict : ¬ program.Free (queue :: context)) :
    program.Hangs queue context state :=
  Call.run_of_not_free conflict

/-- A call that returns does not hang. -/
theorem Returns.not_hangs (returns : program.Returns queue context state after) :
    ¬ program.Hangs queue context state := by
  obtain ⟨_, run⟩ := returns
  rintro ⟨_, blocked, run', waits⟩
  cases Call.end_unique run rfl run' waits.step_eq_none
  obtain ⟨_, _, _, _, _, innermost, _⟩ := waits
  cases innermost

/-- **Calls with waiting blocks.** A call returns exactly when none of its blocks is for a
queue that is occupied until the block has run, and it leaves what the program computes. -/
theorem returns_iff : program.Returns queue context state after ↔
    program.Free (queue :: context) ∧ after = program.effect state := by
  constructor
  · intro returns
    have free : program.Free (queue :: context) := by
      by_contra conflict
      exact returns.not_hangs (hangs_of_not_free conflict)
    refine ⟨free, ?_⟩
    have computed : program.Returns queue context state (program.effect state) :=
      returns_of_free free
    obtain ⟨_, run⟩ := returns
    obtain ⟨_, run'⟩ := computed
    exact congrArg Call.state (Call.end_unique run rfl run' rfl)
  · rintro ⟨free, rfl⟩
    exact returns_of_free free

/-- A program hangs exactly when it waits for an occupied queue. -/
theorem hangs_iff : program.Hangs queue context state ↔ ¬ program.Free (queue :: context) := by
  refine ⟨fun hangs free => ?_, hangs_of_not_free⟩
  have returns : program.Returns queue context state (program.effect state) := returns_of_free free
  exact returns.not_hangs hangs

end Program

end SerialQueue
