import AwesomeNetwork.Networking.AwesomeDispatcher

/-! # Waiting blocks

Every permit of the dispatcher's semaphore is free, or it was taken by a block
that lets the next one through and has its signal still to make, or a block that
does not let the next one through has kept it. A block that waits while nothing is
free and no signal is to come therefore waits for permits that were kept.
-/

namespace AwesomeNetwork

/-- The block is past its wait and has its signal still to make. -/
def GatedBlock.signalsLater (block : GatedBlock) : Bool :=
  match block.wait with
  | .passed => block.signalNext
  | .signalling => true
  | _ => false

namespace AwesomeDispatcher

/-- A dispatcher whose waits have the given timeout, or none. -/
def initialWith (timeout : Option TimeInterval) : AwesomeDispatcher :=
  { initial with timeout := timeout }

/-- The signals that are still to be made. -/
def pendingSignals (dispatcher : AwesomeDispatcher) : Nat :=
  dispatcher.blocks.count GatedBlock.signalsLater

/-- The permits that are free or that a passed block has still to give back. -/
def permits (dispatcher : AwesomeDispatcher) : Nat := dispatcher.value + dispatcher.pendingSignals

/-- The block waits while no permit is available and no passed block has its signal
still to make. -/
def Stuck (dispatcher : AwesomeDispatcher) (block : GatedBlock) : Prop :=
  block.wait = .waiting ∧ dispatcher.value = 0 ∧
    dispatcher.blocks.All fun _ other => other.signalsLater = false

/-- The step has a block that does not let the next one through take a permit. -/
def keepsPermit (dispatcher : AwesomeDispatcher) : Label → Nat
  | .acquire name =>
      match dispatcher.blocks.get? name with
      | some block => if block.signalNext then 0 else 1
      | none => 0
  | _ => 0

/-- The step has a block that lets the next one through pass without a permit. -/
def passesExpired (dispatcher : AwesomeDispatcher) : Label → Nat
  | .expire name =>
      match dispatcher.blocks.get? name with
      | some block => if block.signalNext then 1 else 0
      | none => 0
  | _ => 0

/-- The step is the signal, the last statement, of a call of `releaseSemaphore`. -/
def releases (_ : AwesomeDispatcher) : Label → Nat
  | .releaseSignal => 1
  | _ => 0

/-- The step hands the block over to its queue: after its wait, or at once under the
green light. -/
def dispatchesBlock (name : Nat) (dispatcher : AwesomeDispatcher) : Label → Nat
  | .executeBlock _ => if dispatcher.hasGreenLights ∧ name = dispatcher.blocks.size then 1 else 0
  | .dispatch other => if other = name then 1 else 0
  | _ => 0

/-- Counts the runs of a block. -/
def runsBlock (name : Nat) (_ : AwesomeDispatcher) : Label → Nat
  | .run other => if other = name then 1 else 0
  | _ => 0

variable {dispatcher next target : AwesomeDispatcher} {label : Label} {labels : List Label}
  {name : Nat} {block : GatedBlock} {timeout : Option TimeInterval}

/-- A change of a block changes its own signal only. -/
theorem pendingSignals_modifyBlock (change : GatedBlock → GatedBlock)
    (present : dispatcher.blocks.get? name = some block) :
    (dispatcher.modifyBlock name change).pendingSignals +
        (if block.signalsLater then 1 else 0) =
      dispatcher.pendingSignals + if (change block).signalsLater then 1 else 0 :=
  Table.count_modify GatedBlock.signalsLater change present

/-- A block that lets no other through keeps the permit it takes. -/
theorem keepsPermit_acquire (present : dispatcher.blocks.get? name = some block) :
    keepsPermit dispatcher (.acquire name) = if block.signalNext then 0 else 1 := by
  unfold keepsPermit
  dsimp only
  rw [present]

/-- A block that passes without a permit and will signal adds one. -/
theorem passesExpired_expire (present : dispatcher.blocks.get? name = some block) :
    passesExpired dispatcher (.expire name) = if block.signalNext then 1 else 0 := by
  unfold passesExpired
  dsimp only
  rw [present]

section Permits

/-- A step moves the permits that are free or to come by what it releases, what it
passes without a permit and what it keeps. -/
theorem permits_step (taken : step dispatcher label = some next) :
    next.permits + keepsPermit dispatcher label =
      dispatcher.permits + (releases dispatcher label + passesExpired dispatcher label) := by
  unfold permits
  cases label with
  | executeBlock signalNext =>
      cases taken
      unfold executeBlock pendingSignals
      split
      · rw [Table.count_push]
        rfl
      · rw [Table.count_push]
        rfl
  | enter name =>
      obtain ⟨block, present, queued, rfl⟩ := Table.when_eq_some.mp taken
      have moved := pendingSignals_modifyBlock (fun block => { block with wait := .waiting })
        present
      have before : block.signalsLater = false := by
        unfold GatedBlock.signalsLater
        rw [queued]
      rw [before] at moved
      exact congrArg (dispatcher.value + ·) moved
  | acquire name =>
      obtain ⟨block, present, ⟨waiting, free⟩, rfl⟩ := Table.when_eq_some.mp taken
      have moved := pendingSignals_modifyBlock (fun block => { block with wait := .passed }) present
      have before : block.signalsLater = false := by
        unfold GatedBlock.signalsLater
        rw [waiting]
      have after : GatedBlock.signalsLater { block with wait := .passed } = block.signalNext := rfl
      rw [before, after] at moved
      rw [keepsPermit_acquire present]
      change dispatcher.value - 1 + (dispatcher.modifyBlock name _).pendingSignals + _ = _ + 0
      cases signals : block.signalNext with
      | true =>
          rw [signals] at moved
          simp only [Bool.false_eq_true, ↓reduceIte] at moved ⊢
          omega
      | false =>
          rw [signals] at moved
          simp only [Bool.false_eq_true, ↓reduceIte] at moved ⊢
          omega
  | expire name =>
      obtain ⟨block, present, ⟨waiting, _⟩, rfl⟩ := Table.when_eq_some.mp taken
      have moved := pendingSignals_modifyBlock (fun block => { block with wait := .passed }) present
      have before : block.signalsLater = false := by
        unfold GatedBlock.signalsLater
        rw [waiting]
      have after : GatedBlock.signalsLater { block with wait := .passed } = block.signalNext := rfl
      rw [before, after] at moved
      rw [passesExpired_expire present]
      change dispatcher.value + (dispatcher.modifyBlock name _).pendingSignals + 0 = _ + (0 + _)
      simp only [Bool.false_eq_true, ↓reduceIte] at moved
      omega
  | dispatch name =>
      obtain ⟨block, present, passed, rfl⟩ := Table.when_eq_some.mp taken
      have moved := pendingSignals_modifyBlock GatedBlock.dispatch present
      have same : (GatedBlock.dispatch block).signalsLater = block.signalsLater := by
        unfold GatedBlock.dispatch GatedBlock.signalsLater
        rw [passed]
        cases block.signalNext <;> rfl
      rw [same] at moved
      exact congrArg (dispatcher.value + ·) (Nat.add_right_cancel moved)
  | signal name =>
      obtain ⟨block, present, signalling, rfl⟩ := Table.when_eq_some.mp taken
      have moved := pendingSignals_modifyBlock (fun block => { block with wait := .returned })
        present
      have before : block.signalsLater = true := by
        unfold GatedBlock.signalsLater
        rw [signalling]
      have after : GatedBlock.signalsLater { block with wait := .returned } = false := rfl
      rw [before, after] at moved
      simp only [Bool.false_eq_true, ↓reduceIte] at moved
      change dispatcher.value + 1 + (dispatcher.modifyBlock name _).pendingSignals + 0 = _ + 0
      omega
  | run name =>
      obtain ⟨block, present, _, rfl⟩ := Table.when_eq_some.mp taken
      have moved := pendingSignals_modifyBlock (fun block => { block with block := .ran }) present
      exact congrArg (dispatcher.value + ·) (Nat.add_right_cancel moved)
  | releaseSemaphore =>
      cases taken
      rfl
  | releaseSignal =>
      unfold step at taken
      dsimp only at taken
      split at taken
      · cases taken
        change dispatcher.value + 1 + dispatcher.pendingSignals + 0 =
          dispatcher.value + dispatcher.pendingSignals + 1
        omega
      · cases taken

/-- The permits of a run: those released, and the passes without a permit, are free,
still to come or kept. -/
theorem permits_run (run : Transition.Run step (initialWith timeout) labels target) :
    target.permits + Transition.tally step keepsPermit (initialWith timeout) labels =
      1 + Transition.tally step
        (fun dispatcher label => releases dispatcher label + passesExpired dispatcher label)
        (initialWith timeout) labels :=
  run.balance (fun _ _ _ _ _ => trivial) (fun _ _ _ (_ : True) taken => permits_step taken) trivial

end Permits

section Handover

/-- A block is held back exactly as long as its waiting closure has not passed. -/
def InOrder (dispatcher : AwesomeDispatcher) : Prop :=
  dispatcher.blocks.All fun _ block => block.block = .held ↔
    block.wait = .queued ∨ block.wait = .waiting ∨ block.wait = .passed

/-- The new dispatcher is in order. -/
theorem inOrder_initialWith : (initialWith timeout).InOrder := by
  intro name block present
  cases present

/-- Every step keeps the blocks in order. -/
theorem inOrder_step (orderly : dispatcher.InOrder) (taken : step dispatcher label = some next) :
    next.InOrder := by
  cases label with
  | executeBlock signalNext =>
      cases taken
      unfold executeBlock
      split
      · exact Table.All.push orderly (by decide +revert)
      · exact Table.All.push orderly (by decide +revert)
  | enter name =>
      obtain ⟨block, present, queued, rfl⟩ := Table.when_eq_some.mp taken
      refine Table.All.modify orderly fun other found => ?_
      cases Option.some.inj (found.symm.trans present)
      exact iff_of_true ((orderly name block present).mpr (Or.inl queued)) (Or.inr (Or.inl rfl))
  | acquire name =>
      obtain ⟨block, present, ⟨waiting, _⟩, rfl⟩ := Table.when_eq_some.mp taken
      refine Table.All.modify orderly fun other found => ?_
      cases Option.some.inj (found.symm.trans present)
      exact iff_of_true ((orderly name block present).mpr (Or.inr (Or.inl waiting)))
        (Or.inr (Or.inr rfl))
  | expire name =>
      obtain ⟨block, present, ⟨waiting, _⟩, rfl⟩ := Table.when_eq_some.mp taken
      refine Table.All.modify orderly fun other found => ?_
      cases Option.some.inj (found.symm.trans present)
      exact iff_of_true ((orderly name block present).mpr (Or.inr (Or.inl waiting)))
        (Or.inr (Or.inr rfl))
  | dispatch name =>
      obtain ⟨block, present, _, rfl⟩ := Table.when_eq_some.mp taken
      refine Table.All.modify orderly fun other _ => ?_
      unfold GatedBlock.dispatch
      dsimp only
      split <;> decide
  | signal name =>
      obtain ⟨block, present, signalling, rfl⟩ := Table.when_eq_some.mp taken
      refine Table.All.modify orderly fun other found => ?_
      cases Option.some.inj (found.symm.trans present)
      have released : block.block ≠ .held := by
        intro held
        rcases (orderly name block present).mp held with same | same | same
        all_goals cases signalling.symm.trans same
      refine iff_of_false released ?_
      rintro (same | same | same) <;> cases same
  | run name =>
      obtain ⟨block, present, dispatched, rfl⟩ := Table.when_eq_some.mp taken
      refine Table.All.modify orderly fun other found => ?_
      cases Option.some.inj (found.symm.trans present)
      refine iff_of_false nofun fun early => ?_
      cases dispatched.symm.trans ((orderly name block present).mpr early)
  | releaseSemaphore =>
      cases taken
      exact orderly
  | releaseSignal =>
      unfold step at taken
      dsimp only at taken
      split at taken
      · cases taken
        exact orderly
      · cases taken

/-- One when the block under the name is there and satisfies the test. -/
def reached (test : GatedBlock → Bool) (name : Nat) (dispatcher : AwesomeDispatcher) : Nat :=
  match dispatcher.blocks.get? name with
  | some block => if test block then 1 else 0
  | none => 0

/-- A block counts once at most. -/
theorem reached_le_one (test : GatedBlock → Bool) (name : Nat) (dispatcher : AwesomeDispatcher) :
    reached test name dispatcher ≤ 1 := by
  unfold reached
  split
  · split <;> decide
  · decide

/-- A new block counts under its own name only. -/
theorem reached_push {test : GatedBlock → Bool} {after : AwesomeDispatcher}
    (blocks : after.blocks = dispatcher.blocks.push block) :
    reached test name after = reached test name dispatcher +
      if test block = true ∧ name = dispatcher.blocks.size then 1 else 0 := by
  unfold reached
  rw [blocks, Table.get?_push]
  by_cases fresh : name = dispatcher.blocks.size
  · rw [if_pos fresh, fresh, Table.get?_size, Nat.zero_add]
    simp only [and_true]
  · simp only [fresh, and_false, ↓reduceIte, Nat.add_zero]

/-- A change that the test does not see leaves what was reached. -/
theorem reached_modify {test : GatedBlock → Bool} {other : Nat}
    {change : GatedBlock → GatedBlock} {after : AwesomeDispatcher}
    (blocks : after.blocks = dispatcher.blocks.modify other change)
    (unseen : ∀ block, dispatcher.blocks.get? other = some block →
      test (change block) = test block) :
    reached test name after = reached test name dispatcher := by
  unfold reached
  rw [blocks, Table.get?_modify]
  by_cases same : name = other
  · subst same
    rw [if_pos rfl]
    cases present : dispatcher.blocks.get? name with
    | none => rfl
    | some block =>
        dsimp only [Option.map_some]
        rw [unseen block present]
  · rw [if_neg same]

/-- A change that makes the test true is counted once, for its block. -/
theorem reached_modify_reaching {test : GatedBlock → Bool} {other : Nat}
    {change : GatedBlock → GatedBlock} {after : AwesomeDispatcher}
    (blocks : after.blocks = dispatcher.blocks.modify other change)
    (present : dispatcher.blocks.get? other = some block) (before : test block = false)
    (reaches : test (change block) = true) :
    reached test name after = reached test name dispatcher + if other = name then 1 else 0 := by
  unfold reached
  rw [blocks, Table.get?_modify]
  by_cases same : name = other
  · subst same
    rw [if_pos rfl, if_pos rfl, present]
    simp only [Option.map_some, reaches, before, Bool.false_eq_true, ↓reduceIte]
  · rw [if_neg same, if_neg (Ne.symm same), Nat.add_zero]

/-- Whether the block was handed over to its queue. -/
def GatedBlock.isDispatched (block : GatedBlock) : Bool := block.block ≠ .held

/-- Whether the block has run. -/
def GatedBlock.hasRun (block : GatedBlock) : Bool := block.block = .ran

/-- Each step adds its own handing over of the block. -/
theorem dispatched_step (orderly : dispatcher.InOrder) (taken : step dispatcher label = some next) :
    reached GatedBlock.isDispatched name next =
      reached GatedBlock.isDispatched name dispatcher + dispatchesBlock name dispatcher label := by
  cases label with
  | executeBlock signalNext =>
      cases taken
      unfold executeBlock dispatchesBlock
      dsimp only
      by_cases green : dispatcher.hasGreenLights = true
      · rw [if_pos green, reached_push rfl]
        simp only [green, true_and, GatedBlock.isDispatched, ne_eq, reduceCtorEq,
          not_false_eq_true, decide_true]
      · rw [if_neg green, reached_push rfl]
        simp only [green, false_and, GatedBlock.isDispatched, ne_eq, not_true_eq_false,
          decide_false, Bool.false_eq_true, ↓reduceIte]
  | enter other =>
      obtain ⟨block, present, _, rfl⟩ := Table.when_eq_some.mp taken
      exact reached_modify rfl fun _ _ => rfl
  | acquire other =>
      obtain ⟨block, present, _, rfl⟩ := Table.when_eq_some.mp taken
      exact reached_modify rfl fun _ _ => rfl
  | expire other =>
      obtain ⟨block, present, _, rfl⟩ := Table.when_eq_some.mp taken
      exact reached_modify rfl fun _ _ => rfl
  | dispatch other =>
      obtain ⟨block, present, passed, rfl⟩ := Table.when_eq_some.mp taken
      have held := (orderly other block present).mpr (Or.inr (Or.inr passed))
      refine reached_modify_reaching rfl present ?_ rfl
      unfold GatedBlock.isDispatched
      rw [held]
      rfl
  | signal other =>
      obtain ⟨block, present, _, rfl⟩ := Table.when_eq_some.mp taken
      exact reached_modify rfl fun _ _ => rfl
  | run other =>
      obtain ⟨block, present, dispatched, rfl⟩ := Table.when_eq_some.mp taken
      refine reached_modify rfl fun found same => ?_
      cases Option.some.inj (same.symm.trans present)
      unfold GatedBlock.isDispatched
      rw [dispatched]
      rfl
  | releaseSemaphore =>
      cases taken
      rfl
  | releaseSignal =>
      unfold step at taken
      dsimp only at taken
      split at taken
      · cases taken
        rfl
      · cases taken

/-- Each step adds its own run of the block. -/
theorem ran_step (orderly : dispatcher.InOrder) (taken : step dispatcher label = some next) :
    reached GatedBlock.hasRun name next =
      reached GatedBlock.hasRun name dispatcher + runsBlock name dispatcher label := by
  cases label with
  | executeBlock signalNext =>
      cases taken
      unfold executeBlock runsBlock
      dsimp only
      by_cases green : dispatcher.hasGreenLights = true
      · rw [if_pos green, reached_push rfl]
        simp only [GatedBlock.hasRun, reduceCtorEq, decide_false, Bool.false_eq_true, false_and,
          ↓reduceIte]
      · rw [if_neg green, reached_push rfl]
        simp only [GatedBlock.hasRun, reduceCtorEq, decide_false, Bool.false_eq_true, false_and,
          ↓reduceIte]
  | enter other =>
      obtain ⟨block, present, _, rfl⟩ := Table.when_eq_some.mp taken
      exact reached_modify rfl fun _ _ => rfl
  | acquire other =>
      obtain ⟨block, present, _, rfl⟩ := Table.when_eq_some.mp taken
      exact reached_modify rfl fun _ _ => rfl
  | expire other =>
      obtain ⟨block, present, _, rfl⟩ := Table.when_eq_some.mp taken
      exact reached_modify rfl fun _ _ => rfl
  | dispatch other =>
      obtain ⟨block, present, passed, rfl⟩ := Table.when_eq_some.mp taken
      refine reached_modify rfl fun found same => ?_
      cases Option.some.inj (same.symm.trans present)
      have held := (orderly other block present).mpr (Or.inr (Or.inr passed))
      unfold GatedBlock.hasRun
      rw [held]
      rfl
  | signal other =>
      obtain ⟨block, present, _, rfl⟩ := Table.when_eq_some.mp taken
      exact reached_modify rfl fun _ _ => rfl
  | run other =>
      obtain ⟨block, present, dispatched, rfl⟩ := Table.when_eq_some.mp taken
      refine reached_modify_reaching rfl present ?_ rfl
      unfold GatedBlock.hasRun
      rw [dispatched]
      rfl
  | releaseSemaphore =>
      cases taken
      rfl
  | releaseSignal =>
      unfold step at taken
      dsimp only at taken
      split at taken
      · cases taken
        rfl
      · cases taken

/-- No block is handed over to its queue twice, and none runs twice. -/
theorem once_run (run : Transition.Run step (initialWith timeout) labels target) (name : Nat) :
    Transition.tally step (dispatchesBlock name) (initialWith timeout) labels ≤ 1 ∧
      Transition.tally step (runsBlock name) (initialWith timeout) labels ≤ 1 := by
  have dispatched : reached GatedBlock.isDispatched name target =
      reached GatedBlock.isDispatched name (initialWith timeout) +
        Transition.tally step (dispatchesBlock name) (initialWith timeout) labels :=
    run.total (fun _ _ _ orderly taken => inOrder_step orderly taken)
      (fun _ _ _ orderly taken => dispatched_step orderly taken) inOrder_initialWith
  have ran : reached GatedBlock.hasRun name target =
      reached GatedBlock.hasRun name (initialWith timeout) +
        Transition.tally step (runsBlock name) (initialWith timeout) labels :=
    run.total (fun _ _ _ orderly taken => inOrder_step orderly taken)
      (fun _ _ _ orderly taken => ran_step orderly taken) inOrder_initialWith
  have dispatchedOnce := reached_le_one GatedBlock.isDispatched name target
  have ranOnce := reached_le_one GatedBlock.hasRun name target
  omega

end Handover

section Waiting

/-- The calls of `releaseSemaphore` that have begun. -/
def beginsRelease (_ : AwesomeDispatcher) : Label → Nat
  | .releaseSemaphore => 1
  | _ => 0

/-- Every block lets the next one through. -/
def AllSignalNext (dispatcher : AwesomeDispatcher) : Prop :=
  dispatcher.blocks.All fun _ block => block.signalNext = true

/-- The step moves a waiting closure on, without a timeout. -/
def MovesOn : Label → Prop
  | .acquire _ | .dispatch _ | .signal _ => True
  | _ => False

/-- The releases under way are those that have begun and are not made yet. -/
theorem releasing_step (taken : step dispatcher label = some next) :
    next.releasing + releases dispatcher label =
      dispatcher.releasing + beginsRelease dispatcher label := by
  cases label with
  | executeBlock signalNext =>
      cases taken
      unfold executeBlock
      split <;> rfl
  | releaseSemaphore =>
      cases taken
      rfl
  | releaseSignal =>
      unfold step at taken
      dsimp only at taken
      split at taken
      · next started =>
          cases taken
          exact Nat.sub_add_cancel started
      · cases taken
  | enter name | acquire name | expire name | dispatch name | signal name | run name =>
      obtain ⟨block, _, _, rfl⟩ := Table.when_eq_some.mp taken
      rfl

/-- The calls of `releaseSemaphore` that have begun are those between their two statements
and those that have signalled. -/
theorem releasing_run (run : Transition.Run step (initialWith timeout) labels target) :
    target.releasing + Transition.tally step releases (initialWith timeout) labels =
      Transition.tally step beginsRelease (initialWith timeout) labels := by
  have balance : target.releasing +
        Transition.tally step releases (initialWith timeout) labels =
      0 + Transition.tally step beginsRelease (initialWith timeout) labels :=
    run.balance (fun _ _ _ _ _ => trivial)
      (fun _ _ _ (_ : True) taken => releasing_step taken) trivial
  exact balance.trans (Nat.zero_add _)

/-- When no block has a signal to make, none is to come. -/
theorem pendingSignals_eq_zero
    (settled : dispatcher.blocks.All fun _ other => other.signalsLater = false) :
    dispatcher.pendingSignals = 0 := by
  refine Nat.eq_zero_of_not_pos fun positive => ?_
  obtain ⟨name, block, present, later⟩ := Table.exists_of_count_pos positive
  exact Bool.false_ne_true ((settled name block present).symm.trans later)

/-- Where a block is stuck, there is no permit. -/
theorem Stuck.permits_eq_zero (stuck : dispatcher.Stuck block) : dispatcher.permits = 0 := by
  obtain ⟨_, none, settled⟩ := stuck
  unfold permits
  rw [none, pendingSignals_eq_zero settled]

/-- The permits that were kept when a block is stuck. -/
theorem kept_of_stuck (run : Transition.Run step (initialWith timeout) labels target)
    (stuck : target.Stuck block) :
    1 + Transition.tally step releases (initialWith timeout) labels ≤
      Transition.tally step keepsPermit (initialWith timeout) labels := by
  have balance := permits_run run
  have fewer : Transition.tally step releases (initialWith timeout) labels ≤ _ :=
    Transition.tally_mono
      (fun dispatcher label => Nat.le_add_right _ (passesExpired dispatcher label)) _ labels
  rw [stuck.permits_eq_zero] at balance
  omega

/-- While every block asked for lets the next one through, all do. -/
theorem allSignalNext_step (signals : dispatcher.AllSignalNext)
    (used : label ≠ .executeBlock false) (taken : step dispatcher label = some next) :
    next.AllSignalNext := by
  cases label with
  | executeBlock signalNext =>
      cases taken
      cases signalNext with
      | false => exact (used rfl).elim
      | true =>
          unfold executeBlock
          split
          · exact Table.All.push signals rfl
          · exact Table.All.push signals rfl
  | enter name | acquire name | expire name | dispatch name | signal name | run name =>
      obtain ⟨block, _, _, rfl⟩ := Table.when_eq_some.mp taken
      exact Table.All.modify signals fun other found => signals name other found
  | releaseSemaphore =>
      cases taken
      exact signals
  | releaseSignal =>
      unfold step at taken
      dsimp only at taken
      split at taken
      · cases taken
        exact signals
      · cases taken

/-- Such blocks keep no permit. -/
theorem keepsPermit_of_allSignalNext (signals : dispatcher.AllSignalNext) (label : Label) :
    keepsPermit dispatcher label = 0 := by
  unfold keepsPermit
  split
  · split
    · next block present => rw [if_pos (signals _ block present)]
    · rfl
  · rfl

/-- In the requester's use a permit is always free or to come. -/
theorem permits_pos (run : Transition.Run step (initialWith timeout) labels target)
    (used : Transition.Meets step (fun _ label => label ≠ .executeBlock false)
      (initialWith timeout) labels) :
    target.AllSignalNext ∧ 1 ≤ target.permits := by
  have kept : ∀ dispatcher label next, dispatcher.AllSignalNext ∧ 1 ≤ dispatcher.permits →
      label ≠ .executeBlock false → step dispatcher label = some next →
      next.AllSignalNext ∧ 1 ≤ next.permits := by
    rintro dispatcher label next ⟨signals, positive⟩ used taken
    have moved := permits_step taken
    rw [keepsPermit_of_allSignalNext signals] at moved
    exact ⟨allSignalNext_step signals used taken, by omega⟩
  refine run.preserves_of_meets used kept ⟨fun name block present => ?_, Nat.le_refl 1⟩
  cases present

/-- A block with a signal to make has passed or is about to signal. -/
theorem signalsLater_cases (later : block.signalsLater = true) :
    (block.wait = .passed ∧ block.signalNext = true) ∨ block.wait = .signalling := by
  unfold GatedBlock.signalsLater at later
  split at later
  · next passed => exact Or.inl ⟨passed, later⟩
  · next signalling => exact Or.inr signalling
  · cases later

/-- A waiting block may take a free permit. -/
theorem step_acquire (free : 0 < dispatcher.value)
    (present : dispatcher.blocks.get? name = some block) (waiting : block.wait = .waiting) :
    ∃ middle, step dispatcher (.acquire name) = some middle ∧
      middle.blocks.get? name = some { block with wait := .passed } :=
  ⟨_, Table.when_eq_some.mpr ⟨block, present, ⟨waiting, free⟩, rfl⟩,
    (Table.get?_modify_self dispatcher.blocks name _).trans (congrArg (Option.map _) present)⟩

/-- A block that has passed may be handed over. -/
theorem step_dispatch (present : dispatcher.blocks.get? name = some block)
    (passed : block.wait = .passed) :
    ∃ middle, step dispatcher (.dispatch name) = some middle ∧
      middle.blocks.get? name = some (GatedBlock.dispatch block) ∧
      ∀ other, other ≠ name → middle.blocks.get? other = dispatcher.blocks.get? other :=
  ⟨_, Table.when_eq_some.mpr ⟨block, present, passed, rfl⟩,
    (Table.get?_modify_self dispatcher.blocks name _).trans (congrArg (Option.map _) present),
    fun _ different => Table.get?_modify_of_ne dispatcher.blocks _ different⟩

/-- With a free permit, a waiting block takes it and is handed over. -/
theorem moves_on_of_free (free : 0 < dispatcher.value)
    (present : dispatcher.blocks.get? name = some block) (waiting : block.wait = .waiting) :
    ∃ target, Transition.Run step dispatcher [.acquire name, .dispatch name] target ∧
      ∃ after, target.blocks.get? name = some after ∧ after.block = .dispatched := by
  obtain ⟨middle, acquired, passed⟩ := step_acquire free present waiting
  obtain ⟨target, dispatched, handed, _⟩ := step_dispatch passed rfl
  exact ⟨target, .cons acquired (.single dispatched), _, handed, rfl⟩

/-- A block whose signal is next gives its permit back and touches no other block. -/
theorem signal_frees {other : Nat} {signaller : GatedBlock}
    (present : dispatcher.blocks.get? other = some signaller)
    (signalling : signaller.wait = .signalling) :
    ∃ middle, step dispatcher (.signal other) = some middle ∧ 0 < middle.value ∧
      ∀ name, name ≠ other → middle.blocks.get? name = dispatcher.blocks.get? name :=
  ⟨_, Table.when_eq_some.mpr ⟨signaller, present, signalling, rfl⟩, Nat.succ_pos _,
    fun _ different => Table.get?_modify_of_ne dispatcher.blocks _ different⟩

/-- While a permit is free or to come, a waiting block can be handed over. -/
theorem waiting_moves_on (positive : 1 ≤ dispatcher.permits)
    (present : dispatcher.blocks.get? name = some block) (waiting : block.wait = .waiting) :
    ∃ labels target, Transition.Run step dispatcher labels target ∧
      (∀ label ∈ labels, MovesOn label) ∧
      ∃ after, target.blocks.get? name = some after ∧ after.block = .dispatched := by
  rcases Nat.eq_zero_or_pos dispatcher.value with none | free
  · have pending : 0 < dispatcher.pendingSignals := by
      unfold permits at positive
      omega
    obtain ⟨other, signaller, found, later⟩ := Table.exists_of_count_pos pending
    have different : name ≠ other := by
      rintro rfl
      cases Option.some.inj (found.symm.trans present)
      rcases signalsLater_cases later with ⟨passed, _⟩ | signalling
      · cases passed.symm.trans waiting
      · cases signalling.symm.trans waiting
    rcases signalsLater_cases later with ⟨passed, signals⟩ | signalling
    · obtain ⟨middle, dispatched, after, same⟩ := step_dispatch found passed
      have signalling : (GatedBlock.dispatch signaller).wait = .signalling := by
        unfold GatedBlock.dispatch
        rw [signals]
        rfl
      obtain ⟨last, signalled, free, kept⟩ := signal_frees after signalling
      have still := (kept name different).trans ((same name different).trans present)
      obtain ⟨target, run, handed⟩ := moves_on_of_free free still waiting
      refine ⟨_, target, .cons dispatched (.cons signalled run), ?_, handed⟩
      intro label member
      simp only [List.mem_cons, List.not_mem_nil, or_false] at member
      rcases member with rfl | rfl | rfl | rfl <;> trivial
    · obtain ⟨middle, signalled, free, kept⟩ := signal_frees found signalling
      obtain ⟨target, run, handed⟩ :=
        moves_on_of_free free ((kept name different).trans present) waiting
      refine ⟨_, target, .cons signalled run, ?_, handed⟩
      intro label member
      simp only [List.mem_cons, List.not_mem_nil, or_false] at member
      rcases member with rfl | rfl | rfl <;> trivial
  · obtain ⟨target, run, handed⟩ := moves_on_of_free free present waiting
    refine ⟨_, target, run, ?_, handed⟩
    intro label member
    simp only [List.mem_cons, List.not_mem_nil, or_false] at member
    rcases member with rfl | rfl <;> trivial

/-- **Blocks are handed over once and never stuck but by kept permits.** In a run from
the start, with or without a timeout, no block is dispatched twice; the calls of
`releaseSemaphore` are those that have signalled and those that are between their two
statements; and where a block is stuck, more blocks have kept a permit than calls have
released one. If every block lets the next one through, no block is ever stuck, and
a waiting one can be handed over without a timeout. -/
theorem waiting_block_accounted (run : Transition.Run step (initialWith timeout) labels target) :
    (∀ name, Transition.tally step (dispatchesBlock name) (initialWith timeout) labels ≤ 1 ∧
      Transition.tally step (runsBlock name) (initialWith timeout) labels ≤ 1) ∧
    target.releasing + Transition.tally step releases (initialWith timeout) labels =
      Transition.tally step beginsRelease (initialWith timeout) labels ∧
    (∀ block, target.Stuck block →
      1 + Transition.tally step releases (initialWith timeout) labels ≤
        Transition.tally step keepsPermit (initialWith timeout) labels) ∧
    (Transition.Meets step (fun _ label => label ≠ .executeBlock false)
        (initialWith timeout) labels →
      ∀ name block, target.blocks.get? name = some block → ¬ target.Stuck block ∧
        (block.wait = .waiting → ∃ rest last, Transition.Run step target rest last ∧
          (∀ label ∈ rest, MovesOn label) ∧
          ∃ after, last.blocks.get? name = some after ∧ after.block = .dispatched)) := by
  refine ⟨once_run run, releasing_run run, fun block stuck => kept_of_stuck run stuck, ?_⟩
  intro used name block present
  have positive := (permits_pos run used).2
  refine ⟨fun stuck => ?_, fun waiting => waiting_moves_on positive present waiting⟩
  rw [stuck.permits_eq_zero] at positive
  exact Nat.not_succ_le_zero 0 positive

/-- The first block keeps the permit that the second one waits for. -/
def keptPermit : List Label :=
  [.executeBlock false, .executeBlock true, .enter 0, .acquire 0, .dispatch 0, .run 0, .enter 1]

/-- A block waits after a permit was kept. -/
theorem waiting_block_accounted_kept :
    1 + Transition.tally step releases (initialWith none) keptPermit ≤
      Transition.tally step keepsPermit (initialWith none) keptPermit :=
  (waiting_block_accounted
      (Transition.run_iff_execute.mpr
        (rfl : Transition.execute step (initialWith none) keptPermit = some _))).2.2.1
    ⟨true, .waiting, .held⟩ ⟨rfl, rfl, by decide⟩

end Waiting

end AwesomeDispatcher

end AwesomeNetwork
