import AwesomeNetwork.Networking.WaitingBlocks

/-! # How many permits there are

A block whose wait timed out goes on like one that took a permit, and signals like it.
Each such block adds a permit to those that the semaphore began with and that the calls
of `releaseSemaphore` have added.
-/

namespace AwesomeNetwork

namespace AwesomeDispatcher

/-- In every state of the run the permits that are free or to come are at most the first
one and those of the calls of `releaseSemaphore`, and no wait that times out adds one. -/
structure Conserves (timeout : Option TimeInterval) (labels : List Label) : Prop where
  bounded : ∀ before after middle, labels = before ++ after →
    Transition.Run step (initialWith timeout) before middle →
    middle.permits ≤ 1 + Transition.tally step beginsRelease (initialWith timeout) before
  noExtra : ∀ before name after middle next, labels = before ++ .expire name :: after →
    Transition.Run step (initialWith timeout) before middle →
    step middle (.expire name) = some next → next.permits ≤ middle.permits

/-- No block that lets the next one through passes its wait by a timeout. -/
def NoneExpires (dispatcher : AwesomeDispatcher) (label : Label) : Prop :=
  passesExpired dispatcher label = 0

instance (dispatcher : AwesomeDispatcher) (label : Label) :
    Decidable (dispatcher.NoneExpires label) := inferInstanceAs (Decidable (_ = _))

variable {dispatcher next target : AwesomeDispatcher} {label : Label} {labels : List Label}
  {name : Nat} {timeout : Option TimeInterval}

/-- The bound holds as long as the blocks that passed by a timeout are made up for by the
permits that were kept and the releases still to signal. -/
theorem permits_le_iff (run : Transition.Run step (initialWith timeout) labels target) :
    target.permits ≤ 1 + Transition.tally step beginsRelease (initialWith timeout) labels ↔
      Transition.tally step passesExpired (initialWith timeout) labels +
          Transition.tally step releases (initialWith timeout) labels ≤
        Transition.tally step keepsPermit (initialWith timeout) labels +
          Transition.tally step beginsRelease (initialWith timeout) labels := by
  have balance := permits_run run
  rw [Transition.tally_add] at balance
  omega

/-- A wait that times out adds a permit unless its block does not signal. -/
theorem permits_expire (taken : step dispatcher (.expire name) = some next) :
    next.permits ≤ dispatcher.permits ↔ dispatcher.NoneExpires (.expire name) := by
  have moved : next.permits + 0 =
      dispatcher.permits + (0 + passesExpired dispatcher (.expire name)) := permits_step taken
  unfold NoneExpires
  omega

/-- **Permit conservation.** A run conserves the permits exactly when no block that lets the
next one through passes its wait by a timeout. The count itself stays within its bound as
long as such blocks are no more than the permits kept and the releases still to signal. -/
theorem conserves_iff (run : Transition.Run step (initialWith timeout) labels target) :
    (Conserves timeout labels ↔
      Transition.Meets step NoneExpires (initialWith timeout) labels) ∧
    (target.permits ≤ 1 + Transition.tally step beginsRelease (initialWith timeout) labels ↔
      Transition.tally step passesExpired (initialWith timeout) labels +
          Transition.tally step releases (initialWith timeout) labels ≤
        Transition.tally step keepsPermit (initialWith timeout) labels +
          Transition.tally step beginsRelease (initialWith timeout) labels) := by
  refine ⟨⟨fun conserves => ?_, fun none => ⟨?_, ?_⟩⟩, permits_le_iff run⟩
  · refine Transition.Meets.of_split run fun before label after middle next split first taken => ?_
    cases label with
    | expire name =>
        exact (permits_expire taken).mp
          (conserves.noExtra before name after middle next split first taken)
    | _ => rfl
  · intro before after middle split first
    subst split
    have expired : Transition.tally step passesExpired (initialWith timeout) before = 0 :=
      Transition.tally_eq_zero_iff.mpr none.left
    have signalled := releasing_run first
    rw [permits_le_iff first, expired]
    omega
  · intro before name after middle next split first taken
    subst split
    exact (permits_expire taken).mpr (Transition.Meets.right first none).1

/-- The first block keeps the permit, and the two that wait for it time out together. -/
def timedOut : List Label :=
  [.executeBlock false, .executeBlock true, .executeBlock true, .enter 0, .acquire 0, .dispatch 0,
    .enter 1, .enter 2, .expire 1, .expire 2, .dispatch 1, .dispatch 2, .signal 1, .signal 2]

/-- Two waits that time out leave two permits of a semaphore that began with one. -/
theorem timeouts_add_permits :
    ∃ target, Transition.Run step (initialWith (some 5)) timedOut target ∧ target.value = 2 ∧
      Transition.tally step beginsRelease (initialWith (some 5)) timedOut = 0 ∧
      ¬ Conserves (some 5) timedOut := by
  have run := Transition.run_iff_execute.mpr
    (rfl : Transition.execute step (initialWith (some 5)) timedOut = some _)
  refine ⟨_, run, rfl, rfl, fun conserves => ?_⟩
  exact absurd (conserves.bounded timedOut [] _ (List.append_nil _).symm run) (by decide)

/-- A run in which no wait times out. -/
theorem conserves_iff_kept :
    Conserves none keptPermit ↔ Transition.Meets step NoneExpires (initialWith none) keptPermit :=
  (conserves_iff (Transition.run_iff_execute.mpr
    (rfl : Transition.execute step (initialWith none) keptPermit = some _))).1

end AwesomeDispatcher

end AwesomeNetwork
