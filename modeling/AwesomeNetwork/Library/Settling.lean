import AwesomeNetwork.Library.Transition

/-! # Runs that settle

A potential pays for the steps of a run: each step costs no more than the potential that it
takes away, and what a step brings in from outside is its gain. A system whose inner steps
each cost something can take only so many of them, and when one is always enabled until the
system has settled, taking them settles it.
-/

namespace Transition

variable {State Label : Type*} {step : State → Label → Option State} {source target : State}
  {labels : List Label} {invariant : State → Prop} {potential : State → Nat}

/-- The costs of a run are paid by the potential at its beginning and the gains. -/
theorem Run.budget {gain cost : State → Label → Nat} {condition : State → Label → Prop}
    (run : Run step source labels target) (meets : Meets step condition source labels)
    (kept : ∀ state label next, invariant state → condition state label →
      step state label = some next → invariant next)
    (each : ∀ state label next, invariant state → condition state label →
      step state label = some next →
      potential next + cost state label ≤ potential state + gain state label)
    (valid : invariant source) :
    potential target + tally step cost source labels ≤
      potential source + tally step gain source labels := by
  induction run with
  | nil => exact Nat.le_refl _
  | cons taken _ ih =>
      have paid := each _ _ _ valid meets.1 taken
      have rest := ih (meets.2 _ taken) (kept _ _ _ valid meets.1 taken)
      rw [tally_cons taken, tally_cons taken]
      omega

/-- A run of inner steps is no longer than the potential at its beginning. -/
theorem Run.length_le {inner : Label → Prop} (run : Run step source labels target)
    (kept : ∀ state label next, invariant state → inner label → step state label = some next →
      invariant next)
    (spends : ∀ state label next, invariant state → inner label →
      step state label = some next → potential next < potential state)
    (valid : invariant source) (only : ∀ label ∈ labels, inner label) :
    potential target + labels.length ≤ potential source := by
  induction run with
  | nil => exact Nat.le_refl _
  | cons taken _ ih =>
      have inside := only _ List.mem_cons_self
      have spent := spends _ _ _ valid inside taken
      have rest := ih (kept _ _ _ valid inside taken) fun label member =>
        only label (List.mem_cons_of_mem _ member)
      rw [List.length_cons]
      omega

/-- Steps that count by their labels are counted along the list. -/
theorem Run.tally_eq_countP (run : Run step source labels target) (counted : Label → Prop)
    [DecidablePred counted] :
    tally step (fun _ label => if counted label then 1 else 0) source labels =
      labels.countP (counted ·) := by
  induction run with
  | nil => rfl
  | cons taken _ ih =>
      rw [tally_cons taken, List.countP_cons, ih, Nat.add_comm]
      simp only [decide_eq_true_eq]

/-- No inner step is enabled. -/
def Still (step : State → Label → Option State) (inner : Label → Prop) (state : State) : Prop :=
  ∀ label, inner label → step state label = none

/-- A system that is still only when it has settled can always settle. -/
theorem exists_settled {inner : Label → Prop} {settled : State → Prop}
    (kept : ∀ state label next, invariant state → inner label → step state label = some next →
      invariant next)
    (spends : ∀ state label next, invariant state → inner label →
      step state label = some next → potential next < potential state)
    (stops : ∀ state, invariant state → Still step inner state → settled state)
    (valid : invariant source) :
    ∃ labels target, Run step source labels target ∧ (∀ label ∈ labels, inner label) ∧
      settled target := by
  induction left : potential source using Nat.strongRecOn generalizing source with
  | ind amount ih =>
      by_cases still : Still step inner source
      · exact ⟨[], source, .nil source, nofun, stops source valid still⟩
      · obtain ⟨label, moves⟩ := not_forall.mp still
        obtain ⟨inside, enabled⟩ := Classical.not_imp.mp moves
        obtain ⟨next, taken⟩ := Option.ne_none_iff_exists'.mp enabled
        have spent := spends source label next valid inside taken
        obtain ⟨labels, target, run, only, reached⟩ :=
          ih (potential next) (left ▸ spent) (kept source label next valid inside taken) rfl
        exact ⟨label :: labels, target, .cons taken run, List.forall_mem_cons.mpr ⟨inside, only⟩,
          reached⟩

end Transition
