import Mathlib.Data.ENat.Lattice
import Mathlib.Data.List.Basic
import Mathlib.Order.Bounds.Basic

/-! # Retrying on a tape of outcomes

The outcomes of the attempts are read off a tape. An attempt is repeated while
its outcome asks for it and retries are left.
-/

namespace Retry

variable {Outcome : Type*} (again : Outcome → Bool) (tape : Nat → Outcome)

/-- The outcomes of the attempts made, in order, from a position of the tape and
with the given number of retries left. -/
def attempts : Nat → Nat → List Outcome
  | 0, start => [tape start]
  | retries + 1, start =>
      tape start :: if again (tape start) then attempts retries (start + 1) else []

/-- The outcome of the last attempt made. -/
def last : Nat → Nat → Outcome
  | 0, start => tape start
  | retries + 1, start => if again (tape start) then last retries (start + 1) else tape start

/-- The number of attempts before the last one. -/
def stop : Nat → Nat → Nat
  | 0, _ => 0
  | retries + 1, start => if again (tape start) then stop retries (start + 1) + 1 else 0

/-- The last attempt is the first whose outcome does not ask for another one, or the
one that uses up the retries. -/
theorem isLeast_stop (retries start : Nat) :
    IsLeast {index | again (tape (start + index)) = false ∨ index = retries}
      (stop again tape retries start) := by
  induction retries generalizing start with
  | zero => exact ⟨Or.inr rfl, fun index _ => Nat.zero_le index⟩
  | succ retries ih =>
      cases repeats : again (tape start) with
      | false =>
          have stops : stop again tape (retries + 1) start = 0 := by
            simp only [stop, repeats, Bool.false_eq_true, ↓reduceIte]
          rw [stops]
          exact ⟨Or.inl repeats, fun index _ => Nat.zero_le index⟩
      | true =>
          have continues :
              stop again tape (retries + 1) start = stop again tape retries (start + 1) + 1 := by
            simp only [stop, repeats, ↓reduceIte]
          obtain ⟨ends, least⟩ := ih (start + 1)
          rw [continues]
          constructor
          · rcases ends with accepted | exhausted
            · left
              rw [Nat.add_right_comm] at accepted
              exact accepted
            · exact Or.inr (congrArg (· + 1) exhausted)
          · intro index ends
            cases index with
            | zero =>
                rcases ends with accepted | exhausted
                · exact (Bool.false_ne_true (accepted.symm.trans repeats)).elim
                · cases exhausted
            | succ index =>
                refine Nat.succ_le_succ (least (ends.imp (fun accepted => ?_) Nat.succ.inj))
                rw [Nat.add_right_comm]
                exact accepted

/-- The index of the first outcome that does not ask for another attempt, infinite when
every outcome does. -/
noncomputable def firstAccepted : ℕ∞ := ⨅ index ∈ {index | again (tape index) = false}, (index : ℕ∞)

/-- The attempts stop at the first accepted outcome or when no retry is left. -/
theorem stop_eq_min (retries : Nat) :
    (stop again tape retries 0 : ℕ∞) = min (firstAccepted again tape) retries := by
  obtain ⟨ends, least⟩ := isLeast_stop again tape retries 0
  simp only [Nat.zero_add] at ends least
  refine le_antisymm (le_min (le_iInf₂ fun index accepted => ?_) ?_) ?_
  · exact Nat.cast_le.mpr (least (Or.inl accepted))
  · exact Nat.cast_le.mpr (least (Or.inr rfl))
  · rcases ends with accepted | exhausted
    · have first : firstAccepted again tape ≤ stop again tape retries 0 :=
        iInf₂_le (stop again tape retries 0) accepted
      exact (min_le_left _ _).trans first
    · exact (min_le_right _ _).trans (Nat.cast_le.mpr exhausted.ge)

/-- The last outcome is one of the tape. -/
theorem exists_last (retries start : Nat) :
    ∃ index, last again tape retries start = tape index := by
  induction retries generalizing start with
  | zero => exact ⟨start, rfl⟩
  | succ retries ih =>
      unfold last
      split
      · exact ih (start + 1)
      · exact ⟨start, rfl⟩

/-- Outcomes that all ask for another attempt, followed by one that does not or
that uses up the retries, are the attempts made on a tape that begins with them. -/
theorem attempts_of_history {past : List Outcome} {final : Outcome} {retries start : Nat}
    (reads : ∀ index, index ≤ past.length →
      tape (start + index) = (past ++ [final]).getD index final)
    (rejected : ∀ outcome ∈ past, again outcome = true) (within : past.length ≤ retries)
    (stops : again final = true → past.length = retries) :
    attempts again tape retries start = past ++ [final] ∧
      last again tape retries start = final := by
  induction past generalizing retries start with
  | nil =>
      have first : tape start = final := reads 0 (Nat.le_refl 0)
      cases retries with
      | zero =>
          unfold attempts last
          rw [first]
          exact ⟨rfl, rfl⟩
      | succ retries =>
          have accepted : again final = false := by
            by_contra repeats
            exact Nat.succ_ne_zero retries (stops (Bool.not_eq_false _ ▸ repeats)).symm
          unfold attempts last
          rw [first, accepted]
          exact ⟨rfl, rfl⟩
  | cons outcome past ih =>
      have first : tape start = outcome := reads 0 (Nat.zero_le _)
      cases retries with
      | zero => exact (Nat.not_succ_le_zero _ within).elim
      | succ retries =>
          have later (index : Nat) (inside : index ≤ past.length) :
              tape (start + 1 + index) = (past ++ [final]).getD index final := by
            have read := reads (index + 1) (Nat.succ_le_succ inside)
            rw [← Nat.add_assoc, Nat.add_right_comm] at read
            exact read
          obtain ⟨made, ended⟩ := ih later
            (fun other member => rejected other (List.mem_cons_of_mem _ member))
            (Nat.le_of_succ_le_succ within) (fun repeats => Nat.succ.inj (stops repeats))
          unfold attempts last
          rw [first, rejected outcome List.mem_cons_self, if_pos rfl, if_pos rfl, made, ended]
          exact ⟨rfl, rfl⟩

end Retry
