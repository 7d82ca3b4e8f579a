import Mathlib.Data.List.Basic

/-! # Concatenations that can be taken apart

Pieces written one after the other without lengths can still be told apart: at the
first occurrence of a marker that an earlier piece does not hold, and after a piece
that comes from a set of words none of which begins another one.
-/

namespace Concatenation

variable {α ι : Type*}

/-- No word begins another one. -/
def PrefixFree (word : ι → List α) : Prop :=
  ∀ first second, word first <+: word second → first = second

/-- A word of a prefix-free set can be read off the start of a text. -/
theorem PrefixFree.append_inj {word : ι → List α} (free : PrefixFree word) {first second : ι}
    {rest rest' : List α} :
    word first ++ rest = word second ++ rest' ↔ first = second ∧ rest = rest' := by
  constructor
  · intro same
    have left : word first <+: word second ++ rest' := ⟨rest, same⟩
    have right : word second <+: word second ++ rest' := List.prefix_append _ _
    have equal : first = second := by
      rcases List.prefix_or_prefix_of_prefix left right with below | above
      · exact free first second below
      · exact (free second first above).symm
    subst equal
    exact ⟨rfl, List.append_cancel_left same⟩
  · rintro ⟨rfl, rfl⟩
    rfl

/-- What stands before the first marker, and what after it. -/
theorem marked_inj {marker : α} {before before' after after' : List α}
    (unmarked : marker ∉ before) (unmarked' : marker ∉ before') :
    before ++ marker :: after = before' ++ marker :: after' ↔
      before = before' ∧ after = after' := by
  constructor
  · intro same
    induction before generalizing before' with
    | nil =>
        cases before' with
        | nil => exact ⟨rfl, (List.cons.inj same).2⟩
        | cons head tail =>
            have marks : marker = head := (List.cons.inj same).1
            exact (unmarked' (marks ▸ List.mem_cons_self)).elim
    | cons head tail ih =>
        cases before' with
        | nil =>
            have marks : head = marker := (List.cons.inj same).1
            exact (unmarked (marks ▸ List.mem_cons_self)).elim
        | cons head' tail' =>
            obtain ⟨rfl, rest⟩ := List.cons.inj same
            obtain ⟨rfl, rfl⟩ := ih (fun member => unmarked (List.mem_cons_of_mem _ member))
              (fun member => unmarked' (List.mem_cons_of_mem _ member)) rest
            exact ⟨rfl, rfl⟩
  · rintro ⟨rfl, rfl⟩
    rfl

end Concatenation
