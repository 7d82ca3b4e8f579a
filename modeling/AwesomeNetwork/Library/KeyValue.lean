import Mathlib.Logic.Function.Basic

/-! # Histories of a key-value store

A store maps keys to values. A command writes one key, empties the store or does
nothing; a history of commands is read back key by key.
-/

namespace KeyValue

variable {Key Value : Type*} [DecidableEq Key]

/-- What can be done to a store. -/
inductive Command (Key Value : Type*) where
  | put (key : Key) (value : Value)
  | clear
  | skip

/-- The store after one command. -/
def apply (store : Key → Option Value) : Command Key Value → Key → Option Value
  | .put key value => Function.update store key (some value)
  | .clear => fun _ => none
  | .skip => store

/-- The store after a history of commands. -/
def applyAll (store : Key → Option Value) (commands : List (Command Key Value)) :
    Key → Option Value :=
  commands.foldl apply store

@[simp] theorem applyAll_cons (store : Key → Option Value) (command : Command Key Value)
    (commands : List (Command Key Value)) :
    applyAll store (command :: commands) = applyAll (apply store command) commands := rfl

/-- A key that is absent and that no command writes stays absent. -/
theorem applyAll_absent {store : Key → Option Value} {key : Key}
    {commands : List (Command Key Value)} (absent : store key = none)
    (unwritten : ∀ value, .put key value ∉ commands) : applyAll store commands key = none := by
  induction commands generalizing store with
  | nil => exact absent
  | cons command commands ih =>
      rw [applyAll_cons]
      apply ih
      · cases command with
        | put other value =>
            have different : key ≠ other := by
              rintro rfl
              exact unwritten value List.mem_cons_self
            rw [apply, Function.update_of_ne different]
            exact absent
        | clear => rfl
        | skip => exact absent
      · intro value member
        exact unwritten value (List.mem_cons_of_mem _ member)

/-- The command writes or empties the key. -/
def Command.Touches (key : Key) : Command Key Value → Prop
  | .put other _ => other = key
  | .clear => True
  | .skip => False

/-- The history puts the value under the key and does not touch the key afterwards. -/
def LastPut (key : Key) (value : Value) (commands : List (Command Key Value)) : Prop :=
  ∃ before after, commands = before ++ .put key value :: after ∧
    ∀ later ∈ after, ¬ later.Touches key

omit [DecidableEq Key] in
/-- The last write is in the rest of the history, or is the first command when nothing later
touches the key. -/
theorem lastPut_cons {key : Key} {value : Value} {command : Command Key Value}
    {commands : List (Command Key Value)} :
    LastPut key value (command :: commands) ↔
      LastPut key value commands ∨
        (command = .put key value ∧ ∀ later ∈ commands, ¬ later.Touches key) := by
  constructor
  · rintro ⟨before, after, split, untouched⟩
    cases before with
    | nil =>
        cases split
        exact Or.inr ⟨rfl, untouched⟩
    | cons first before =>
        cases split
        exact Or.inl ⟨before, after, rfl, untouched⟩
  · rintro (⟨before, after, rfl, untouched⟩ | ⟨rfl, untouched⟩)
    · exact ⟨command :: before, after, rfl, untouched⟩
    · exact ⟨[], commands, rfl, untouched⟩

/-- A command leaves the keys that it does not touch. -/
theorem apply_of_not_touches {store : Key → Option Value} {key : Key}
    {command : Command Key Value} (untouched : ¬ command.Touches key) :
    apply store command key = store key := by
  cases command with
  | put other value => exact Function.update_of_ne (Ne.symm untouched) _ _
  | clear => exact (untouched trivial).elim
  | skip => rfl

/-- A key that was touched holds a value only when it was just put there. -/
theorem apply_eq_some_of_touches {store : Key → Option Value} {key : Key} {value : Value}
    {command : Command Key Value} (touched : command.Touches key) :
    apply store command key = some value ↔ command = .put key value := by
  cases command with
  | put other written =>
      cases touched
      simp only [apply, Function.update_self, Option.some.injEq, Command.put.injEq, true_and]
  | clear => exact iff_of_false nofun nofun
  | skip => exact touched.elim

/-- A history leaves under a key the value last put there, or the one that was there
before if no command touched the key. -/
theorem applyAll_eq_some_iff {store : Key → Option Value} {key : Key} {value : Value}
    {commands : List (Command Key Value)} :
    applyAll store commands key = some value ↔
      LastPut key value commands ∨
        ((∀ later ∈ commands, ¬ later.Touches key) ∧ store key = some value) := by
  induction commands generalizing store with
  | nil =>
      refine ⟨fun present => Or.inr ⟨nofun, present⟩, ?_⟩
      rintro (⟨before, after, split, _⟩ | ⟨_, present⟩)
      · cases List.append_ne_nil_of_right_ne_nil before (List.cons_ne_nil _ after) split.symm
      · exact present
  | cons command commands ih =>
      rw [applyAll_cons, ih, lastPut_cons, List.forall_mem_cons, or_assoc]
      refine or_congr_right ?_
      by_cases touched : command.Touches key
      · rw [apply_eq_some_of_touches touched]
        simp only [touched, not_true_eq_false, false_and, or_false, and_comm]
      · rw [apply_of_not_touches touched]
        have other : command ≠ .put key value := by
          rintro rfl
          exact touched rfl
        simp only [touched, other, not_false_eq_true, true_and, false_and, false_or]

end KeyValue
