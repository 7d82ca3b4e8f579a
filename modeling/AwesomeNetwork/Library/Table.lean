import Mathlib.Algebra.GroupWithZero.Nat
import Mathlib.Algebra.Order.BigOperators.Group.List
import Mathlib.Algebra.Order.Group.Nat
import Mathlib.Data.List.Basic

/-! # Tables of records named by their creation order

A record is never removed: `push` names the new record by the number of records
before it, and `modify` changes the record under one name.
-/

/-- Records named by the order of their creation. -/
structure Table (α : Type*) where
  records : List α
deriving DecidableEq, Repr

namespace Table

variable {α : Type*}

/-- The table without records. -/
def empty : Table α := ⟨[]⟩

/-- The number of records, which is the next free name. -/
def size (table : Table α) : Nat := table.records.length

/-- The record under a name, if the name has been given. -/
def get? (table : Table α) (name : Nat) : Option α := table.records[name]?

/-- Add a record under the next name, which is `table.size`. -/
def push (table : Table α) (record : α) : Table α := ⟨table.records ++ [record]⟩

/-- Change the record under a name; nothing happens when there is none. -/
def modify (table : Table α) (name : Nat) (change : α → α) : Table α :=
  ⟨table.records.modify name change⟩

/-- The result for the record under a name, provided that the record is enabled. -/
def when {β : Type*} (table : Table α) (name : Nat) (enabled : α → Prop) [DecidablePred enabled]
    (result : α → β) : Option β :=
  match table.get? name with
  | some record => if enabled record then some (result record) else none
  | none => none

/-- The records after a change that may look at their names. -/
def mapNamed {β : Type*} (table : Table α) (change : Nat → α → β) : Table β :=
  ⟨table.records.mapIdx change⟩

/-- Every record satisfies the predicate, which may look at its name. -/
def All (table : Table α) (predicate : Nat → α → Prop) : Prop :=
  ∀ name record, table.get? name = some record → predicate name record

/-- A table is what is found under its names. -/
theorem ext_get? {first second : Table α} (same : ∀ name, first.get? name = second.get? name) :
    first = second :=
  congrArg mk (List.ext_getElem? same)

theorem get?_mapNamed {β : Type*} (table : Table α) (change : Nat → α → β) (name : Nat) :
    (table.mapNamed change).get? name = (table.get? name).map (change name) :=
  List.getElem?_mapIdx

@[simp] theorem get?_empty (name : Nat) : (empty : Table α).get? name = none := rfl

theorem All.empty {predicate : Nat → α → Prop} : (empty : Table α).All predicate :=
  fun _ _ present => nomatch present

@[simp] theorem size_modify (table : Table α) (name : Nat) (change : α → α) :
    (table.modify name change).size = table.size :=
  List.length_modify ..

theorem size_push (table : Table α) (record : α) : (table.push record).size = table.size + 1 :=
  List.length_append

/-- The new record is under the next free name; the others are where they were. -/
theorem get?_push (table : Table α) (record : α) (name : Nat) :
    (table.push record).get? name = if name = table.size then some record else table.get? name := by
  unfold get? push size
  split
  · next same => rw [same, List.getElem?_concat_length]
  · next different =>
      rcases Nat.lt_or_ge name table.records.length with inside | outside
      · rw [List.getElem?_append_left inside]
      · rw [List.getElem?_append_right outside, List.getElem?_eq_none outside]
        have beyond : 1 ≤ name - table.records.length := by omega
        exact List.getElem?_eq_none beyond

/-- Only the record under the name is changed. -/
theorem get?_modify (table : Table α) (name other : Nat) (change : α → α) :
    (table.modify name change).get? other =
      if other = name then (table.get? other).map change else table.get? other := by
  unfold get? modify
  rw [List.getElem?_modify]
  by_cases same : other = name
  · simp only [same, ↓reduceIte, Option.map_eq_map]
  · simp only [same, Ne.symm same, ↓reduceIte, Option.map_eq_map, Option.map_id']

@[simp] theorem get?_push_self (table : Table α) (record : α) :
    (table.push record).get? table.size = some record := by
  simp only [get?_push, ↓reduceIte]

@[simp] theorem get?_modify_self (table : Table α) (name : Nat) (change : α → α) :
    (table.modify name change).get? name = (table.get? name).map change := by
  simp only [get?_modify, ↓reduceIte]

theorem get?_modify_of_ne (table : Table α) {name other : Nat} (change : α → α)
    (different : other ≠ name) : (table.modify name change).get? other = table.get? other := by
  simp only [get?_modify, different, ↓reduceIte]

/-- A name that has a record has been given out. -/
theorem lt_size_of_get? {table : Table α} {name : Nat} {record : α}
    (present : table.get? name = some record) : name < table.size :=
  (List.getElem?_eq_some_iff.mp present).1

theorem get?_size (table : Table α) : table.get? table.size = none :=
  List.getElem?_eq_none (Nat.le_refl _)

instance {table : Table α} {predicate : Nat → α → Prop}
    [∀ name record, Decidable (predicate name record)] : Decidable (table.All predicate) :=
  decidable_of_iff
    (∀ name, name < table.size → ∀ record ∈ table.get? name, predicate name record)
    ⟨fun all name record present => all name (lt_size_of_get? present) record present,
      fun all name _ record present => all name record present⟩

theorem size_le_of_get?_none {table : Table α} {name : Nat} (absent : table.get? name = none) :
    table.size ≤ name :=
  List.getElem?_eq_none_iff.mp absent

theorem get?_push_of_get? {table : Table α} {name : Nat} {record : α} (added : α)
    (present : table.get? name = some record) : (table.push added).get? name = some record := by
  have different : name ≠ table.size := Nat.ne_of_lt (lt_size_of_get? present)
  rw [get?_push]
  simp only [different, ↓reduceIte, present]

theorem get?_push_cases {table : Table α} {name : Nat} {record added : α}
    (present : (table.push added).get? name = some record) :
    table.get? name = some record ∨ (name = table.size ∧ record = added) := by
  rw [get?_push] at present
  split at present
  · next same => exact .inr ⟨same, (Option.some.inj present).symm⟩
  · exact .inl present

/-- A guarded result is there exactly when the record is and passes the guard. -/
theorem when_eq_some {β : Type*} {table : Table α} {name : Nat} {enabled : α → Prop}
    [DecidablePred enabled] {result : α → β} {value : β} :
    table.when name enabled result = some value ↔
      ∃ record, table.get? name = some record ∧ enabled record ∧ value = result record := by
  unfold when
  constructor
  · intro computed
    split at computed
    · next record present =>
        split at computed
        · next holds => exact ⟨record, present, holds, (Option.some.inj computed).symm⟩
        · cases computed
    · cases computed
  · rintro ⟨record, present, holds, rfl⟩
    simp only [present, holds, ↓reduceIte]

theorem when_ne_none {β : Type*} {table : Table α} {name : Nat} {record : α} {enabled : α → Prop}
    [DecidablePred enabled] {result : α → β} (present : table.get? name = some record)
    (holds : enabled record) : table.when name enabled result ≠ none := by
  rw [when_eq_some.mpr ⟨record, present, holds, rfl⟩]
  exact nofun

/-- The number of records that satisfy a test. -/
def count (table : Table α) (test : α → Bool) : Nat := table.records.countP test

theorem count_push (table : Table α) (record : α) (test : α → Bool) :
    (table.push record).count test = table.count test + if test record then 1 else 0 := by
  unfold count push
  rw [List.countP_append, List.countP_singleton]

/-- Changing a record moves the count by what the test says of it before and after. -/
theorem count_modify {table : Table α} {name : Nat} {record : α} (test : α → Bool)
    (change : α → α) (present : table.get? name = some record) :
    (table.modify name change).count test + (if test record then 1 else 0) =
      table.count test + if test (change record) then 1 else 0 := by
  unfold get? at present
  unfold count modify
  dsimp only
  generalize table.records = records at present
  induction records generalizing name with
  | nil => cases present
  | cons first records ih =>
      cases name with
      | zero =>
          cases present
          rw [List.modify_zero_cons, List.countP_cons, List.countP_cons]
          omega
      | succ name =>
          have rest := ih present
          rw [List.modify_succ_cons, List.countP_cons, List.countP_cons]
          omega

/-- A positive count has a record behind it. -/
theorem exists_of_count_pos {table : Table α} {test : α → Bool} (positive : 0 < table.count test) :
    ∃ name record, table.get? name = some record ∧ test record = true := by
  obtain ⟨record, member, holds⟩ := List.countP_pos_iff.mp positive
  obtain ⟨name, present⟩ := List.mem_iff_getElem?.mp member
  exact ⟨name, record, present, holds⟩

/-- What the records weigh together. -/
def total (table : Table α) (weight : α → Nat) : Nat := (table.records.map weight).sum

theorem total_push (table : Table α) (record : α) (weight : α → Nat) :
    (table.push record).total weight = table.total weight + weight record := by
  unfold total push
  rw [List.map_append, List.sum_append, List.map_singleton, List.sum_singleton]

/-- Changing a record replaces its weight. -/
theorem total_modify {table : Table α} {name : Nat} {record : α} (weight : α → Nat)
    (change : α → α) (present : table.get? name = some record) :
    (table.modify name change).total weight + weight record =
      table.total weight + weight (change record) := by
  unfold get? at present
  unfold total modify
  dsimp only
  generalize table.records = records at present
  induction records generalizing name with
  | nil => cases present
  | cons first records ih =>
      cases name with
      | zero =>
          cases present
          rw [List.modify_zero_cons, List.map_cons, List.map_cons, List.sum_cons, List.sum_cons]
          omega
      | succ name =>
          have rest := ih present
          rw [List.modify_succ_cons, List.map_cons, List.map_cons, List.sum_cons, List.sum_cons]
          omega

theorem total_le_total {table : Table α} {light heavy : α → Nat}
    (lighter : table.All fun _ record => light record ≤ heavy record) :
    table.total light ≤ table.total heavy := by
  refine List.sum_le_sum fun record member => ?_
  obtain ⟨name, present⟩ := List.mem_iff_getElem?.mp member
  exact lighter name record present

/-- Records without weight weigh nothing together. -/
theorem total_eq_zero {table : Table α} {weight : α → Nat}
    (weightless : table.All fun _ record => weight record = 0) : table.total weight = 0 := by
  refine List.sum_eq_zero fun value member => ?_
  obtain ⟨record, inside, rfl⟩ := List.mem_map.mp member
  obtain ⟨name, present⟩ := List.mem_iff_getElem?.mp inside
  exact weightless name record present

/-- Records that get no heavier weigh no more together. -/
theorem total_map_le (table : Table α) {weight : α → Nat} {change : α → α}
    (lighter : ∀ record, weight (change record) ≤ weight record) :
    (Table.mk (table.records.map change)).total weight ≤ table.total weight := by
  unfold total
  dsimp only
  rw [List.map_map]
  exact List.sum_le_sum fun record _ => lighter record

/-- A record that gets no heavier makes the records weigh no more together. -/
theorem total_modify_le (table : Table α) (name : Nat) {weight : α → Nat} {change : α → α}
    (lighter : ∀ record, weight (change record) ≤ weight record) :
    (table.modify name change).total weight ≤ table.total weight := by
  cases present : table.get? name with
  | none =>
      have same : table.records.modify name change = table.records :=
        List.modify_eq_self (List.getElem?_eq_none_iff.mp present)
      unfold total modify
      rw [same]
  | some record =>
      have weighs := total_modify weight change present
      have lighter := lighter record
      omega

/-- A change that keeps the weight of every record keeps what they weigh together. -/
theorem total_modify_of_eq (table : Table α) (name : Nat) {weight : α → Nat} {change : α → α}
    (kept : ∀ record, weight (change record) = weight record) :
    (table.modify name change).total weight = table.total weight := by
  unfold total modify
  dsimp only
  induction table.records generalizing name with
  | nil => cases name <;> rfl
  | cons first records ih =>
      cases name with
      | zero => rw [List.modify_zero_cons, List.map_cons, List.map_cons, kept]
      | succ name =>
          rw [List.modify_succ_cons, List.map_cons, List.map_cons, List.sum_cons, List.sum_cons, ih]

theorem All.push {table : Table α} {predicate : Nat → α → Prop} {record : α}
    (all : table.All predicate) (added : predicate table.size record) :
    (table.push record).All predicate := by
  intro name other present
  rcases get?_push_cases present with old | ⟨rfl, rfl⟩
  · exact all name other old
  · exact added

theorem All.modify {table : Table α} {predicate : Nat → α → Prop} {name : Nat}
    {change : α → α} (all : table.All predicate)
    (changed : ∀ record, table.get? name = some record → predicate name (change record)) :
    (table.modify name change).All predicate := by
  intro other record present
  rw [get?_modify] at present
  split at present
  · next same =>
      subst same
      obtain ⟨before, found, rfl⟩ := Option.map_eq_some_iff.mp present
      exact changed before found
  · exact all other record present

end Table
