import Mathlib.Data.List.Basic
import Mathlib.Data.List.Nodup

/-! # Lists of fields

A field list keeps one value under a name. Two names are the same field when they have the
same normal form, and a value added to a field that is there is combined with its value.
-/

namespace FieldList

variable {Name Normal Value : Type*} [DecidableEq Normal] (normal : Name → Normal)
  (combine : Value → Value → Value)

/-- Add a value, under its own name unless the field is there. -/
def add (fields : List (Name × Value)) (field : Name × Value) : List (Name × Value) :=
  if fields.any (fun entry => normal entry.1 = normal field.1) then
    fields.map fun entry =>
      if normal entry.1 = normal field.1 then (entry.1, combine entry.2 field.2) else entry
  else fields ++ [field]

/-- The fields are added one after the other. -/
def addAll (fields added : List (Name × Value)) : List (Name × Value) :=
  added.foldl (add normal combine) fields

/-- The value of a field. -/
def lookup (fields : List (Name × Value)) (name : Name) : Option Value :=
  (fields.find? fun entry => normal entry.1 = normal name).map Prod.snd

/-- The values given for a field, in order. -/
def given (fields : List (Name × Value)) (name : Name) : List Value :=
  (fields.filter fun entry => normal entry.1 = normal name).map Prod.snd

/-- What becomes of the value of a field when another one is added to it. -/
def combineOnto : Option Value → Value → Option Value
  | none, value => some value
  | some before, value => some (combine before value)

/-- No field has two names. -/
def Distinct (fields : List (Name × Value)) : Prop :=
  (fields.map fun entry => normal entry.1).Nodup

/-- Combined values are larger than each of them. -/
def Grows (size : Value → Nat) : Prop :=
  ∀ first second, size first < size (combine first second) ∧
    size second < size (combine first second)

instance (fields : List (Name × Value)) : Decidable (Distinct normal fields) :=
  inferInstanceAs (Decidable (List.Nodup _))

variable {normal combine} {fields added : List (Name × Value)} {field : Name × Value} {name : Name}

/-- A field that is added changes what is found under its own name only. -/
theorem lookup_add : lookup normal (add normal combine fields field) name =
    if normal field.1 = normal name then combineOnto combine (lookup normal fields name) field.2
    else lookup normal fields name := by
  unfold add
  by_cases present : fields.any (fun entry => normal entry.1 = normal field.1)
  · rw [if_pos present]
    have names : (fun entry : Name × Value => decide (normal entry.1 = normal name)) ∘
        (fun entry => if normal entry.1 = normal field.1 then (entry.1, combine entry.2 field.2)
          else entry) = fun entry => decide (normal entry.1 = normal name) := by
      funext entry
      dsimp only [Function.comp_apply]
      split <;> rfl
    unfold lookup
    rw [List.find?_map, names]
    cases found : fields.find? (fun entry => decide (normal entry.1 = normal name)) with
    | none =>
        have other : normal field.1 ≠ normal name := by
          intro same
          obtain ⟨entry, member, equal⟩ := List.any_eq_true.mp present
          have absent := List.find?_eq_none.mp found entry member
          exact absent (decide_eq_true ((of_decide_eq_true equal).trans same))
        rw [if_neg other]
        rfl
    | some entry =>
        have named : normal entry.1 = normal name := by simpa using List.find?_some found
        rw [Option.map_some, Option.map_some, Option.map_some, named]
        by_cases same : normal field.1 = normal name
        · rw [if_pos same, if_pos same.symm]
          rfl
        · rw [if_neg same, if_neg (Ne.symm same)]
  · rw [if_neg present]
    unfold lookup
    rw [List.find?_append]
    by_cases same : normal field.1 = normal name
    · have absent : fields.find? (fun entry => decide (normal entry.1 = normal name)) = none := by
        rw [List.find?_eq_none]
        intro entry member equal
        apply present
        refine List.any_eq_true.mpr ⟨entry, member, decide_eq_true ?_⟩
        exact (of_decide_eq_true equal).trans same.symm
      rw [if_pos same, absent, List.find?_singleton, decide_eq_true same]
      rfl
    · rw [if_neg same, List.find?_singleton, decide_eq_false same]
      simp only [Bool.false_eq_true, ↓reduceIte, Option.or_none]

/-- The value of a field combines those given for it in the order of their addition. -/
theorem lookup_addAll : lookup normal (addAll normal combine fields added) name =
    (given normal added name).foldl (combineOnto combine) (lookup normal fields name) := by
  unfold addAll
  induction added generalizing fields with
  | nil => rfl
  | cons field added ih =>
      rw [List.foldl_cons, ih, lookup_add]
      unfold given
      rw [List.filter_cons]
      by_cases same : normal field.1 = normal name
      · rw [if_pos same, if_pos (decide_eq_true same)]
        rfl
      · rw [if_neg same, if_neg (mt of_decide_eq_true same)]

/-- Fields that are all different are kept as they are. -/
theorem addAll_of_distinct (distinct : Distinct normal (fields ++ added)) :
    addAll normal combine fields added = fields ++ added := by
  unfold addAll
  induction added generalizing fields with
  | nil => exact (List.append_nil fields).symm
  | cons field added ih =>
      have fresh : ¬ fields.any (fun entry => normal entry.1 = normal field.1) := by
        intro present
        obtain ⟨entry, member, equal⟩ := List.any_eq_true.mp present
        unfold Distinct at distinct
        rw [List.map_append, List.nodup_append] at distinct
        exact distinct.2.2 _ (List.mem_map_of_mem member) _
          (List.mem_map_of_mem List.mem_cons_self) (of_decide_eq_true equal)
      have rest : Distinct normal ((fields ++ [field]) ++ added) := by
        rw [List.append_assoc]
        exact distinct
      rw [List.foldl_cons, add, if_neg fresh, ih rest, List.append_assoc]
      rfl

/-- Values combined onto one that is there. -/
theorem foldl_combineOnto_some (values : List Value) (value : Value) :
    values.foldl (combineOnto combine) (some value) = some (values.foldl combine value) := by
  induction values generalizing value with
  | nil => rfl
  | cons next values ih => exact ih (combine value next)

variable {size : Value → Nat}

/-- When combining makes values larger, a value combined with others is not one of them. -/
theorem size_lt_foldl (grows : Grows combine size) {values : List Value} {first value : Value}
    (several : values ≠ []) (member : value ∈ first :: values) :
    size value < size (values.foldl combine first) := by
  induction values generalizing first value with
  | nil => exact (several rfl).elim
  | cons next values ih =>
      rw [List.foldl_cons]
      have combined : size value < size (combine first next) ∨ value ∈ values := by
        rcases List.mem_cons.mp member with rfl | later
        · exact Or.inl (grows _ _).1
        · rcases List.mem_cons.mp later with rfl | later
          · exact Or.inl (grows _ _).2
          · exact Or.inr later
      by_cases last : values = []
      · subst last
        rcases combined with smaller | later
        · exact smaller
        · cases later
      · rcases combined with smaller | later
        · exact Nat.lt_trans smaller (ih last List.mem_cons_self)
        · exact ih last (List.mem_cons_of_mem _ later)

theorem mem_given (member : field ∈ added) : field.2 ∈ given normal added field.1 :=
  List.mem_map_of_mem (List.mem_filter.mpr ⟨member, decide_eq_true rfl⟩)

/-- As many values are given for a name as there are fields of its normal form. -/
theorem length_given : (given normal added name).length =
    (added.map fun entry => normal entry.1).count (normal name) := by
  unfold given List.count
  rw [List.length_map, List.countP_map, List.countP_eq_length_filter]
  rfl

/-- The fields are distinct when each of them is given once. -/
theorem distinct_of_given (once : ∀ field ∈ added, given normal added field.1 = [field.2]) :
    Distinct normal added := by
  refine List.nodup_iff_count_le_one.mpr fun form => ?_
  by_cases present : form ∈ added.map fun entry => normal entry.1
  · obtain ⟨field, member, rfl⟩ := List.mem_map.mp present
    rw [← length_given, once field member]
    exact Nat.le_refl 1
  · rw [List.count_eq_zero_of_not_mem present]
    exact Nat.zero_le 1

/-- With distinct fields, one value is given for each. -/
theorem given_of_distinct (distinct : Distinct normal added) (member : field ∈ added) :
    given normal added field.1 = [field.2] := by
  have once := List.nodup_iff_count_le_one.mp distinct (normal field.1)
  have value : field.2 ∈ given normal added field.1 := mem_given member
  rw [← length_given] at once
  obtain ⟨other, values⟩ : ∃ other, given normal added field.1 = [other] :=
    List.length_eq_one_iff.mp (Nat.le_antisymm once (List.length_pos_of_mem value))
  rw [values] at value
  rw [values, List.mem_singleton.mp value]

/-- Where combining grows, a value that is found as it was given is the only one. -/
theorem given_of_lookup (grows : Grows combine size) (member : field ∈ added)
    (kept : lookup normal (addAll normal combine [] added) field.1 = some field.2) :
    given normal added field.1 = [field.2] := by
  have value : field.2 ∈ given normal added field.1 := mem_given member
  rw [lookup_addAll] at kept
  match values : given normal added field.1 with
  | [] =>
      rw [values] at value
      cases value
  | first :: rest =>
      rw [values] at kept value
      have combined := (foldl_combineOnto_some rest first).symm.trans kept
      by_cases several : rest = []
      · subst several
        rw [List.mem_singleton.mp value]
      · have larger := size_lt_foldl grows several value
        rw [Option.some.inj combined] at larger
        exact (Nat.lt_irrefl _ larger).elim

/-- When combining makes values larger, every field has the value given under its name exactly
when no field is given under two names. -/
theorem lookup_addAll_iff (grows : Grows combine size) :
    (∀ field ∈ added, lookup normal (addAll normal combine [] added) field.1 = some field.2) ↔
      Distinct normal added := by
  constructor
  · intro kept
    exact distinct_of_given fun field member => given_of_lookup grows member (kept field member)
  · intro distinct field member
    rw [lookup_addAll, given_of_distinct distinct member]
    rfl

omit [DecidableEq Normal] in
theorem name_inj (distinct : Distinct normal fields) {first second : Name × Value}
    (left : first ∈ fields) (right : second ∈ fields)
    (same : normal first.1 = normal second.1) : first = second :=
  List.inj_on_of_nodup_map distinct left right same

variable (normal combine) in
/-- A field is added to one that is there or under a new name at the end. -/
theorem names_add (fields : List (Name × Value)) (field : Name × Value) :
    (add normal combine fields field).map Prod.fst = fields.map Prod.fst ∨
      ((∀ entry ∈ fields, normal entry.1 ≠ normal field.1) ∧
        (add normal combine fields field).map Prod.fst = fields.map Prod.fst ++ [field.1]) := by
  unfold add
  split
  · left
    rw [List.map_map]
    apply List.map_congr_left
    intro entry _
    dsimp only [Function.comp_apply]
    split <;> rfl
  next absent =>
    right
    refine ⟨fun entry member same => absent ?_, List.map_append⟩
    exact List.any_eq_true.mpr ⟨entry, member, decide_eq_true same⟩

omit [DecidableEq Normal] in
theorem distinct_iff_names : Distinct normal fields ↔ ((fields.map Prod.fst).map normal).Nodup := by
  unfold Distinct
  rw [List.map_map]
  rfl

theorem distinct_add (distinct : Distinct normal fields) :
    Distinct normal (add normal combine fields field) := by
  rw [distinct_iff_names] at distinct ⊢
  rcases names_add normal combine fields field with kept | ⟨fresh, added⟩
  · rw [kept]
    exact distinct
  · rw [added, List.map_append, List.nodup_append]
    refine ⟨distinct, List.nodup_singleton _, ?_⟩
    intro form member other last
    cases List.mem_singleton.mp last
    rw [List.map_map] at member
    obtain ⟨entry, present, rfl⟩ := List.mem_map.mp member
    exact fresh entry present

theorem distinct_addAll (distinct : Distinct normal fields) :
    Distinct normal (addAll normal combine fields added) := by
  unfold addAll
  induction added generalizing fields with
  | nil => exact distinct
  | cons field added ih => exact ih (distinct_add distinct)

/-- A name that is there stays there. -/
theorem name_mem_addAll (present : name ∈ fields.map Prod.fst) :
    name ∈ (addAll normal combine fields added).map Prod.fst := by
  unfold addAll
  induction added generalizing fields with
  | nil => exact present
  | cons field added ih =>
      apply ih
      rcases names_add normal combine fields field with kept | ⟨_, extended⟩
      · rw [kept]
        exact present
      · rw [extended]
        exact List.mem_append_left _ present

/-- Fields with different names can be added in any order exactly when no field is given under
two of them: the field has the name that is added first. -/
theorem addAll_perm_iff (names : (added.map Prod.fst).Nodup) :
    (∀ reordered, added.Perm reordered →
      (addAll normal combine [] added).Perm (addAll normal combine [] reordered)) ↔
      Distinct normal added := by
  constructor
  · intro same
    refine List.Nodup.map_on ?_ names.of_map
    intro first left second right equal
    -- both names would be in the list of fields
    have leads : ∀ field ∈ added,
        field.1 ∈ (addAll normal combine [] added).map Prod.fst := by
      intro field member
      obtain ⟨before, after, rfl⟩ := List.append_of_mem member
      have moved := (same _ List.perm_middle).map Prod.fst
      apply moved.mem_iff.mpr
      change field.1 ∈ (addAll normal combine [field] (before ++ after)).map Prod.fst
      exact name_mem_addAll List.mem_cons_self
    obtain ⟨one, present, named⟩ := List.mem_map.mp (leads first left)
    obtain ⟨other, present', named'⟩ := List.mem_map.mp (leads second right)
    have equal' : one = other := by
      apply name_inj (distinct_addAll ?_) present present'
      · rw [named, named', equal]
      · exact List.nodup_nil
    apply List.inj_on_of_nodup_map names left right
    rw [← named, ← named', equal']
  · intro distinct reordered moved
    have distinct' : Distinct normal reordered := (moved.map _).nodup_iff.mp distinct
    have kept : addAll normal combine [] added = added := addAll_of_distinct distinct
    have kept' : addAll normal combine [] reordered = reordered := addAll_of_distinct distinct'
    rw [kept, kept']
    exact moved

end FieldList
