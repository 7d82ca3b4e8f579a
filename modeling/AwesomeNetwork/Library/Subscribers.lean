import AwesomeNetwork.Library.Table

/-! # Registrations that can be withdrawn

A registration is for a topic and may have an owner. A message reaches the registrations of
its topic that are there when it is posted. An owner withdraws all its registrations at once;
nothing withdraws a registration without an owner.
-/

namespace Subscribers

variable {Owner Topic Message Value : Type*}

/-- A registration with its owner, if it has one. -/
structure Registration (Owner Topic : Type*) where
  owner : Option Owner
  topic : Topic
  withdrawn : Bool

/-- The registrations, and the messages posted with the registrations that each has reached. -/
structure Center (Owner Topic Message : Type*) where
  registrations : Table (Registration Owner Topic)
  log : List (Message × List Nat)

/-- What can happen at a center. -/
inductive Operation (Owner Topic Message : Type*) where
  | add (owner : Option Owner) (topic : Topic)
  | remove (owner : Owner)
  | post (message : Message)

/-- The message that an operation posts. -/
def Operation.posted? : Operation Owner Topic Message → Option Message
  | .post message => some message
  | _ => none

/-- The messages posted, in order. -/
def posts (operations : List (Operation Owner Topic Message)) : List Message :=
  operations.filterMap Operation.posted?

/-- The operation withdraws the registrations of the owner. -/
def Operation.Removes (owner : Option Owner) : Operation Owner Topic Message → Prop
  | .remove remover => owner = some remover
  | _ => False

/-- A callback belongs to a registration and makes a value of a message. -/
abbrev Callbacks (Message Value : Type*) := List (Nat × (Message → Value))

/-- What the callbacks were told, in the order of the posts. -/
def told (center : Center Owner Topic Message) (callbacks : Callbacks Message Value) :
    List Value :=
  center.log.flatMap fun entry =>
    callbacks.filterMap fun callback =>
      if callback.1 ∈ entry.2 then some (callback.2 entry.1) else none

section Operations

variable [DecidableEq Owner] [DecidableEq Topic] (topicOf : Message → Topic)

/-- An owner withdraws a registration that is its own. -/
def Registration.withdraw (owner : Owner) (registration : Registration Owner Topic) :
    Registration Owner Topic :=
  if registration.owner = some owner then { registration with withdrawn := true }
  else registration

/-- The registrations that a message reaches. -/
def reached (center : Center Owner Topic Message) (message : Message) : List Nat :=
  (List.range center.registrations.size).filter fun name =>
    (center.registrations.get? name).any fun registration =>
      !registration.withdrawn && registration.topic = topicOf message

/-- What one operation does to a center. -/
def perform (center : Center Owner Topic Message) :
    Operation Owner Topic Message → Center Owner Topic Message
  | .add owner topic =>
      { center with registrations := center.registrations.push ⟨owner, topic, false⟩ }
  | .remove owner =>
      { center with
        registrations := ⟨center.registrations.records.map (Registration.withdraw owner)⟩ }
  | .post message =>
      { center with log := center.log ++ [(message, reached topicOf center message)] }

/-- Operations, one after the other. -/
def performAll (center : Center Owner Topic Message)
    (operations : List (Operation Owner Topic Message)) : Center Owner Topic Message :=
  operations.foldl (perform topicOf) center

variable {topicOf} {center : Center Owner Topic Message}
  {operation : Operation Owner Topic Message} {operations : List (Operation Owner Topic Message)}
  {registration : Registration Owner Topic} {callbacks : Callbacks Message Value} {name : Nat}

omit [DecidableEq Owner] in
/-- A message reaches the registrations of its topic that are not withdrawn. -/
theorem mem_reached {message : Message} :
    name ∈ reached topicOf center message ↔ ∃ registration,
      center.registrations.get? name = some registration ∧ registration.withdrawn = false ∧
        registration.topic = topicOf message := by
  unfold reached
  rw [List.mem_filter, List.mem_range, Option.any_eq_true]
  simp only [Bool.and_eq_true, Bool.not_eq_true', decide_eq_true_eq]
  exact and_iff_right_of_imp fun ⟨_, present, _⟩ => Table.lt_size_of_get? present

omit [DecidableEq Owner] in
/-- The message reaches a registration that stands exactly when it is of its topic. -/
theorem mem_reached_iff {message : Message} {owner : Option Owner} {topic : Topic}
    (standing : center.registrations.get? name = some ⟨owner, topic, false⟩) :
    name ∈ reached topicOf center message ↔ topic = topicOf message := by
  simp only [mem_reached, standing, Option.some.injEq, exists_eq_left', true_and]

/-- The log names only registrations that are there. -/
def WellNamed (center : Center Owner Topic Message) : Prop :=
  ∀ entry ∈ center.log, ∀ name ∈ entry.2, name < center.registrations.size

/-- An operation keeps the names of the log in range. -/
theorem wellNamed_perform (named : WellNamed center) :
    WellNamed (perform topicOf center operation) := by
  cases operation with
  | add owner topic =>
      intro entry member name reaches
      refine lt_of_lt_of_eq (Nat.lt_succ_of_lt (named entry member name reaches)) ?_
      exact (Table.size_push ..).symm
  | remove owner =>
      intro entry member name reaches
      exact lt_of_lt_of_eq (named entry member name reaches) (List.length_map ..).symm
  | post message =>
      intro entry member name reaches
      rcases List.mem_append.mp member with old | new
      · exact named entry old name reaches
      · cases List.mem_singleton.mp new
        obtain ⟨_, present, _⟩ := mem_reached.mp reaches
        exact Table.lt_size_of_get? present

/-- Operations keep the names of the log in range. -/
theorem wellNamed_performAll (named : WellNamed center) :
    WellNamed (performAll topicOf center operations) := by
  induction operations generalizing center with
  | nil => exact named
  | cons operation operations ih => exact ih (wellNamed_perform named)

omit [DecidableEq Owner] [DecidableEq Topic] in
/-- Nothing was told to the callbacks of registrations that are still to come. -/
theorem WellNamed.told_eq_nil (named : WellNamed center)
    (coming : ∀ callback ∈ callbacks, center.registrations.size ≤ callback.1) :
    told center callbacks = [] := by
  refine List.flatMap_eq_nil_iff.mpr fun entry member => ?_
  refine List.filterMap_eq_nil_iff.mpr fun callback belongs => if_neg fun reaches => ?_
  exact (named entry member callback.1 reaches).not_ge (coming callback belongs)

/-- A registration stays what it is but for a withdrawal by its owner. -/
theorem get?_perform (present : center.registrations.get? name = some registration) :
    (perform topicOf center operation).registrations.get? name =
      some { registration with
        withdrawn := registration.withdrawn ||
          match operation with
          | .remove owner => registration.owner = some owner
          | _ => false } := by
  cases operation with
  | add owner topic =>
      refine (Table.get?_push_of_get? _ present).trans ?_
      simp only [Bool.or_false]
  | remove owner =>
      refine (List.getElem?_map ..).trans ((congrArg (Option.map _) present).trans ?_)
      rw [Option.map_some, Registration.withdraw]
      by_cases own : registration.owner = some owner
      · simp only [own, ↓reduceIte, decide_true, Bool.or_true]
      · simp only [own, ↓reduceIte, decide_false, Bool.or_false]
  | post message =>
      refine present.trans ?_
      simp only [Bool.or_false]

theorem get?_perform_of_not_removes
    (present : center.registrations.get? name = some registration)
    (kept : ¬ operation.Removes registration.owner) :
    (perform topicOf center operation).registrations.get? name = some registration := by
  rw [get?_perform present]
  cases operation with
  | remove owner =>
      have other : ¬ registration.owner = some owner := kept
      simp only [other, decide_false, Bool.or_false]
  | _ => simp only [Bool.or_false]

/-- A registration keeps its owner and its topic. -/
theorem get?_performAll {owner : Option Owner} {topic : Topic} {withdrawn : Bool}
    (present : center.registrations.get? name = some ⟨owner, topic, withdrawn⟩) :
    ∃ gone, (performAll topicOf center operations).registrations.get? name =
      some ⟨owner, topic, gone⟩ := by
  induction operations generalizing center withdrawn with
  | nil => exact ⟨withdrawn, present⟩
  | cons operation operations ih => exact ih (get?_perform present)

/-- A post tells the callbacks of the registrations that it reaches. -/
theorem told_perform (callbacks : Callbacks Message Value) :
    told (perform topicOf center operation) callbacks = told center callbacks ++
      operation.posted?.toList.flatMap fun message =>
        callbacks.filterMap fun callback =>
          if callback.1 ∈ reached topicOf center message then some (callback.2 message)
          else none := by
  cases operation with
  | post message => exact List.flatMap_append
  | _ => exact (List.append_nil _).symm

/-- As long as no owner withdraws its registration, the callbacks are told of every message
posted to their topics, in order. -/
theorem told_performAll (owners : Nat → Option Owner) (topics : Nat → Topic)
    (standing : ∀ callback ∈ callbacks, center.registrations.get? callback.1 =
      some ⟨owners callback.1, topics callback.1, false⟩)
    (kept : ∀ operation ∈ operations, ∀ callback ∈ callbacks,
      ¬ operation.Removes (owners callback.1)) :
    told (performAll topicOf center operations) callbacks = told center callbacks ++
      (posts operations).flatMap fun message =>
        callbacks.filterMap fun callback =>
          if topics callback.1 = topicOf message then some (callback.2 message) else none := by
  induction operations generalizing center with
  | nil => exact (List.append_nil _).symm
  | cons operation operations ih =>
      have stands : ∀ callback ∈ callbacks,
          (perform topicOf center operation).registrations.get? callback.1 =
            some ⟨owners callback.1, topics callback.1, false⟩ := fun callback member =>
        get?_perform_of_not_removes (standing callback member)
          (kept operation List.mem_cons_self callback member)
      have rest := ih stands fun other member => kept other (List.mem_cons_of_mem _ member)
      refine rest.trans ?_
      rw [told_perform, List.append_assoc]
      refine congrArg _ ?_
      cases operation with
      | post message =>
          refine congrArg (· ++ _) ((List.flatMap_singleton ..).trans ?_)
          refine List.filterMap_congr fun callback member => ?_
          simp only [mem_reached_iff (standing callback member)]
      | _ => rfl

/-- The callbacks of registrations that were withdrawn are told of nothing more. -/
theorem told_performAll_of_withdrawn
    (withdrawn : ∀ callback ∈ callbacks, ∃ registration,
      center.registrations.get? callback.1 = some registration ∧ registration.withdrawn = true) :
    told (performAll topicOf center operations) callbacks = told center callbacks := by
  induction operations generalizing center with
  | nil => rfl
  | cons operation operations ih =>
      refine (ih fun callback member => ?_).trans ?_
      · obtain ⟨registration, present, gone⟩ := withdrawn callback member
        refine ⟨_, get?_perform present, ?_⟩
        rw [gone, Bool.true_or]
      · rw [told_perform]
        refine (congrArg _ (List.flatMap_eq_nil_iff.mpr fun message _ => ?_)).trans
          (List.append_nil _)
        refine List.filterMap_eq_nil_iff.mpr fun callback member => if_neg fun reaches => ?_
        obtain ⟨registration, present, gone⟩ := withdrawn callback member
        obtain ⟨other, same, standing, _⟩ := mem_reached.mp reaches
        cases Option.some.inj (same.symm.trans present)
        exact Bool.noConfusion (standing.symm.trans gone)

end Operations

end Subscribers
