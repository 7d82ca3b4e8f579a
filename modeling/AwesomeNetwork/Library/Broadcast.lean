import AwesomeNetwork.Library.Table

/-! # Broadcasting messages to subscriptions

A subscription names a topic and may pass over messages of it. A message goes to the
subscriptions that are there when it is posted, so what a subscription has received is
a part of the messages posted after it, in their order.
-/

namespace Broadcast

variable {Topic Message : Type*} [DecidableEq Topic] (topicOf : Message → Topic)

/-- A subscription, with the messages that it has received. -/
structure Subscription (Topic Message : Type*) where
  topic : Topic
  accepts : Message → Bool
  received : List Message

/-- What can happen at a center. -/
inductive Operation (Topic Message : Type*) where
  | subscribe (topic : Topic) (accepts : Message → Bool)
  | post (message : Message)

/-- A subscription receives the messages of its topic that it accepts. -/
def Subscription.receive (message : Message) (subscription : Subscription Topic Message) :
    Subscription Topic Message :=
  if subscription.topic = topicOf message ∧ subscription.accepts message = true then
    { subscription with received := subscription.received ++ [message] }
  else subscription

/-- A subscription is entered at the end; a message goes to all that are there. -/
def perform (center : Table (Subscription Topic Message)) :
    Operation Topic Message → Table (Subscription Topic Message)
  | .subscribe topic accepts => center.push ⟨topic, accepts, []⟩
  | .post message => ⟨center.records.map (Subscription.receive topicOf message)⟩

/-- Operations, one after the other. -/
def performAll (center : Table (Subscription Topic Message))
    (operations : List (Operation Topic Message)) : Table (Subscription Topic Message) :=
  operations.foldl (perform topicOf) center

/-- The message that an operation posts. -/
def Operation.posted? : Operation Topic Message → Option Message
  | .subscribe .. => none
  | .post message => some message

/-- The messages posted, in order. -/
def posts (operations : List (Operation Topic Message)) : List Message :=
  operations.filterMap Operation.posted?

/-- The messages that a subscription is for. -/
def wanted (topic : Topic) (accepts : Message → Bool) (messages : List Message) : List Message :=
  messages.filter fun message => topic = topicOf message ∧ accepts message = true

variable {topicOf} {center : Table (Subscription Topic Message)}
  {subscription : Subscription Topic Message} {name : Nat}

theorem wanted_cons (topic : Topic) (accepts : Message → Bool) (message : Message)
    (messages : List Message) :
    wanted topicOf topic accepts (message :: messages) =
      wanted topicOf topic accepts [message] ++ wanted topicOf topic accepts messages :=
  List.filter_append [message] messages

/-- A subscription receives what it wants of a message. -/
theorem receive_eq (message : Message) (subscription : Subscription Topic Message) :
    subscription.receive topicOf message = { subscription with
      received := subscription.received ++
        wanted topicOf subscription.topic subscription.accepts [message] } := by
  unfold Subscription.receive wanted
  split
  · next holds =>
      simp only [List.filter_cons, holds, and_self, decide_true, ↓reduceIte, List.filter_nil]
  · next fails =>
      simp only [List.filter_cons, fails, decide_false, Bool.false_eq_true, ↓reduceIte,
        List.filter_nil, List.append_nil]

/-- A subscription receives what it wants of the messages posted from then on. -/
theorem get?_performAll (present : center.get? name = some subscription)
    (operations : List (Operation Topic Message)) :
    (performAll topicOf center operations).get? name = some { subscription with
      received := subscription.received ++
        wanted topicOf subscription.topic subscription.accepts (posts operations) } := by
  induction operations generalizing center subscription with
  | nil =>
      have nothing : subscription.received ++
          wanted topicOf subscription.topic subscription.accepts [] = subscription.received :=
        List.append_nil _
      have same := congrArg
        (fun received => some { subscription with received := received }) nothing.symm
      exact present.trans same
  | cons operation operations ih =>
      cases operation with
      | subscribe topic accepts => exact ih (Table.get?_push_of_get? _ present)
      | post message =>
          have received : (perform topicOf center (.post message)).get? name =
              some (subscription.receive topicOf message) :=
            (List.getElem?_map ..).trans (congrArg (Option.map _) present)
          refine (ih received).trans ?_
          have posted : posts (.post message :: operations : List (Operation Topic Message)) =
              message :: posts operations := rfl
          rw [receive_eq]
          dsimp only
          rw [posted, wanted_cons _ _ message (posts operations), ← List.append_assoc]

/-- Two subscriptions want the same messages exactly when no message tells them apart. -/
theorem wanted_eq_wanted_iff {topic topic' : Topic} {accepts accepts' : Message → Bool}
    {messages : List Message} :
    wanted topicOf topic accepts messages = wanted topicOf topic' accepts' messages ↔
      ∀ message ∈ messages, (topic = topicOf message ∧ accepts message = true) ↔
        (topic' = topicOf message ∧ accepts' message = true) := by
  unfold wanted
  constructor
  · intro same message member
    have both := congrArg (message ∈ ·) same
    simp only [List.mem_filter, member, true_and, decide_eq_true_eq] at both
    exact both.to_iff
  · intro agrees
    refine List.filter_congr fun message member => ?_
    rw [decide_eq_decide]
    exact agrees message member

/-- Whether an operation makes a subscription. -/
def Operation.isSubscribe : Operation Topic Message → Bool
  | .subscribe .. => true
  | .post _ => false

theorem size_performAll (center : Table (Subscription Topic Message))
    (operations : List (Operation Topic Message)) :
    (performAll topicOf center operations).size =
      center.size + operations.countP Operation.isSubscribe := by
  induction operations generalizing center with
  | nil => rfl
  | cons operation operations ih =>
      change (performAll topicOf (perform topicOf center operation) operations).size = _
      rw [ih, List.countP_cons]
      cases operation with
      | subscribe topic accepts =>
          have grown : (perform topicOf center (.subscribe topic accepts)).size = center.size + 1 :=
            List.length_append
          rw [grown]
          exact Nat.add_right_comm ..
      | post message =>
          have kept : (perform topicOf center (.post message)).size = center.size :=
            List.length_map ..
          rw [kept]
          rfl

/-- A subscription gets the next name, and receives what it wants of the messages posted
after it. -/
theorem get?_subscribed (before after : List (Operation Topic Message)) (topic : Topic)
    (accepts : Message → Bool) :
    (performAll topicOf .empty (before ++ .subscribe topic accepts :: after)).get?
        (before.countP Operation.isSubscribe) =
      some ⟨topic, accepts, wanted topicOf topic accepts (posts after)⟩ := by
  have split : performAll topicOf .empty (before ++ .subscribe topic accepts :: after) =
      performAll topicOf ((performAll topicOf .empty before).push ⟨topic, accepts, []⟩) after :=
    List.foldl_append
  have named : before.countP Operation.isSubscribe = (performAll topicOf .empty before).size := by
    rw [size_performAll]
    exact (Nat.zero_add _).symm
  rw [split, named]
  exact get?_performAll (Table.get?_push_self ..) after

end Broadcast
