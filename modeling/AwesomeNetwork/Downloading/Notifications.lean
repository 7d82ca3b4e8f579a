import AwesomeNetwork.Downloading.AwesomeDownload
import AwesomeNetwork.Library.Broadcast

/-! # The notifications of the downloads

Events are posted to the notification center under their raw value. An observer is
registered there for one event and, if it names a URL, for the posts that carry it.
-/

namespace AwesomeNetwork

/-- `AwesomeDownloadEvent`. -/
inductive AwesomeDownloadEvent where
  | downloading
  | downloaded
  | deleted
  | downloadCanceled
  | deleteCanceled
deriving DecidableEq, Repr

/-- `rawValue`, which is the name of the case. -/
def AwesomeDownloadEvent.rawValue : AwesomeDownloadEvent → String
  | .downloading => "downloading"
  | .downloaded => "downloaded"
  | .deleted => "deleted"
  | .downloadCanceled => "downloadCanceled"
  | .deleteCanceled => "deleteCanceled"

/-- The notification name is the raw value. -/
def AwesomeDownloadEvent.notificationName (event : AwesomeDownloadEvent) : String := event.rawValue

/-- The object of a notification; a progress is kept as the two counts that it is the
quotient of. -/
structure AwesomeDownloadObject where
  url : Option URL
  progress : DownloadProgress := ⟨0, 1⟩
deriving DecidableEq, Repr

/-- A `Notification` of the default center, as far as observers read it. -/
structure Notification where
  name : String
  object : Option AwesomeDownloadObject
deriving DecidableEq, Repr

namespace AwesomeDownloadManager

/-- The observer of a URL, or of all of them, calls back for the notification. -/
def callsBack (url : Option URL) (notification : Notification) : Bool :=
  match url with
  | some url =>
      match notification.object with
      | some downloadObject => downloadObject.url = some url
      | none => false
  | none => true

/-- An operation on the notification center. -/
abbrev NotificationOperation := Broadcast.Operation String Notification

/-- `observe(to:inQueue:whenUrl:using:)`. -/
def observe (_event : AwesomeDownloadEvent) (url : Option URL) : NotificationOperation :=
  .subscribe AwesomeDownloadEvent.downloaded.notificationName (callsBack url)

/-- `notify(_:with:)`. -/
def notify (event : AwesomeDownloadEvent) (object : Option AwesomeDownloadObject) :
    NotificationOperation :=
  .post ⟨event.notificationName, object⟩

end AwesomeDownloadManager

/-- A call of `observe` or of `notify`. -/
inductive NotificationCall where
  | observe (event : AwesomeDownloadEvent) (url : Option URL)
  | notify (event : AwesomeDownloadEvent) (object : Option AwesomeDownloadObject)
deriving DecidableEq, Repr

namespace NotificationCall

/-- The operation that a call does on the center. -/
def operation : NotificationCall → AwesomeDownloadManager.NotificationOperation
  | observe event url => AwesomeDownloadManager.observe event url
  | notify event object => AwesomeDownloadManager.notify event object

/-- Whether a call registers an observer. -/
def isObserve : NotificationCall → Bool
  | observe .. => true
  | notify .. => false

/-- The notifications for which the callback of the observer `name` has run. -/
def received (calls : List NotificationCall) (name : Nat) : Option (List Notification) :=
  ((Broadcast.performAll Notification.name .empty (calls.map operation)).get? name).map
    Broadcast.Subscription.received

/-- No URL is asked for, or the object carries it. -/
def Carries (url : Option URL) (object : Option AwesomeDownloadObject) : Prop :=
  url = none ∨ ∃ carried ∈ object, carried.url = url

instance (url : Option URL) (object : Option AwesomeDownloadObject) :
    Decidable (Carries url object) := inferInstanceAs (Decidable (_ ∨ ∃ carried ∈ object, _))

/-- The notification that an observer of the event and the URL asks for. -/
def asked? (event : AwesomeDownloadEvent) (url : Option URL) :
    NotificationCall → Option Notification
  | observe .. => none
  | notify posted object =>
      if posted = event ∧ Carries url object then some ⟨posted.notificationName, object⟩ else none

/-- The notifications that an observer asks for, in the order in which they are posted. -/
def asked (event : AwesomeDownloadEvent) (url : Option URL) (calls : List NotificationCall) :
    List Notification :=
  calls.filterMap (asked? event url)

variable {event posted : AwesomeDownloadEvent} {url : Option URL}
  {object : Option AwesomeDownloadObject} {calls : List NotificationCall}

theorem notificationName_inj :
    event.notificationName = posted.notificationName ↔ event = posted := by
  constructor
  · intro same
    cases event <;> cases posted <;> first | rfl | exact absurd same (by decide)
  · rintro rfl
    rfl

/-- An observer of a URL is called back for the posts that carry it. -/
theorem callsBack_iff {name : String} :
    AwesomeDownloadManager.callsBack url ⟨name, object⟩ = true ↔ Carries url object := by
  unfold AwesomeDownloadManager.callsBack Carries
  cases url with
  | none => exact iff_of_true rfl (Or.inl rfl)
  | some url =>
      cases object with
      | none =>
          refine iff_of_false Bool.false_ne_true ?_
          rintro (same | ⟨_, same, _⟩) <;> cases same
      | some carried =>
          refine decide_eq_true_iff.trans ⟨fun same => Or.inr ⟨carried, rfl, same⟩, ?_⟩
          rintro (same | ⟨_, ⟨⟩, same⟩)
          · cases same
          · exact same

/-- What is asked for, as a subscription to the event would want it. -/
theorem asked_eq_wanted (event : AwesomeDownloadEvent) (url : Option URL)
    (calls : List NotificationCall) :
    asked event url calls =
      Broadcast.wanted Notification.name event.notificationName
        (AwesomeDownloadManager.callsBack url) (Broadcast.posts (calls.map operation)) := by
  induction calls with
  | nil => rfl
  | cons call calls ih =>
      cases call with
      | observe other url' => exact ih
      | notify posted object =>
          have posts : Broadcast.posts ((notify posted object :: calls).map operation) =
              ⟨posted.notificationName, object⟩ :: Broadcast.posts (calls.map operation) := rfl
          have wants : (event.notificationName = posted.notificationName ∧
              AwesomeDownloadManager.callsBack url ⟨posted.notificationName, object⟩ = true) ↔
                posted = event ∧ Carries url object := by
            rw [notificationName_inj, callsBack_iff, eq_comm]
          rw [posts, Broadcast.wanted_cons, ← ih]
          unfold asked Broadcast.wanted
          rw [List.filterMap_cons, asked?, List.filter_cons, List.filter_nil]
          by_cases holds : posted = event ∧ Carries url object
          · rw [if_pos holds, if_pos (decide_eq_true (wants.mpr holds))]
            rfl
          · rw [if_neg holds, if_neg fun wanted => holds (wants.mp (of_decide_eq_true wanted))]
            rfl

theorem mem_posts {notification : Notification} :
    notification ∈ Broadcast.posts (calls.map operation) ↔
      ∃ posted object, notify posted object ∈ calls ∧
        notification = ⟨posted.notificationName, object⟩ := by
  unfold Broadcast.posts
  rw [List.filterMap_map, List.mem_filterMap]
  constructor
  · rintro ⟨call, member, posted⟩
    cases call with
    | observe => cases posted
    | notify posted' object =>
        cases posted
        exact ⟨posted', object, member, rfl⟩
  · rintro ⟨posted, object, member, rfl⟩
    exact ⟨_, member, rfl⟩

/-- An observer is registered for the event `downloaded`, whatever it asks for. -/
theorem received_eq (before after : List NotificationCall) (event : AwesomeDownloadEvent)
    (url : Option URL) :
    received (before ++ observe event url :: after) (before.countP isObserve) =
      some (asked .downloaded url after) := by
  have named : before.countP isObserve =
      (before.map operation).countP Broadcast.Operation.isSubscribe := by
    rw [List.countP_map]
    refine List.countP_congr fun call _ => ?_
    cases call <;> exact Iff.rfl
  unfold received
  rw [List.map_append, List.map_cons, named]
  change Option.map _ ((Broadcast.performAll _ _ (before.map operation ++
    .subscribe _ (AwesomeDownloadManager.callsBack url) :: after.map operation)).get? _) = _
  rw [Broadcast.get?_subscribed, asked_eq_wanted]
  rfl

/-- **Observers and what they ask for.** An observer receives what it asks for exactly when
it asks for the event `downloaded`, or nothing that carries its URL is posted of either the
event that it asks for or `downloaded`. -/
theorem received_eq_asked_iff (before after : List NotificationCall)
    (event : AwesomeDownloadEvent) (url : Option URL) :
    received (before ++ observe event url :: after) (before.countP isObserve) =
        some (asked event url after) ↔
      event = .downloaded ∨ ∀ posted object, notify posted object ∈ after → Carries url object →
        posted ≠ event ∧ posted ≠ .downloaded := by
  rw [received_eq, Option.some_inj, asked_eq_wanted, asked_eq_wanted,
    Broadcast.wanted_eq_wanted_iff]
  constructor
  · intro agrees
    by_cases same : event = .downloaded
    · exact Or.inl same
    · refine Or.inr fun posted object member carries => ?_
      have told := agrees _ (mem_posts.mpr ⟨posted, object, member, rfl⟩)
      rw [callsBack_iff, notificationName_inj, notificationName_inj] at told
      constructor
      · rintro rfl
        exact same (told.mpr ⟨rfl, carries⟩).1.symm
      · rintro rfl
        exact same (told.mp ⟨rfl, carries⟩).1
  · intro holds notification member
    obtain ⟨posted, object, called, rfl⟩ := mem_posts.mp member
    rw [callsBack_iff, notificationName_inj, notificationName_inj]
    rcases holds with rfl | apart
    · exact Iff.rfl
    · refine ⟨fun ⟨same, carries⟩ => ?_, fun ⟨same, carries⟩ => ?_⟩
      · exact ((apart posted object called carries).2 same.symm).elim
      · exact ((apart posted object called carries).1 same.symm).elim

/-- An observer of deletions is called back for a download, and not for a deletion. -/
theorem observer_misses_event :
    let object : AwesomeDownloadObject := { url := some (⟨none, none, "/a.mp4", none⟩ : URL) }
    let calls := [observe .deleted none, notify .downloaded (some object),
      notify .deleted (some object)]
    received calls 0 = some [⟨"downloaded", some object⟩] ∧
      received calls 0 ≠ some (asked .deleted none (calls.drop 1)) := by
  decide

end NotificationCall

end AwesomeNetwork
