import AwesomeNetwork.Downloading.Notifications
import AwesomeNetwork.Library.Subscribers
import AwesomeNetwork.Networking.NotifierEvents

/-! # The observers of the network

The events of the network and those of the downloads are posted to one center under their raw
values. An observer is removed with all its registrations; the two registrations of
`listenToNetwork` and that of a download observer belong to nobody and are never removed.
-/

namespace AwesomeNetwork

/-- `rawValue`, which is the name of the case. -/
def AwesomeNetworkStateEvent.rawValue : AwesomeNetworkStateEvent → String
  | .connected => "connected"
  | .disconnected => "disconnected"

/-- `notificationName(with:)`. -/
def notificationName (event : AwesomeNetworkStateEvent) : String := event.rawValue

/-- `postNotification(with:)`. -/
def postNotification (event : AwesomeNetworkStateEvent) : Notification :=
  ⟨notificationName event, none⟩

/-- The notifier with the default center. -/
structure NetworkObservers where
  notifier : Notifier
  center : Subscribers.Center Nat String Notification

namespace NetworkObservers

open Subscribers Transition

/-- An operation on the notification center. -/
abbrev CenterOperation := Subscribers.Operation Nat String Notification

/-- A step of the notifier, or a call that registers, removes or posts. -/
inductive Label where
  | notifier (label : Notifier.Label)
  | addObserver (observer : Nat) (event : AwesomeNetworkStateEvent)
  | removeObserver (observer : Nat)
  | listenToNetwork
  | observe (event : AwesomeDownloadEvent) (url : Option URL)
  | notify (event : AwesomeDownloadEvent) (object : Option AwesomeDownloadObject)
deriving DecidableEq, Repr

/-- The class as it is made, with an empty center. -/
def new (flags : SCNetworkReachabilityFlags) (runsOnIOS isRunningOnDevice : Bool) :
    NetworkObservers :=
  ⟨.new flags runsOnIOS isRunningOnDevice, ⟨.empty, []⟩⟩

/-- The events that a step of the notifier posts. -/
def posted (notifier : Notifier) (label : Notifier.Label) : List AwesomeNetworkStateEvent :=
  Notifier.postsOf (notifier.ran label)

/-- What a step does at the center. -/
def operations (observers : NetworkObservers) : Label → List CenterOperation
  | .notifier label => (posted observers.notifier label).map fun event =>
      .post (postNotification event)
  | .addObserver observer event => [.add (some observer) (notificationName event)]
  | .removeObserver observer => [.remove observer]
  | .listenToNetwork =>
      [.add none (notificationName .connected), .add none (notificationName .disconnected)]
  | .observe _ _ => [.add none AwesomeDownloadEvent.downloaded.notificationName]
  | .notify event object => [.post ⟨event.notificationName, object⟩]

/-- One step of the notifier or one call on the center. -/
def step (observers : NetworkObservers) (label : Label) : Option NetworkObservers :=
  let center := performAll Notification.name observers.center (observers.operations label)
  match label with
  | .notifier moved => (observers.notifier.step moved).map fun notifier => ⟨notifier, center⟩
  | _ => some ⟨observers.notifier, center⟩

/-- The two callbacks of the listener whose first registration this is. -/
def onChange (name : Nat) : Callbacks Notification Bool :=
  [(name, fun _ => true), (name + 1, fun _ => false)]

/-- What `onChange` was called with. -/
def changes (observers : NetworkObservers) (name : Nat) : List Bool :=
  told observers.center (onChange name)

/-- The notifications that the registration of an observer was sent. -/
def heard (observers : NetworkObservers) (name : Nat) : List Notification :=
  told observers.center [(name, id)]

/-- The events of the network that a step posts. -/
def events (observers : NetworkObservers) : Label → List AwesomeNetworkStateEvent
  | .notifier label => posted observers.notifier label
  | _ => []

/-- The moves of the notifier. -/
def Label.notifier? : Label → Option Notifier.Label
  | .notifier label => some label
  | _ => none

variable {observers next middle removed target : NetworkObservers} {label : Label}
  {before labels later : List Label} {observer : Nat} {event : AwesomeNetworkStateEvent}
  {flags : SCNetworkReachabilityFlags} {runsOnIOS isRunningOnDevice : Bool}

/-- A step does its own operations on the center. -/
theorem step_center (taken : step observers label = some next) :
    next.center = performAll Notification.name observers.center (observers.operations label) := by
  cases label with
  | notifier moved =>
      obtain ⟨notifier, _, rfl⟩ := Option.map_eq_some_iff.mp taken
      rfl
  | _ =>
      cases taken
      rfl

/-- The events of a step are posted by the notifier. -/
theorem step_posted (taken : step observers label = some next) :
    next.notifier.posted = observers.notifier.posted ++ observers.events label := by
  cases label with
  | notifier moved =>
      obtain ⟨notifier, moves, rfl⟩ := Option.map_eq_some_iff.mp taken
      exact (Notifier.ran_step moves).1
  | _ =>
      cases taken
      exact (List.append_nil _).symm

/-- A run does the operations of its steps on the center. -/
theorem center_run (run : Run step observers labels target) :
    target.center = performAll Notification.name observers.center
      (emitted step operations observers labels) := by
  induction run with
  | nil => rfl
  | cons taken _ ih =>
      rw [ih, step_center taken, emitted_cons taken]
      exact List.foldl_append.symm

/-- What is posted in a run is what its steps post. -/
theorem posted_run (run : Run step observers labels target) :
    target.notifier.posted = observers.notifier.posted ++ emitted step events observers labels := by
  induction run with
  | nil => exact (List.append_nil _).symm
  | cons taken _ ih => rw [ih, step_posted taken, emitted_cons taken, List.append_assoc]

/-- The notifier goes through one of its own runs. -/
theorem notifier_run (run : Run step observers labels target) :
    Run Notifier.step observers.notifier (labels.filterMap Label.notifier?) target.notifier := by
  induction run with
  | nil => exact .nil _
  | @cons source middle target label labels taken _ ih =>
      cases label with
      | notifier moved =>
          obtain ⟨notifier, moves, rfl⟩ := Option.map_eq_some_iff.mp taken
          exact .cons moves ih
      | _ =>
          cases taken
          exact ih

/-- Whoever looks only at network events is told what is posted of them. -/
theorem flatMap_posts {Value : Type} {tells : Notification → List Value}
    (deaf : ∀ event : AwesomeDownloadEvent, ∀ object, tells ⟨event.notificationName, object⟩ = [])
    (observers : NetworkObservers) (labels : List Label) :
    (posts (emitted step operations observers labels)).flatMap tells =
      (emitted step events observers labels).flatMap fun event =>
        tells (postNotification event) := by
  induction labels generalizing observers with
  | nil => rfl
  | cons label labels ih =>
      cases taken : step observers label with
      | none =>
          unfold emitted
          rw [taken]
          rfl
      | some next =>
          have first : (posts (observers.operations label)).flatMap tells =
              (observers.events label).flatMap fun event => tells (postNotification event) := by
            cases label with
            | notifier moved =>
                unfold posts
                rw [operations, List.filterMap_map]
                change (List.filterMap (fun event => some (postNotification event)) _).flatMap _ = _
                rw [List.filterMap_eq_map', List.flatMap_map]
                rfl
            | notify event object => exact (List.flatMap_singleton ..).trans (deaf event object)
            | _ => rfl
          rw [emitted_cons taken, emitted_cons taken, List.flatMap_append, ← ih next, ← first]
          unfold posts
          rw [List.filterMap_append, List.flatMap_append]

/-- In every run, the messages have reached registrations that are there. -/
theorem wellNamed_run
    (run : Run step (new flags runsOnIOS isRunningOnDevice) labels observers) :
    WellNamed observers.center := by
  rw [center_run run]
  exact wellNamed_performAll nofun

/-- Only the removal of an observer withdraws its registrations. -/
theorem removes_iff :
    (∃ operation ∈ observers.operations label, operation.Removes (some observer)) ↔
      label = .removeObserver observer := by
  cases label with
  | notifier moved =>
      simp only [operations, List.mem_map, exists_exists_and_eq_and, Operation.Removes,
        and_false, exists_false, reduceCtorEq]
  | removeObserver other =>
      simp only [operations, List.mem_singleton, exists_eq_left, Operation.Removes,
        Option.some.injEq, Label.removeObserver.injEq, eq_comm]
  | _ =>
      simp only [operations, List.mem_cons, List.not_mem_nil, or_false, exists_eq_or_imp,
        exists_eq_left, Operation.Removes, reduceCtorEq, or_self]

/-- Without a `removeObserver` no operation removes the observer. -/
theorem not_removes_of_not_mem (kept : .removeObserver observer ∉ labels)
    {operation : CenterOperation} (member : operation ∈ emitted step operations observers labels) :
    ¬ operation.Removes (some observer) := by
  induction labels generalizing observers with
  | nil => cases member
  | cons label labels ih =>
      cases taken : step observers label with
      | none =>
          unfold emitted at member
          rw [taken] at member
          cases member
      | some next =>
          rw [emitted_cons taken] at member
          intro removes
          rcases List.mem_append.mp member with first | rest
          · exact kept (removes_iff.mp ⟨operation, first, removes⟩ ▸ List.mem_cons_self)
          · exact ih (fun earlier => kept (List.mem_cons_of_mem _ earlier)) rest removes

theorem notificationName_ne (event : AwesomeNetworkStateEvent) (other : AwesomeDownloadEvent) :
    notificationName event ≠ other.notificationName := by
  cases event <;> cases other <;> decide

theorem notificationName_inj {event other : AwesomeNetworkStateEvent} :
    notificationName event = notificationName other ↔ event = other := by
  cases event <;> cases other <;> decide

/-- A listener is called with the events of the network that the steps post. -/
theorem changes_run (named : WellNamed observers.center)
    (listens : step observers .listenToNetwork = some next) (run : Run step next labels target) :
    target.changes observers.center.registrations.size =
      (emitted step events next labels).map fun event => decide (event = .connected) := by
  obtain ⟨notifier, registrations, log⟩ := observers
  cases listens
  let name := registrations.size
  let event (registration : Nat) : AwesomeNetworkStateEvent :=
    if registration = name then .connected else .disconnected
  let listening := (registrations.push ⟨none, notificationName .connected, false⟩).push
    ⟨none, notificationName .disconnected, false⟩
  have first : event name = .connected := if_pos rfl
  have second : event (name + 1) = .disconnected := if_neg (Nat.succ_ne_self name)
  have untold : told ⟨registrations, log⟩ (onChange name) = [] := by
    refine WellNamed.told_eq_nil named fun callback member => ?_
    rcases List.mem_pair.mp member with rfl | rfl
    · exact Nat.le_refl name
    · exact Nat.le_succ name
  have standing : ∀ callback ∈ onChange name, listening.get? callback.1 =
      some ⟨none, notificationName (event callback.1), false⟩ := by
    intro callback member
    rcases List.mem_pair.mp member with rfl | rfl
    · rw [first]
      exact Table.get?_push_of_get? _ (Table.get?_push_self ..)
    · rw [second]
      have last : name + 1 = (registrations.push ⟨none, notificationName .connected, false⟩).size :=
        (Table.size_push ..).symm
      dsimp only
      rw [last]
      exact Table.get?_push_self ..
  have tells (posted : AwesomeNetworkStateEvent) :
      ((onChange name).filterMap fun callback =>
        if notificationName (event callback.1) = (postNotification posted).name then
          some (callback.2 (postNotification posted)) else none) =
        [decide (posted = .connected)] := by
    cases posted <;>
      simp [onChange, postNotification, notificationName_inj, first, second]
  unfold changes
  rw [center_run run, told_performAll (fun _ => none) (notificationName ∘ event) standing
    (fun operation _ _ _ removes => by cases operation <;> cases removes)]
  refine (congrArg (· ++ _) untold).trans ((List.nil_append _).trans ?_)
  rw [flatMap_posts]
  · exact (List.flatMap_congr fun posted _ => tells posted).trans List.map_eq_flatMap.symm
  · intro other object
    refine List.filterMap_eq_nil_iff.mpr fun callback _ => if_neg ?_
    exact notificationName_ne _ other

/-- A listener was told the truth by the event of the connection. -/
theorem told_eq_iff {last : Option AwesomeNetworkStateEvent} {reachability : AwesomeReachability} :
    last.map (fun event => decide (event = .connected)) =
        some (decide (reachability.connection ≠ .none)) ↔
      last = some reachability.event := by
  unfold AwesomeReachability.event
  by_cases gone : reachability.connection = .none <;> cases last with
  | none => simp [gone]
  | some event => cases event <;> simp [gone]

/-- **Listeners.** A view that listens is called with every event posted from then on, once
and in order, whichever observers come and go. When the notifier is then at rest and no
change came while a check was under way, the last call tells whether there is a connection
exactly when there is none, or a block for a connection has found one and no block for the
other handler came after it. -/
theorem listener_told
    (history : Run step (new flags runsOnIOS isRunningOnDevice) before observers)
    (listens : step observers .listenToNetwork = some next) (run : Run step next labels target) :
    ∃ heard, target.notifier.posted = observers.notifier.posted ++ heard ∧
      target.changes observers.center.registrations.size =
        heard.map (fun event => decide (event = .connected)) ∧
      (heard ≠ [] → target.notifier.AtRest →
        target.notifier.reachability.notifierRunning = true →
        Meets Notifier.step Notifier.Undisturbed (.new flags runsOnIOS isRunningOnDevice)
          ((before ++ labels).filterMap Label.notifier?) →
        ((target.changes observers.center.registrations.size).getLast? =
            some (decide (target.notifier.reachability.connection ≠ .none)) ↔
          target.notifier.reachability.connection = .none ∨
            Notifier.FoundConnection
              (emitted Notifier.step Notifier.ran (.new flags runsOnIOS isRunningOnDevice)
                ((before ++ labels).filterMap Label.notifier?)))) := by
  have moves : Run Notifier.step (.new flags runsOnIOS isRunningOnDevice) _ target.notifier :=
    (notifier_run history).append (notifier_run (.cons listens run))
  have posted := posted_run run
  have still : next.notifier = observers.notifier := by
    cases listens
    rfl
  have projected : before.filterMap Label.notifier? ++
      (.listenToNetwork :: labels).filterMap Label.notifier? =
        (before ++ labels).filterMap Label.notifier? := by
    rw [List.filterMap_append]
    rfl
  have changes := changes_run (wellNamed_run history) listens run
  rw [still] at posted
  rw [projected] at moves
  refine ⟨_, posted, changes, fun some' rest running undisturbed => ?_⟩
  obtain ⟨earlier, found, split⟩ := Notifier.ran_at_rest moves undisturbed rest running
  have whole : target.notifier.posted = Notifier.postsOf _ := (Notifier.ran_run moves).1
  rw [split, ← Notifier.getLast?_postsOf_eq_event_iff, ← split, ← whole, changes, posted,
    List.getLast?_append_of_ne_nil _ some', List.getLast?_map, told_eq_iff]

/-- An observer is added and a view listens before the network comes and goes. -/
def prepared : NetworkObservers :=
  (execute step (new {} true true) [.addObserver 7 .connected]).getD (new {} true true)

/-- The listener was told that there is no network, and nothing has told it of the one that
there is when the notifier is at rest. -/
theorem listener_told_flapping : ∃ next target,
    step prepared .listenToNetwork = some next ∧
    Run step next (Notifier.flapping.map .notifier) target ∧
    target.notifier.reachability.connection = .wifi ∧ target.changes 1 = [false] ∧
    ¬ Notifier.FoundConnection (emitted Notifier.step Notifier.ran (.new {} true true)
      Notifier.flapping) := by
  have history : Run step (new {} true true) [.addObserver 7 .connected] prepared :=
    run_iff_execute.mpr rfl
  have run := run_iff_execute.mpr (rfl : execute step
    ((prepared.step .listenToNetwork).getD prepared) (Notifier.flapping.map .notifier) = some _)
  obtain ⟨heard, posted, changes, truth⟩ := listener_told history rfl run
  cases posted
  have undisturbed : Meets Notifier.step Notifier.Undisturbed (.new {} true true)
      Notifier.flapping := by decide
  refine ⟨_, _, rfl, run, rfl, changes, fun found => ?_⟩
  have stale := (truth nofun ⟨rfl, rfl, rfl⟩ rfl undisturbed).mpr (Or.inr found)
  cases stale

/-- A registration of an observer is sent the notifications of its event that the steps
post, until the observer is removed. -/
theorem heard_run (named : WellNamed observers.center)
    (adds : step observers (.addObserver observer event) = some next)
    (run : Run step next labels target) (kept : .removeObserver observer ∉ labels) :
    target.heard observers.center.registrations.size =
      ((emitted step events next labels).filter (· = event)).map postNotification := by
  obtain ⟨notifier, registrations, log⟩ := observers
  cases adds
  let name := registrations.size
  have untold : told ⟨registrations, log⟩ [(name, id)] = [] := by
    refine WellNamed.told_eq_nil named fun callback member => ?_
    cases List.mem_singleton.mp member
    exact Nat.le_refl name
  have standing : ∀ callback ∈ ([(name, id)] : Callbacks Notification Notification),
      (registrations.push ⟨some observer, notificationName event, false⟩).get? callback.1 =
        some ⟨some observer, notificationName event, false⟩ := by
    intro callback member
    cases List.mem_singleton.mp member
    exact Table.get?_push_self ..
  unfold heard
  rw [center_run run, told_performAll (fun _ => some observer) (fun _ => notificationName event)
    standing (fun _ member _ _ => not_removes_of_not_mem kept member)]
  refine (congrArg (· ++ _) untold).trans ((List.nil_append _).trans ?_)
  rw [flatMap_posts]
  · generalize emitted step events _ labels = posted
    induction posted with
    | nil => rfl
    | cons first posted ih =>
        rw [List.flatMap_cons, ih]
        by_cases same : first = event
        · simp [same, postNotification]
        · simp [same, Ne.symm same, postNotification, notificationName_inj]
  · intro other object
    exact List.filterMap_eq_nil_iff.mpr fun callback _ => if_neg (notificationName_ne _ other)

/-- **Observers.** An observer is sent the notifications of its event that are posted while it
is registered, once and in order, and nothing once it has been removed, whatever else is
observed and posted. -/
theorem observer_told
    (history : Run step (new flags runsOnIOS isRunningOnDevice) before observers)
    (adds : step observers (.addObserver observer event) = some next)
    (run : Run step next labels middle) (kept : .removeObserver observer ∉ labels)
    (removes : step middle (.removeObserver observer) = some removed)
    (after : Run step removed later target) :
    ∃ heard, middle.notifier.posted = observers.notifier.posted ++ heard ∧
      middle.heard observers.center.registrations.size =
        (heard.filter (· = event)).map postNotification ∧
      target.heard observers.center.registrations.size =
        middle.heard observers.center.registrations.size := by
  have posted := posted_run run
  have still : next.notifier = observers.notifier := by
    cases adds
    rfl
  rw [still] at posted
  refine ⟨_, posted, heard_run (wellNamed_run history) adds run kept, ?_⟩
  have added : next.center.registrations.get? observers.center.registrations.size =
      some ⟨some observer, notificationName event, false⟩ := by
    rw [step_center adds]
    exact Table.get?_push_self ..
  obtain ⟨withdrawn, present⟩ : ∃ withdrawn, middle.center.registrations.get?
      observers.center.registrations.size =
        some ⟨some observer, notificationName event, withdrawn⟩ := by
    rw [center_run run]
    exact get?_performAll added
  have gone : removed.center.registrations.get? observers.center.registrations.size =
      some ⟨some observer, notificationName event, true⟩ := by
    rw [step_center removes]
    change (perform Notification.name _ (.remove observer)).registrations.get? _ = _
    rw [get?_perform present]
    simp only [decide_true, Bool.or_true]
  have silent : removed.heard observers.center.registrations.size =
      middle.heard observers.center.registrations.size := by
    unfold heard
    rw [step_center removes]
    rfl
  rw [← silent]
  unfold heard
  rw [center_run after]
  refine told_performAll_of_withdrawn fun callback member => ?_
  cases List.mem_singleton.mp member
  exact ⟨_, gone, rfl⟩

/-- An observer is registered. -/
def observed : NetworkObservers := ((new {} true true).step (.addObserver 7 .connected)).getD
  (new {} true true)

/-- A network comes. -/
def coming : List Label :=
  [.startNetworkStateNotifier true true, .changed NetworkState.wifi, .compare, .choose, .keep,
    .runMain, .runMain].map .notifier

/-- The state after the connection came back. -/
def came : NetworkObservers := (execute step observed coming).getD observed

/-- It goes. -/
def going : List Label :=
  [.changed {}, .compare, .choose, .keep, .runMain, .runMain].map .notifier

/-- The observer hears of the network and, once removed, of nothing more. -/
theorem observer_told_wifi : ∃ removed target,
    Run step observed coming came ∧ step came (.removeObserver 7) = some removed ∧
    Run step removed going target ∧ target.notifier.posted = [.connected, .disconnected] ∧
    target.heard 0 = [postNotification .connected] := by
  have history : Run step (new {} true true) [] (new {} true true) := .nil _
  have run : Run step observed coming came := run_iff_execute.mpr rfl
  have after := run_iff_execute.mpr
    (rfl : execute step ((came.step (.removeObserver 7)).getD came) going = some _)
  obtain ⟨heard, posted, first, later⟩ := observer_told history rfl run (by decide) rfl after
  cases posted
  exact ⟨_, _, run, rfl, after, rfl, later.trans first⟩

end NetworkObservers

end AwesomeNetwork
