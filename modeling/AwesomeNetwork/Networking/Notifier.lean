import AwesomeNetwork.Networking.NetworkEvents

/-! # The notifier of the reachability class

A start registers a callback and a serial queue with the system. The start and every
callback hand a check to the serial queue. A check reads the flags to compare them with
those kept, to choose a handler, and to keep them; a change may come in between. To choose
the handler the `connection` getter asks for them more than once, which is taken as one
read. The handler is called on the main queue, before the notification of the class is
posted.
-/

namespace AwesomeNetwork

/-- `AwesomeReachabilityError`, without the cases that nothing throws. -/
inductive AwesomeReachabilityError where
  | UnableToSetCallback
  | UnableToSetDispatchQueue
deriving DecidableEq, Repr

/-- How far `AwesomeReachabilityChanged()` has come on the serial queue. -/
inductive CheckPhase where
  | compared
  | handed
deriving DecidableEq, Repr

/-- What a report does on the main queue. -/
inductive ReportEvent where
  | called (handler : NetworkHandler)
  | AwesomeReachabilityChanged
deriving DecidableEq, Repr

/-- The class with the system's side of it, its serial queue and the main queue. -/
structure Notifier where
  reachability : AwesomeReachability
  callbackSet : Bool
  queueSet : Bool
  checks : Nat
  underway : Option CheckPhase
  mainQueue : List ReachabilityBlock
  events : List ReportEvent
  posted : List AwesomeNetworkStateEvent
deriving DecidableEq, Repr

namespace Notifier

/-- A call of the notifier, a change, one read of a check, or a block of the main queue. -/
inductive Label where
  | startNetworkStateNotifier (setsCallback setsQueue : Bool)
  | stopNetworkStateNotifier
  | changed (flags : SCNetworkReachabilityFlags)
  | compare
  | choose
  | keep
  | runMain
deriving DecidableEq, Repr

/-- The class as it is made, with no notifier running. -/
def new (flags : SCNetworkReachabilityFlags) (runsOnIOS isRunningOnDevice : Bool) : Notifier where
  reachability := .new flags runsOnIOS isRunningOnDevice
  callbackSet := false
  queueSet := false
  checks := 0
  underway := none
  mainQueue := []
  events := []
  posted := []

/-- `stopNotifier()`. -/
def stopNotifier (notifier : Notifier) : Notifier :=
  { notifier with
    callbackSet := false
    queueSet := false
    reachability := { notifier.reachability with notifierRunning := false } }

/-- `startNotifier()`, where the system accepts or refuses the callback and the queue. -/
def startNotifier (notifier : Notifier) (setsCallback setsQueue : Bool) :
    Except AwesomeReachabilityError Unit × Notifier :=
  if notifier.reachability.notifierRunning then (.ok (), notifier)
  else if setsCallback = false then (.error .UnableToSetCallback, notifier.stopNotifier)
  else
    let notifier := { notifier with callbackSet := true }
    if setsQueue = false then (.error .UnableToSetDispatchQueue, notifier.stopNotifier)
    else
      (.ok (), { notifier with
        queueSet := true
        checks := notifier.checks + 1
        reachability := { notifier.reachability with notifierRunning := true } })

/-- The handlers are set in any case, and an error is only printed. -/
def startNetworkStateNotifier (notifier : Notifier) (setsCallback setsQueue : Bool) : Notifier :=
  let installed := { notifier with
    reachability := { notifier.reachability with
      whenReachable := some .whenReachable
      whenUnreachable := some .whenUnreachable } }
  (installed.startNotifier setsCallback setsQueue).2

/-- The flags change, and the system calls back where it was asked to. -/
def change (notifier : Notifier) (flags : SCNetworkReachabilityFlags) : Notifier :=
  { notifier with
    reachability := { notifier.reachability with flags := flags }
    checks :=
      if notifier.callbackSet && notifier.queueSet then notifier.checks + 1 else notifier.checks }

/-- `block` of `AwesomeReachabilityChanged()`. -/
def block (reachability : AwesomeReachability) : Option NetworkHandler :=
  if reachability.connection ≠ .none then reachability.whenReachable
  else reachability.whenUnreachable

/-- What the main queue does with a block: the handler, if any, and the notification. -/
def announce (block : Option NetworkHandler) : List ReportEvent :=
  block.toList.map .called ++ [.AwesomeReachabilityChanged]

/-- The network as its events see it. -/
def network (notifier : Notifier) : NetworkState :=
  ⟨some notifier.reachability, notifier.mainQueue, notifier.posted⟩

/-- One step of the notifier. -/
def step (notifier : Notifier) : Label → Option Notifier
  | .startNetworkStateNotifier setsCallback setsQueue =>
      some (notifier.startNetworkStateNotifier setsCallback setsQueue)
  | .stopNetworkStateNotifier => some notifier.stopNotifier
  | .changed flags => some (notifier.change flags)
  | .compare =>
      if notifier.underway = none ∧ 0 < notifier.checks then
        some { notifier with
          checks := notifier.checks - 1
          underway :=
            if notifier.reachability.previousFlags = some notifier.reachability.flags then none
            else some .compared }
      else none
  | .choose =>
      if notifier.underway = some .compared then
        some { notifier with
          underway := some .handed
          mainQueue := notifier.mainQueue ++ [.call (block notifier.reachability)] }
      else none
  | .keep =>
      if notifier.underway = some .handed then
        some { notifier with
          underway := none
          reachability := { notifier.reachability with
            previousFlags := some notifier.reachability.flags } }
      else none
  | .runMain =>
      match notifier.mainQueue with
      | [] => none
      | .call block :: rest =>
          some { notifier with
            mainQueue := rest ++ block.toList.map .handler
            events := notifier.events ++ announce block }
      | .handler handler :: rest =>
          some { notifier with
            mainQueue := rest
            posted := (notifier.network.runHandler handler).posted }

/-- What a run keeps: the device, the agreement of the registration with
`notifierRunning`, and the handlers wherever a check may choose one. -/
structure Registered (runsOnIOS isRunningOnDevice : Bool) (notifier : Notifier) : Prop where
  runsOnIOS : notifier.reachability.runsOnIOS = runsOnIOS
  isRunningOnDevice : notifier.reachability.isRunningOnDevice = isRunningOnDevice
  cellular : notifier.reachability.allowsCellularConnection = true
  callback : notifier.callbackSet = notifier.reachability.notifierRunning
  queue : notifier.queueSet = notifier.reachability.notifierRunning
  handlers : notifier.reachability.notifierRunning = true ∨ 0 < notifier.checks ∨
      notifier.underway ≠ none →
    notifier.reachability.whenReachable = some .whenReachable ∧
      notifier.reachability.whenUnreachable = some .whenUnreachable

variable {notifier next : Notifier} {label : Label} {runsOnIOS isRunningOnDevice : Bool}

/-- A check that begins was waiting in the serial queue. -/
theorem step_compare (taken : notifier.step .compare = some next) :
    notifier.underway = none ∧ 0 < notifier.checks ∧
      next = { notifier with
        checks := notifier.checks - 1
        underway :=
          if notifier.reachability.previousFlags = some notifier.reachability.flags then none
          else some .compared } := by
  obtain ⟨⟨idle, pending⟩, same⟩ := Option.ite_none_right_eq_some.mp taken
  exact ⟨idle, pending, (Option.some.inj same).symm⟩

/-- A check chooses its handler once it has found a difference. -/
theorem step_choose (taken : notifier.step .choose = some next) :
    notifier.underway = some .compared ∧
      next = { notifier with
        underway := some .handed
        mainQueue := notifier.mainQueue ++ [.call (block notifier.reachability)] } := by
  obtain ⟨compared, same⟩ := Option.ite_none_right_eq_some.mp taken
  exact ⟨compared, (Option.some.inj same).symm⟩

/-- A check keeps the flags once it has handed over its block. -/
theorem step_keep (taken : notifier.step .keep = some next) :
    notifier.underway = some .handed ∧
      next = { notifier with
        underway := none
        reachability := { notifier.reachability with
          previousFlags := some notifier.reachability.flags } } := by
  obtain ⟨handed, same⟩ := Option.ite_none_right_eq_some.mp taken
  exact ⟨handed, (Option.some.inj same).symm⟩

/-- The main queue changes nothing but itself and what was done on it. -/
theorem step_runMain (taken : notifier.step .runMain = some next) :
    (∃ block rest, notifier.mainQueue = .call block :: rest ∧
      next = { notifier with
        mainQueue := rest ++ block.toList.map .handler
        events := notifier.events ++ announce block }) ∨
    ∃ handler rest, notifier.mainQueue = .handler handler :: rest ∧
      next = { notifier with
        mainQueue := rest
        posted := (notifier.network.runHandler handler).posted } := by
  unfold step at taken
  dsimp only at taken
  split at taken
  · cases taken
  · next block rest queued => exact Or.inl ⟨block, rest, queued, (Option.some.inj taken).symm⟩
  · next handler rest queued => exact Or.inr ⟨handler, rest, queued, (Option.some.inj taken).symm⟩

/-- Nothing is registered at first. -/
theorem registered_new (flags : SCNetworkReachabilityFlags) (runsOnIOS isRunningOnDevice : Bool) :
    Registered runsOnIOS isRunningOnDevice (new flags runsOnIOS isRunningOnDevice) := by
  refine ⟨rfl, rfl, rfl, rfl, rfl, ?_⟩
  rintro (running | pending | underway)
  · cases running
  · cases pending
  · exact absurd rfl underway

/-- A stop keeps the registrations in step with the flag. -/
theorem registered_stopNotifier (registered : Registered runsOnIOS isRunningOnDevice notifier) :
    Registered runsOnIOS isRunningOnDevice notifier.stopNotifier := by
  refine ⟨registered.runsOnIOS, registered.isRunningOnDevice, registered.cellular, rfl, rfl, ?_⟩
  rintro (running | waiting)
  · cases running
  · exact registered.handlers (Or.inr waiting)

/-- A start that fails has stopped the notifier, and one that succeeds is registered. -/
theorem registered_startNetworkStateNotifier
    (registered : Registered runsOnIOS isRunningOnDevice notifier)
    (setsCallback setsQueue : Bool) :
    Registered runsOnIOS isRunningOnDevice
      (notifier.startNetworkStateNotifier setsCallback setsQueue) := by
  obtain ⟨ios, device, cellular, callback, queue, _⟩ := registered
  unfold startNetworkStateNotifier startNotifier
  dsimp only
  split
  · exact ⟨ios, device, cellular, callback, queue, fun _ => ⟨rfl, rfl⟩⟩
  · split
    · exact ⟨ios, device, cellular, rfl, rfl, fun _ => ⟨rfl, rfl⟩⟩
    · split
      · exact ⟨ios, device, cellular, rfl, rfl, fun _ => ⟨rfl, rfl⟩⟩
      · exact ⟨ios, device, cellular, rfl, rfl, fun _ => ⟨rfl, rfl⟩⟩

/-- A change keeps the registrations in step with the flag. -/
theorem registered_change (registered : Registered runsOnIOS isRunningOnDevice notifier)
    (flags : SCNetworkReachabilityFlags) :
    Registered runsOnIOS isRunningOnDevice (notifier.change flags) := by
  refine ⟨registered.runsOnIOS, registered.isRunningOnDevice, registered.cellular,
    registered.callback, registered.queue, ?_⟩
  intro needed
  apply registered.handlers
  rcases needed with running | pending | underway
  · exact Or.inl running
  · unfold change at pending
    dsimp only at pending
    split at pending
    · next set =>
        rw [registered.callback, registered.queue, Bool.and_self] at set
        exact Or.inl set
    · exact Or.inr (Or.inl pending)
  · exact Or.inr (Or.inr underway)

/-- Every step keeps the registrations in step with the flag. -/
theorem registered_step (registered : Registered runsOnIOS isRunningOnDevice notifier)
    (taken : notifier.step label = some next) : Registered runsOnIOS isRunningOnDevice next := by
  cases label with
  | startNetworkStateNotifier setsCallback setsQueue =>
      cases Option.some.inj taken
      exact registered_startNetworkStateNotifier registered setsCallback setsQueue
  | stopNetworkStateNotifier =>
      cases Option.some.inj taken
      exact registered_stopNotifier registered
  | changed flags =>
      cases Option.some.inj taken
      exact registered_change registered flags
  | compare =>
      obtain ⟨_, pending, rfl⟩ := step_compare taken
      exact { registered with handlers := fun _ => registered.handlers (Or.inr (Or.inl pending)) }
  | choose =>
      obtain ⟨compared, rfl⟩ := step_choose taken
      have underway := Option.ne_none_iff_exists'.mpr ⟨_, compared⟩
      exact { registered with handlers := fun _ => registered.handlers (Or.inr (Or.inr underway)) }
  | keep =>
      obtain ⟨handed, rfl⟩ := step_keep taken
      have underway := Option.ne_none_iff_exists'.mpr ⟨_, handed⟩
      exact { registered with handlers := fun _ => registered.handlers (Or.inr (Or.inr underway)) }
  | runMain =>
      rcases step_runMain taken with ⟨_, _, _, rfl⟩ | ⟨_, _, _, rfl⟩ <;> exact { registered with }

end Notifier

end AwesomeNetwork
