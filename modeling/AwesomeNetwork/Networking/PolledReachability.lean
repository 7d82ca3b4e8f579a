import AwesomeNetwork.Networking.AwesomeReachability

/-! # Polled and notified reachability

The events are posted two blocks after a change, by blocks that look at the connection
again. When the main queue is drained, the last event is the one of the connection; the
polled property compares the connection with the empty optional and does not tell.
-/

namespace AwesomeNetwork

/-- The event that tells the connection. -/
def AwesomeReachability.event (reachability : AwesomeReachability) : AwesomeNetworkStateEvent :=
  if reachability.connection ≠ .none then .connected else .disconnected

namespace NetworkState

/-- A started notifier of a new reachability object. -/
def started (flags : SCNetworkReachabilityFlags) (runsOnIOS isRunningOnDevice starts : Bool) :
    NetworkState :=
  ({ reachability := some (.new flags runsOnIOS isRunningOnDevice)
     mainQueue := []
     posted := [] } : NetworkState).startNetworkStateNotifier starts

/-- A change was reported. -/
def Reported (network : NetworkState) : Prop :=
  ∃ reachability ∈ network.reachability, reachability.previousFlags ≠ none

/-- The polled reachability says what the last event says. -/
def Agrees (network : NetworkState) : Prop :=
  network.isReachable = true ↔ network.posted.getLast? = some .connected

/-- The flags that the last change left. -/
def lastFlags (flags : SCNetworkReachabilityFlags) : List Label → SCNetworkReachabilityFlags
  | [] => flags
  | .changed flags :: labels => lastFlags flags labels
  | .check :: labels => lastFlags flags labels
  | .runMain :: labels => lastFlags flags labels

/-- The events that a block of a handler posts as long as the connection is kept. -/
def handlerEvents (reachability : AwesomeReachability) :
    NetworkHandler → List AwesomeNetworkStateEvent
  | .whenReachable => if reachability.connection ≠ .none then [.connected] else []
  | .whenUnreachable => [.disconnected]

/-- The blocks of handlers that the main queue holds. -/
def handlers : List ReachabilityBlock → List NetworkHandler
  | [] => []
  | .call _ :: rest => handlers rest
  | .handler handler :: rest => handler :: handlers rest

/-- The handlers that are still to be called. -/
def calls : List ReachabilityBlock → List NetworkHandler
  | [] => []
  | .call block :: rest => block.toList ++ calls rest
  | .handler _ :: rest => calls rest

/-- The events posted once the main queue is drained: the blocks that handlers have handed
over run first, and those of the handlers that are still to be called after them. -/
def drained (network : NetworkState) (reachability : AwesomeReachability) :
    List AwesomeNetworkStateEvent :=
  network.posted ++
    (handlers network.mainQueue ++ calls network.mainQueue).flatMap (handlerEvents reachability)

/-- The handlers are installed, and the flags are those reported, if any were. Draining the
main queue leaves the event of the connection as the last one. -/
structure Settles (network : NetworkState) (reachability : AwesomeReachability) : Prop where
  present : network.reachability = some reachability
  whenReachable : reachability.whenReachable = some .whenReachable
  whenUnreachable : reachability.whenUnreachable = some .whenUnreachable
  running : reachability.previousFlags ≠ none → reachability.notifierRunning = true
  last : ∀ flags, reachability.previousFlags = some flags → reachability.flags = flags ∧
    (network.drained reachability).getLast? = some reachability.event

variable {network next : NetworkState} {reachability : AwesomeReachability} {label : Label}

theorem handlers_append (first second : List ReachabilityBlock) :
    handlers (first ++ second) = handlers first ++ handlers second := by
  induction first with
  | nil => rfl
  | cons block first ih =>
      cases block with
      | call block => exact ih
      | handler handler => exact congrArg (handler :: ·) ih

theorem calls_append (first second : List ReachabilityBlock) :
    calls (first ++ second) = calls first ++ calls second := by
  induction first with
  | nil => rfl
  | cons block first ih =>
      cases block with
      | call block => exact (congrArg (block.toList ++ ·) ih).trans (List.append_assoc ..).symm
      | handler handler => exact ih

/-- A report makes the event of the connection the last one. -/
theorem settles_changed (whenReachable : reachability.whenReachable = some .whenReachable)
    (whenUnreachable : reachability.whenUnreachable = some .whenUnreachable)
    (running : reachability.notifierRunning = true)
    (fresh : reachability.previousFlags ≠ some reachability.flags) :
    Settles (network.reachabilityChanged reachability)
      { reachability with previousFlags := some reachability.flags } := by
  unfold reachabilityChanged
  rw [if_neg fresh]
  refine ⟨rfl, whenReachable, whenUnreachable, fun _ => running, ?_⟩
  rintro flags ⟨⟩
  refine ⟨rfl, ?_⟩
  have event : handlerEvents { reachability with previousFlags := some reachability.flags }
      (if reachability.connection ≠ .none then .whenReachable else .whenUnreachable) =
        [reachability.event] := by
    unfold handlerEvents AwesomeReachability.event
    by_cases connected : reachability.connection ≠ .none
    · rw [if_pos connected, if_pos connected]
      exact if_pos connected
    · rw [if_neg connected, if_neg connected]
  have block : (if reachability.connection ≠ .none then reachability.whenReachable
      else reachability.whenUnreachable) =
        some (if reachability.connection ≠ .none then .whenReachable else .whenUnreachable) := by
    rw [whenReachable, whenUnreachable]
    split <;> rfl
  unfold drained
  dsimp only
  rw [block, handlers_append, calls_append]
  change (network.posted ++ ((handlers network.mainQueue ++ []) ++
    (calls network.mainQueue ++ ([_] ++ []))).flatMap _).getLast? = _
  rw [List.append_nil, List.append_nil, ← List.append_assoc, List.flatMap_append,
    ← List.append_assoc, List.flatMap_singleton, event]
  exact List.getLast?_concat

/-- A report that changes nothing keeps the state, and another one is a change. -/
theorem settles_report (settles : Settles network reachability)
    (running : reachability.notifierRunning = true) (flags : SCNetworkReachabilityFlags) :
    ∃ after, Settles (({ network with
      reachability := some { reachability with flags := flags } } :
        NetworkState).reachabilityChanged { reachability with flags := flags }) after := by
  by_cases same : reachability.previousFlags = some flags
  · refine ⟨reachability, ?_⟩
    have kept : ({ reachability with flags := flags } : AwesomeReachability) = reachability := by
      rw [← (settles.last flags same).1]
    unfold reachabilityChanged
    rw [if_pos same, kept, ← settles.present]
    exact settles
  · exact ⟨_, settles_changed settles.whenReachable settles.whenUnreachable running same⟩

/-- A block of a handler posts what it finds. -/
theorem runHandler_eq (present : network.reachability = some reachability)
    (handler : NetworkHandler) :
    network.runHandler handler =
      { network with posted := network.posted ++ handlerEvents reachability handler } := by
  obtain ⟨object, mainQueue, posted⟩ := network
  change object = some reachability at present
  subst present
  cases handler with
  | whenReachable =>
      unfold runHandler handlerEvents
      dsimp only
      split
      · rfl
      · rw [List.append_nil]
  | whenUnreachable => rfl

/-- The events that a block of the main queue posts are those the drained queue has first. -/
theorem drained_runMain (present : network.reachability = some reachability)
    (taken : network.step .runMain = some next) :
    next.reachability = some reachability ∧
      next.drained reachability = network.drained reachability := by
  obtain ⟨object, mainQueue, posted⟩ := network
  change object = some reachability at present
  subst present
  match mainQueue with
  | [] => cases taken
  | .call block :: rest =>
      cases Option.some.inj taken
      refine ⟨rfl, ?_⟩
      have handed : handlers (block.toList.map .handler) = block.toList := by cases block <;> rfl
      have called : calls (block.toList.map .handler) = [] := by cases block <;> rfl
      unfold drained
      dsimp only
      rw [handlers_append, calls_append, handed, called, List.append_nil, List.append_assoc]
      rfl
  | .handler handler :: rest =>
      cases (runHandler_eq rfl handler).symm.trans (Option.some.inj taken)
      exact ⟨rfl, List.append_assoc ..⟩

/-- Every step keeps the last report due to the connection. -/
theorem settles_step (settles : Settles network reachability)
    (taken : network.step label = some next) : ∃ after, Settles next after := by
  cases label with
  | changed flags =>
      unfold step at taken
      rw [settles.present] at taken
      dsimp only at taken
      split at taken
      next running =>
        cases Option.some.inj taken
        exact settles_report settles running flags
      next stopped =>
        cases Option.some.inj taken
        -- Without a running notifier nothing was reported.
        have silent : reachability.previousFlags = none := by
          by_contra reported
          exact stopped (settles.running reported)
        refine ⟨_, rfl, settles.whenReachable, settles.whenUnreachable, settles.running, ?_⟩
        intro flags reported
        cases silent.symm.trans reported
  | check =>
      unfold step at taken
      rw [settles.present] at taken
      dsimp only at taken
      split at taken
      next running =>
        cases Option.some.inj taken
        have report := settles_report settles running reachability.flags
        rw [← settles.present] at report
        exact report
      next => cases taken
  | runMain =>
      obtain ⟨present, drained⟩ := drained_runMain settles.present taken
      refine ⟨reachability, present, settles.whenReachable, settles.whenUnreachable,
        settles.running, fun flags reported => ?_⟩
      rw [drained]
      exact settles.last flags reported

/-- The network settles from its start. -/
theorem settles_started (flags : SCNetworkReachabilityFlags)
    (runsOnIOS isRunningOnDevice starts : Bool) :
    ∃ reachability, Settles (started flags runsOnIOS isRunningOnDevice starts) reachability :=
  ⟨_, rfl, rfl, rfl, fun reported => absurd rfl reported, nofun⟩

/-- With an object the polled property is always true. -/
theorem isReachable_of_present (present : network.reachability = some reachability) :
    network.isReachable = true := by
  unfold isReachable
  rw [present]
  rfl

variable {flags : SCNetworkReachabilityFlags} {runsOnIOS isRunningOnDevice starts : Bool}
  {labels : List Label}

/-- A step changes the flags and those that were kept, and nothing else. -/
theorem step_reachability (present : network.reachability = some reachability)
    (taken : network.step label = some next) :
    ∃ previous, next.reachability = some { reachability with
      flags := lastFlags reachability.flags [label]
      previousFlags := previous } := by
  have report : ∀ flags, ∃ previous,
      (({ network with reachability := some { reachability with flags := flags } } :
        NetworkState).reachabilityChanged { reachability with flags := flags }).reachability =
          some { reachability with flags := flags, previousFlags := previous } := by
    intro flags
    unfold reachabilityChanged
    split <;> exact ⟨_, rfl⟩
  cases label with
  | changed flags =>
      unfold step at taken
      rw [present] at taken
      dsimp only at taken
      split at taken <;> cases Option.some.inj taken
      · exact report flags
      · exact ⟨_, rfl⟩
  | check =>
      unfold step at taken
      rw [present] at taken
      dsimp only at taken
      split at taken <;> cases taken
      have kept := report reachability.flags
      rw [← present] at kept
      exact kept
  | runMain => exact ⟨_, (drained_runMain present taken).1⟩

/-- A run changes the flags and those that were kept, and nothing else. -/
theorem run_reachability (run : Transition.Run step network labels next)
    (present : network.reachability = some reachability) :
    ∃ previous, next.reachability = some { reachability with
      flags := lastFlags reachability.flags labels
      previousFlags := previous } := by
  induction run generalizing reachability with
  | nil => exact ⟨_, present⟩
  | @cons _ _ _ label _ taken _ ih =>
      obtain ⟨_, moved⟩ := step_reachability present taken
      obtain ⟨previous, reached⟩ := ih moved
      refine ⟨previous, reached.trans ?_⟩
      cases label <;> rfl

/-- The last event is the one of the connection once the main queue is drained. -/
theorem last_event
    (run : Transition.Run step (started flags runsOnIOS isRunningOnDevice starts) labels network)
    (drained : network.mainQueue = []) (reported : Reported network) :
    ∃ reachability, network.reachability = some reachability ∧
      network.posted.getLast? = some reachability.event := by
  have settled : ∃ reachability, Settles network reachability := by
    apply run.preserves _ (settles_started flags runsOnIOS isRunningOnDevice starts)
    rintro state label next ⟨_, settles⟩ taken
    exact settles_step settles taken
  obtain ⟨reachability, settles⟩ := settled
  refine ⟨reachability, settles.present, ?_⟩
  obtain ⟨other, present, changed⟩ := reported
  cases Option.some.inj (settles.present.symm.trans present)
  obtain ⟨previous, same⟩ := Option.ne_none_iff_exists'.mp changed
  have last := (settles.last previous same).2
  unfold NetworkState.drained at last
  rw [drained] at last
  simpa [handlers, calls] using last

/-- **Polled and notified reachability.** Once the main queue is drained, they agree exactly
when the last change left a connection. -/
theorem agrees_iff
    (run : Transition.Run step (started flags runsOnIOS isRunningOnDevice starts) labels network)
    (drained : network.mainQueue = []) (reported : Reported network) :
    Agrees network ↔
      (AwesomeReachability.new (lastFlags flags labels) runsOnIOS isRunningOnDevice).connection ≠
        .none := by
  obtain ⟨reachability, present, last⟩ := last_event run drained reported
  obtain ⟨previous, reached⟩ := run_reachability run rfl
  cases Option.some.inj (present.symm.trans reached)
  have event : ∀ object : AwesomeReachability,
      object.event = .connected ↔ object.connection ≠ .none := by
    intro object
    unfold AwesomeReachability.event
    split <;> simp_all
  unfold Agrees
  rw [isReachable_of_present present, last]
  refine Iff.trans ?_ (event _)
  exact ⟨fun agrees => Option.some.inj (agrees.mp rfl),
    fun same => iff_of_true rfl (congrArg some same)⟩

/-- The flags of a wifi network. -/
def wifi : SCNetworkReachabilityFlags where
  reachable := true

/-- The main queue runs the call of a handler and what it hands over. -/
def drains : List Label := [.runMain, .runMain]

/-- Without a connection the last event is `disconnected`, and the polled property is true. -/
theorem isReachable_without_connection : ∃ network,
    Transition.Run step (started wifi true true true)
      (.check :: drains ++ .changed {} :: drains) network ∧
    network.mainQueue = [] ∧ Reported network ∧
    network.posted.getLast? = some .disconnected ∧ network.isReachable = true ∧
    ¬ Agrees network := by
  have run := Transition.run_iff_execute.mpr (rfl : Transition.execute step
    (started wifi true true true) (.check :: drains ++ .changed {} :: drains) = some _)
  exact ⟨_, run, rfl, ⟨_, rfl, nofun⟩, rfl, rfl, by unfold Agrees; decide⟩

/-- A wifi network comes and is reported. -/
theorem agrees_iff_wifi : ∃ network,
    Transition.Run step (started {} true true true)
      (.check :: drains ++ .changed wifi :: drains) network ∧
    (Agrees network ↔ (AwesomeReachability.new wifi true true).connection ≠ .none) := by
  have run := Transition.run_iff_execute.mpr (rfl : Transition.execute step
    (started {} true true true) (.check :: drains ++ .changed wifi :: drains) = some _)
  exact ⟨_, run, agrees_iff run rfl ⟨_, rfl, nofun⟩⟩

end NetworkState

end AwesomeNetwork
