import AwesomeNetwork.Networking.PolledReachability

/-! # The last network event

Two blocks of the main queue lie between a change and its event, and further changes may
come before either of them. The first kind of handler looks at the connection again and may
post nothing, the second posts in any case; the event that is posted last is nevertheless
the one of the connection.
-/

namespace AwesomeNetwork

namespace NetworkState

/-- There is a connection. -/
def Connected (network : NetworkState) : Prop :=
  ∃ reachability ∈ network.reachability, reachability.connection ≠ .none

/-- The events that a step posts. -/
def posts (network : NetworkState) (label : Label) : List AwesomeNetworkStateEvent :=
  match network.step label with
  | some next => next.posted.drop network.posted.length
  | none => []

/-- A step posts `connected` only with a connection. -/
def PostsTruly (network : NetworkState) (label : Label) : Prop :=
  .connected ∈ network.posts label → network.Connected

variable {network next : NetworkState} {reachability : AwesomeReachability} {label : Label}

/-- A check posts nothing itself. -/
@[simp] theorem posted_reachabilityChanged (network : NetworkState)
    (reachability : AwesomeReachability) :
    (network.reachabilityChanged reachability).posted = network.posted := by
  unfold reachabilityChanged
  split <;> rfl

/-- Only a block that a handler has handed over posts an event. -/
theorem step_posted (present : network.reachability = some reachability)
    (taken : network.step label = some next) :
    next.posted = network.posted ∨
      ∃ handler, next.posted = network.posted ++ handlerEvents reachability handler := by
  cases label with
  | changed flags =>
      unfold step at taken
      rw [present] at taken
      dsimp only at taken
      split at taken <;> cases Option.some.inj taken
      · exact Or.inl (posted_reachabilityChanged ..)
      · exact Or.inl rfl
  | check =>
      unfold step at taken
      rw [present] at taken
      dsimp only at taken
      split at taken <;> cases taken
      exact Or.inl (posted_reachabilityChanged ..)
  | runMain =>
      unfold step at taken
      dsimp only at taken
      split at taken
      · cases taken
      · cases Option.some.inj taken
        exact Or.inl rfl
      next handler rest _ =>
        have same : ({ network with mainQueue := rest } : NetworkState).reachability =
          some reachability := present
        cases (runHandler_eq same handler).symm.trans (Option.some.inj taken)
        exact Or.inr ⟨handler, rfl⟩

/-- A step posts what is new in the log. -/
theorem posts_eq (taken : network.step label = some next)
    {events : List AwesomeNetworkStateEvent} (posted : next.posted = network.posted ++ events) :
    network.posts label = events := by
  unfold posts
  rw [taken]
  dsimp only
  rw [posted, List.drop_left]

/-- The events posted are those of before and those that the step posts. -/
theorem posted_step (present : network.reachability = some reachability)
    (taken : network.step label = some next) :
    next.posted = network.posted ++ network.posts label := by
  rcases step_posted present taken with kept | ⟨handler, posted⟩
  · rw [posts_eq taken (kept.trans (List.append_nil _).symm), List.append_nil]
    exact kept
  · rw [posts_eq taken posted]
    exact posted

/-- `connected` is posted only with a connection. -/
theorem connection_of_handlerEvents {handler : NetworkHandler}
    (connected : .connected ∈ handlerEvents reachability handler) :
    reachability.connection ≠ .none := by
  intro unreachable
  cases handler with
  | whenReachable =>
      unfold handlerEvents at connected
      rw [if_neg (not_not_intro unreachable)] at connected
      cases connected
  | whenUnreachable => cases List.mem_singleton.mp connected

/-- Every step posts truly. -/
theorem postsTruly_step (present : network.reachability = some reachability)
    (taken : network.step label = some next) : network.PostsTruly label := by
  intro connected
  rcases step_posted present taken with kept | ⟨handler, posted⟩
  · rw [posts_eq taken (kept.trans (List.append_nil _).symm)] at connected
    cases connected
  · rw [posts_eq taken posted] at connected
    exact ⟨reachability, present, connection_of_handlerEvents connected⟩

variable {flags : SCNetworkReachabilityFlags} {runsOnIOS isRunningOnDevice starts : Bool}
  {labels : List Label}

/-- The reachability stays installed throughout a run. -/
theorem reachability_of_run
    (run : Transition.Run step (started flags runsOnIOS isRunningOnDevice starts) labels network) :
    ∃ reachability, network.reachability = some reachability := by
  obtain ⟨_, reached⟩ := run_reachability run rfl
  exact ⟨_, reached⟩

/-- The events posted in the end are those of the beginning and those of the steps. -/
theorem posted_run {source : NetworkState} (run : Transition.Run step source labels network)
    (present : source.reachability = some reachability) :
    network.posted = source.posted ++ Transition.emitted step posts source labels := by
  induction run generalizing reachability with
  | nil => exact (List.append_nil _).symm
  | cons taken _ ih =>
      obtain ⟨_, moved⟩ := step_reachability present taken
      rw [ih moved, posted_step present taken, Transition.emitted_cons taken, List.append_assoc]

/-- **The last network event.** In every run each `connected` is posted at a moment with a
connection, and once the main queue is drained and a change was reported, the event posted
last is the one of the connection. -/
theorem last_event_never_stale
    (run : Transition.Run step (started flags runsOnIOS isRunningOnDevice starts) labels network) :
    (network.mainQueue = [] → Reported network →
      ∃ reachability, network.reachability = some reachability ∧
        network.posted.getLast? =
          some (if reachability.connection ≠ .none then .connected else .disconnected)) ∧
    network.posted = Transition.emitted step posts
      (started flags runsOnIOS isRunningOnDevice starts) labels ∧
    Transition.Meets step PostsTruly (started flags runsOnIOS isRunningOnDevice starts) labels := by
  refine ⟨fun drained reported => last_event run drained reported, posted_run run rfl, ?_⟩
  apply Transition.Meets.of_split run
  intro before label after middle next _ reached taken
  obtain ⟨reachability, present⟩ := reachability_of_run reached
  exact postsTruly_step present taken

/-- The wifi network goes before the first block of the handler has run and comes back
before the second: nothing is posted for the first change, and `disconnected`
while there is a connection. -/
theorem last_event_never_stale_flapping : ∃ network,
    Transition.Run step (started wifi true true true)
      (.check :: .runMain :: .changed {} :: drains ++ .changed wifi :: .runMain :: drains)
      network ∧
    network.posted = [.disconnected, .connected] ∧
    ∃ reachability, network.reachability = some reachability ∧
      network.posted.getLast? =
        some (if reachability.connection ≠ .none then .connected else .disconnected) := by
  have run := Transition.run_iff_execute.mpr (rfl : Transition.execute step
    (started wifi true true true)
    (.check :: .runMain :: .changed {} :: drains ++ .changed wifi :: .runMain :: drains) = some _)
  exact ⟨_, run, rfl, (last_event_never_stale run).1 rfl ⟨_, rfl, nofun⟩⟩

end NetworkState

end AwesomeNetwork
