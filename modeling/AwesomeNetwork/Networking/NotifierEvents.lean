import AwesomeNetwork.Networking.NotifierReports

/-! # The events of the notifier

A handler does not post: it hands a block to the main queue, and the block for a connection
looks at the connection again. When such a block meets a moment without one it posts nothing,
and if the flags are back before they are checked nothing else is reported.
-/

namespace AwesomeNetwork

namespace Notifier

open Transition NetworkState

/-- A block of a handler that runs, with what it looks at. -/
def ran (notifier : Notifier) : Label → List (NetworkHandler × AwesomeReachability)
  | .runMain =>
      match notifier.mainQueue with
      | .handler handler :: _ => [(handler, notifier.reachability)]
      | _ => []
  | _ => []

/-- The events that the blocks post. -/
def postsOf (blocks : List (NetworkHandler × AwesomeReachability)) :
    List AwesomeNetworkStateEvent :=
  blocks.flatMap fun block => handlerEvents block.2 block.1

/-- A block for a connection has found one, and no block for the other handler came after
it. -/
def FoundConnection (blocks : List (NetworkHandler × AwesomeReachability)) : Prop :=
  ∃ earlier found later, blocks = earlier ++ (.whenReachable, found) :: later ∧
    found.connection ≠ .none ∧ ∀ block ∈ later, block.1 = .whenReachable

variable {notifier next source target : Notifier} {label : Label} {labels : List Label}
  {runsOnIOS isRunningOnDevice : Bool} {flags : SCNetworkReachabilityFlags}

/-- A block calls its handler once. -/
theorem called_announce (block : Option NetworkHandler) :
    called (announce block) = block.toList := by
  cases block <;> rfl

/-- A step posts what the block that runs posts, and the blocks run in the order in which
their handlers were called. -/
theorem ran_step (taken : notifier.step label = some next) :
    next.posted = notifier.posted ++ postsOf (notifier.ran label) ∧
      ∃ more, called next.events = called notifier.events ++ more ∧
        handlers notifier.mainQueue ++ more =
          (notifier.ran label).map Prod.fst ++ handlers next.mainQueue := by
  have quiet : ∀ other : Notifier, other.mainQueue = notifier.mainQueue →
      other.events = notifier.events → other.posted = notifier.posted →
      other.posted = notifier.posted ++ postsOf [] ∧
        ∃ more, called other.events = called notifier.events ++ more ∧
          handlers notifier.mainQueue ++ more =
            ([] : List (NetworkHandler × AwesomeReachability)).map Prod.fst ++
              handlers other.mainQueue := by
    intro other queue done posted
    rw [queue, done, posted]
    exact ⟨(List.append_nil _).symm, [], (List.append_nil _).symm, List.append_nil _⟩
  cases label with
  | startNetworkStateNotifier setsCallback setsQueue =>
      cases Option.some.inj taken
      obtain ⟨_, queue, done, posted⟩ :=
        startNetworkStateNotifier_fixed notifier setsCallback setsQueue
      exact quiet _ queue done posted
  | stopNetworkStateNotifier =>
      cases Option.some.inj taken
      exact quiet _ rfl rfl rfl
  | changed flags =>
      cases Option.some.inj taken
      exact quiet _ rfl rfl rfl
  | compare =>
      obtain ⟨_, _, rfl⟩ := step_compare taken
      exact quiet _ rfl rfl rfl
  | choose =>
      obtain ⟨_, rfl⟩ := step_choose taken
      refine ⟨(List.append_nil _).symm, [], (List.append_nil _).symm, ?_⟩
      change _ = handlers (notifier.mainQueue ++ [_])
      rw [handlers_append]
      rfl
  | keep =>
      obtain ⟨_, rfl⟩ := step_keep taken
      exact quiet _ rfl rfl rfl
  | runMain =>
      rcases step_runMain taken with ⟨block, rest, queued, rfl⟩ | ⟨handler, rest, queued, rfl⟩
      · have none : notifier.ran .runMain = [] := by
          simp only [ran, queued]
        have handed : handlers (block.toList.map .handler) = block.toList := by
          cases block <;> rfl
        refine ⟨?_, block.toList, ?_, ?_⟩
        · rw [none]
          exact (List.append_nil _).symm
        · rw [← called_announce]
          exact List.filterMap_append
        · rw [none, queued]
          dsimp only
          rw [handlers_append, handed]
          rfl
      · have one : notifier.ran .runMain = [(handler, notifier.reachability)] := by
          simp only [ran, queued]
        refine ⟨?_, [], (List.append_nil _).symm, ?_⟩
        · rw [one, runHandler_eq rfl handler]
          exact congrArg (notifier.posted ++ ·) (List.append_nil _).symm
        · rw [one, queued]
          exact List.append_nil _

/-- The events are those of the blocks that ran, and each block was handed over by a handler
that was called. -/
theorem ran_run (run : Run step source labels target) :
    target.posted = source.posted ++ postsOf (emitted step ran source labels) ∧
      ∃ more, called target.events = called source.events ++ more ∧
        handlers source.mainQueue ++ more =
          (emitted step ran source labels).map Prod.fst ++ handlers target.mainQueue := by
  induction run with
  | nil => exact ⟨(List.append_nil _).symm, [], (List.append_nil _).symm, List.append_nil _⟩
  | cons taken _ ih =>
      obtain ⟨posted, more, calls, order⟩ := ran_step taken
      obtain ⟨posts, rest, others, later⟩ := ih
      rw [emitted_cons taken]
      refine ⟨?_, more ++ rest, ?_, ?_⟩
      · rw [posts, posted, List.append_assoc]
        exact congrArg _ List.flatMap_append.symm
      · rw [others, calls, List.append_assoc]
      · rw [← List.append_assoc, order, List.append_assoc, later, List.map_append,
          List.append_assoc]

/-- The last event is `connected` when a block has found a connection last. -/
theorem getLast?_postsOf_iff {blocks : List (NetworkHandler × AwesomeReachability)} :
    (postsOf blocks).getLast? = some .connected ↔ FoundConnection blocks := by
  unfold FoundConnection
  induction blocks with
  | nil =>
      refine iff_of_false nofun ?_
      rintro ⟨earlier, found, later, split, _⟩
      exact List.append_ne_nil_of_right_ne_nil earlier (List.cons_ne_nil _ _) split.symm
  | cons block blocks ih =>
      have posts : postsOf (block :: blocks) = handlerEvents block.2 block.1 ++ postsOf blocks :=
        List.flatMap_cons
      rw [posts, List.getLast?_append, Option.or_eq_some_iff, ih]
      constructor
      · rintro (⟨earlier, found, later, rfl, rest⟩ | ⟨silent, connected⟩)
        · exact ⟨block :: earlier, found, later, rfl, rest⟩
        · obtain ⟨handler, found⟩ := block
          have none := List.flatMap_eq_nil_iff.mp (List.getLast?_eq_none_iff.mp silent)
          have connects := connection_of_handlerEvents (List.mem_of_getLast? connected)
          cases handler with
          | whenReachable =>
              refine ⟨[], found, blocks, rfl, connects, fun later member => ?_⟩
              obtain ⟨other, reachability⟩ := later
              cases other with
              | whenReachable => rfl
              | whenUnreachable => cases none _ member
          | whenUnreachable => cases connected
      · rintro ⟨earlier, found, later, split, connects, only⟩
        cases earlier with
        | cons first earlier =>
            cases split
            exact Or.inl ⟨earlier, found, later, rfl, connects, only⟩
        | nil =>
            cases split
            have event : handlerEvents found .whenReachable = [.connected] := if_pos connects
            cases last : (postsOf blocks).getLast? with
            | none => exact Or.inr ⟨rfl, congrArg List.getLast? event⟩
            | some posted =>
                obtain ⟨⟨handler, reachability⟩, member, told⟩ :=
                  List.mem_flatMap.mp (List.mem_of_getLast? last)
                cases only _ member
                have same : posted = .connected := by
                  dsimp only [handlerEvents] at told
                  split at told
                  · exact List.mem_singleton.mp told
                  · cases told
                exact Or.inl (ih.mp (same ▸ last))

/-- The block that runs last is one of the handler for the connection. -/
theorem ran_at_rest (run : Run step (new flags runsOnIOS isRunningOnDevice) labels target)
    (undisturbed : Meets step Undisturbed (new flags runsOnIOS isRunningOnDevice) labels)
    (rest : target.AtRest) (running : target.reachability.notifierRunning = true) :
    ∃ earlier found, emitted step ran (new flags runsOnIOS isRunningOnDevice) labels =
      earlier ++ [(target.reachability.handler, found)] := by
  have last := lastCalled_of_undisturbed run undisturbed rest running
  obtain ⟨_, more, calls, order⟩ := ran_run run
  change called target.events = more at calls
  subst calls
  rw [rest.mainQueue] at order
  change called target.events = _ ++ [] at order
  rw [lastCalled, order, List.append_nil, List.getLast?_map] at last
  obtain ⟨⟨handler, found⟩, final, rfl⟩ := Option.map_eq_some_iff.mp last
  obtain ⟨earlier, split⟩ := List.getLast?_eq_some_iff.mp final
  exact ⟨earlier, found, split⟩

/-- The last event tells the connection when there is none, or when a block has found one.
-/
theorem getLast?_postsOf_eq_event_iff
    (blocks : List (NetworkHandler × AwesomeReachability))
    (reachability found : AwesomeReachability) :
    (postsOf (blocks ++ [(reachability.handler, found)])).getLast? = some reachability.event ↔
      reachability.connection = .none ∨
        FoundConnection (blocks ++ [(reachability.handler, found)]) := by
  by_cases gone : reachability.connection = .none
  · have unreachable : reachability.handler = .whenUnreachable := if_neg (not_not_intro gone)
    have event : reachability.event = .disconnected := if_neg (not_not_intro gone)
    refine iff_of_true ?_ (Or.inl gone)
    rw [unreachable, event, postsOf, List.flatMap_append, List.flatMap_singleton]
    exact List.getLast?_concat
  · have event : reachability.event = .connected := if_pos gone
    rw [event, getLast?_postsOf_iff, or_iff_right gone]

/-- **The last event.** When a running notifier is at rest and no change came while a check
was under way, the event posted last is the one of the connection exactly when there is no
connection, or a block for a connection has found one and no block for the other handler
came after it. -/
theorem last_event_true_iff
    (run : Run step (new flags runsOnIOS isRunningOnDevice) labels target)
    (undisturbed : Meets step Undisturbed (new flags runsOnIOS isRunningOnDevice) labels)
    (rest : target.AtRest) (running : target.reachability.notifierRunning = true) :
    target.posted.getLast? = some target.reachability.event ↔
      target.reachability.connection = .none ∨
        FoundConnection (emitted step ran (new flags runsOnIOS isRunningOnDevice) labels) := by
  obtain ⟨earlier, found, split⟩ := ran_at_rest run undisturbed rest running
  have posted : target.posted = postsOf _ := (ran_run run).1
  rw [posted, split]
  exact getLast?_postsOf_eq_event_iff earlier target.reachability found

/-- The wifi network is reported, goes before the block of its handler runs, and is back
before that is checked. -/
def flapping : List Label :=
  [.startNetworkStateNotifier true true, .compare, .choose, .keep, .runMain, .runMain,
    .changed NetworkState.wifi, .compare, .choose, .keep, .runMain,
    .changed {}, .runMain, .changed NetworkState.wifi, .compare, .compare]

/-- Nothing has told of the network. -/
theorem last_event_true_iff_flapping : ∃ target,
    Run step (new {} true true) flapping target ∧
      target.reachability.connection = .wifi ∧ target.posted = [.disconnected] ∧
      ¬ FoundConnection (emitted step ran (new {} true true) flapping) := by
  have run := run_iff_execute.mpr (rfl : execute step (new {} true true) flapping = some _)
  have undisturbed : Meets step Undisturbed (new {} true true) flapping := by decide
  refine ⟨_, run, rfl, rfl, fun told => ?_⟩
  have stale := (last_event_true_iff run undisturbed ⟨rfl, rfl, rfl⟩ rfl).mpr (Or.inr told)
  cases stale

end Notifier

end AwesomeNetwork
