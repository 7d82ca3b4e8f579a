import Mathlib.Data.List.Destutter
import AwesomeNetwork.Networking.Notifier

/-! # The reports of the notifier

As long as no change comes while a check is under way, the reports are the flags that the
checks find, without repetitions, across stops and restarts. Otherwise the handler called
last tells the connection exactly when the choice and the flags kept agree about it.
-/

namespace AwesomeNetwork

/-- The handler for a connection. -/
def AwesomeReachability.handler (reachability : AwesomeReachability) : NetworkHandler :=
  if reachability.connection ≠ .none then .whenReachable else .whenUnreachable

namespace Notifier

open Transition

/-- The flags that a check compares. -/
def observed (notifier : Notifier) : Label → List SCNetworkReachabilityFlags
  | .compare => [notifier.reachability.flags]
  | _ => []

/-- The flags for which a check chooses a handler. -/
def chosen (notifier : Notifier) : Label → List SCNetworkReachabilityFlags
  | .choose => [notifier.reachability.flags]
  | _ => []

/-- The flags that a check keeps. -/
def kept (notifier : Notifier) : Label → List SCNetworkReachabilityFlags
  | .keep => [notifier.reachability.flags]
  | _ => []

/-- No change comes while a check is under way. -/
def Undisturbed (notifier : Notifier) : Label → Prop
  | .changed _ => notifier.underway = none
  | _ => True

instance (notifier : Notifier) : (label : Label) → Decidable (notifier.Undisturbed label)
  | .changed _ => inferInstanceAs (Decidable (notifier.underway = none))
  | .startNetworkStateNotifier _ _ | .stopNetworkStateNotifier | .compare | .choose | .keep
  | .runMain => .isTrue trivial

/-- Neither a check is waiting or under way nor a block of the main queue. -/
structure AtRest (notifier : Notifier) : Prop where
  checks : notifier.checks = 0
  underway : notifier.underway = none
  mainQueue : notifier.mainQueue = []

/-- The report of some flags on a device. -/
def report (runsOnIOS isRunningOnDevice : Bool) (flags : SCNetworkReachabilityFlags) :
    List ReportEvent :=
  announce (some (AwesomeReachability.new flags runsOnIOS isRunningOnDevice).handler)

/-- The elements that differ from the one before, the first from the given one. -/
def fresh {Value : Type*} [DecidableEq Value] : Option Value → List Value → List Value
  | _, [] => []
  | previous, value :: values =>
      if previous = some value then fresh previous values
      else value :: fresh (some value) values

/-- The fresh values after one that is known. -/
theorem cons_fresh {Value : Type*} [DecidableEq Value] (previous : Value) (values : List Value) :
    previous :: fresh (some previous) values = values.destutter' (· ≠ ·) previous := by
  induction values generalizing previous with
  | nil => rfl
  | cons value values ih =>
      rw [List.destutter'_cons, fresh]
      by_cases same : previous = value
      · rw [if_pos (congrArg some same), if_neg (not_not_intro same)]
        exact ih previous
      · rw [if_neg (same ∘ Option.some.inj), if_pos same, ih value]

/-- With nothing known, the fresh values are those without repetitions. -/
theorem fresh_none {Value : Type*} [DecidableEq Value] (values : List Value) :
    fresh none values = values.destutter (· ≠ ·) := by
  cases values with
  | nil => rfl
  | cons value values =>
      rw [List.destutter_cons', ← cons_fresh, fresh]
      exact if_neg nofun

variable {notifier next source target : Notifier} {label : Label} {labels : List Label}
  {runsOnIOS isRunningOnDevice : Bool}

/-- The blocks of the main queue that call a handler. -/
def waiting : List ReachabilityBlock → List (Option NetworkHandler)
  | [] => []
  | .call block :: rest => block :: waiting rest
  | .handler _ :: rest => waiting rest

theorem waiting_append (first second : List ReachabilityBlock) :
    waiting (first ++ second) = waiting first ++ waiting second := by
  induction first with
  | nil => rfl
  | cons queued first ih =>
      cases queued with
      | call block => exact congrArg (block :: ·) ih
      | handler handler => exact ih

/-- A block of a handler holds no report. -/
theorem waiting_handler (block : Option NetworkHandler) :
    waiting (block.toList.map .handler) = [] := by
  cases block <;> rfl

/-- What the main queue has done and will do for the reports handed to it. -/
def announced (notifier : Notifier) : List ReportEvent :=
  notifier.events ++ (waiting notifier.mainQueue).flatMap announce

/-- The handler that a check chooses. -/
theorem block_eq (registered : Registered runsOnIOS isRunningOnDevice notifier)
    (compared : notifier.underway = some .compared) :
    block notifier.reachability = some
      (AwesomeReachability.new notifier.reachability.flags runsOnIOS
        isRunningOnDevice).handler := by
  obtain ⟨rfl, rfl, cellular, _, _, handlers⟩ := registered
  obtain ⟨reachable, unreachable⟩ :=
    handlers (Or.inr (Or.inr (Option.ne_none_iff_exists'.mpr ⟨_, compared⟩)))
  have same : (AwesomeReachability.new notifier.reachability.flags
      notifier.reachability.runsOnIOS notifier.reachability.isRunningOnDevice).connection =
        notifier.reachability.connection := by
    unfold AwesomeReachability.connection
    rw [cellular]
    rfl
  unfold block AwesomeReachability.handler
  rw [same, reachable, unreachable]
  split <;> rfl

/-- A start leaves alone what checks look at and what the main queue does. -/
theorem startNetworkStateNotifier_fixed (notifier : Notifier) (setsCallback setsQueue : Bool) :
    let started := notifier.startNetworkStateNotifier setsCallback setsQueue
    (started.underway = notifier.underway ∧
      started.reachability.flags = notifier.reachability.flags ∧
      started.reachability.previousFlags = notifier.reachability.previousFlags) ∧
    started.mainQueue = notifier.mainQueue ∧ started.events = notifier.events ∧
      started.posted = notifier.posted := by
  unfold startNetworkStateNotifier startNotifier
  dsimp only
  split
  · exact ⟨⟨rfl, rfl, rfl⟩, rfl, rfl, rfl⟩
  · split
    · exact ⟨⟨rfl, rfl, rfl⟩, rfl, rfl, rfl⟩
    · split <;> exact ⟨⟨rfl, rfl, rfl⟩, rfl, rfl, rfl⟩

/-- Every report is handed to the main queue once and done there in order. -/
theorem announced_step (registered : Registered runsOnIOS isRunningOnDevice notifier)
    (taken : notifier.step label = some next) :
    next.announced = notifier.announced ++
      (notifier.chosen label).flatMap (report runsOnIOS isRunningOnDevice) := by
  have quiet : ∀ other : Notifier, other.events = notifier.events →
      other.mainQueue = notifier.mainQueue → other.announced = notifier.announced ++ [] := by
    intro other events queue
    rw [List.append_nil, announced, announced, events, queue]
  cases label with
  | startNetworkStateNotifier setsCallback setsQueue =>
      cases Option.some.inj taken
      obtain ⟨_, queue, events, _⟩ :=
        startNetworkStateNotifier_fixed notifier setsCallback setsQueue
      exact quiet _ events queue
  | stopNetworkStateNotifier =>
      cases Option.some.inj taken
      exact quiet _ rfl rfl
  | changed flags =>
      cases Option.some.inj taken
      exact quiet _ rfl rfl
  | compare =>
      obtain ⟨_, _, rfl⟩ := step_compare taken
      exact quiet _ rfl rfl
  | choose =>
      obtain ⟨compared, rfl⟩ := step_choose taken
      unfold announced
      dsimp only
      rw [waiting_append, List.flatMap_append, block_eq registered compared, List.append_assoc]
      rfl
  | keep =>
      obtain ⟨_, rfl⟩ := step_keep taken
      exact quiet _ rfl rfl
  | runMain =>
      rcases step_runMain taken with ⟨block, rest, queued, rfl⟩ | ⟨handler, rest, queued, rfl⟩
      · unfold announced
        dsimp only
        rw [queued, waiting_append, waiting_handler, List.append_nil, List.append_assoc]
        exact (List.append_nil _).symm
      · unfold announced
        dsimp only
        rw [queued]
        exact (List.append_nil _).symm

/-- In every run the reports are those of the flags that were chosen. -/
theorem announced_run (run : Run step source labels target)
    (registered : Registered runsOnIOS isRunningOnDevice source) :
    target.announced = source.announced ++
      (emitted step chosen source labels).flatMap (report runsOnIOS isRunningOnDevice) := by
  induction run with
  | nil => exact (List.append_nil _).symm
  | cons taken _ ih =>
      rw [ih (registered_step registered taken), announced_step registered taken,
        emitted_cons taken, List.flatMap_append, List.append_assoc]

/-- The flags that will be the last ones kept once the check under way is through. -/
def last (notifier : Notifier) : Option SCNetworkReachabilityFlags :=
  if notifier.underway = none then notifier.reachability.previousFlags
  else some notifier.reachability.flags

/-- The flags for which the check under way has still to choose a handler. -/
def toChoose (notifier : Notifier) : List SCNetworkReachabilityFlags :=
  if notifier.underway = some .compared then [notifier.reachability.flags] else []

/-- The flags that the check under way has still to keep. -/
def toKeep (notifier : Notifier) : List SCNetworkReachabilityFlags :=
  if notifier.underway = none then [] else [notifier.reachability.flags]

/-- What a step chooses and keeps are the next of the flags that are observed afresh. -/
theorem fresh_step (undisturbed : notifier.Undisturbed label)
    (taken : notifier.step label = some next) (values : List SCNetworkReachabilityFlags) :
    notifier.toChoose ++ fresh notifier.last (notifier.observed label ++ values) =
        notifier.chosen label ++ (next.toChoose ++ fresh next.last values) ∧
      notifier.toKeep ++ fresh notifier.last (notifier.observed label ++ values) =
        notifier.kept label ++ (next.toKeep ++ fresh next.last values) := by
  have looks : ∀ other : Notifier, other.underway = notifier.underway →
      other.reachability.flags = notifier.reachability.flags →
      other.reachability.previousFlags = notifier.reachability.previousFlags →
      (notifier.toChoose ++ fresh notifier.last values =
          other.toChoose ++ fresh other.last values ∧
        notifier.toKeep ++ fresh notifier.last values =
          other.toKeep ++ fresh other.last values) := by
    intro other underway flags previous
    unfold toChoose toKeep last
    rw [underway, flags, previous]
    exact ⟨rfl, rfl⟩
  cases label with
  | startNetworkStateNotifier setsCallback setsQueue =>
      cases Option.some.inj taken
      obtain ⟨⟨underway, flags, previous⟩, _⟩ :=
        startNetworkStateNotifier_fixed notifier setsCallback setsQueue
      exact looks _ underway flags previous
  | stopNetworkStateNotifier =>
      cases Option.some.inj taken
      exact looks _ rfl rfl rfl
  | changed flags =>
      cases Option.some.inj taken
      have idle : notifier.underway = none := undisturbed
      have idle' : (notifier.change flags).underway = none := idle
      unfold toChoose toKeep last
      rw [idle, idle']
      exact ⟨rfl, rfl⟩
  | compare =>
      obtain ⟨idle, _, rfl⟩ := step_compare taken
      unfold toChoose toKeep last observed
      rw [if_pos idle, if_pos idle, idle, if_neg nofun]
      by_cases same : notifier.reachability.previousFlags = some notifier.reachability.flags
      · simp only [same, ↓reduceIte]
        exact ⟨congrArg _ (if_pos rfl), if_pos rfl⟩
      · simp only [same, ↓reduceIte]
        exact ⟨if_neg same, if_neg same⟩
  | choose =>
      obtain ⟨compared, rfl⟩ := step_choose taken
      unfold toChoose toKeep last observed chosen
      rw [compared]
      exact ⟨rfl, rfl⟩
  | keep =>
      obtain ⟨handed, rfl⟩ := step_keep taken
      unfold toChoose toKeep last observed kept
      rw [handed]
      exact ⟨rfl, rfl⟩
  | runMain =>
      rcases step_runMain taken with ⟨_, _, _, rfl⟩ | ⟨_, _, _, rfl⟩ <;> exact looks _ rfl rfl rfl

/-- Without a change during a check, the flags chosen and kept are the fresh ones. -/
theorem fresh_run (run : Run step source labels target)
    (undisturbed : Meets step Undisturbed source labels) (idle : target.underway = none) :
    source.toChoose ++ fresh source.last (emitted step observed source labels) =
        emitted step chosen source labels ∧
      source.toKeep ++ fresh source.last (emitted step observed source labels) =
        emitted step kept source labels := by
  induction run with
  | nil =>
      unfold toChoose toKeep
      rw [idle]
      exact ⟨rfl, rfl⟩
  | cons taken _ ih =>
      obtain ⟨choices, keeps⟩ := ih (undisturbed.2 _ taken) idle
      rw [emitted_cons taken, emitted_cons taken, emitted_cons taken, ← choices, ← keeps]
      exact fresh_step undisturbed.1 taken _

variable {flags : SCNetworkReachabilityFlags}

/-- **The reports.** As long as no change comes while a check is under way, the flags
reported are those that the checks find, without repetitions, over all stops and restarts;
the handlers are called for them in order, each before its notification. -/
theorem reports_eq_destutter
    (run : Run step (new flags runsOnIOS isRunningOnDevice) labels target)
    (undisturbed : Meets step Undisturbed (new flags runsOnIOS isRunningOnDevice) labels)
    (idle : target.underway = none) :
    let found :=
      (emitted step observed (new flags runsOnIOS isRunningOnDevice) labels).destutter (· ≠ ·)
    emitted step chosen (new flags runsOnIOS isRunningOnDevice) labels = found ∧
      emitted step kept (new flags runsOnIOS isRunningOnDevice) labels = found ∧
      target.announced = found.flatMap (report runsOnIOS isRunningOnDevice) ∧
      (target.mainQueue = [] →
        target.events = found.flatMap (report runsOnIOS isRunningOnDevice)) := by
  obtain ⟨choices, keeps⟩ := fresh_run run undisturbed idle
  change fresh none _ = _ at choices
  change fresh none _ = _ at keeps
  rw [fresh_none] at choices keeps
  have announces := announced_run run (registered_new flags runsOnIOS isRunningOnDevice)
  rw [← choices] at announces
  refine ⟨choices.symm, keeps.symm, announces, fun drained => ?_⟩
  have done : target.announced = target.events := by
    unfold announced
    rw [drained]
    exact List.append_nil _
  rw [← done]
  exact announces

/-- A network is reported, and once more found after a restart. -/
def restarted : List Label :=
  .changed NetworkState.wifi :: .startNetworkStateNotifier true true ::
    [.compare, .choose, .keep, .stopNetworkStateNotifier, .startNetworkStateNotifier true true,
      .compare, .runMain, .runMain]

/-- A notifier that is stopped and started again. -/
theorem reports_eq_destutter_restarted : ∃ target,
    Run step (new {} true true) restarted target ∧
      target.events = report true true NetworkState.wifi := by
  have run := run_iff_execute.mpr
    (rfl : execute step (new {} true true) restarted = some _)
  have undisturbed : Meets step Undisturbed (new {} true true) restarted := by decide
  exact ⟨_, run, (reports_eq_destutter run undisturbed rfl).2.2.2 rfl⟩

/-- The handlers that were called. -/
def called (events : List ReportEvent) : List NetworkHandler :=
  events.filterMap fun
    | .called handler => some handler
    | .AwesomeReachabilityChanged => none

/-- The last handler that was called. -/
def lastCalled (events : List ReportEvent) : Option NetworkHandler := (called events).getLast?

/-- These flags are a connection on the device. -/
def Connects (runsOnIOS isRunningOnDevice : Bool) (flags : SCNetworkReachabilityFlags) : Prop :=
  (AwesomeReachability.new flags runsOnIOS isRunningOnDevice).connection ≠ .none

/-- Two reachabilities have one handler when both or neither connect. -/
theorem handler_eq_iff (first second : AwesomeReachability) :
    first.handler = second.handler ↔ (first.connection ≠ .none ↔ second.connection ≠ .none) := by
  unfold AwesomeReachability.handler
  by_cases one : first.connection = .none <;> by_cases two : second.connection = .none <;>
    simp [one, two]

theorem lastCalled_concat (found : List SCNetworkReachabilityFlags) :
    lastCalled ((found ++ [flags]).flatMap (report runsOnIOS isRunningOnDevice)) =
      some (AwesomeReachability.new flags runsOnIOS isRunningOnDevice).handler := by
  unfold lastCalled called
  rw [List.flatMap_append, List.flatMap_singleton, List.filterMap_append]
  exact List.getLast?_concat

/-- While the notifier runs, flags that were not kept yet have a check to come. -/
def Current (notifier : Notifier) : Prop :=
  notifier.reachability.notifierRunning = true →
    notifier.reachability.previousFlags = some notifier.reachability.flags ∨
      0 < notifier.checks ∨ notifier.underway ≠ none

/-- A start keeps the notifier current. -/
theorem current_startNetworkStateNotifier (current : notifier.Current)
    (setsCallback setsQueue : Bool) :
    (notifier.startNetworkStateNotifier setsCallback setsQueue).Current := by
  unfold startNetworkStateNotifier startNotifier
  dsimp only
  split
  · exact current
  · split
    · exact nofun
    · split
      · exact nofun
      · exact fun _ => Or.inr (Or.inl (Nat.succ_pos _))

/-- Every step keeps the notifier current. -/
theorem current_step (registered : Registered runsOnIOS isRunningOnDevice notifier)
    (current : notifier.Current) (taken : notifier.step label = some next) : next.Current := by
  cases label with
  | startNetworkStateNotifier setsCallback setsQueue =>
      cases Option.some.inj taken
      exact current_startNetworkStateNotifier current setsCallback setsQueue
  | stopNetworkStateNotifier =>
      cases Option.some.inj taken
      exact nofun
  | changed flags =>
      cases Option.some.inj taken
      intro running
      have called : (notifier.callbackSet && notifier.queueSet) = true := by
        rw [registered.callback, registered.queue, Bool.and_self]
        exact running
      have more : (notifier.change flags).checks = notifier.checks + 1 := if_pos called
      rw [more]
      exact Or.inr (Or.inl (Nat.succ_pos _))
  | compare =>
      obtain ⟨_, _, rfl⟩ := step_compare taken
      intro _
      dsimp only
      split
      · next same => exact Or.inl same
      · exact Or.inr (Or.inr (Option.some_ne_none _))
  | choose =>
      obtain ⟨_, rfl⟩ := step_choose taken
      exact fun _ => Or.inr (Or.inr (Option.some_ne_none _))
  | keep =>
      obtain ⟨_, rfl⟩ := step_keep taken
      exact fun _ => Or.inl rfl
  | runMain =>
      rcases step_runMain taken with ⟨_, _, _, rfl⟩ | ⟨_, _, _, rfl⟩ <;> exact current

/-- Only a check that keeps the flags changes those that were kept. -/
theorem previousFlags_step (taken : notifier.step label = some next) :
    next.reachability.previousFlags =
      ((notifier.kept label).getLast?).or notifier.reachability.previousFlags := by
  cases label with
  | startNetworkStateNotifier setsCallback setsQueue =>
      cases Option.some.inj taken
      exact (startNetworkStateNotifier_fixed notifier setsCallback setsQueue).1.2.2
  | stopNetworkStateNotifier =>
      cases Option.some.inj taken
      rfl
  | changed flags =>
      cases Option.some.inj taken
      rfl
  | compare =>
      obtain ⟨_, _, rfl⟩ := step_compare taken
      rfl
  | choose =>
      obtain ⟨_, rfl⟩ := step_choose taken
      rfl
  | keep =>
      obtain ⟨_, rfl⟩ := step_keep taken
      rfl
  | runMain =>
      rcases step_runMain taken with ⟨_, _, _, rfl⟩ | ⟨_, _, _, rfl⟩ <;> rfl

/-- The flags kept are those of the last check, if there was one. -/
theorem previousFlags_run (run : Run step source labels target) :
    target.reachability.previousFlags =
      ((emitted step kept source labels).getLast?).or source.reachability.previousFlags := by
  induction run with
  | nil => rfl
  | cons taken _ ih =>
      rw [ih, previousFlags_step taken, emitted_cons taken, List.getLast?_append, Option.or_assoc]

/-- A check keeps flags only after it has chosen a handler. -/
theorem chosen_of_kept (run : Run step source labels target)
    (keeps : emitted step kept source labels ≠ []) :
    source.underway = some .handed ∨ emitted step chosen source labels ≠ [] := by
  induction run with
  | nil => exact absurd rfl keeps
  | @cons source middle target label labels taken _ ih =>
      rw [emitted_cons taken] at keeps ⊢
      by_cases later : emitted step kept middle labels = []
      · left
        rw [later, List.append_nil] at keeps
        cases label with
        | keep => exact (step_keep taken).1
        | startNetworkStateNotifier | stopNetworkStateNotifier | changed | compare | choose
        | runMain => exact absurd rfl keeps
      · rcases ih later with handed | chooses
        · cases label with
          | startNetworkStateNotifier setsCallback setsQueue =>
              cases Option.some.inj taken
              left
              rw [← handed]
              exact (startNetworkStateNotifier_fixed source setsCallback setsQueue).1.1.symm
          | stopNetworkStateNotifier =>
              cases Option.some.inj taken
              exact Or.inl handed
          | changed flags =>
              cases Option.some.inj taken
              exact Or.inl handed
          | compare =>
              obtain ⟨_, _, rfl⟩ := step_compare taken
              dsimp only at handed
              split at handed <;> cases handed
          | choose => exact Or.inr (List.cons_ne_nil _ _)
          | keep =>
              obtain ⟨_, rfl⟩ := step_keep taken
              cases handed
          | runMain =>
              rcases step_runMain taken with ⟨_, _, _, rfl⟩ | ⟨_, _, _, rfl⟩ <;>
                exact Or.inl handed
        · exact Or.inr (List.append_ne_nil_of_right_ne_nil _ chooses)

/-- The handler depends on the flags only. -/
theorem handler_eq (registered : Registered runsOnIOS isRunningOnDevice notifier) :
    notifier.reachability.handler = (AwesomeReachability.new notifier.reachability.flags
      runsOnIOS isRunningOnDevice).handler := by
  obtain ⟨rfl, rfl, cellular, _, _, _⟩ := registered
  unfold AwesomeReachability.handler AwesomeReachability.connection
  rw [cellular]
  rfl

/-- In every run the registrations are in step with the flag. -/
theorem registered_run (run : Run step (new flags runsOnIOS isRunningOnDevice) labels target) :
    Registered runsOnIOS isRunningOnDevice target :=
  run.preserves (fun _ _ _ before taken => registered_step before taken)
    (registered_new flags runsOnIOS isRunningOnDevice)

/-- The flags of a running notifier at rest are the last that a check kept. -/
theorem kept_at_rest (run : Run step (new flags runsOnIOS isRunningOnDevice) labels target)
    (rest : target.AtRest) (running : target.reachability.notifierRunning = true) :
    (emitted step kept (new flags runsOnIOS isRunningOnDevice) labels).getLast? =
      some target.reachability.flags := by
  have settled : Registered runsOnIOS isRunningOnDevice target ∧ target.Current := by
    apply run.preserves _ ⟨registered_new flags runsOnIOS isRunningOnDevice, nofun⟩
    rintro state label next ⟨before, current⟩ taken
    exact ⟨registered_step before taken, current_step before current taken⟩
  have previous : target.reachability.previousFlags = some target.reachability.flags := by
    rcases settled.2 running with same | pending | underway
    · exact same
    · exact absurd rest.checks (Nat.pos_iff_ne_zero.mp pending)
    · exact absurd rest.underway underway
  exact ((previousFlags_run run).trans (Option.or_none ..)).symm.trans previous

/-- The handler called last is the one for the flags of the last choice. -/
theorem called_at_rest (run : Run step (new flags runsOnIOS isRunningOnDevice) labels target)
    (rest : target.AtRest) (running : target.reachability.notifierRunning = true) :
    ∃ choice, (emitted step chosen (new flags runsOnIOS isRunningOnDevice) labels).getLast? =
        some choice ∧
      lastCalled target.events =
        some (AwesomeReachability.new choice runsOnIOS isRunningOnDevice).handler := by
  have chooses : emitted step chosen (new flags runsOnIOS isRunningOnDevice) labels ≠ [] := by
    apply (chosen_of_kept run _).resolve_left nofun
    intro none
    have keeps := kept_at_rest run rest running
    rw [none] at keeps
    cases keeps
  obtain ⟨earlier, choice, split⟩ := (List.eq_nil_or_concat _).resolve_left chooses
  rw [List.concat_eq_append] at split
  have announces := announced_run run (registered_new flags runsOnIOS isRunningOnDevice)
  unfold announced at announces
  rw [rest.mainQueue, split] at announces
  have events : target.events = (earlier ++ [choice]).flatMap
      (report runsOnIOS isRunningOnDevice) :=
    (List.append_nil _).symm.trans announces
  rw [split, events, List.getLast?_concat]
  exact ⟨choice, rfl, lastCalled_concat earlier⟩

/-- Without a change during a check, the handler called last is that of the connection. -/
theorem lastCalled_of_undisturbed
    (run : Run step (new flags runsOnIOS isRunningOnDevice) labels target)
    (undisturbed : Meets step Undisturbed (new flags runsOnIOS isRunningOnDevice) labels)
    (rest : target.AtRest) (running : target.reachability.notifierRunning = true) :
    lastCalled target.events = some target.reachability.handler := by
  obtain ⟨choice, last, calls⟩ := called_at_rest run rest running
  have keeps := kept_at_rest run rest running
  obtain ⟨choices, kept'⟩ := fresh_run run undisturbed rest.underway
  rw [← choices] at last
  rw [← kept'] at keeps
  cases Option.some.inj (last.symm.trans keeps)
  rw [calls, handler_eq (registered_run run)]

/-- **The last report.** When a running notifier is at rest, the flags are the last that a
check kept, and the handler called last is the one for the connection exactly when that
check chose its handler for flags that connect just as those that it kept. That is so when
no change comes while a check is under way. -/
theorem last_call_true_iff
    (run : Run step (new flags runsOnIOS isRunningOnDevice) labels target)
    (rest : target.AtRest) (running : target.reachability.notifierRunning = true) :
    ∃ choice,
      (emitted step chosen (new flags runsOnIOS isRunningOnDevice) labels).getLast? =
          some choice ∧
        (emitted step kept (new flags runsOnIOS isRunningOnDevice) labels).getLast? =
          some target.reachability.flags ∧
        (lastCalled target.events = some target.reachability.handler ↔
          (Connects runsOnIOS isRunningOnDevice choice ↔
            Connects runsOnIOS isRunningOnDevice target.reachability.flags)) ∧
        (Meets step Undisturbed (new flags runsOnIOS isRunningOnDevice) labels →
          lastCalled target.events = some target.reachability.handler) := by
  obtain ⟨choice, last, calls⟩ := called_at_rest run rest running
  refine ⟨choice, last, kept_at_rest run rest running, ?_, ?_⟩
  · rw [calls, Option.some_inj, handler_eq (registered_run run), handler_eq_iff]
    exact Iff.rfl
  · exact fun undisturbed => lastCalled_of_undisturbed run undisturbed rest running

/-- The network comes between the choice of a handler and the flags kept. -/
def absorbed : List Label :=
  [.startNetworkStateNotifier true true, .compare, .choose, .changed NetworkState.wifi, .keep,
    .compare, .runMain, .runMain]

/-- A change that is absorbed by the check under way. -/
theorem last_call_true_iff_absorbed : ∃ target choice,
    Run step (new {} true true) absorbed target ∧
      (emitted step chosen (new {} true true) absorbed).getLast? = some choice ∧
      (lastCalled target.events = some target.reachability.handler ↔
        (Connects true true choice ↔ Connects true true target.reachability.flags)) ∧
      lastCalled target.events = some .whenUnreachable ∧
      target.reachability.connection = .wifi := by
  have run := run_iff_execute.mpr (rfl : execute step (new {} true true) absorbed = some _)
  obtain ⟨choice, last, _, told, _⟩ := last_call_true_iff run ⟨rfl, rfl, rfl⟩ rfl
  exact ⟨_, choice, run, last, told, rfl, rfl⟩

/-- The reports that can still come without another callback or start. -/
def toCome (notifier : Notifier) : Nat :=
  notifier.checks + if notifier.underway = some .compared then 1 else 0

/-- Whether the notifier is started. -/
def Label.isStart : Label → Bool
  | .startNetworkStateNotifier .. => true
  | _ => false

/-- A stopped notifier stays stopped until it is started, and the checks that were handed to
the serial queue are used up. -/
theorem stopped_step (registered : Registered runsOnIOS isRunningOnDevice notifier)
    (stopped : notifier.reachability.notifierRunning = false) (unstarted : label.isStart = false)
    (taken : notifier.step label = some next) :
    next.reachability.notifierRunning = false ∧
      (notifier.chosen label).length + next.toCome ≤ notifier.toCome := by
  have waits : ∀ other : Notifier, other.checks = notifier.checks →
      other.underway = notifier.underway → 0 + other.toCome ≤ notifier.toCome := by
    intro other checks underway
    unfold toCome
    rw [checks, underway, Nat.zero_add]
  cases label with
  | startNetworkStateNotifier => cases unstarted
  | stopNetworkStateNotifier =>
      cases Option.some.inj taken
      exact ⟨rfl, waits _ rfl rfl⟩
  | changed flags =>
      cases Option.some.inj taken
      have silent : ¬ (notifier.callbackSet && notifier.queueSet) = true := by
        rw [registered.callback, stopped]
        exact nofun
      exact ⟨stopped, waits (notifier.change flags) (if_neg silent) rfl⟩
  | compare =>
      obtain ⟨idle, pending, rfl⟩ := step_compare taken
      refine ⟨stopped, ?_⟩
      unfold toCome chosen
      dsimp only [List.length_nil]
      split <;> split <;> omega
  | choose =>
      obtain ⟨compared, rfl⟩ := step_choose taken
      refine ⟨stopped, ?_⟩
      unfold toCome chosen
      dsimp only [List.length_singleton]
      rw [if_pos compared, if_neg nofun]
      omega
  | keep =>
      obtain ⟨handed, rfl⟩ := step_keep taken
      refine ⟨stopped, ?_⟩
      unfold toCome chosen
      rw [handed]
      exact Nat.le_of_eq (Nat.zero_add _)
  | runMain =>
      rcases step_runMain taken with ⟨_, _, _, rfl⟩ | ⟨_, _, _, rfl⟩ <;>
        exact ⟨stopped, waits _ rfl rfl⟩

/-- A stopped notifier stays stopped and uses up its checks. -/
theorem stopped_run (run : Run step source labels target)
    (registered : Registered runsOnIOS isRunningOnDevice source)
    (stopped : source.reachability.notifierRunning = false)
    (unstarted : ∀ label ∈ labels, label.isStart = false) :
    target.reachability.notifierRunning = false ∧
      (emitted step chosen source labels).length + target.toCome ≤ source.toCome := by
  induction run with
  | nil => exact ⟨stopped, Nat.le_of_eq (Nat.zero_add _)⟩
  | cons taken _ ih =>
      obtain ⟨still, fewer⟩ :=
        stopped_step registered stopped (unstarted _ List.mem_cons_self) taken
      obtain ⟨finally', rest⟩ := ih (registered_step registered taken) still
        (fun label member => unstarted label (List.mem_cons_of_mem _ member))
      rw [emitted_cons taken, List.length_append]
      exact ⟨finally', by omega⟩

/-- Nothing runs on an empty main queue. -/
theorem quiet_run (run : Run step source labels target) (drained : source.mainQueue = [])
    (unchosen : emitted step chosen source labels = []) :
    target.mainQueue = [] ∧ target.events = source.events ∧ target.posted = source.posted := by
  induction run with
  | nil => exact ⟨drained, rfl, rfl⟩
  | @cons source middle target label labels taken _ ih =>
      rw [emitted_cons taken, List.append_eq_nil_iff] at unchosen
      have kept : middle.mainQueue = source.mainQueue ∧ middle.events = source.events ∧
          middle.posted = source.posted := by
        cases label with
        | startNetworkStateNotifier setsCallback setsQueue =>
            cases Option.some.inj taken
            exact (startNetworkStateNotifier_fixed source setsCallback setsQueue).2
        | stopNetworkStateNotifier =>
            cases Option.some.inj taken
            exact ⟨rfl, rfl, rfl⟩
        | changed flags =>
            cases Option.some.inj taken
            exact ⟨rfl, rfl, rfl⟩
        | compare =>
            obtain ⟨_, _, rfl⟩ := step_compare taken
            exact ⟨rfl, rfl, rfl⟩
        | choose => exact absurd unchosen.1 (List.cons_ne_nil _ _)
        | keep =>
            obtain ⟨_, rfl⟩ := step_keep taken
            exact ⟨rfl, rfl, rfl⟩
        | runMain =>
            rcases step_runMain taken with ⟨_, _, queued, _⟩ | ⟨_, _, queued, _⟩ <;>
              cases drained.symm.trans queued
      obtain ⟨queue, events, posted⟩ := ih (kept.1.trans drained) unchosen.2
      exact ⟨queue, events.trans kept.2.1, posted.trans kept.2.2⟩

/-- **A stopped notifier is silent.** After a stop, and until the next start, the callback
and the queue are not registered and the reports are at most those of the checks that were
handed to the serial queue before; from rest no change calls a handler or posts anything. -/
theorem silent_after_stop {stopping stopped : Notifier} {later : List Label}
    (run : Run step (new flags runsOnIOS isRunningOnDevice) labels stopping)
    (stop : stopping.step .stopNetworkStateNotifier = some stopped)
    (after : Run step stopped later target)
    (unstarted : ∀ label ∈ later, label.isStart = false) :
    target.reachability.notifierRunning = false ∧ target.callbackSet = false ∧
      target.queueSet = false ∧
      (emitted step chosen stopped later).length + target.toCome ≤ stopping.toCome ∧
      (stopping.AtRest → target.events = stopping.events ∧ target.posted = stopping.posted) := by
  have settled := registered_step (registered_run run) stop
  cases Option.some.inj stop
  obtain ⟨still, fewer⟩ := stopped_run after settled rfl unstarted
  have finally' : Registered runsOnIOS isRunningOnDevice target :=
    after.preserves (fun _ _ _ before taken => registered_step before taken) settled
  refine ⟨still, finally'.callback.trans still, finally'.queue.trans still, fewer, ?_⟩
  intro rest
  have none : stopping.stopNotifier.toCome = 0 := by
    unfold toCome stopNotifier
    rw [rest.checks, rest.underway]
    rfl
  have unchosen : (emitted step chosen stopping.stopNotifier later).length = 0 := by
    omega
  exact (quiet_run after rest.mainQueue (List.length_eq_zero_iff.mp unchosen)).2

/-- A notifier at rest that has reported that there is no network. -/
def offline : Notifier where
  reachability := { AwesomeReachability.new {} true true with
    previousFlags := some {}
    notifierRunning := true
    whenReachable := some .whenReachable
    whenUnreachable := some .whenUnreachable }
  callbackSet := true
  queueSet := true
  checks := 0
  underway := none
  mainQueue := []
  events := report true true {}
  posted := [.disconnected]

/-- A connection that comes after the stop. -/
theorem silent_after_stop_wifi :
    let unheard := offline.stopNotifier.change NetworkState.wifi
    Run step offline.stopNotifier [.changed NetworkState.wifi] unheard ∧
      unheard.reachability.connection = .wifi ∧ unheard.posted = [.disconnected] := by
  have run : Run step (new {} true true)
      [.startNetworkStateNotifier true true, .compare, .choose, .keep, .runMain, .runMain]
      offline :=
    run_iff_execute.mpr rfl
  have after : Run step offline.stopNotifier [.changed NetworkState.wifi]
      (offline.stopNotifier.change NetworkState.wifi) :=
    run_iff_execute.mpr rfl
  have silent := silent_after_stop run rfl after (by decide)
  exact ⟨after, rfl, (silent.2.2.2.2 ⟨rfl, rfl, rfl⟩).2⟩

end Notifier

end AwesomeNetwork
