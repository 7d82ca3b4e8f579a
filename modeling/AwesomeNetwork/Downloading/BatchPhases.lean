import AwesomeNetwork.Downloading.BatchEvents

/-! # A batch as a sequence

What a batch is for, as a machine over its events: the URLs are gone through in order, and
each of them is announced, started, reported and posted before the next one is announced.
-/

namespace AwesomeNetwork

/-- Where a batch stands, with the URLs that are left. -/
inductive BatchPhase where
  | next (urls : List URL)
  | announced (url : URL) (urls : List URL)
  | started (url : URL) (urls : List URL)
  | reported (url : URL) (urls : List URL)
deriving DecidableEq, Repr

namespace BatchPhase

/-- One event of a batch; an event out of order is refused. -/
def step : BatchPhase → BatchEvent → Option BatchPhase
  | next (url :: urls), .posted .downloading object =>
      if object = { url := url } then some (announced url urls) else none
  | announced url urls, .called other =>
      if other = url then some (started url urls) else none
  | started url urls, .posted .downloading object =>
      if object.url = url then some (started url urls) else none
  | started url urls, .completed other _ =>
      if other = url then some (reported url urls) else none
  | reported url urls, .posted .downloaded object =>
      if object = { url := url, progress := ⟨1, 1⟩ } then some (next urls) else none
  | _, _ => none

/-- The URLs that are still to be started. -/
def remaining : BatchPhase → List URL
  | next urls | started _ urls | reported _ urls => urls
  | announced url urls => url :: urls

/-- The URL that is started and not yet reported. -/
def underway : BatchPhase → List URL
  | started url _ => [url]
  | _ => []

end BatchPhase

namespace BatchEvent

/-- The URL that is started. -/
def started? : BatchEvent → Option URL
  | called url => some url
  | _ => none

/-- The URLs that are started. -/
def starts (events : List BatchEvent) : List URL := events.filterMap started?

/-- The URLs that are reported. -/
def reports (events : List BatchEvent) : List URL := (results events).map Prod.fst

end BatchEvent

namespace BatchPhase

open BatchEvent

variable {phase after : BatchPhase} {event : BatchEvent} {events : List BatchEvent}

/-- The first URL that is left is announced. -/
theorem step_next {urls : List URL} (taken : step (next urls) event = some after) :
    ∃ url rest, urls = url :: rest ∧ event = .posted .downloading { url := url } ∧
      after = announced url rest := by
  cases urls with
  | nil => cases taken
  | cons url rest =>
      cases event with
      | posted event object =>
          cases event with
          | downloading =>
              change (if object = { url := url } then _ else _) = _ at taken
              split at taken
              · next same =>
                  cases taken
                  exact ⟨url, rest, rfl, by rw [same], rfl⟩
              · cases taken
          | _ => cases taken
      | called | completed => cases taken

/-- An announced URL is started. -/
theorem step_announced {url : URL} {urls : List URL}
    (taken : step (announced url urls) event = some after) :
    event = .called url ∧ after = started url urls := by
  cases event with
  | called other =>
      change (if other = url then _ else _) = _ at taken
      split at taken
      · next same =>
          cases taken
          exact ⟨by rw [same], rfl⟩
      · cases taken
  | posted | completed => cases taken

/-- A started URL posts its progress or is reported. -/
theorem step_started {url : URL} {urls : List URL}
    (taken : step (started url urls) event = some after) :
    (∃ object, event = .posted .downloading object ∧ after = started url urls) ∨
      ∃ success, event = .completed url success ∧ after = reported url urls := by
  cases event with
  | posted event object =>
      cases event with
      | downloading =>
          change (if object.url = url then _ else _) = _ at taken
          split at taken <;> cases taken
          exact Or.inl ⟨object, rfl, rfl⟩
      | _ => cases taken
  | completed other success =>
      change (if other = url then _ else _) = _ at taken
      split at taken
      · next same =>
          cases taken
          exact Or.inr ⟨success, by rw [same], rfl⟩
      · cases taken
  | called => cases taken

/-- A reported URL is posted as downloaded. -/
theorem step_reported {url : URL} {urls : List URL}
    (taken : step (reported url urls) event = some after) :
    event = .posted .downloaded { url := url, progress := ⟨1, 1⟩ } ∧ after = next urls := by
  cases event with
  | posted event object =>
      cases event with
      | downloaded =>
          change (if object = { url := url, progress := ⟨1, 1⟩ } then _ else _) = _ at taken
          split at taken
          · next same =>
              cases taken
              exact ⟨by rw [same], rfl⟩
          · cases taken
      | _ => cases taken
  | called | completed => cases taken

/-- An event starts the first URL that is left, or none. -/
theorem step_starts (taken : step phase event = some after) :
    starts [event] ++ after.remaining = phase.remaining := by
  unfold step at taken
  split at taken
  · split at taken <;> cases taken
    rfl
  · split at taken <;> cases taken
    next same => rw [same]; rfl
  · split at taken <;> cases taken
    rfl
  · split at taken <;> cases taken
    rfl
  · split at taken <;> cases taken
    rfl
  · cases taken

/-- An event reports the URL that is underway, or none. -/
theorem step_reports (taken : step phase event = some after) :
    phase.underway ++ starts [event] = reports [event] ++ after.underway := by
  unfold step at taken
  split at taken
  · split at taken <;> cases taken
    rfl
  · split at taken <;> cases taken
    next same => rw [same]; rfl
  · split at taken <;> cases taken
    rfl
  · split at taken <;> cases taken
    next same => rw [same]; rfl
  · split at taken <;> cases taken
    rfl
  · cases taken

theorem starts_cons (event : BatchEvent) (events : List BatchEvent) :
    starts (event :: events) = starts [event] ++ starts events := by
  unfold starts
  rw [← List.filterMap_append]
  rfl

theorem reports_cons (event : BatchEvent) (events : List BatchEvent) :
    reports (event :: events) = reports [event] ++ reports events := by
  unfold reports
  rw [← List.map_append, ← results_append]
  rfl

/-- The URLs that are started are the first ones, in order. -/
theorem run_starts (run : Transition.Run step phase events after) :
    starts events ++ after.remaining = phase.remaining := by
  induction run with
  | nil => rfl
  | cons taken _ ih => rw [starts_cons, List.append_assoc, ih, step_starts taken]

/-- The URLs that are started are reported in the same order, all but the one underway. -/
theorem run_reports (run : Transition.Run step phase events after) :
    phase.underway ++ starts events = reports events ++ after.underway := by
  induction run with
  | nil => exact List.append_nil _
  | cons taken _ ih =>
      rw [starts_cons, reports_cons, ← List.append_assoc, step_reports taken, List.append_assoc,
        ih, List.append_assoc]

end BatchPhase

end AwesomeNetwork
