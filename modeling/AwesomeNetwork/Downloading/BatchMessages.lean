import AwesomeNetwork.Downloading.BatchSequencing
import AwesomeNetwork.Downloading.ProgressValues

/-! # The messages of a batch

A batch as a sequence, with the progress messages of the session: they wait on the main queue
and are posted for the URL that is started, in the order in which they came, before its
completion is called. The values posted for a URL are therefore those of its transfer.
-/

namespace AwesomeNetwork

/-- A message of the session, or what the batch makes happen. -/
inductive BatchAction where
  | received (progress : DownloadProgress)
  | occurred (event : BatchEvent)
deriving DecidableEq, Repr

namespace BatchAction

/-- The event of an action, if it is one. -/
def event? : BatchAction → Option BatchEvent
  | received _ => none
  | occurred event => some event

/-- The message of an action, if it is one. -/
def message? : BatchAction → Option DownloadProgress
  | received progress => some progress
  | occurred _ => none

/-- The events among the actions. -/
def events (actions : List BatchAction) : List BatchEvent := actions.filterMap event?

/-- The messages among the actions. -/
def messages (actions : List BatchAction) : List DownloadProgress := actions.filterMap message?

theorem messages_append (first second : List BatchAction) :
    messages (first ++ second) = messages first ++ messages second := List.filterMap_append

end BatchAction

/-- Where a batch stands, with the messages that have not been posted. -/
structure BatchTransmission where
  phase : BatchPhase
  pending : List DownloadProgress
deriving DecidableEq, Repr

namespace BatchTransmission

open BatchAction BatchEvent

/-- Messages come and are posted while their URL is started; whatever else happens, none is
left. -/
def step (transmission : BatchTransmission) : BatchAction → Option BatchTransmission
  | .received progress =>
      match transmission.phase with
      | .started url urls => some ⟨.started url urls, transmission.pending ++ [progress]⟩
      | _ => none
  | .occurred event =>
      match transmission.phase, event, transmission.pending with
      | .started url urls, .posted .downloading object, progress :: pending =>
          if object = { url := url, progress := progress } then some ⟨.started url urls, pending⟩
          else none
      | .started _ _, .posted .downloading _, [] => none
      | phase, event, [] => (phase.step event).map fun phase => ⟨phase, []⟩
      | _, _, _ => none

/-- What a step does. -/
inductive StepCases : BatchTransmission → BatchAction → BatchTransmission → Prop
  | received (url : URL) (urls : List URL) (pending : List DownloadProgress)
      (progress : DownloadProgress) :
      StepCases ⟨.started url urls, pending⟩ (.received progress)
        ⟨.started url urls, pending ++ [progress]⟩
  | posted (url : URL) (urls : List URL) (progress : DownloadProgress)
      (pending : List DownloadProgress) :
      StepCases ⟨.started url urls, progress :: pending⟩
        (.occurred (.posted .downloading { url := url, progress := progress }))
        ⟨.started url urls, pending⟩
  | other (phase after : BatchPhase) (event : BatchEvent) : phase.step event = some after →
      (∀ url urls object, phase = .started url urls → event ≠ .posted .downloading object) →
      StepCases ⟨phase, []⟩ (.occurred event) ⟨after, []⟩

/-- What a batch makes happen for a URL, from its announcement to its last event. -/
def served (url : URL) (progress : List DownloadProgress) (success : Bool) : List BatchEvent :=
  .posted .downloading { url := url } :: .called url ::
    progress.map (fun progress => .posted .downloading { url := url, progress := progress }) ++
      AwesomeDownloadManager.completion url success

variable {url : URL} {urls : List URL} {pending : List DownloadProgress}
  {source after : BatchTransmission} {action : BatchAction} {actions : List BatchAction}
  {inner : List BatchEvent} {object : AwesomeDownloadObject}

/-- Every step is one of these cases. -/
theorem stepCases (taken : step source action = some after) : StepCases source action after := by
  obtain ⟨phase, pending⟩ := source
  unfold step at taken
  split at taken
  next progress =>
    split at taken
    next url urls current =>
      change phase = .started url urls at current
      subst current
      cases taken
      exact .received url urls pending progress
    next => cases taken
  next event =>
    split at taken
    next url urls object progress rest current waiting =>
      change phase = .started url urls at current
      change pending = progress :: rest at waiting
      subst current waiting
      split at taken
      next same =>
        subst same
        cases taken
        exact .posted url urls progress rest
      next => cases taken
    next => cases taken
    next waiting idle =>
      change pending = [] at waiting
      subst waiting
      obtain ⟨after, moved, rfl⟩ := Option.map_eq_some_iff.mp taken
      refine .other phase after _ moved ?_
      rintro url urls object rfl rfl
      exact idle url urls object rfl rfl
    next => cases taken

/-- With no message waiting, the other events go through the phases. -/
theorem step_other {phase phase' : BatchPhase} {event : BatchEvent}
    (moved : phase.step event = some phase')
    (other : ∀ url urls object, phase = .started url urls → event ≠ .posted .downloading object) :
    step ⟨phase, []⟩ (.occurred event) = some ⟨phase', []⟩ := by
  unfold step
  dsimp only
  split
  next same => cases same
  next url urls object _ => exact (other url urls object rfl rfl).elim
  next =>
    rw [moved]
    rfl
  next unlisted _ _ => exact (unlisted rfl).elim

/-- The events of a batch that posts no progress, with no message waiting. -/
theorem lift_run {phase phase' : BatchPhase} {events : List BatchEvent}
    (run : Transition.Run BatchPhase.step phase events phase')
    (quiet : ∀ object, .posted .downloading object ∉ events) :
    Transition.Run step ⟨phase, []⟩ (events.map .occurred) ⟨phase', []⟩ := by
  induction run with
  | nil => exact .nil _
  | cons moved _ ih =>
      refine .cons (step_other moved ?_) (ih fun object later => ?_)
      · rintro _ _ object _ rfl
        exact quiet object List.mem_cons_self
      · exact quiet object (List.mem_cons_of_mem _ later)

/-- A single event while no URL is started. -/
theorem lift_idle {phase phase' : BatchPhase} {events : List BatchEvent}
    (idle : ∀ url urls, phase ≠ .started url urls)
    (run : Transition.Run BatchPhase.step phase events phase') (short : events.length ≤ 1) :
    Transition.Run step ⟨phase, []⟩ (events.map .occurred) ⟨phase', []⟩ := by
  cases run with
  | nil => exact .nil _
  | cons moved rest =>
      cases rest with
      | nil =>
          exact .single (step_other moved fun url urls _ started => (idle url urls started).elim)
      | cons => cases short with | step none => cases none

/-- Only messages come between two events, and no message while no URL is started. -/
theorem actions_of_idle {phase : BatchPhase} (idle : ∀ url urls, phase ≠ .started url urls)
    (run : Transition.Run step ⟨phase, pending⟩ actions after) (silent : events actions = []) :
    actions = [] := by
  cases run with
  | nil => rfl
  | cons taken _ =>
      cases stepCases taken with
      | received url urls => exact (idle url urls rfl).elim
      | posted => cases silent
      | other => cases silent

/-- Once the completion was called, `downloaded` comes next, and the batch is done with the URL. -/
theorem reported_run (run : Transition.Run step ⟨.reported url urls, []⟩ actions after)
    (last : events actions = inner ++ [.posted .downloaded object])
    (first : downloadedPosts inner = []) :
    actions = [.occurred (.posted .downloaded { url := url, progress := ⟨1, 1⟩ })] := by
  cases run with
  | nil => cases List.append_ne_nil_of_right_ne_nil inner (List.cons_ne_nil _ _) last.symm
  | @cons _ _ _ _ rest taken continues =>
      cases stepCases taken with
      | other _ phase event moved =>
          obtain ⟨rfl, rfl⟩ := BatchPhase.step_reported moved
          cases inner with
          | nil =>
              have silent : events rest = [] := (List.cons.inj last).2
              have idle : ∀ url urls', BatchPhase.next urls ≠ .started url urls' :=
                fun _ _ => nofun
              rw [actions_of_idle idle continues silent]
          | cons event inner =>
              have same := (List.cons.inj last).1
              subst same
              cases first

/-- From a started URL on, the messages are posted in their order up to the completion. -/
theorem started_run (run : Transition.Run step ⟨.started url urls, pending⟩ actions after)
    (last : events actions = inner ++ [.posted .downloaded object])
    (first : downloadedPosts inner = []) :
    ∃ success, events actions = (pending ++ messages actions).map
      (fun progress => .posted .downloading { url := url, progress := progress }) ++
        AwesomeDownloadManager.completion url success := by
  induction actions generalizing pending inner with
  | nil => cases List.append_ne_nil_of_right_ne_nil inner (List.cons_ne_nil _ _) last.symm
  | cons action actions ih =>
      obtain ⟨middle, taken, rest⟩ := run.cons_inv
      cases stepCases taken with
      | received _ _ _ progress =>
          obtain ⟨success, served⟩ := ih rest last first
          refine ⟨success, ?_⟩
          rw [List.append_assoc] at served
          exact served
      | posted _ _ progress pending =>
          cases inner with
          | nil => cases (List.cons.inj last).1
          | cons event inner =>
              obtain ⟨same, others⟩ := List.cons.inj last
              subst same
              obtain ⟨success, served⟩ := ih rest others first
              exact ⟨success, congrArg (_ :: ·) served⟩
      | other _ phase event moved quiet =>
          rcases BatchPhase.step_started moved with ⟨object, rfl, _⟩ | ⟨success, rfl, rfl⟩
          · exact (quiet url urls object rfl rfl).elim
          · cases inner with
            | nil => cases (List.cons.inj last).1
            | cons event inner =>
                obtain ⟨same, others⟩ := List.cons.inj last
                subst same
                have done := reported_run rest others first
                subst done
                exact ⟨success, rfl⟩

/-- A call never follows a post while a URL is started. -/
theorem not_called_of_started {called : URL} {rest : List BatchEvent}
    (run : Transition.Run step ⟨.started url urls, pending⟩ actions after)
    (begins : events actions = .called called :: rest) : False := by
  induction actions generalizing pending with
  | nil => cases begins
  | cons action actions ih =>
      obtain ⟨middle, taken, continues⟩ := run.cons_inv
      cases stepCases taken with
      | received => exact ih continues begins
      | posted => cases begins
      | other _ phase event moved =>
          rcases BatchPhase.step_started moved with ⟨object, rfl, _⟩ | ⟨success, rfl, _⟩
          · cases begins
          · cases begins

/-- A started URL is completed before another one is started. -/
theorem not_announced_of_started {called : URL} {rest : List BatchEvent}
    (run : Transition.Run step ⟨.started url urls, pending⟩ actions after)
    (begins : events actions = .posted .downloading object :: .called called :: rest) : False := by
  induction actions generalizing pending with
  | nil => cases begins
  | cons action actions ih =>
      obtain ⟨middle, taken, continues⟩ := run.cons_inv
      cases stepCases taken with
      | received => exact ih continues begins
      | posted => exact not_called_of_started continues (List.cons.inj begins).2
      | other _ phase event moved quiet =>
          rcases BatchPhase.step_started moved with ⟨object, rfl, _⟩ | ⟨success, rfl, _⟩
          · exact quiet url urls object rfl rfl
          · cases begins

/-- An announcement that a call follows finds the batch before its next URL. -/
theorem announcing_run {rest : List BatchEvent}
    (run : Transition.Run step source actions after)
    (begins : events actions = .posted .downloading { url := url } :: .called url :: rest) :
    ∃ urls others, actions = .occurred (.posted .downloading { url := url }) ::
        .occurred (.called url) :: others ∧
      Transition.Run step ⟨.started url urls, []⟩ others after := by
  cases run with
  | nil => cases begins
  | @cons _ _ _ _ actions taken continues =>
      have whole := Transition.Run.cons taken continues
      cases stepCases taken with
      | received => exact (not_announced_of_started whole begins).elim
      | posted => exact (not_announced_of_started whole begins).elim
      | other phase middle event moved quiet =>
          cases (List.cons.inj begins).1
          have announced : ∃ urls, middle = .announced url urls := by
            cases phase with
            | next urls =>
                obtain ⟨next, rest, rfl, same, rfl⟩ := BatchPhase.step_next moved
                cases same
                exact ⟨rest, rfl⟩
            | announced url urls => cases (BatchPhase.step_announced moved).1
            | started url urls => exact (quiet url urls _ rfl rfl).elim
            | reported url urls => cases (BatchPhase.step_reported moved).1
          obtain ⟨urls, rfl⟩ := announced
          have calls := (List.cons.inj begins).2
          cases continues with
          | nil => cases calls
          | cons taken' continues' =>
              cases stepCases taken' with
              | other _ _ event' moved' =>
                  obtain ⟨rfl, rfl⟩ := BatchPhase.step_announced moved'
                  exact ⟨urls, _, rfl, continues'⟩

/-- **What is posted for a URL.** From its announcement to its last event the batch posts the
messages that came meanwhile, in their order. -/
theorem served_run (run : Transition.Run step source actions after)
    (whole : events actions =
      .posted .downloading { url := url } :: .called url :: inner ++ [.posted .downloaded object])
    (first : downloadedPosts inner = []) :
    ∃ success, events actions = served url (messages actions) success := by
  obtain ⟨urls, others, rfl, continues⟩ := announcing_run run whole
  have rest : events others = inner ++ [.posted .downloaded object] :=
    (List.cons.inj (List.cons.inj whole).2).2
  obtain ⟨success, posted⟩ := started_run continues rest first
  refine ⟨success, congrArg (_ :: _ :: ·) posted⟩

end BatchTransmission

/-- The progress message that a block of the main queue passes on. -/
def MainBlock.message? : MainBlock → Option DownloadProgress
  | .progress message => some message
  | .downloaded .. => none

namespace AwesomeDownloadManager

open BatchAction BatchEvent

/-- The messages that wait on the main queue. -/
def queued (manager : AwesomeDownloadManager) : List DownloadProgress :=
  manager.downloads.mainQueue.filterMap MainBlock.message?

/-- The progress message that the session sends with a step. -/
def Label.message? : Label → Option DownloadProgress
  | .downloads (.writeData _ progress) => some progress
  | _ => none

/-- The progress messages of the session, in order. -/
def sessionMessages (labels : List Label) : List DownloadProgress := labels.filterMap Label.message?

/-- What a step of the manager receives and brings about. -/
def acts (manager : AwesomeDownloadManager) (label : Label) : List BatchAction :=
  label.message?.toList.map .received ++ (manager.occurs label).map .occurred

/-- The step is one of the batch with its messages. -/
def Transmits (manager next : AwesomeDownloadManager) (label : Label) (phase : BatchPhase) : Prop :=
  ∃ phase', Transition.Run BatchTransmission.step ⟨phase, manager.queued⟩ (manager.acts label)
    ⟨phase', next.queued⟩ ∧ next.Stands phase'

/-- The events of a step are those that it brings about. -/
theorem events_acts (manager : AwesomeDownloadManager) (label : Label) :
    events (manager.acts label) = manager.occurs label := by
  unfold events acts
  rw [List.filterMap_append, List.filterMap_map, List.filterMap_map]
  have silent : (label.message?.toList).filterMap (event? ∘ received) = [] := by
    cases label.message? <;> rfl
  rw [silent, List.nil_append]
  exact List.filterMap_some

/-- The messages of a step are those of its label. -/
theorem messages_acts (manager : AwesomeDownloadManager) (label : Label) :
    messages (manager.acts label) = label.message?.toList := by
  unfold messages acts
  rw [List.filterMap_append, List.filterMap_map, List.filterMap_map]
  have silent : (manager.occurs label).filterMap (message? ∘ occurred) = [] :=
    List.filterMap_eq_nil_iff.mpr fun _ _ => rfl
  rw [silent, List.append_nil]
  exact List.filterMap_some

/-- The events of a run are those of its trace. -/
theorem events_emitted {source target : AwesomeDownloadManager} {labels : List Label}
    (run : Transition.Run step source labels target) :
    events (Transition.emitted step acts source labels) = trace source labels := by
  unfold trace
  induction run with
  | nil => rfl
  | cons taken _ ih =>
      rw [Transition.emitted_cons taken, Transition.emitted_cons taken, ← ih, ← events_acts]
      exact List.filterMap_append

/-- The messages of a run are those of the session. -/
theorem messages_emitted {source target : AwesomeDownloadManager} {labels : List Label}
    (run : Transition.Run step source labels target) :
    messages (Transition.emitted step acts source labels) = sessionMessages labels := by
  induction run with
  | nil => rfl
  | @cons _ _ _ label _ taken _ ih =>
      rw [Transition.emitted_cons taken, messages_append, ih, messages_acts]
      unfold sessionMessages
      rw [List.filterMap_cons]
      cases label.message? <;> rfl

variable {manager next : AwesomeDownloadManager} {label : Label} {phase : BatchPhase}

/-- A message comes while a URL is started. -/
theorem started_of_running {name : Nat} {transfer : Transfer} (stands : manager.Stands phase)
    (found : manager.downloads.transfers.get? name = some transfer)
    (running : transfer.status = .running) : ∃ url urls, phase = .started url urls := by
  have busy (calm : manager.downloads.Calm) : False :=
    AwesomeDownload.absurd_of_inactive calm.transfers found (by rw [running]; rfl)
  cases stands with
  | cancelling _ _ _ _ _ calm => exact (busy calm).elim
  | notifyingDownloading _ _ _ _ calm => exact (busy calm).elim
  | downloading batch name url urls => exact ⟨url, urls, rfl⟩
  | waiting batch name url urls => exact ⟨url, urls, rfl⟩
  | notifyingDownloaded _ _ _ calm => exact (busy calm).elim
  | ended rests => exact (busy rests.calm).elim

/-- The same main queue holds the same messages. -/
theorem queued_eq {next : AwesomeDownloadManager}
    (same : next.downloads.mainQueue = manager.downloads.mainQueue) :
    next.queued = manager.queued := by
  unfold queued
  rw [same]

/-- A calm downloader has no message waiting. -/
theorem queued_of_calm (calm : manager.downloads.Calm) : manager.queued = [] := by
  unfold queued
  rw [calm.mainQueue]
  rfl

section Downloads

variable {label : AwesomeDownload.Label} {downloads : AwesomeDownload}
  (moved : manager.downloads.step label = some downloads)

include moved

/-- A step of the downloader that brings no message leaves those that wait. -/
theorem queued_kept (waits : label ≠ .runMain)
    (silent : (Label.downloads label).message? = none) :
    queued { manager with downloads := downloads } = manager.queued := by
  rcases AwesomeDownload.step_mainQueue moved waits with
    same | ⟨other, _, progress, _, _, rfl, _⟩ | ⟨other, _, _, success, _, _, rfl, added⟩
  · exact queued_eq same
  · cases silent
  · unfold queued
    dsimp only
    rw [added, List.filterMap_append]
    exact List.append_nil _

/-- A step of the downloads transmits its message. -/
theorem downloads_transmits (undisturbed : AwesomeDownload.Undisturbed label)
    (waits : label ≠ .runMain) (stands : manager.Stands phase) :
    Transmits manager { manager with downloads := downloads } (.downloads label) phase := by
  obtain ⟨phase', follows, stands', _⟩ := downloads_stands undisturbed waits moved stands
  cases follows
  have quietly (silent : (Label.downloads label).message? = none) :
      Transmits manager { manager with downloads := downloads } (.downloads label) phase := by
    have none : manager.acts (.downloads label) = [] := by
      unfold acts
      rw [silent]
      rfl
    refine ⟨phase, ?_, stands'⟩
    rw [none, queued_kept moved waits silent]
    exact .nil _
  cases label with
  | writeData name progress =>
      obtain ⟨transfer, found, running, rfl⟩ := Table.when_eq_some.mp moved
      obtain ⟨url, urls, rfl⟩ := started_of_running stands found running
      refine ⟨_, .single ?_, stands'⟩
      unfold queued
      dsimp only
      rw [List.filterMap_append]
      rfl
  | _ => exact quietly rfl

end Downloads

/-- The main thread leaves the queue alone. -/
theorem main_mainQueue {folder : String} (taken : manager.stepMain folder = some next) :
    next.downloads.mainQueue = manager.downloads.mainQueue := by
  cases stepMain_cases taken <;> rfl

theorem completion_quiet (url : URL) (success : Bool) (object : AwesomeDownloadObject) :
    .posted .downloading object ∉ completion url success := by
  intro member
  rcases List.mem_cons.mp member with first | rest
  · cases first
  · cases List.mem_singleton.mp rest

section Main

variable {folder : String} (taken : manager.stepMain folder = some next)

include taken

/-- While no URL is started, the main thread makes at most one event happen. -/
theorem main_transmits_idle (follows : Follows manager next (.main folder) phase)
    (idle : ∀ url urls, phase ≠ .started url urls) (none : manager.queued = [])
    (short : (manager.occurs (.main folder)).length ≤ 1) :
    Transmits manager next (.main folder) phase := by
  obtain ⟨phase', run, stands', _⟩ := follows
  refine ⟨phase', ?_, stands'⟩
  rw [queued_eq (main_mainQueue taken), none]
  exact BatchTransmission.lift_idle idle run short

/-- A call whose file existed has been answered with nothing on the main queue. -/
theorem main_transmits_downloading {batch name : Nat} {url : URL} {urls : List URL}
    {call : DownloadCall} (entered : manager.main = [.downloading name])
    (kept : manager.completions name = some ⟨batch, urls⟩)
    (sole : manager.downloads.Sole name url call) :
    Transmits manager next (.main folder) (.started url urls) := by
  obtain ⟨phase', run, stands', _⟩ := main_downloading taken entered kept sole
  refine ⟨phase', ?_, stands'⟩
  rw [queued_eq (main_mainQueue taken)]
  cases answers : call.answers with
  | nil =>
      have silent : manager.occurs (.main folder) = [] := by
        unfold occurs mainOccurs
        rw [entered]
        simp only [sole.found, batchUrl_eq kept sole, answers]
      rw [silent] at run
      unfold acts
      rw [silent]
      cases run
      exact .nil _
  | cons answer others =>
      have none : manager.queued = [] := by
        cases sole.serving with
        | preparing _ unanswered => cases unanswered.symm.trans answers
        | transferring _ _ _ _ unanswered => cases unanswered.symm.trans answers
        | queued _ _ _ _ _ unanswered => cases unanswered.symm.trans answers
        | existed _ _ _ empty =>
            unfold queued
            rw [empty]
            rfl
      have reports : manager.occurs (.main folder) = completion url answer.value := by
        unfold occurs mainOccurs
        rw [entered]
        simp only [sole.found, batchUrl_eq kept sole, answers]
      rw [none]
      refine BatchTransmission.lift_run run fun object => ?_
      rw [reports]
      exact completion_quiet url answer.value object

/-- A step of the main thread transmits its events. -/
theorem main_transmits (stands : manager.Stands phase) :
    Transmits manager next (.main folder) phase := by
  cases stands with
  | cancelling batch urls cancel stage entered calm found others =>
      apply main_transmits_idle taken (main_cancelling taken entered calm others) nofun
        (queued_of_calm calm)
      unfold occurs mainOccurs
      rw [entered]
      cases urls with
      | nil => exact Nat.zero_le 1
      | cons url urls =>
          dsimp only
          split
          · exact Nat.le_refl 1
          · exact Nat.zero_le 1
  | notifyingDownloading batch url urls entered calm cancels =>
      apply main_transmits_idle taken (main_notifyingDownloading taken entered calm cancels) nofun
        (queued_of_calm calm)
      unfold occurs mainOccurs
      rw [entered]
      exact Nat.le_refl 1
  | downloading batch name url urls call entered kept sole =>
      exact main_transmits_downloading taken entered kept sole
  | waiting batch name url urls call free =>
      unfold stepMain at taken
      rw [free] at taken
      cases taken
  | notifyingDownloaded batch urls entered calm cancels =>
      apply main_transmits_idle taken (main_notifyingDownloaded taken entered calm cancels) nofun
        (queued_of_calm calm)
      unfold occurs mainOccurs
      rw [entered]
      exact Nat.zero_le 1
  | ended rests =>
      unfold stepMain at taken
      rw [rests.main] at taken
      cases taken

end Main

/-- The main queue passes on its first message, or the result when no message waits. -/
theorem runMain_transmits {batch name : Nat} {url : URL} {urls : List URL} {call : DownloadCall}
    (free : manager.main = []) (kept : manager.completions name = some ⟨batch, urls⟩)
    (sole : manager.downloads.Sole name url call) (returned : call.stage = .returned)
    (unanswered : call.answers = []) (taken : step manager .runMain = some next) :
    Transmits manager next .runMain (.started url urls) := by
  obtain ⟨phase', run, stands', _⟩ := runMain_waiting free kept sole returned unanswered taken
  have holds := sole.holds returned unanswered
  have named := batchUrl_eq kept sole
  refine ⟨phase', ?_, stands'⟩
  cases stepCases taken with
  | runMain downloads _ moved =>
      unfold AwesomeDownload.step at moved
      dsimp only at moved
      split at moved
      · cases moved
      next progress rest first =>
        cases moved
        have posts := occurs_progress named holds.progress first
        rw [posts] at run
        unfold acts queued
        rw [posts, first]
        unfold AwesomeDownload.runProgress
        dsimp only
        rw [holds.progress]
        obtain ⟨_, moved, ended⟩ := run.cons_inv
        cases ended
        rcases BatchPhase.step_started moved with ⟨_, _, rfl⟩ | ⟨_, wrong, _⟩
        · exact .single (if_pos rfl)
        · cases wrong
      next transfer success rest first =>
        cases moved
        have calm := sole.runDownloaded returned unanswered first
        have last : rest = [] := by
          have empty := calm.mainQueue
          unfold AwesomeDownload.runDownloaded at empty
          dsimp only at empty
          rw [holds.downloaded] at empty
          exact empty
        have none : manager.queued = [] := by
          unfold queued
          rw [first, last]
          rfl
        have none' : queued { manager with
            downloads :=
              { manager.downloads with mainQueue := rest }.runDownloaded transfer success
            main := manager.answeredFrames } = [] := queued_of_calm calm
        rw [none, none']
        refine BatchTransmission.lift_run run fun object => ?_
        rw [occurs_downloaded named holds.downloaded first]
        exact completion_quiet url success object

/-- Every undisturbed step transmits what it brings about. -/
theorem transmits_step (stands : manager.Stands phase) (undisturbed : Undisturbed label)
    (taken : step manager label = some next) : Transmits manager next label phase := by
  cases label with
  | download urls => exact undisturbed.elim
  | main folder => exact main_transmits taken stands
  | runMain =>
      have free := runMain_free taken
      cases stands with
      | waiting batch name url urls call free kept sole returned unanswered =>
          exact runMain_transmits free kept sole returned unanswered taken
      | cancelling _ _ _ _ entered => cases free.symm.trans entered
      | notifyingDownloading _ _ _ entered => cases free.symm.trans entered
      | downloading _ _ _ _ _ entered => cases free.symm.trans entered
      | notifyingDownloaded _ _ entered => cases free.symm.trans entered
      | ended rests =>
          cases stepCases taken with
          | runMain downloads _ moved =>
              unfold AwesomeDownload.step at moved
              rw [rests.calm.mainQueue] at moved
              cases moved
  | downloads label =>
      cases stepCases taken with
      | downloads _ downloads waits moved =>
          exact downloads_transmits moved undisturbed waits stands

end AwesomeDownloadManager

end AwesomeNetwork
