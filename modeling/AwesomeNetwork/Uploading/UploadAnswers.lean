import AwesomeNetwork.Networking.RequestRemoval
import AwesomeNetwork.Networking.StaleEntries
import AwesomeNetwork.Uploading.AwesomeUpload

/-! # Every upload is answered

The callback of a task runs once, after it has removed the entry of its request. A call that
has ended has one answer, with data or with an error, unless the server accepted the upload
and sent no data: the callback then ends without an answer.
-/

namespace AwesomeNetwork

namespace AwesomeRequestManager

variable {Key : Type} [DecidableEq Key] {manager next : AwesomeRequestManager Key}
  {label : Label Key} {name : Nat} {task : URLSessionTask Key}

/-- A task stays removed. -/
theorem removed_step (taken : step manager label = some next)
    (present : manager.tasks.get? name = some task) (removed : task.state = .removed) :
    ∃ after, next.tasks.get? name = some after ∧ after.state = .removed := by
  obtain ⟨after, kept, moves⟩ := step_moves taken present
  refine ⟨after, kept, ?_⟩
  cases moves with
  | stay => exact removed
  | start start starts => exact removed
  | cancel aims => exact (task.state_cancel).trans removed
  | cancelSelf aims => exact (task.state_cancel).trans removed
  | finish finished running ready => cases removed.symm.trans running
  | remove ended completed => rfl

/-- A task whose entry was removed is removed. -/
theorem step_remove_removed (taken : step manager (.remove name) = some next) :
    ∃ after, next.tasks.get? name = some after ∧ after.state = .removed := by
  obtain ⟨ended, found, _, rfl⟩ := Table.when_eq_some.mp taken
  refine ⟨ended.withState .removed, ?_, rfl⟩
  rw [removeRequest, get?_modifyTask, if_pos rfl, tasks_removeEntry, found]
  rfl

/-- A new task is registered, resumed and completed, and then its removal is enabled. -/
theorem lifetime_steps (manager : AwesomeRequestManager Key) (key : Key) :
    ∃ registered resumed completed removed,
      step (manager.createTask key false) (.register manager.tasks.size) = some registered ∧
      step registered (.resume manager.tasks.size) = some resumed ∧
      step resumed (.finish manager.tasks.size) = some completed ∧
      step completed (.remove manager.tasks.size) = some removed := by
  let task : URLSessionTask Key := ⟨key, .ready, false, .running⟩
  have created : (manager.createTask key false).tasks.get? manager.tasks.size = some task :=
    Table.get?_push_self ..
  let registered := (manager.createTask key false).addRequest manager.tasks.size task
  have added : registered.tasks.get? manager.tasks.size = some (task.withStart .added) := by
    dsimp only [registered, addRequest]
    rw [get?_modifyTask, if_pos rfl, tasks_setEntry, created]
    rfl
  let resumed := registered.modifyTask manager.tasks.size (.withStart .resumed)
  have running : resumed.tasks.get? manager.tasks.size = some (task.withStart .resumed) := by
    rw [get?_modifyTask, if_pos rfl, added]
    rfl
  let completed := resumed.modifyTask manager.tasks.size (.withState .completed)
  have ended : completed.tasks.get? manager.tasks.size =
      some ((task.withStart .resumed).withState .completed) := by
    rw [get?_modifyTask, if_pos rfl, running]
    rfl
  refine ⟨registered, resumed, completed, completed.removeRequest manager.tasks.size _,
    Table.when_eq_some.mpr ⟨_, created, rfl, rfl⟩, Table.when_eq_some.mpr ⟨_, added, rfl, rfl⟩,
    Table.when_eq_some.mpr ⟨_, running, ⟨rfl, Or.inl rfl⟩, rfl⟩,
    Table.when_eq_some.mpr ⟨_, ended, rfl, rfl⟩⟩

end AwesomeRequestManager

/-- No error, a status between 200 and 299, and no data. -/
def SessionResponse.SucceededWithoutData (response : SessionResponse) : Prop :=
  response.error = none ∧ response.hasSuccessStatus = true ∧ response.data = none

namespace UploadCall

/-- The call has returned at a guard, or its callback has run. -/
def Ended (call : UploadCall) : Prop := ∀ task, call.progress ≠ .started task

/-- The session reported no error and a status between 200 and 299. -/
def Succeeded (call : UploadCall) : Prop :=
  ∃ task response, call.progress = .calledBack task response ∧ response.error = none ∧
    response.hasSuccessStatus = true

/-- The upload succeeded, and no data came with the response. -/
def Dropped (call : UploadCall) : Prop :=
  ∃ task response, call.progress = .calledBack task response ∧ response.SucceededWithoutData

/-- The completion was called once, with data or with an error, and with data only after a
success. -/
def AnsweredOnce (call : UploadCall) : Prop :=
  ∃ answer, call.answers = [answer] ∧ (answer.data ≠ none ↔ answer.error = none) ∧
    (answer.data ≠ none → call.Succeeded)

/-- The guards let the call create its task. -/
def Passes (foundation : Foundation) (call : UploadCall) : Prop :=
  call.uploadData ≠ none ∧
    (call.urlString.bind fun string => foundation.urlOfString string none) ≠ none

/-- What the completion was passed is what the progress of the call accounts for. -/
def Sound (foundation : Foundation) (manager : AwesomeRequestManager String) (call : UploadCall) :
    Prop :=
  match call.progress with
  | .returned => ¬ call.Passes foundation ∧ call.answers =
      [⟨none, some (if call.uploadData = none then .invalidData else .invalidUrl)⟩]
  | .started _ => call.Passes foundation ∧ call.answers = []
  | .calledBack task response => call.Passes foundation ∧
      call.answers = AwesomeUpload.callbackAnswers response ∧
      ∃ record, manager.tasks.get? task = some record ∧ record.state = .removed

variable {foundation : Foundation} {manager next : AwesomeRequestManager String}
  {call : UploadCall}

/-- A step of the registry keeps a call sound. -/
theorem Sound.step {label : AwesomeRequestManager.Label String}
    (sound : call.Sound foundation manager) (taken : manager.step label = some next) :
    call.Sound foundation next := by
  unfold Sound at sound ⊢
  split at sound
  · exact sound
  · exact sound
  next task response _ =>
    obtain ⟨passes, answers, record, present, removed⟩ := sound
    exact ⟨passes, answers, AwesomeRequestManager.removed_step taken present removed⟩

end UploadCall

/-- The callback passes on one answer unless the upload succeeded without data. -/
theorem SessionResponse.callbackAnswers_cases (response : SessionResponse) :
    (response.SucceededWithoutData ∧ AwesomeUpload.callbackAnswers response = []) ∨
    ∃ answer, ¬ response.SucceededWithoutData ∧
      AwesomeUpload.callbackAnswers response = [answer] ∧
      (answer.data ≠ none ↔ answer.error = none) ∧
      (answer.data ≠ none → response.error = none ∧ response.hasSuccessStatus = true) := by
  unfold AwesomeUpload.callbackAnswers SucceededWithoutData
  cases response.error with
  | some error => exact Or.inr ⟨_, by simp, rfl, by simp, by simp⟩
  | none =>
      dsimp only
      cases response.hasSuccessStatus with
      | false => exact Or.inr ⟨_, by simp, rfl, by simp, by simp⟩
      | true =>
          cases response.data with
          | none => exact Or.inl ⟨⟨rfl, rfl, rfl⟩, rfl⟩
          | some data => exact Or.inr ⟨_, by simp, rfl, by simp, by simp⟩

namespace AwesomeUpload

/-- No entry of the registry is left for the task of the call. -/
def HasNoEntry (state : AwesomeUpload) (call : UploadCall) : Prop :=
  ∀ task response, call.progress = .calledBack task response →
    ∀ key, state.requestManager.requestQueue.lookup key ≠ some task

/-- The registry is accounted for, and so are the answers of every call. -/
structure Valid (foundation : Foundation) (state : AwesomeUpload) : Prop where
  accounted : state.requestManager.Accounted
  calls : state.calls.All fun _ call => call.Sound foundation state.requestManager

variable {foundation : Foundation} {state next : AwesomeUpload} {label : Label} {name : Nat}

/-- Without calls everything is valid. -/
theorem valid_initial (foundation : Foundation) : Valid foundation initial where
  accounted := AwesomeRequestManager.accounted_initial
  calls := Table.All.empty

/-- A call that is answered at once is valid. -/
theorem valid_answer (valid : Valid foundation state) {uploadData : Option Data}
    {urlString : Option String} {headers : Option AwesomeRequesterHeader} {error : AwesomeError}
    (sound : UploadCall.Sound foundation state.requestManager
      ⟨uploadData, urlString, headers, .returned, [⟨none, some error⟩]⟩) :
    Valid foundation (state.answer uploadData urlString headers error) :=
  ⟨valid.accounted, valid.calls.push sound⟩

/-- A new call is valid. -/
theorem valid_upload (valid : Valid foundation state) (uploadData : Option Data)
    (urlString : Option String) (headers : Option AwesomeRequesterHeader) :
    Valid foundation (state.upload foundation uploadData urlString headers) := by
  unfold upload
  cases uploadData with
  | none => exact valid_answer valid ⟨fun passes => passes.1 rfl, rfl⟩
  | some uploadData =>
      dsimp only
      split
      next invalid => exact valid_answer valid ⟨fun passes => passes.2 invalid, rfl⟩
      next url located =>
        have created : state.requestManager.step (.create (URLRequest.request url (some .POST)
            none headers 15).urlCacheKey false) = some (state.requestManager.createTask
              (URLRequest.request url (some .POST) none headers 15).urlCacheKey false) := rfl
        refine ⟨AwesomeRequestManager.accounted_step valid.accounted created, ?_⟩
        apply Table.All.push
        · intro name call present
          exact (valid.calls name call present).step created
        · refine ⟨⟨nofun, ?_⟩, rfl⟩
          change (urlString.bind fun string => foundation.urlOfString string none) ≠ none
          rw [located]
          exact nofun

/-- What a callback does. -/
theorem step_callback {response : SessionResponse}
    (taken : step foundation state (.callback name response) = some next) :
    ∃ call task manager, state.calls.get? name = some call ∧ call.progress = .started task ∧
      state.requestManager.step (.remove task) = some manager ∧
      next = ⟨manager, state.calls.modify name fun record => { record with
        progress := .calledBack task response
        answers := record.answers ++ callbackAnswers response }⟩ := by
  unfold step at taken
  dsimp only at taken
  split at taken
  next uploadData urlString headers task answers present =>
    obtain ⟨manager, moved, rfl⟩ := Option.map_eq_some_iff.mp taken
    exact ⟨_, task, manager, present, rfl, moved, rfl⟩
  next => cases taken

/-- A step of the registry changes nothing else. -/
theorem step_registry {registry : AwesomeRequestManager.Label String}
    (taken : step foundation state (.registry registry) = some next) :
    ∃ manager, state.requestManager.step registry = some manager ∧
      next = { state with requestManager := manager } := by
  unfold step at taken
  dsimp only at taken
  split at taken
  · obtain ⟨manager, moved, rfl⟩ := Option.map_eq_some_iff.mp taken
    exact ⟨manager, moved, rfl⟩
  · cases taken

/-- The callback leaves the entries that `removeRequest` leaves, wherever it returns. -/
theorem callback_removes {response : SessionResponse} {call : UploadCall} {task : Nat}
    {record : URLSessionTask String} {urlRequest : URLRequest} {queue : DispatchQueue}
    {context : List DispatchQueue} {after : AwesomeRequestManager String}
    (taken : step foundation state (.callback name response) = some next)
    (present : state.calls.get? name = some call) (started : call.progress = .started task)
    (found : state.requestManager.tasks.get? task = some record)
    (key : record.key = urlRequest.urlCacheKey)
    (returns : (AwesomeRequestManager.Method.removeRequest urlRequest).Returns queue context
      state.requestManager after) :
    next.requestManager.requestQueue = after.requestQueue := by
  obtain ⟨other, task', manager, same, started', moved, rfl⟩ := step_callback taken
  cases Option.some.inj (same.symm.trans present)
  cases started.symm.trans started'
  rw [(AwesomeRequestManager.removeRequest_returns_iff.mp returns).2]
  exact AwesomeRequestManager.step_remove moved found key

/-- Every step keeps the uploads valid. -/
theorem valid_step (valid : Valid foundation state)
    (taken : step foundation state label = some next) : Valid foundation next := by
  cases label with
  | upload uploadData urlString headers =>
      cases taken
      exact valid_upload valid uploadData urlString headers
  | registry label =>
      obtain ⟨manager, moved, rfl⟩ := step_registry taken
      refine ⟨AwesomeRequestManager.accounted_step valid.accounted moved, ?_⟩
      intro name call present
      exact (valid.calls name call present).step moved
  | callback name response =>
      obtain ⟨call, task, manager, present, started, moved, rfl⟩ := step_callback taken
      refine ⟨AwesomeRequestManager.accounted_step valid.accounted moved, ?_⟩
      have others : state.calls.All fun _ call => call.Sound foundation manager := by
        intro other record found
        exact (valid.calls other record found).step moved
      refine others.modify fun record found => ?_
      cases Option.some.inj (found.symm.trans present)
      have sound : call.Sound foundation state.requestManager := valid.calls name call present
      unfold UploadCall.Sound at sound
      rw [started] at sound
      refine ⟨sound.1, ?_, AwesomeRequestManager.step_remove_removed moved⟩
      rw [sound.2]
      rfl

/-- Every state of a run is valid. -/
theorem valid_run {labels : List Label}
    (run : Transition.Run (step foundation) initial labels state) : Valid foundation state :=
  run.preserves (fun _ _ _ valid taken => valid_step valid taken) (valid_initial foundation)

/-- A call that has ended has no entry. -/
theorem Valid.hasNoEntry {call : UploadCall} (valid : Valid foundation state)
    (present : state.calls.get? name = some call) : state.HasNoEntry call := by
  intro task response calledBack key registered
  have sound : call.Sound foundation state.requestManager := valid.calls name call present
  unfold UploadCall.Sound at sound
  rw [calledBack] at sound
  obtain ⟨_, _, record, found, removed⟩ := sound
  obtain ⟨entry, same, _, _, kept⟩ := valid.accounted.noStaleEntry key task registered
  cases Option.some.inj (found.symm.trans same)
  exact kept removed

/-- A call that has ended is answered exactly when its answer was not dropped. -/
theorem Valid.answeredOnce_iff {call : UploadCall} (valid : Valid foundation state)
    (present : state.calls.get? name = some call) (ended : call.Ended) :
    call.AnsweredOnce ↔ ¬ call.Dropped := by
  have sound : call.Sound foundation state.requestManager := valid.calls name call present
  unfold UploadCall.Sound at sound
  split at sound
  next returned =>
    refine iff_of_true ⟨_, sound.2, by simp, by simp⟩ ?_
    rintro ⟨task, response, calledBack, _⟩
    cases returned.symm.trans calledBack
  next task started => exact (ended task started).elim
  next task response calledBack =>
    obtain ⟨_, answers, _⟩ := sound
    rcases response.callbackAnswers_cases with
      ⟨empty, none⟩ | ⟨answer, whole, one, either, succeeded⟩
    · refine iff_of_false ?_ (not_not_intro ⟨task, response, calledBack, empty⟩)
      rintro ⟨answer, once, _⟩
      cases (answers.trans none).symm.trans once
    · refine iff_of_true ?_ ?_
      · refine ⟨answer, answers.trans one, either, fun data => ?_⟩
        exact ⟨task, response, calledBack, succeeded data⟩
      · rintro ⟨other, response', calledBack', empty⟩
        cases calledBack.symm.trans calledBack'
        exact whole empty

/-- The steps of a call from its beginning to the end of its callback. -/
def lifetime (uploadData : Option Data) (urlString : Option String)
    (headers : Option AwesomeRequesterHeader) (response : SessionResponse) (call task : Nat) :
    List Label :=
  [.upload uploadData urlString headers, .registry (.register task), .registry (.resume task),
    .registry (.finish task), .callback call response]

/-- A step of the registry, as one of the uploads. -/
theorem registry_eq {registry : AwesomeRequestManager.Label String}
    {manager : AwesomeRequestManager String} (registers : Registers registry)
    (moved : state.requestManager.step registry = some manager) :
    step foundation state (.registry registry) =
      some { state with requestManager := manager } := by
  unfold step
  dsimp only
  rw [if_pos registers, moved]
  rfl

/-- In every state, with every data, every string of a URL, all headers and every response a
call can be made whose callback runs. -/
theorem callback_runs (foundation : Foundation) (state : AwesomeUpload) (uploadData : Data)
    (urlString : String) (headers : Option AwesomeRequesterHeader) (response : SessionResponse)
    {url : URL}
    (located : foundation.urlOfString urlString none = some url) :
    ∃ next, Transition.Run (step foundation) state
      (lifetime (some uploadData) (some urlString) headers response state.calls.size
        state.requestManager.tasks.size) next ∧
      next.calls.get? state.calls.size = some ⟨some uploadData, some urlString, headers,
        .calledBack state.requestManager.tasks.size response, callbackAnswers response⟩ := by
  let key := (URLRequest.request url (some .POST) none headers 15).urlCacheKey
  obtain ⟨registered, resumed, completed, removed, registers, resumes, finishes, removes⟩ :=
    state.requestManager.lifetime_steps key
  let record : UploadCall := ⟨some uploadData, some urlString, headers,
    .started state.requestManager.tasks.size, []⟩
  let calls := state.calls.push record
  have starts : step foundation state (.upload (some uploadData) (some urlString) headers) =
      some ⟨state.requestManager.createTask key false, calls⟩ := by
    unfold step upload
    dsimp only
    rw [Option.bind_some, located]
    rfl
  have present : calls.get? state.calls.size = some record := Table.get?_push_self ..
  have calledBack : step foundation ⟨completed, calls⟩ (.callback state.calls.size response) =
      some ⟨removed, calls.modify state.calls.size fun record => { record with
        progress := .calledBack state.requestManager.tasks.size response
        answers := record.answers ++ callbackAnswers response }⟩ := by
    unfold step
    dsimp only
    rw [present]
    dsimp only [record]
    rw [removes]
    rfl
  refine ⟨_, .cons starts (.cons (registry_eq trivial registers) (.cons
    (registry_eq trivial resumes) (.cons (registry_eq trivial finishes) (.single calledBack)))), ?_⟩
  rw [Table.get?_modify_self, present]
  rfl

/-- **Answers of uploads.** In every run a call that has ended was answered once, with data or
an error, and left no entry in the registry, exactly when it was not an upload that succeeded
without data. -/
theorem answered_once_iff {labels : List Label} {call : UploadCall}
    (run : Transition.Run (step foundation) initial labels state)
    (present : state.calls.get? name = some call) (ended : call.Ended) :
    call.AnsweredOnce ∧ state.HasNoEntry call ↔ ¬ call.Dropped := by
  have valid := valid_run run
  rw [and_iff_left (valid.hasNoEntry present)]
  exact valid.answeredOnce_iff present ended

/-- What Foundation makes of one URL string; no other string is read. -/
def oneHost : Foundation where
  urlComponents string :=
    if string = "https://a.example/items" then
      some ⟨some "https", some "a.example", "/items", none⟩
    else none
  url components :=
    some ⟨components.scheme, components.host, components.path, components.queryItems⟩

/-- The server answers an upload with data. -/
theorem answered_once_iff_data : ∃ state call,
    Transition.Run (step oneHost) initial
      (lifetime (some [1]) (some "https://a.example/items") none ⟨some [2], some 201, none⟩ 0 0)
      state ∧
    state.calls.get? 0 = some call ∧ call.answers = [⟨some [2], none⟩] ∧ call.AnsweredOnce ∧
    state.HasNoEntry call := by
  obtain ⟨state, run, present⟩ := callback_runs oneHost initial [1]
    "https://a.example/items" none ⟨some [2], some 201, none⟩ rfl
  refine ⟨state, _, run, present, rfl, ?_⟩
  apply (answered_once_iff run present nofun).mpr
  rintro ⟨task, response, ⟨⟩, succeeded⟩
  cases succeeded.2.2

/-- The server answers an upload with status 204 and no data, and the completion is never
called. -/
theorem upload_without_answer : ∃ state call,
    Transition.Run (step oneHost) initial
      (lifetime (some [1]) (some "https://a.example/items") none ⟨none, some 204, none⟩ 0 0)
      state ∧
    state.calls.get? 0 = some call ∧ call.Ended ∧ call.answers = [] ∧ ¬ call.AnsweredOnce := by
  obtain ⟨state, run, present⟩ := callback_runs oneHost initial [1]
    "https://a.example/items" none ⟨none, some 204, none⟩ rfl
  refine ⟨state, _, run, present, nofun, rfl, ?_⟩
  rintro ⟨answer, once, _⟩
  cases once

end AwesomeUpload

end AwesomeNetwork
