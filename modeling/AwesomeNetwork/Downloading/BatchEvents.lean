import AwesomeNetwork.Downloading.SupersededBatches
import AwesomeNetwork.Downloading.Notifications

/-! # The events of batches

A batch posts `downloading` before each of its calls and for each progress, and the
completion of a call posts `downloaded`. The completion does not look at its result, so that
each answer that a call of a batch is given leads to one post.
-/

namespace AwesomeNetwork

/-- What a batch makes happen: a post, a call of `AwesomeDownload.download`, and a call of
the completion that it passes there. -/
inductive BatchEvent where
  | posted (event : AwesomeDownloadEvent) (object : AwesomeDownloadObject)
  | called (url : URL)
  | completed (url : URL) (success : Bool)
deriving DecidableEq, Repr

namespace AwesomeDownloadManager

/-- The completion that `download(from:)` passes, for the URL of its call. -/
def completion (url : URL) (success : Bool) : List BatchEvent :=
  [.completed url success, .posted .downloaded { url := url, progress := ⟨1, 1⟩ }]

/-- The URL of a call of `AwesomeDownload.download` that a batch has made. -/
def batchUrl (manager : AwesomeDownloadManager) (name : Nat) : Option URL :=
  match manager.completions name, manager.downloads.calls.get? name with
  | some _, some call => call.url
  | _, _ => none

/-- What the next statement of the main thread makes happen. -/
def mainOccurs (manager : AwesomeDownloadManager) : List BatchEvent :=
  match manager.main with
  | .cancelling _ (url :: _) cancel :: _ =>
      if manager.downloads.cancels.get? cancel = some .returned then
        [.posted .downloading { url := url }]
      else []
  | .notifyingDownloading _ url _ :: _ => [.called url]
  | .downloading name :: _ =>
      match manager.downloads.calls.get? name, manager.batchUrl name with
      | some call, some url =>
          match call.answers with
          -- the check has found the file and called the completion
          | answer :: _ => completion url answer.value
          | [] => []
      | _, _ => []
  | _ => []

/-- What the next block of the main queue makes happen. -/
def blockOccurs (manager : AwesomeDownloadManager) : List BatchEvent :=
  match manager.downloads.mainQueue with
  | .progress progress :: _ =>
      match manager.downloads.progressCallback.bind manager.batchUrl with
      | some url => [.posted .downloading { url := url, progress := progress }]
      | none => []
  | .downloaded _ success :: _ =>
      match manager.downloads.downloadedCallback.bind manager.batchUrl with
      | some url => completion url success
      | none => []
  | [] => []

/-- What a step of the manager brings about for the batches. -/
def occurs (manager : AwesomeDownloadManager) : Label → List BatchEvent
  | .main _ => manager.mainOccurs
  | .runMain => manager.blockOccurs
  | .download _ | .downloads _ => []

/-- The events of a run, in order. -/
def trace (source : AwesomeDownloadManager) (labels : List Label) : List BatchEvent :=
  Transition.emitted step occurs source labels

end AwesomeDownloadManager

namespace BatchEvent

/-- The URL for which `downloaded` is posted. -/
def downloaded? : BatchEvent → Option URL
  | posted .downloaded object => object.url
  | _ => none

def result? : BatchEvent → Option (URL × Bool)
  | completed url success => some (url, success)
  | _ => none

/-- The URLs for which `downloaded` is posted. -/
def downloadedPosts (events : List BatchEvent) : List URL := events.filterMap downloaded?

/-- The results that completions are called with. -/
def results (events : List BatchEvent) : List (URL × Bool) := events.filterMap result?

/-- For each URL `downloaded` is posted as often as its result was true. -/
def Truthful (events : List BatchEvent) (reported : List (URL × Bool)) : Prop :=
  ∀ url, (downloadedPosts events).count url = reported.count (url, true)

theorem results_append (first second : List BatchEvent) :
    results (first ++ second) = results first ++ results second := List.filterMap_append

theorem downloadedPosts_append (first second : List BatchEvent) :
    downloadedPosts (first ++ second) = downloadedPosts first ++ downloadedPosts second :=
  List.filterMap_append

theorem count_map_fst (reported : List (URL × Bool)) (url : URL) :
    (reported.map Prod.fst).count url =
      reported.count (url, true) + reported.count (url, false) := by
  induction reported with
  | nil => rfl
  | cons result reported ih =>
      obtain ⟨other, success⟩ := result
      rw [List.map_cons, List.count_cons, List.count_cons, List.count_cons, ih]
      cases success <;> simp only [beq_iff_eq, Prod.mk.injEq, and_true, and_false,
        Bool.false_eq_true, Bool.true_eq_false, ↓reduceIte] <;> omega

/-- With a post for every result, the posts are truthful exactly when all results are true. -/
theorem truthful_iff_of_paired {events : List BatchEvent} {reported : List (URL × Bool)}
    (paired : (downloadedPosts events).Perm (reported.map Prod.fst)) :
    Truthful events reported ↔ ∀ result ∈ reported, result.2 = true := by
  have counts (url : URL) : (downloadedPosts events).count url =
      reported.count (url, true) + reported.count (url, false) :=
    (paired.count_eq url).trans (count_map_fst reported url)
  constructor
  · rintro same ⟨url, success⟩ member
    cases success with
    | true => rfl
    | false =>
        have positive := List.count_pos_iff.mpr member
        have truthful := same url
        have all := counts url
        omega
  · intro positive url
    have none : reported.count (url, false) = 0 :=
      List.count_eq_zero.mpr fun member => Bool.false_ne_true (positive _ member)
    rw [counts, none, Nat.add_zero]

end BatchEvent

namespace AwesomeDownloadManager

open BatchEvent

theorem mainOccurs_paired (manager : AwesomeDownloadManager) :
    downloadedPosts manager.mainOccurs = (results manager.mainOccurs).map Prod.fst := by
  unfold mainOccurs
  split
  · split <;> rfl
  · rfl
  · split
    · split <;> rfl
    · rfl
  · rfl

theorem blockOccurs_paired (manager : AwesomeDownloadManager) :
    downloadedPosts manager.blockOccurs = (results manager.blockOccurs).map Prod.fst := by
  unfold blockOccurs
  split
  · split <;> rfl
  · split <;> rfl
  · rfl

/-- Whatever a step makes happen, there is a post of `downloaded` for every result. -/
theorem occurs_paired (manager : AwesomeDownloadManager) (label : Label) :
    downloadedPosts (manager.occurs label) = (results (manager.occurs label)).map Prod.fst := by
  cases label with
  | main folder => exact mainOccurs_paired manager
  | runMain => exact blockOccurs_paired manager
  | download urls => rfl
  | downloads label => rfl

theorem trace_paired (source : AwesomeDownloadManager) (labels : List Label) :
    downloadedPosts (trace source labels) = (results (trace source labels)).map Prod.fst := by
  induction labels generalizing source with
  | nil => rfl
  | cons label labels ih =>
      cases taken : step source label with
      | none =>
          unfold trace Transition.emitted
          rw [taken]
          rfl
      | some middle =>
          unfold trace at ih ⊢
          rw [Transition.emitted_cons taken, downloadedPosts_append, results_append,
            List.map_append, occurs_paired, ih middle]

/-- The results that a call of a batch was answered with. -/
def answersOf (manager : AwesomeDownloadManager) (name : Nat) : List (URL × Bool) :=
  match manager.batchUrl name, manager.downloads.calls.get? name with
  | some url, some call => call.answers.map fun answer => (url, answer.value)
  | _, _ => []

/-- The results of a call once the main thread is not in it any more: what is reported inside
of the call is posted with its return. -/
def reportedOf (manager : AwesomeDownloadManager) (name : Nat) : List (URL × Bool) :=
  if manager.main.head? = some (.downloading name) then [] else manager.answersOf name

/-- The results that `AwesomeDownload.download` has reported to the batches. -/
def reported (manager : AwesomeDownloadManager) : List (URL × Bool) :=
  (List.range manager.downloads.calls.size).flatMap manager.reportedOf

section Reports

variable {manager next : AwesomeDownloadManager} {label : Label} {name : Nat}

theorem reportedOf_inside (inside : manager.main.head? = some (.downloading name)) :
    manager.reportedOf name = [] :=
  if_pos inside

theorem reportedOf_outside (outside : manager.main.head? ≠ some (.downloading name)) :
    manager.reportedOf name = manager.answersOf name :=
  if_neg outside

theorem answersOf_eq {url : URL} {call : DownloadCall} (named : manager.batchUrl name = some url)
    (found : manager.downloads.calls.get? name = some call) :
    manager.answersOf name = call.answers.map fun answer => (url, answer.value) := by
  unfold answersOf
  rw [named, found]

/-- No batch has made the call. -/
theorem answersOf_unkept (unkept : manager.completions name = none) :
    manager.answersOf name = [] := by
  unfold answersOf batchUrl
  rw [unkept]

/-- A call that stays as it is keeps its results. -/
theorem answersOf_congr (completions : next.completions name = manager.completions name)
    (calls : next.downloads.calls.get? name = manager.downloads.calls.get? name) :
    next.answersOf name = manager.answersOf name := by
  unfold answersOf batchUrl
  rw [completions, calls]

/-- The call of a batch has the URL. -/
theorem exists_of_batchUrl {url : URL} (named : manager.batchUrl name = some url) :
    ∃ completion call, manager.completions name = some completion ∧
      manager.downloads.calls.get? name = some call ∧ call.url = some url := by
  unfold batchUrl at named
  split at named
  · next completion call kept found => exact ⟨completion, call, kept, found, named⟩
  · cases named

/-- A call is answered once more: a result is added if a batch has made it. -/
theorem answersOf_answered {answer : DownloadAnswer}
    (completions : next.completions = manager.completions)
    (calls : next.downloads.calls = manager.downloads.calls.modify name (·.answer answer)) :
    next.answersOf name = manager.answersOf name ++
      ((manager.batchUrl name).map fun url => (url, answer.value)).toList := by
  unfold answersOf batchUrl
  rw [completions, calls, Table.get?_modify_self]
  cases manager.completions name with
  | none => rfl
  | some completion =>
      cases manager.downloads.calls.get? name with
      | none => rfl
      | some call =>
          obtain ⟨url, folder, force, stage, answers⟩ := call
          cases url with
          | none => rfl
          | some url => exact List.map_append

/-- Results that are added to one call are added to all of them. -/
theorem reported_added {added : List (URL × Bool)}
    (size : next.downloads.calls.size = manager.downloads.calls.size)
    (inside : name < manager.downloads.calls.size)
    (changed : next.reportedOf name = manager.reportedOf name ++ added)
    (others : ∀ other, other ≠ name → next.reportedOf other = manager.reportedOf other) :
    next.reported.Perm (manager.reported ++ added) := by
  unfold reported
  rw [size]
  generalize manager.downloads.calls.size = size at inside
  induction size with
  | zero => exact (Nat.not_lt_zero _ inside).elim
  | succ size ih =>
      rw [List.range_succ, List.flatMap_append, List.flatMap_append, List.flatMap_singleton,
        List.flatMap_singleton]
      by_cases last : name = size
      · subst last
        have below : (List.range name).flatMap next.reportedOf =
            (List.range name).flatMap manager.reportedOf :=
          List.flatMap_congr fun other member =>
            others other (Nat.ne_of_lt (List.mem_range.mp member))
        rw [changed, below, List.append_assoc]
      · rw [others size (Ne.symm last), List.append_assoc]
        refine ((ih (by omega)).append_right _).trans ?_
        rw [List.append_assoc]
        exact List.perm_append_comm.append_left _

/-- Nothing is reported when every call keeps its results. -/
theorem reported_kept (size : next.downloads.calls.size = manager.downloads.calls.size)
    (kept : ∀ name < manager.downloads.calls.size,
      next.reportedOf name = manager.reportedOf name) :
    next.reported = manager.reported := by
  unfold reported
  rw [size]
  exact List.flatMap_congr fun name member => kept name (List.mem_range.mp member)

/-- Nothing is reported with a call that begins. -/
theorem reported_begun (size : next.downloads.calls.size = manager.downloads.calls.size + 1)
    (kept : ∀ name < manager.downloads.calls.size,
      next.reportedOf name = manager.reportedOf name)
    (begun : next.reportedOf manager.downloads.calls.size = []) :
    next.reported = manager.reported := by
  unfold reported
  rw [size, List.range_succ, List.flatMap_append, List.flatMap_singleton, begun, List.append_nil]
  exact List.flatMap_congr fun name member => kept name (List.mem_range.mp member)

/-- The main thread moves between frames that are not those of calls. -/
theorem reported_elsewhere (size : next.downloads.calls.size = manager.downloads.calls.size)
    (outside : ∀ name, manager.main.head? ≠ some (.downloading name))
    (outside' : ∀ name, next.main.head? ≠ some (.downloading name))
    (same : ∀ name, next.answersOf name = manager.answersOf name) :
    next.reported = manager.reported :=
  reported_kept size fun name _ => by
    rw [reportedOf_outside (outside name), reportedOf_outside (outside' name), same]

/-- The main thread is in no call while it is at another frame. -/
theorem outside_of_entered {frame : BatchFrame} {below : List BatchFrame}
    (entered : manager.main = frame :: below) (elsewhere : ∀ name, frame ≠ .downloading name)
    (name : Nat) : manager.main.head? ≠ some (.downloading name) := by
  rw [entered]
  exact fun head => elsewhere name (Option.some.inj head)

/-- With the main thread in a call, what the next statement makes happen is what the call was
answered with. -/
theorem results_mainOccurs {below : List BatchFrame} {call : DownloadCall}
    (entered : manager.main = .downloading name :: below)
    (found : manager.downloads.calls.get? name = some call) (few : call.answers.length ≤ 1) :
    results manager.mainOccurs = manager.answersOf name := by
  unfold mainOccurs
  rw [entered]
  dsimp only
  rw [found]
  cases named : manager.batchUrl name with
  | none =>
      unfold answersOf
      rw [named]
      rfl
  | some url =>
      rw [answersOf_eq named found]
      match answers : call.answers with
      | [] =>
          dsimp only
          rw [answers]
          rfl
      | [answer] =>
          dsimp only
          rw [answers]
          rfl
      | _ :: _ :: _ =>
          rw [answers, List.length_cons, List.length_cons] at few
          omega

/-- A new call was not reported yet. -/
theorem reported_call {folder : String} {batch : Nat} {url : URL}
    {urls : List URL} {below : List BatchFrame}
    (entered : manager.main = .notifyingDownloading batch url urls :: below) :
    (manager.callDownload folder batch url urls below).reported = manager.reported := by
  refine reported_begun List.length_append (fun name old => ?_) (reportedOf_inside rfl)
  have older : name ≠ manager.downloads.calls.size := Nat.ne_of_lt old
  have elsewhere : (manager.callDownload folder batch url urls below).main.head? ≠
      some (.downloading name) := by
    intro head
    cases head
    exact older rfl
  rw [reportedOf_outside elsewhere, reportedOf_outside (outside_of_entered entered nofun name)]
  refine answersOf_congr (Function.update_of_ne older _ _) ?_
  exact (Table.get?_push ..).trans (if_neg older)

section Left

variable {frames : List BatchFrame} {below : List BatchFrame} {call : DownloadCall}
  (framed : CallsFramed manager) (entered : manager.main = .downloading name :: below)
  (found : manager.downloads.calls.get? name = some call)
  (outside : ∀ name, frames.head? ≠ some (.downloading name))

include framed entered found outside

/-- When the main thread comes back from a call, what the call was answered with is reported. -/
theorem reported_left : ({ manager with main := frames } : AwesomeDownloadManager).reported.Perm
    (manager.reported ++ results manager.mainOccurs) := by
  have head : manager.main.head? = some (.downloading name) := congrArg List.head? entered
  rw [results_mainOccurs entered found (framed.answered name call head found).1]
  refine reported_added rfl (Table.lt_size_of_get? found) ?_ fun other another => ?_
  · rw [reportedOf_inside head, reportedOf_outside (outside name)]
    rfl
  · have elsewhere : manager.main.head? ≠ some (.downloading other) := by
      rw [head]
      intro same
      cases same
      exact another rfl
    rw [reportedOf_outside elsewhere, reportedOf_outside (outside other)]
    rfl

end Left

section Downloads

variable {downloads : AwesomeDownload}

/-- A block of the main queue answers no call, or answers that of the callback. -/
theorem runMain_calls (moved : manager.downloads.step .runMain = some downloads) :
    (downloads.calls = manager.downloads.calls ∧ results manager.blockOccurs = []) ∨
      ∃ owner transfer success,
        downloads.calls =
            manager.downloads.calls.modify owner (·.answer (.transferred transfer success)) ∧
          results manager.blockOccurs =
            ((manager.batchUrl owner).map fun url => (url, success)).toList := by
  unfold AwesomeDownload.step at moved
  unfold blockOccurs
  dsimp only at moved
  split at moved
  · cases moved
  · next progress rest queued =>
      cases moved
      refine Or.inl ⟨AwesomeDownload.calls_runProgress _ progress, ?_⟩
      rw [queued]
      dsimp only
      split <;> rfl
  · next transfer success rest queued =>
      cases moved
      unfold AwesomeDownload.runDownloaded
      rw [queued]
      cases manager.downloads.downloadedCallback with
      | none => exact Or.inl ⟨rfl, rfl⟩
      | some owner =>
          refine Or.inr ⟨owner, transfer, success, rfl, ?_⟩
          dsimp only
          rw [Option.bind_some]
          cases manager.batchUrl owner <;> rfl

/-- A block of the main queue reports what it carries to the call of the callback. -/
theorem reported_runMain (free : manager.main = [])
    (moved : manager.downloads.step .runMain = some downloads)
    (runs : next = { manager with downloads := downloads, main := manager.answeredFrames }) :
    next.reported.Perm (manager.reported ++ results manager.blockOccurs) := by
  have outside (name : Nat) : manager.main.head? ≠ some (.downloading name) := by
    rw [free]
    nofun
  have outside' (name : Nat) : next.main.head? ≠ some (.downloading name) :=
    runs ▸ (answeredFrames_outside manager name).2
  have completions : next.completions = manager.completions := by rw [runs]
  have moves : next.downloads = downloads := by rw [runs]
  rcases runMain_calls moved with ⟨calls, silent⟩ | ⟨owner, transfer, success, calls, reports⟩
  · rw [silent, List.append_nil, reported_elsewhere (by rw [moves, calls]) outside outside']
    exact fun name => answersOf_congr (by rw [completions]) (by rw [moves, calls])
  · rw [← moves] at calls
    have size : next.downloads.calls.size = manager.downloads.calls.size :=
      calls ▸ Table.size_modify ..
    have answered := answersOf_answered completions calls
    have others (other : Nat) (another : other ≠ owner) :
        next.answersOf other = manager.answersOf other :=
      answersOf_congr (by rw [completions]) (by rw [calls, Table.get?_modify_of_ne _ _ another])
    rw [reports]
    cases named : manager.batchUrl owner with
    | none =>
        rw [named] at answered
        rw [Option.map_none, Option.toList_none, List.append_nil,
          reported_elsewhere size outside outside']
        intro name
        by_cases own : name = owner
        · rw [own, answered]
          exact List.append_nil _
        · exact others name own
    | some url =>
        obtain ⟨_, call, _, found, _⟩ := exists_of_batchUrl named
        refine reported_added size (Table.lt_size_of_get? found) ?_ fun other another => ?_
        · rw [reportedOf_outside (outside owner), reportedOf_outside (outside' owner), answered,
            named]
          rfl
        · rw [reportedOf_outside (outside other), reportedOf_outside (outside' other),
            others other another]

/-- A step of the shared object answers only the call that the main thread is in. -/
theorem reported_downloads (framed : CallsFramed manager) {moves : AwesomeDownload.Label}
    (waits : moves ≠ .runMain) (moved : manager.downloads.step moves = some downloads) :
    ({ manager with downloads := downloads } : AwesomeDownloadManager).reported =
      manager.reported := by
  have kept (name : Nat) (old : name < manager.downloads.calls.size) :
      ({ manager with downloads := downloads } : AwesomeDownloadManager).reportedOf name =
        manager.reportedOf name := by
    by_cases inside : manager.main.head? = some (.downloading name)
    · rw [reportedOf_inside inside, reportedOf_inside]
      exact inside
    · rw [reportedOf_outside inside, reportedOf_outside]
      · cases completed : manager.completions name with
        | none => rw [answersOf_unkept completed, answersOf_unkept]; exact completed
        | some completion =>
            obtain ⟨call, found⟩ : ∃ call, manager.downloads.calls.get? name = some call :=
              ⟨_, List.getElem?_eq_getElem old⟩
            have returned : call.stage = .returned := by
              by_contra unreturned
              exact inside (framed.unreturned name completion call completed found unreturned)
            obtain ⟨after, present, callMoves⟩ := AwesomeDownload.step_call moved found
            have same : after = call := callMoves.stays returned waits
            exact answersOf_congr rfl (present.trans (same ▸ found.symm))
      · exact inside
  rcases AwesomeDownload.size_calls moved with size | ⟨url, folder, force, _, pushed⟩
  · exact reported_kept size kept
  · have unmade : manager.completions manager.downloads.calls.size = none := by
      cases completed : manager.completions manager.downloads.calls.size with
      | none => rfl
      | some completion => exact (Nat.lt_irrefl _ (framed.fresh _ completion completed)).elim
    refine reported_begun ?_ kept ?_
    · change downloads.calls.size = _
      rw [pushed]
      exact List.length_append
    · unfold reportedOf
      split
      · rfl
      · exact answersOf_unkept unmade

end Downloads

/-- What a step reports to the batches is what it makes their completions be called with. -/
theorem reported_step (framed : CallsFramed manager) (taken : step manager label = some next) :
    next.reported.Perm (manager.reported ++ results (manager.occurs label)) := by
  have silent (nothing : results (manager.occurs label) = [])
      (same : next.reported = manager.reported) :
      next.reported.Perm (manager.reported ++ results (manager.occurs label)) := by
    rw [nothing, same, List.append_nil]
  cases stepCases taken with
  | download urls accepts =>
      exact silent rfl (reported_elsewhere rfl (head_of_accepts accepts) nofun fun _ => rfl)
  | runOut folder batch cancel below entered =>
      refine silent ?_ (reported_elsewhere rfl (outside_of_entered entered nofun)
        (framed.head_below entered) fun _ => rfl)
      unfold occurs mainOccurs
      rw [entered]
      rfl
  | notify folder batch cancel url urls below entered =>
      refine silent ?_ (reported_elsewhere rfl (outside_of_entered entered nofun) nofun
        fun _ => rfl)
      unfold occurs mainOccurs
      rw [entered]
      dsimp only
      split <;> rfl
  | call folder batch url urls below entered =>
      refine silent ?_ (reported_call entered)
      unfold occurs mainOccurs
      rw [entered]
      rfl
  | leave folder name call below entered found =>
      exact reported_left framed entered found (framed.head_below entered)
  | existed folder name call completion below entered found =>
      exact reported_left framed entered found nofun
  | proceed folder batch urls below entered =>
      refine silent ?_ (reported_elsewhere rfl (outside_of_entered entered nofun) nofun
        fun _ => rfl)
      unfold occurs mainOccurs
      rw [entered]
      rfl
  | runMain downloads free moved => exact reported_runMain free moved rfl
  | downloads label downloads waits moved =>
      exact silent rfl (reported_downloads framed waits moved)

/-- In every run the results are those of the answers. -/
theorem reported_run {source target : AwesomeDownloadManager} {labels : List Label}
    (framed : CallsFramed source) (run : Transition.Run step source labels target) :
    target.reported.Perm (source.reported ++ results (trace source labels)) := by
  induction run with
  | nil => exact (List.append_nil _).symm ▸ .refl _
  | cons taken _ ih =>
      refine (ih (callsFramed_step framed taken)).trans ?_
      unfold trace
      rw [Transition.emitted_cons taken, results_append, ← List.append_assoc]
      exact (reported_step framed taken).append_right _

/-- With the main thread in no call, every answer to a call of a batch is reported. -/
theorem reported_eq_answers (outside : ∀ name, manager.main.head? ≠ some (.downloading name)) :
    manager.reported = (List.range manager.downloads.calls.size).flatMap manager.answersOf :=
  List.flatMap_congr fun name _ => reportedOf_outside (outside name)

end Reports

/-- **What `downloaded` says.** In every run, the completions that the batches pass are called
with the answers to their calls, all of them once the main thread is in no call; and
`downloaded` is posted for each URL as often as its result was true if and only if no result
was false. -/
theorem trace_truthful_iff {files : FileSystem} {labels : List Label}
    {target : AwesomeDownloadManager}
    (run : Transition.Run step (initial files) labels target) :
    (results (trace (initial files) labels)).Perm target.reported ∧
      ((∀ name, target.main.head? ≠ some (.downloading name)) → target.reported =
        (List.range target.downloads.calls.size).flatMap target.answersOf) ∧
      (Truthful (trace (initial files) labels) target.reported ↔
        ∀ result ∈ target.reported, result.2 = true) := by
  have same := (reported_run (callsFramed_initial files) run).symm
  refine ⟨same, reported_eq_answers, truthful_iff_of_paired ?_⟩
  rw [trace_paired]
  exact same.map Prod.fst

/-- The file of the first URL arrives, and the block with the result of its move runs. -/
def moveEnds (goesThrough : Bool) : List Label :=
  .download [track "a.mp3"] :: startNext 0 0 ++ [.downloads (.finish 0 [1])] ++
    List.replicate 8 (.downloads (.deliver 0 goesThrough)) ++ [.runMain]

/-- Another batch finds the file of its URL. -/
def foundAgain : List Label :=
  [.main "aaNetworking"] ++ cancelled 1 ++ [.download [track "a.mp3"]] ++ cancelled 2 ++
    [.main "aaNetworking", .downloads (.advance 1 .succeeds), .main "aaNetworking"]

/-- A batch posts `downloaded` for a URL whose file could not be stored. -/
theorem downloaded_without_file : ∃ target,
    Transition.Run step (initial .empty) (moveEnds false) target ∧
      target.downloads.files.nodes = FileSystem.empty.nodes ∧
      target.reported = [(track "a.mp3", false)] ∧
      downloadedPosts (trace (initial .empty) (moveEnds false)) = [track "a.mp3"] ∧
      ¬ Truthful (trace (initial .empty) (moveEnds false)) target.reported := by
  refine ⟨_, Transition.run_iff_execute.mpr rfl, rfl, by decide, by decide, fun truthful => ?_⟩
  exact absurd (truthful (track "a.mp3")) (by decide)

/-- A URL whose file is stored, and that is found by a second batch, is posted twice. -/
theorem trace_truthful_iff_stored : ∃ target,
    Transition.Run step (initial .empty) (moveEnds true ++ foundAgain) target ∧
      target.reported = [(track "a.mp3", true), (track "a.mp3", true)] ∧
      Truthful (trace (initial .empty) (moveEnds true ++ foundAgain)) target.reported := by
  have run := Transition.run_iff_execute.mpr (rfl : Transition.execute step (initial .empty)
    (moveEnds true ++ foundAgain) = some _)
  exact ⟨_, run, by decide, (trace_truthful_iff run).2.2.mpr (by decide)⟩

end AwesomeDownloadManager

end AwesomeNetwork
