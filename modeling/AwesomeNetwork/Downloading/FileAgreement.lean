import AwesomeNetwork.Downloading.CallSteps

/-! # What a result of a download says about the file

Calls that do not overlap are answered for what they found or transferred themselves. A
result agrees with the file at the destination unless a directory is there, and a forced
call serves a new file unless the removal of the old one fails.
-/

namespace AwesomeNetwork

namespace AwesomeDownload

/-- Every transfer is one of a call that has begun. -/
def Begun (downloads : AwesomeDownload) : Prop :=
  downloads.transfers.All fun _ transfer => transfer.call < downloads.calls.size

/-- The call is the only one that has not returned, and stands somewhere. It settles for
what was at its destination only if it was not forced or something did not go through. -/
def Standing (before : FileSystem) (force : Bool) (downloads : AwesomeDownload) (name : Nat)
    (call : DownloadCall) (through : Prop) : Prop :=
  ∃ after, Only downloads name after ∧ after.url = call.url ∧ after.folder = call.folder ∧
    ((Fresh before force downloads name after ∧ through) ∨
      (Stale before downloads name after ∧ (force = false ∨ ¬ through)))

/-- A call that began after the call `name` stands somewhere. -/
def Succeeded (downloads : AwesomeDownload) (name : Nat) : Prop :=
  ∃ before force later call through, name < later ∧
    Standing before force downloads later call through

/-- The completion of the call `name` is called. -/
def Answers (downloads next : AwesomeDownload) (name : Nat) (answer : DownloadAnswer) : Prop :=
  ∃ before after, downloads.calls.get? name = some before ∧ next.calls.get? name = some after ∧
    after.answers = before.answers ++ [answer]

/-- The contents are those of a transfer of the call. -/
def Transferred (downloads : AwesomeDownload) (name : Nat) (contents : Data) : Prop :=
  ∃ own transfer, downloads.transfers.get? own = some transfer ∧ transfer.call = name ∧
    transfer.bytes = contents

/-- What a result says about the node at a path: after true it is the file that was there,
or a transferred one if none was; after false it is what was there. -/
def ResultAgrees (before after : Option FileNode) (transferred : Data → Prop) : Bool → Prop
  | true => ∃ contents, after = some (.file contents) ∧
      (before = some (.file contents) ∨
        ((∀ old, before ≠ some (.file old)) ∧ transferred contents))
  | false => after = before

/-- A transfer of the call was performed, and the file at its destination is the
transferred one. -/
def ServedAnew (downloads : AwesomeDownload) (name : Nat) (url : Option URL)
    (folder : Option String) : Prop :=
  ∃ target contents, url = some target ∧ downloads.Transferred name contents ∧
    downloads.files.nodes (target.offlineFileDestination folder).resolved = some (.file contents)

variable {downloads next : AwesomeDownload} {label : Label} {name : Nat} {call : DownloadCall}
  {before : FileSystem} {force : Bool} {through : Prop}

/-- Before the first call nothing has begun. -/
theorem begun_initial (files : FileSystem) : Begun (initial files) := Table.All.empty

/-- Every step keeps the transfers those of calls that have begun. -/
theorem begun_step (begun : downloads.Begun) (taken : step downloads label = some next) :
    next.Begun := by
  have grows : downloads.calls.size ≤ next.calls.size := by
    rcases size_calls taken with same | ⟨url, folder, force, _, pushed⟩
    · exact same.ge
    · have size : next.calls.size = downloads.calls.size + 1 := by
        rw [pushed]
        exact List.length_append
      omega
  intro name after present
  rcases step_transfer_inv taken present with
    ⟨earlier, found, moves⟩ | ⟨caller, _, call, _, _, found, _, _, rfl⟩
  · rw [moves.call_eq]
    exact (begun name earlier found).trans_le grows
  · exact (Table.lt_size_of_get? found).trans_le grows

/-- Under the name of the only call there is no other one. -/
theorem Only.unique (only : Only downloads name call) {after : DownloadCall}
    (found : downloads.calls.get? name = some after) : after = call :=
  Option.some.inj (found.symm.trans only.found)

/-- The call is the only one that has not returned until the next call begins. -/
theorem only_step (only : Only downloads name call)
    (begins : ∀ url folder force, label ≠ .download url folder force)
    (taken : step downloads label = some next) :
    ∃ after, Only next name after ∧ after.url = call.url ∧ after.folder = call.folder := by
  obtain ⟨after, present, moves⟩ := step_call taken only.found
  exact ⟨after, ⟨present, others_returned only.others begins taken⟩, moves.url_folder_eq⟩

/-- A call begins when everything is settled, and is the only one that has not returned. -/
theorem standing_download {url : Option URL} {folder : Option String} (settled : downloads.Settled)
    (begun : downloads.Begun) (taken : step downloads (.download url folder force) = some next) :
    Standing downloads.files force next downloads.calls.size ⟨url, folder, force, .checking, []⟩
      True := by
  cases taken
  refine ⟨_, ⟨Table.get?_push_self .., fun other call found another => ?_⟩, rfl, rfl,
    Or.inl ⟨.checking rfl rfl rfl settled.2 ?_ rfl, trivial⟩⟩
  · rcases Table.get?_push_cases found with old | ⟨newest, _⟩
    · exact settled.1 other call old
    · exact (another newest).elim
  · exact fun own transfer found => (begun own transfer found).ne

/-- A call stands somewhere until the next call begins. -/
theorem standing_step (standing : Standing before force downloads name call through)
    (apart : InSuccession downloads label)
    (begins : ∀ url folder force, label ≠ .download url folder force)
    (taken : step downloads label = some next) :
    Standing before force next name call (through ∧ Removes name downloads label) := by
  obtain ⟨now, only, url, folder, stands⟩ := standing
  obtain ⟨after, only', url', folder'⟩ := only_step only begins taken
  refine ⟨after, only', url'.trans url, folder'.trans folder, ?_⟩
  rcases stands with ⟨fresh, went⟩ | ⟨stale, kept⟩
  · obtain ⟨after', present, moved⟩ := fresh_step only apart.delete fresh taken
    cases only'.unique present
    refine moved.imp (fun fresh => ⟨fresh.1, went, fresh.2⟩) fun stale => ⟨stale.1, ?_⟩
    exact stale.2.imp_right fun failed both => failed both.2
  · obtain ⟨after', present, moved⟩ := stale_step only apart.delete stale taken
    cases only'.unique present
    exact Or.inr ⟨moved, kept.imp_right fun failed both => failed both.1⟩

/-- Once a later call has begun, one stands somewhere for good. -/
theorem succeeded_step (begun : downloads.Begun) (succeeded : downloads.Succeeded name)
    (apart : InSuccession downloads label) (taken : step downloads label = some next) :
    next.Succeeded name := by
  obtain ⟨before, force, later, call, through, after, standing⟩ := succeeded
  by_cases begins : ∃ url folder force, label = .download url folder force
  · obtain ⟨url, folder, force', rfl⟩ := begins
    obtain ⟨now, only, _⟩ := standing
    exact ⟨_, _, _, _, _, after.trans (Table.lt_size_of_get? only.found),
      standing_download apart begun taken⟩
  · refine ⟨before, force, later, call, _, after, standing_step standing apart ?_ taken⟩
    exact fun url folder force downloads => begins ⟨url, folder, force, downloads⟩

/-- Where a call stands when others may have begun since. -/
theorem standing_run {target : AwesomeDownload} {labels : List Label} (begun : downloads.Begun)
    (standing : Standing before force downloads name call through)
    (run : Transition.Run step downloads labels target)
    (apart : Transition.Meets step InSuccession downloads labels) :
    Standing before force target name call
        (through ∧ Transition.Meets step (Removes name) downloads labels) ∨
      target.Succeeded name := by
  induction run generalizing through with
  | nil => exact Or.inl ((and_true through).symm ▸ standing)
  | @cons source middle target label labels taken rest ih =>
      have begun' := begun_step begun taken
      by_cases begins : ∃ url folder force, label = .download url folder force
      · right
        obtain ⟨url, folder, force', rfl⟩ := begins
        obtain ⟨now, only, _⟩ := standing
        have succeeded : middle.Succeeded name := ⟨_, _, _, _, _,
          Table.lt_size_of_get? only.found, standing_download apart.1 begun taken⟩
        have both : target.Begun ∧ target.Succeeded name := by
          apply rest.preserves_of_meets (apart.2 _ taken) _ ⟨begun', succeeded⟩
          intro state label next valid apart taken
          exact ⟨begun_step valid.1 taken, succeeded_step valid.1 valid.2 apart taken⟩
        exact both.2
      · have moved := standing_step standing apart.1
          (fun url folder force downloads => begins ⟨url, folder, force, downloads⟩) taken
        rw [Transition.Meets.cons_iff taken, ← and_assoc]
        exact ih begun' moved (apart.2 _ taken)

/-- A result that the main queue is about to deliver is for the call that stands. -/
theorem Standing.holds (standing : Standing before force downloads name call through)
    {result : Nat × Bool} (queued : downloads.nextResult = some result) :
    downloads.downloadedCallback = some name := by
  obtain ⟨now, _, _, _, ⟨fresh, _⟩ | ⟨stale, _⟩⟩ := standing
  · cases fresh with
    | checking _ _ _ quiet => exact (absurd_of_no_result quiet.2 queued).elim
    | deleting _ _ _ quiet => exact (absurd_of_no_result quiet.2 queued).elim
    | removed _ _ _ quiet => exact (absurd_of_no_result quiet.2 queued).elim
    | noUrl _ _ _ quiet => exact (absurd_of_no_result quiet.2 queued).elim
    | unserved _ _ _ quiet => exact (absurd_of_no_result quiet.2 queued).elim
    | transferring _ _ _ _ _ _ none => exact (absurd_of_no_result none queued).elim
    | queued _ _ _ _ returned written =>
        rw [returned] at written
        exact written.2.1
    | answered _ _ _ _ _ _ quiet => exact (absurd_of_no_result quiet.2 queued).elim
  · cases stale with
    | kept _ _ _ quiet => exact (absurd_of_no_result quiet.2 queued).elim
    | existed _ _ quiet => exact (absurd_of_no_result quiet.2 queued).elim

/-- Only the call that stands is answered, and not by the start of another one. -/
theorem Standing.answers {other : Nat} {answer : DownloadAnswer}
    (standing : Standing before force downloads name call through)
    (answers : Answers downloads next other answer) (taken : step downloads label = some next) :
    other = name ∧ ∀ url folder force, label ≠ .download url folder force := by
  obtain ⟨now, only, _⟩ := id standing
  obtain ⟨old, after, found, present, grown⟩ := answers
  obtain ⟨after', present', moves⟩ := step_call taken found
  cases Option.some.inj (present.symm.trans present')
  have unchanged {motive : Prop} (same : after.answers = old.answers) : motive := by
    have none := List.append_cancel_left (grown.symm.trans (same.trans (List.append_nil _).symm))
    cases none
  cases moves with
  | stay => exact unchanged rfl
  | check removal files changed advances checks =>
      refine ⟨?_, fun url folder force downloads => ?_⟩
      · by_contra another
        exact checks.unreturned (Or.inr (only.others other old found another))
      · cases advances.symm.trans downloads
  | write => exact unchanged rfl
  | answer transfer success runs queued held =>
      refine ⟨Option.some.inj (held.symm.trans (standing.holds queued)),
        fun url folder force downloads => ?_⟩
      cases runs.symm.trans downloads

/-- A fresh call is answered for the lack of a URL or for its own transfer. -/
theorem Fresh.answered_cases {answer : DownloadAnswer}
    (fresh : Fresh before force downloads name call) (last : call.answers.getLast? = some answer) :
    (answer = .noUrl ∧ call.url = none) ∨
      ∃ own transfer success, answer = .transferred own success ∧
        (force = false → call.node before = none) ∧
        downloads.transfers.get? own = some transfer ∧ transfer.call = name ∧
        downloads.Outcome call transfer success := by
  have unanswered_elim {motive : Prop} (unanswered : call.answers = []) : motive := by
    rw [unanswered] at last
    cases last
  cases fresh with
  | checking _ _ unanswered => exact unanswered_elim unanswered
  | deleting _ _ unanswered => exact unanswered_elim unanswered
  | removed _ _ unanswered => exact unanswered_elim unanswered
  | noUrl absent _ answered =>
      rw [answered] at last
      exact Or.inl ⟨(Option.some.inj last).symm, absent⟩
  | unserved _ _ unanswered => exact unanswered_elim unanswered
  | transferring _ _ _ _ _ unanswered => exact unanswered_elim unanswered
  | queued _ _ _ _ _ _ unanswered => exact unanswered_elim unanswered
  | answered own transfer success passed _ answered _ present mine outcome =>
      rw [answered] at last
      exact Or.inr ⟨own, transfer, success, (Option.some.inj last).symm, passed, present, mine,
        outcome⟩

/-- A stale call is answered for what was there, and has made no transfer. -/
theorem Stale.answered_cases {answer : DownloadAnswer} (stale : Stale before downloads name call)
    (last : call.answers.getLast? = some answer) :
    answer = .existed ∧ downloads.Unmade name ∧
      call.node downloads.files = call.node before ∧ call.node before ≠ none := by
  cases stale with
  | kept _ _ unanswered =>
      rw [unanswered] at last
      cases last
  | existed _ answered _ unmade same there =>
      rw [answered] at last
      exact ⟨(Option.some.inj last).symm, unmade, same, there⟩

/-- The call begins in `before` and, after the steps of `later`, is answered by `label`.
The calls do not overlap. -/
structure Spans (before : AwesomeDownload) (begins : Label) (later : List Label)
    (current : AwesomeDownload) (label : Label) (next : AwesomeDownload)
    (answer : DownloadAnswer) : Prop where
  run : Transition.Run step before (begins :: later) current
  taken : step current label = some next
  apart : Transition.Meets step InSuccession before (begins :: later ++ [label])
  answered : Answers current next before.calls.size answer

/-- Where a call stands when it is answered. -/
theorem Spans.standing {before current : AwesomeDownload} {url : Option URL}
    {folder : Option String} {later : List Label} {answer : DownloadAnswer}
    (spans : Spans before (.download url folder force) later current label next answer)
    (begun : before.Begun) :
    ∃ after, after.url = url ∧ after.folder = folder ∧ after.answers.getLast? = some answer ∧
      ((Fresh before.files force next before.calls.size after ∧
          Transition.Meets step (Removes before.calls.size) before
            (.download url folder force :: later ++ [label])) ∨
        (Stale before.files next before.calls.size after ∧
          (force = false ∨ ¬ Transition.Meets step (Removes before.calls.size) before
            (.download url folder force :: later ++ [label])))) := by
  obtain ⟨middle, taken, rest⟩ := spans.run.cons_inv
  obtain ⟨settled, apart⟩ := (Transition.Meets.cons_iff taken).mp spans.apart
  rw [List.cons_append, Transition.Meets.cons_iff taken, Transition.Meets.append_iff rest,
    Transition.Meets.cons_iff spans.taken]
  have begun' := begun_step begun taken
  rcases standing_run begun' (standing_download settled begun taken) rest apart.left with
    standing | ⟨_, _, _, _, _, overtaken, standing⟩
  · obtain ⟨_, begins⟩ := standing.answers spans.answered spans.taken
    obtain ⟨after, only, url', folder', stands⟩ :=
      standing_step standing (apart.right rest).1 begins spans.taken
    obtain ⟨old, _, _, present, grown⟩ := spans.answered
    cases only.unique present
    refine ⟨after, url', folder', by rw [grown, List.getLast?_concat], ?_⟩
    refine stands.imp (fun fresh => ⟨fresh.1, trivial, fresh.2.1.2, fresh.2.2, trivial⟩)
      fun stale => ⟨stale.1, stale.2.imp_right fun failed all => failed ?_⟩
    exact ⟨⟨trivial, all.2.1⟩, all.2.2.1⟩
  · exact (overtaken.ne (standing.answers spans.answered spans.taken).1).elim

section Results

variable {files : FileSystem} {earlier later : List Label} {before current : AwesomeDownload}
  {folder : Option String} {answer : DownloadAnswer}

/-- **A result and the file agree.** A call that is not forced, and overlaps no other one, is
answered in agreement with the file at its destination exactly when no directory was there. -/
theorem result_agrees_iff {url : URL}
    (reached : Transition.Run step (initial files) earlier before) (named : url.HasFileName)
    (spans : Spans before (.download (some url) folder false) later current label next answer) :
    ResultAgrees (before.files.nodes (url.offlineFileDestination folder).resolved)
        (next.files.nodes (url.offlineFileDestination folder).resolved)
        (next.Transferred before.calls.size) answer.value ↔
      before.files.nodes (url.offlineFileDestination folder).resolved ≠ some .directory := by
  obtain ⟨after, asked, rfl, last, stands⟩ :=
    spans.standing (reached.preserves (fun _ _ _ => begun_step) (begun_initial files))
  have node (files : FileSystem) : after.node files =
      files.nodes (url.offlineFileDestination after.folder).resolved := by
    unfold DownloadCall.node
    rw [asked, Option.bind_some]
  simp only [← node]
  rcases stands with ⟨fresh, _⟩ | ⟨stale, _⟩
  · rcases fresh.answered_cases last with
      ⟨_, absent⟩ | ⟨own, transfer, success, rfl, passed, present, mine, outcome⟩
    · cases absent.symm.trans asked
    have vacant := passed rfl
    rw [vacant]
    refine iff_of_true ?_ nofun
    cases success with
    | true => exact ⟨transfer.bytes, outcome, Or.inr ⟨nofun, own, transfer, present, mine, rfl⟩⟩
    | false =>
        refine outcome fun url' asked' => ?_
        cases asked.symm.trans asked'
        exact named
  · obtain ⟨rfl, _, same, there⟩ := stale.answered_cases last
    rw [same]
    cases found : after.node before.files with
    | none => exact (there found).elim
    | some kind =>
        cases kind with
        | file contents => exact iff_of_true ⟨contents, rfl, Or.inl rfl⟩ nofun
        | directory =>
            refine iff_of_false ?_ (fun other => other rfl)
            rintro ⟨contents, file, _⟩
            cases file

/-- The steps of a call after its check, up to the block with its result. -/
def transferOnce (contents : Data) : List Label :=
  List.replicate 9 (.advance 0 .succeeds) ++ [.finish 0 contents] ++ handleFinish 0

/-- The folder of the downloads, without any file. -/
def emptyShelf : FileSystem := URL.createFolder (URL.destination "aaNetworking") .empty

/-- The folder of the downloads is reported as the file of a URL of that name. -/
theorem folder_reported_as_file :
    (episode "aaNetworking").HasFileName ∧ ∃ current next,
      Spans (initial emptyShelf) (.download (some (episode "aaNetworking")) none false) [] current
          (.advance 0 .succeeds) next .existed ∧
        ¬ ResultAgrees
          (emptyShelf.nodes ((episode "aaNetworking").offlineFileDestination none).resolved)
          (next.files.nodes ((episode "aaNetworking").offlineFileDestination none).resolved)
          (next.Transferred 0) DownloadAnswer.existed.value := by
  refine ⟨by decide, _, _, ⟨Transition.run_iff_execute.mpr rfl, rfl, by decide,
    ⟨_, _, rfl, rfl, rfl⟩⟩, ?_⟩
  rintro ⟨contents, file, _⟩
  cases file

/-- A download that stores its file. -/
theorem result_agrees_iff_episode : ∃ current next,
    Spans (initial .empty) (.download (some (episode "a.mp4")) (some "aaNetworking") false)
        (.advance 0 .succeeds :: transferOnce [1]) current .runMain next (.transferred 0 true) ∧
      ResultAgrees
        (FileSystem.empty.nodes
          ((episode "a.mp4").offlineFileDestination (some "aaNetworking")).resolved)
        (next.files.nodes ((episode "a.mp4").offlineFileDestination (some "aaNetworking")).resolved)
        (next.Transferred 0) true := by
  obtain ⟨current, next, spans⟩ : ∃ current next,
      Spans (initial .empty) (.download (some (episode "a.mp4")) (some "aaNetworking") false)
        (.advance 0 .succeeds :: transferOnce [1]) current .runMain next (.transferred 0 true) :=
    ⟨_, _, Transition.run_iff_execute.mpr rfl, rfl, by decide, ⟨_, _, rfl, rfl, rfl⟩⟩
  exact ⟨current, next, spans, (result_agrees_iff (.nil _) (by decide) spans).mpr (by decide)⟩

/-- **A forced download serves a new file.** A forced call that overlaps no other one is
answered with true only for the file of a transfer of its own exactly when each removal it
makes goes through. -/
theorem forced_serves_iff {url : Option URL}
    (reached : Transition.Run step (initial files) earlier before)
    (spans : Spans before (.download url folder true) later current label next answer) :
    (answer.value = true → next.ServedAnew before.calls.size url folder) ↔
      Transition.Meets step (Removes before.calls.size) before
        (.download url folder true :: later ++ [label]) := by
  obtain ⟨after, rfl, rfl, last, stands⟩ :=
    spans.standing (reached.preserves (fun _ _ _ => begun_step) (begun_initial files))
  rcases stands with ⟨fresh, removes⟩ | ⟨stale, unforced | failed⟩
  · refine iff_of_true (fun positive => ?_) removes
    rcases fresh.answered_cases last with
      ⟨rfl, _⟩ | ⟨own, transfer, success, rfl, _, present, mine, outcome⟩
    · cases positive
    cases (show success = true from positive)
    obtain ⟨url, asked, stored⟩ := Option.bind_eq_some_iff.mp outcome
    exact ⟨url, transfer.bytes, asked, ⟨own, transfer, present, mine, rfl⟩, stored⟩
  · cases unforced
  · obtain ⟨rfl, unmade, _⟩ := stale.answered_cases last
    refine iff_of_false (fun served => ?_) failed
    obtain ⟨_, _, _, ⟨own, transfer, present, mine, _⟩, _⟩ := served rfl
    exact unmade own transfer present mine

/-- The folder of the downloads with a file from before. -/
def oldShelf : FileSystem :=
  (URL.moveOfflineFile [0] ((episode "a.mp4").offlineFileDestination (some "aaNetworking"))
    emptyShelf true).2

/-- The removal of the file fails, and the forced call reports the file from before. -/
theorem failed_removal_reports_old_file : ∃ current next,
    Spans (initial oldShelf) (.download (some (episode "a.mp4")) (some "aaNetworking") true)
        [.advance 0 .succeeds, .advance 0 (.fails [])] current (.advance 0 .succeeds) next
        .existed ∧
      DownloadAnswer.existed.value = true ∧
      next.files.nodes ((episode "a.mp4").offlineFileDestination (some "aaNetworking")).resolved =
        some (.file [0]) ∧
      ¬ next.ServedAnew 0 (some (episode "a.mp4")) (some "aaNetworking") := by
  refine ⟨_, _, ⟨Transition.run_iff_execute.mpr rfl, rfl, by decide, ⟨_, _, rfl, rfl, rfl⟩⟩, rfl,
    by decide, ?_⟩
  rintro ⟨_, _, _, ⟨own, transfer, present, _⟩, _⟩
  cases present

/-- A forced download whose removal goes through. -/
theorem forced_serves_iff_removed : ∃ current next,
    Spans (initial oldShelf) (.download (some (episode "a.mp4")) (some "aaNetworking") true)
        (List.replicate 3 (.advance 0 .succeeds) ++ transferOnce [1]) current .runMain next
        (.transferred 0 true) ∧
      next.ServedAnew 0 (some (episode "a.mp4")) (some "aaNetworking") := by
  obtain ⟨current, next, spans⟩ : ∃ current next,
      Spans (initial oldShelf) (.download (some (episode "a.mp4")) (some "aaNetworking") true)
        (List.replicate 3 (.advance 0 .succeeds) ++ transferOnce [1]) current .runMain next
        (.transferred 0 true) :=
    ⟨_, _, Transition.run_iff_execute.mpr rfl, rfl, by decide, ⟨_, _, rfl, rfl, rfl⟩⟩
  exact ⟨current, next, spans, (forced_serves_iff (.nil _) spans).mpr (by decide) rfl⟩

end Results

end AwesomeDownload

end AwesomeNetwork
