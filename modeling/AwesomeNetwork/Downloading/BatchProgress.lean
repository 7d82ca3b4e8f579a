import AwesomeNetwork.Downloading.BatchMessages

/-! # The progress of a batch

The values posted for a URL begin with the 0 of its announcement and end with the 1 of
`downloaded`; in between they are the quotients in the messages of its transfer.
-/

namespace AwesomeNetwork

/-- The progress in an event that is posted for the URL. -/
def BatchEvent.value? (url : URL) : BatchEvent → Option (Option ℚ)
  | posted _ object => if object.url = some url then some object.progress.value else none
  | _ => none

namespace AwesomeDownloadManager

open BatchEvent DownloadProgress

/-- The values of progress in the events posted for a URL. -/
def progressValues (url : URL) (events : List BatchEvent) : List (Option ℚ) :=
  events.filterMap (value? url)

/-- The value that is posted with a progress. -/
theorem value?_posted (url : URL) (event : AwesomeDownloadEvent) (progress : DownloadProgress) :
    value? url (.posted event { url := url, progress := progress }) = some progress.value :=
  if_pos rfl

/-- The announcement has the value 0. -/
theorem value_initial : DownloadProgress.value ⟨0, 1⟩ = some 0 := by
  simp [DownloadProgress.value]

/-- The last post has the value 1. -/
theorem value_final : DownloadProgress.value ⟨1, 1⟩ = some 1 := by
  simp [DownloadProgress.value]

/-- The values of a URL that is served. -/
theorem progressValues_served (url : URL) (messages : List DownloadProgress) (success : Bool) :
    progressValues url (BatchTransmission.served url messages success) =
      some 0 :: messages.map value ++ [some 1] := by
  have between : (messages.map fun progress =>
      BatchEvent.posted .downloading { url := url, progress := progress }).filterMap (value? url) =
        messages.map value := by
    rw [List.filterMap_map, ← List.filterMap_eq_map]
    apply List.filterMap_congr
    intro message _
    exact value?_posted url .downloading message
  have announced : value? url (.posted .downloading { url := url }) = some (some 0) := by
    rw [value?_posted, value_initial]
  have ended : value? url (.posted .downloaded { url := url, progress := ⟨1, 1⟩ }) =
      some (some 1) := by
    rw [value?_posted, value_final]
  unfold progressValues BatchTransmission.served completion
  rw [List.filterMap_append, List.filterMap_cons_some announced]
  have called : value? url (.called url) = none := rfl
  have completed : value? url (.completed url success) = none := rfl
  rw [List.filterMap_cons_none called, between, List.filterMap_cons_none completed,
    List.filterMap_cons_some ended]
  rfl

variable {source first last : AwesomeDownloadManager} {urls : List URL}
  {before stretch : List Label} {url : URL} {inner : List BatchEvent}
  {object : AwesomeDownloadObject} {size : Nat}

/-- A batch that is asked for while the downloader is idle, and that nothing disturbs, posts
for each URL the messages that the session sends from its announcement to `downloaded`. -/
theorem trace_served (rests : source.Rests)
    (undisturbed : ∀ label ∈ before ++ stretch, Undisturbed label)
    (reached : Transition.Run step source (.download urls :: before) first)
    (run : Transition.Run step first stretch last)
    (whole : trace first stretch =
      .posted .downloading { url := url } :: .called url :: inner ++ [.posted .downloaded object])
    (single : downloadedPosts inner = []) :
    ∃ success, trace first stretch =
      BatchTransmission.served url (sessionMessages stretch) success := by
  obtain ⟨middle, begins, rest⟩ := reached.cons_inv
  obtain ⟨stands, _⟩ := stands_download rests begins
  have meets :
      Transition.Meets step (fun _ label => Undisturbed label) middle (before ++ stretch) :=
    .of_forall_mem (fun label member _ => undisturbed label member) middle
  have standing : ∃ phase, first.Stands phase := by
    apply rest.preserves_of_meets meets.left _ ⟨_, stands⟩
    rintro state label next ⟨phase, stands⟩ met taken
    obtain ⟨phase', _, stands'⟩ := transmits_step stands met taken
    exact ⟨phase', stands'⟩
  obtain ⟨phase, stands⟩ := standing
  have transmitted : ∃ after, Transition.Run BatchTransmission.step ⟨phase, first.queued⟩
      (Transition.emitted step acts first stretch) after ∧
      last.Stands after.phase ∧ last.queued = after.pending := by
    apply run.refines (meets.right rest) _ ⟨stands, rfl⟩
    rintro state label next ⟨phase, pending⟩ ⟨stands, waiting⟩ met taken
    obtain ⟨phase', moved, stands'⟩ := transmits_step stands met taken
    rw [waiting] at moved
    exact ⟨_, moved, stands', rfl⟩
  obtain ⟨after, transmitted, _⟩ := transmitted
  rw [← events_emitted run] at whole ⊢
  rw [← messages_emitted run]
  exact BatchTransmission.served_run transmitted whole single

/-- **The progress posted for a URL.** From its announcement to `downloaded` the values stay
between 0 and 1 and do not decrease exactly when no message of its transfer expects 0 bytes
or has bytes written of an unknown size. -/
theorem progress_inRange_iff (rests : source.Rests)
    (undisturbed : ∀ label ∈ before ++ stretch, Undisturbed label)
    (reached : Transition.Run step source (.download urls :: before) first)
    (run : Transition.Run step first stretch last)
    (whole : trace first stretch =
      .posted .downloading { url := url } :: .called url :: inner ++ [.posted .downloaded object])
    (single : downloadedPosts inner = []) (transfer : OfTransfer (sessionMessages stretch) size) :
    InRange (progressValues url (trace first stretch)) ↔
      ∀ message ∈ sessionMessages stretch, message.Measurable := by
  obtain ⟨success, served⟩ := trace_served rests undisturbed reached run whole single
  rw [served, progressValues_served]
  exact inRange_iff transfer

/-- A batch of one URL is asked for, and its `cancelDownloads` returns. -/
def asked : List Label :=
  [.download [track "a.mp3"], .downloads (.advanceCancel 0), .downloads (.advanceCancel 0)]

/-- The URL is announced and downloaded, with the messages of the session. -/
def transferred (messages : List DownloadProgress) : List Label :=
  List.replicate 2 (.main "aaNetworking") ++
    List.replicate 10 (.downloads (.advance 0 .succeeds)) ++
    [.main "aaNetworking"] ++ messages.map (fun message => .downloads (.writeData 0 message)) ++
    [.downloads (.finish 0 [1])] ++ List.replicate 8 (.downloads (.deliver 0 true)) ++
    List.replicate (messages.length + 1) .runMain

/-- A server that sends the length of the file. -/
def knownLength : List DownloadProgress := [⟨50, 100⟩, ⟨100, 100⟩]

/-- A server that sends no length. -/
def unknownLength : List DownloadProgress := [⟨50, NSURLSessionTransferSizeUnknown⟩]

/-- The batch before it announces its URL. -/
def askedBatch : AwesomeDownloadManager :=
  (Transition.execute step (initial .empty) asked).getD (initial .empty)

/-- The batch is asked for. -/
theorem run_asked : Transition.Run step (initial .empty) asked askedBatch :=
  Transition.run_iff_execute.mpr rfl

/-- With a known length the values go from 0 over 1/2 and 1 to 1. -/
theorem progress_inRange_iff_known : ∃ last,
    Transition.Run step askedBatch (transferred knownLength) last ∧
    sessionMessages (transferred knownLength) = knownLength ∧
    InRange (progressValues (track "a.mp3") (trace askedBatch (transferred knownLength))) := by
  have run := Transition.run_iff_execute.mpr
    (rfl : Transition.execute step askedBatch (transferred knownLength) = some _)
  refine ⟨_, run, rfl, ?_⟩
  have whole : trace askedBatch (transferred knownLength) =
      .posted .downloading { url := track "a.mp3" } :: .called (track "a.mp3") ::
        [.posted .downloading ⟨track "a.mp3", ⟨50, 100⟩⟩,
          .posted .downloading ⟨track "a.mp3", ⟨100, 100⟩⟩, .completed (track "a.mp3") true] ++
        [.posted .downloaded ⟨track "a.mp3", ⟨1, 1⟩⟩] := by decide
  have transfer : OfTransfer (sessionMessages (transferred knownLength)) 100 :=
    ⟨by decide, by decide, by decide⟩
  apply (progress_inRange_iff (rests_initial .empty) (by decide) run_asked run whole rfl
    transfer).mpr
  decide

/-- Without a length the value of 50 bytes is -50. -/
theorem progress_out_of_range : ∃ last,
    Transition.Run step askedBatch (transferred unknownLength) last ∧
    sessionMessages (transferred unknownLength) = unknownLength ∧
    OfTransfer unknownLength 0 ∧
    progressValues (track "a.mp3") (trace askedBatch (transferred unknownLength)) =
      [some 0, some (-50), some 1] ∧
    ¬ InRange (progressValues (track "a.mp3") (trace askedBatch (transferred unknownLength))) := by
  have run := Transition.run_iff_execute.mpr
    (rfl : Transition.execute step askedBatch (transferred unknownLength) = some _)
  have served : trace askedBatch (transferred unknownLength) =
      BatchTransmission.served (track "a.mp3") unknownLength true := by decide
  have values : progressValues (track "a.mp3") (trace askedBatch (transferred unknownLength)) =
      [some 0, some (-50), some 1] := by
    rw [served, progressValues_served]
    norm_num [unknownLength, DownloadProgress.value, NSURLSessionTransferSizeUnknown]
  refine ⟨_, run, rfl, ⟨by decide, by decide, by decide⟩, values, ?_⟩
  rw [values]
  rintro ⟨known, same, _, bounded⟩
  have listed : some (-50) ∈ known.map some := by
    rw [← same]
    simp
  obtain ⟨value, present, equal⟩ := List.mem_map.mp listed
  cases equal
  have nonneg := (bounded _ present).1
  norm_num at nonneg

end AwesomeDownloadManager

end AwesomeNetwork
