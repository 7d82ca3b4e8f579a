import AwesomeNetwork.Downloading.FileIntegrity
import AwesomeNetwork.Downloading.Notifications

/-! # Batches of deletions

`delete(from:)` cancels the downloads and presents an alert. Confirmed, it deletes the file
of one URL after the other and posts `deleted` for those that it has removed; cancelled, it
posts `deleteCanceled`. Downloads and other deletions may go on in between.
-/

namespace AwesomeNetwork

/-- Where a call of `delete(from:)` stands: before its alert, with the alert on the screen,
in the loop of the confirmed action, or at one of its ends. -/
inductive DeletionStage where
  | cancelling (cancel : Nat)
  | presented
  | cancelled
  | deleting (urls : List URL)
  | ended
deriving DecidableEq, Repr

/-- A call of `delete(from:)`, with the URLs whose deletion was tried and what came of it. -/
structure BatchDeletion where
  urls : List URL
  stage : DeletionStage
  outcomes : List (URL × Bool)
deriving DecidableEq, Repr

/-- The downloads with the deletions that were asked for. -/
structure DeletionManager where
  downloads : AwesomeDownload
  deletions : Table BatchDeletion
  posted : List (AwesomeDownloadEvent × Option AwesomeDownloadObject)

namespace DeletionManager

/-- A step of a deletion, the choice of the user, or a step of the downloads. -/
inductive Label where
  | delete (urls : List URL)
  | present (deletion : Nat)
  | confirm (deletion : Nat)
  | cancel (deletion : Nat)
  | deleteNext (deletion : Nat) (defaultDownloadFolder : String) (removal : Removal)
  | downloads (label : AwesomeDownload.Label)
deriving DecidableEq, Repr

/-- Nothing was asked for. -/
def initial (files : FileSystem) : DeletionManager := ⟨.initial files, .empty, []⟩

/-- One deletion goes on. -/
def setDeletion (manager : DeletionManager) (name : Nat) (deletion : BatchDeletion) :
    DeletionManager :=
  { manager with deletions := manager.deletions.modify name fun _ => deletion }

/-- The posts of a deletion that has removed the file, or has not. -/
def posts (url : URL) (deleted : Bool) :
    List (AwesomeDownloadEvent × Option AwesomeDownloadObject) :=
  if deleted then [(.deleted, some { url := url, progress := ⟨0, 1⟩ })] else []

/-- One turn of the loop of the confirmed action. -/
def deleteFile (manager : DeletionManager) (name : Nat) (deletion : BatchDeletion) (url : URL)
    (rest : List URL) (folder : String) (removal : Removal) : DeletionManager :=
  let result := url.deleteOfflineFile manager.downloads.files (some folder) removal
  { manager with
    downloads.files := result.2
    posted := manager.posted ++ posts url result.1 }.setDeletion name { deletion with
      stage := if rest = [] then .ended else .deleting rest
      outcomes := deletion.outcomes ++ [(url, result.1)] }

/-- One step of the deletions; a label that does not fit yields no successor. -/
def step (manager : DeletionManager) : Label → Option DeletionManager
  | .delete urls =>
      some { manager with
        downloads.cancels := manager.downloads.cancels.push .cancellingTask
        deletions := manager.deletions.push
          ⟨urls, .cancelling manager.downloads.cancels.size, []⟩ }
  | .present name =>
      match manager.deletions.get? name with
      | some deletion =>
          match deletion.stage with
          | .cancelling cancel =>
              if manager.downloads.cancels.get? cancel = some .returned then
                some (manager.setDeletion name { deletion with
                  stage := if deletion.urls = [] then .ended else .presented })
              else none
          | _ => none
      | none => none
  | .confirm name =>
      manager.deletions.when name (·.stage = .presented) fun deletion =>
        manager.setDeletion name { deletion with stage := .deleting deletion.urls }
  | .cancel name =>
      manager.deletions.when name (·.stage = .presented) fun deletion =>
        { manager with
            posted := manager.posted ++ [(AwesomeDownloadEvent.deleteCanceled, none)] }.setDeletion
          name { deletion with stage := .cancelled }
  | .deleteNext name folder removal =>
      match manager.deletions.get? name with
      | some deletion =>
          match deletion.stage with
          | .deleting (url :: rest) =>
              some (manager.deleteFile name deletion url rest folder removal)
          | _ => none
      | none => none
  | .downloads label =>
      (manager.downloads.step label).map fun downloads => { manager with downloads := downloads }

/-- The place from which a deletion removes the file of a URL. -/
def place (folder : String) (url : URL) : FilePath :=
  (url.offlineFileDestination (some folder)).resolved

/-- The loop on its own, over the URLs with how a removal of each ends. -/
def deleteAll (folder : String) :
    List (URL × Removal) → FileSystem → List (URL × Bool) × FileSystem
  | [], files => ([], files)
  | (url, removal) :: rest, files =>
      let deletion := url.deleteOfflineFile files (some folder) removal
      let later := deleteAll folder rest deletion.2
      ((url, deletion.1) :: later.1, later.2)

/-- A deletion has removed something at or above the path. -/
def Covered (folder : String) (outcomes : List (URL × Bool)) (path : FilePath) : Prop :=
  ∃ url, (url, true) ∈ outcomes ∧ place folder url <+: path

/-- The path has been taken away by one of the removals: each takes its part if its place was
there from the beginning and no removal before it has taken the place away. A removal that
fails may have taken what is below its place. -/
def Taken (folder : String) (files : FileSystem) (attempts : List (URL × Removal)) :
    FilePath → Prop :=
  attempts.foldl (fun taken attempt path => taken path ∨
    (files.nodes (place folder attempt.1) ≠ none ∧ ¬ taken (place folder attempt.1) ∧
      attempt.2.takes (place folder attempt.1) path = true)) fun _ => False

section Loop

variable {folder : String} {files : FileSystem} {path : FilePath} {url : URL} {removal : Removal}
  {attempts : List (URL × Removal)}

/-- The loop over a list is the loop over its first part and then over the rest. -/
theorem deleteAll_append (folder : String) (first second : List (URL × Removal))
    (files : FileSystem) :
    deleteAll folder (first ++ second) files =
      ((deleteAll folder first files).1 ++
          (deleteAll folder second (deleteAll folder first files).2).1,
        (deleteAll folder second (deleteAll folder first files).2).2) := by
  induction first generalizing files with
  | nil => rfl
  | cons attempt first ih =>
      rw [List.cons_append, deleteAll, deleteAll]
      dsimp only
      rw [ih]
      rfl

/-- One more attempt takes its part if its place is still there. -/
theorem taken_concat :
    Taken folder files (attempts ++ [(url, removal)]) path ↔ Taken folder files attempts path ∨
      (files.nodes (place folder url) ≠ none ∧ ¬ Taken folder files attempts (place folder url) ∧
        removal.takes (place folder url) path = true) := by
  unfold Taken
  rw [List.foldl_append]
  rfl

/-- Only what is at or below a place that was tried is taken away. -/
theorem below_of_taken (taken : Taken folder files attempts path) :
    ∃ attempt ∈ attempts, place folder attempt.1 <+: path := by
  induction attempts using List.reverseRecOn with
  | nil => exact taken.elim
  | append_singleton attempts attempt ih =>
      rcases taken_concat.mp taken with earlier | ⟨_, _, takes⟩
      · obtain ⟨other, member, below⟩ := ih earlier
        exact ⟨other, List.mem_append_left _ member, below⟩
      · exact ⟨attempt, List.mem_append_right _ List.mem_cons_self, Removal.prefix_of_takes takes⟩

/-- The file of a URL exists when there is something at its place. -/
theorem offlineFileExists_iff :
    url.offlineFileExists files (some folder) = true ↔ files.nodes (place folder url) ≠ none := by
  rw [← Option.isSome_iff_ne_none]
  rfl

/-- A deletion succeeds when the file is there and its removal goes through. -/
theorem deleteOfflineFile_fst :
    (url.deleteOfflineFile files (some folder) removal).1 = true ↔
      removal = .succeeds ∧ files.nodes (place folder url) ≠ none := by
  unfold URL.deleteOfflineFile
  split
  · next found =>
      rw [decide_eq_true_iff]
      exact (and_iff_left (offlineFileExists_iff.mp found)).symm
  · next missing =>
      refine iff_of_false nofun ?_
      rintro ⟨_, present⟩
      exact missing (offlineFileExists_iff.mpr present)

/-- A deletion takes away what its removal takes, if the file is there. -/
theorem deleteOfflineFile_snd :
    (url.deleteOfflineFile files (some folder) removal).2.nodes path =
      if files.nodes (place folder url) ≠ none ∧ removal.takes (place folder url) path = true
      then none else files.nodes path := by
  unfold URL.deleteOfflineFile
  split
  · next found => exact if_congr (and_iff_right (offlineFileExists_iff.mp found)).symm rfl rfl
  · next missing =>
      exact (if_neg fun holds => missing (offlineFileExists_iff.mpr holds.1)).symm

/-- The loop takes away what is taken, and nothing else. -/
theorem nodes_deleteAll (folder : String) (attempts : List (URL × Removal)) (files : FileSystem)
    (path : FilePath) :
    (Taken folder files attempts path →
        (deleteAll folder attempts files).2.nodes path = none) ∧
      (¬ Taken folder files attempts path →
        (deleteAll folder attempts files).2.nodes path = files.nodes path) := by
  induction attempts using List.reverseRecOn generalizing path with
  | nil => exact ⟨False.elim, fun _ => rfl⟩
  | append_singleton attempts attempt ih =>
      obtain ⟨url, removal⟩ := attempt
      rw [taken_concat, deleteAll_append]
      change (_ → (url.deleteOfflineFile _ (some folder) removal).2.nodes path = none) ∧
        (_ → (url.deleteOfflineFile _ (some folder) removal).2.nodes path = _)
      rw [deleteOfflineFile_snd]
      by_cases gone : Taken folder files attempts path
      · refine ⟨fun _ => ?_, fun kept => (kept (Or.inl gone)).elim⟩
        rw [(ih path).1 gone, ite_self]
      · rw [(ih path).2 gone]
        -- the place is still there if no removal before has taken it
        by_cases taken : Taken folder files attempts (place folder url)
        · rw [(ih _).1 taken, if_neg fun holds => holds.1 rfl]
          exact ⟨fun later => (later.resolve_left gone).2.1 taken |>.elim, fun _ => rfl⟩
        · rw [(ih _).2 taken]
          constructor
          · intro later
            obtain ⟨present, _, takes⟩ := later.resolve_left gone
            exact if_pos ⟨present, takes⟩
          · intro kept
            exact if_neg fun holds => kept (Or.inr ⟨holds.1, taken, holds.2⟩)

/-- Whether the deletion of a URL succeeds after the given attempts. -/
theorem deleted_iff (folder : String) (before : List (URL × Removal)) (files : FileSystem)
    (url : URL) (removal : Removal) :
    (url.deleteOfflineFile (deleteAll folder before files).2 (some folder) removal).1 = true ↔
      removal = .succeeds ∧ files.nodes (place folder url) ≠ none ∧
        ¬ Taken folder files before (place folder url) := by
  obtain ⟨gone, kept⟩ := nodes_deleteAll folder before files (place folder url)
  rw [deleteOfflineFile_fst]
  by_cases taken : Taken folder files before (place folder url)
  · rw [gone taken]
    exact iff_of_false (fun holds => holds.2 rfl) fun holds => holds.2.2 taken
  · rw [kept taken]
    exact and_congr_right fun _ => (and_iff_left taken).symm

/-- What the deletion of a URL comes to in its turn of the loop. -/
theorem outcome_deleteAll (folder : String) (before after : List (URL × Removal)) (url : URL)
    (removal : Removal) (files : FileSystem) :
    ∃ deleted later,
      (deleteAll folder (before ++ (url, removal) :: after) files).1 =
          (deleteAll folder before files).1 ++ (url, deleted) :: later ∧
        (deleted = true ↔ removal = .succeeds ∧ files.nodes (place folder url) ≠ none ∧
          ¬ Taken folder files before (place folder url)) :=
  ⟨_, _, congrArg Prod.fst (deleteAll_append folder before _ files),
    deleted_iff folder before files url removal⟩

/-- A removal that fails half-way may have taken the file of a later URL. -/
example : (deleteAll "aaNetworking"
    [(AwesomeDownload.hostURL, .fails [["Documents", "aaNetworking", "b.pdf"]]),
      (AwesomeDownload.storedURL, .succeeds)] AwesomeDownload.storedFiles).1 =
    [(AwesomeDownload.hostURL, false), (AwesomeDownload.storedURL, false)] := by
  decide

/-- A removal that went through has taken everything at or below its place. -/
theorem taken_of_covered
    (covered : Covered folder (deleteAll folder attempts files).1 path) :
    Taken folder files attempts path := by
  induction attempts using List.reverseRecOn with
  | nil =>
      obtain ⟨_, member, _⟩ := covered
      cases member
  | append_singleton attempts attempt ih =>
      obtain ⟨url, removal⟩ := attempt
      obtain ⟨other, member, below⟩ := covered
      rw [deleteAll_append] at member
      rw [taken_concat]
      rcases List.mem_append.mp member with earlier | last
      · exact Or.inl (ih ⟨other, earlier, below⟩)
      · obtain ⟨rfl, deleted⟩ := Prod.mk.inj (List.mem_singleton.mp last)
        obtain ⟨rfl, present, untaken⟩ :=
          (deleted_iff folder attempts files other removal).mp deleted.symm
        exact Or.inr ⟨present, untaken, Removal.takes_succeeds.mpr below⟩

end Loop

variable {manager next : DeletionManager} {name : Nat} {deletion : BatchDeletion}
  {folder : String}

/-- The loop deletes the file of its next URL. -/
theorem step_deleteNext {url : URL} {rest : List URL} (folder : String) (removal : Removal)
    (present : manager.deletions.get? name = some deletion)
    (looping : deletion.stage = .deleting (url :: rest)) :
    step manager (.deleteNext name folder removal) =
      some (manager.deleteFile name deletion url rest folder removal) := by
  unfold step
  dsimp only
  rw [present]
  dsimp only
  rw [looping]

/-- The posts for what came of the deletions. -/
def postsFor (outcomes : List (URL × Bool)) :
    List (AwesomeDownloadEvent × Option AwesomeDownloadObject) :=
  outcomes.flatMap fun outcome => posts outcome.1 outcome.2

/-- The loop, when nothing comes in between. -/
theorem loop_run (folder : String) (attempts : List (URL × Removal)) (asked : attempts ≠ [])
    (present : manager.deletions.get? name = some deletion)
    (looping : deletion.stage = .deleting (attempts.map Prod.fst)) :
    ∃ target, Transition.Run step manager
        (attempts.map fun attempt => .deleteNext name folder attempt.2) target ∧
      target.deletions.get? name = some { deletion with
        stage := .ended
        outcomes := deletion.outcomes ++
          (deleteAll folder attempts manager.downloads.files).1 } ∧
      target.downloads = { manager.downloads with
        files := (deleteAll folder attempts manager.downloads.files).2 } ∧
      target.posted = manager.posted ++
        postsFor (deleteAll folder attempts manager.downloads.files).1 := by
  induction attempts generalizing manager deletion with
  | nil => exact (asked rfl).elim
  | cons attempt rest ih =>
      obtain ⟨url, removal⟩ := attempt
      have taken := step_deleteNext folder removal present looping
      have moved : (manager.deleteFile name deletion url (rest.map Prod.fst) folder
          removal).deletions.get? name = some _ :=
        (Table.get?_modify_self ..).trans (congrArg (Option.map _) present)
      have posted (outcomes : List (URL × Bool)) (deleted : Bool) :
          manager.posted ++ posts url deleted ++ postsFor outcomes =
            manager.posted ++ postsFor ((url, deleted) :: outcomes) :=
        List.append_assoc ..
      by_cases empty : rest = []
      · subst empty
        exact ⟨_, .single taken, moved, rfl, (List.append_nil _).symm.trans (posted [] _)⟩
      · have goesOn : (if rest.map Prod.fst = [] then DeletionStage.ended
            else .deleting (rest.map Prod.fst)) = .deleting (rest.map Prod.fst) :=
          if_neg fun none => empty (List.map_eq_nil_iff.mp none)
        obtain ⟨target, run, found, downloads, after⟩ := ih empty moved goesOn
        refine ⟨target, .cons taken run, found.trans ?_, downloads, after.trans (posted _ _)⟩
        rw [deleteAll, List.append_assoc]
        rfl

/-- The outcomes are in the order of the URLs. -/
theorem fst_deleteAll (folder : String) (attempts : List (URL × Removal)) (files : FileSystem) :
    (deleteAll folder attempts files).1.map Prod.fst = attempts.map Prod.fst := by
  induction attempts generalizing files with
  | nil => rfl
  | cons attempt rest ih => exact congrArg (attempt.1 :: ·) (ih _)

/-- What was tried is what the stage says. -/
def Accounted (deletion : BatchDeletion) : Prop :=
  match deletion.stage with
  | .cancelling _ | .cancelled => deletion.outcomes = []
  | .presented => deletion.outcomes = [] ∧ deletion.urls ≠ []
  | .deleting rest => rest ≠ [] ∧ deletion.outcomes.map Prod.fst ++ rest = deletion.urls
  | .ended => deletion.outcomes.map Prod.fst = deletion.urls

/-- The posts of a URL that was deleted, and of an alert that was cancelled. -/
def deletedPost (url : URL) : AwesomeDownloadEvent × Option AwesomeDownloadObject :=
  (.deleted, some { url := url, progress := ⟨0, 1⟩ })

/-- The post of a deletion that was cancelled. -/
def canceledPost : AwesomeDownloadEvent × Option AwesomeDownloadObject := (.deleteCanceled, none)

/-- The posts are those of the deletions, one for each removal and one for each alert that
was cancelled. -/
structure Booked (manager : DeletionManager) : Prop where
  accounted : manager.deletions.All fun _ deletion => Accounted deletion
  deleted : ∀ url, manager.posted.count (deletedPost url) =
    manager.deletions.total fun deletion => deletion.outcomes.count (url, true)
  canceled : manager.posted.count canceledPost =
    manager.deletions.count fun deletion => deletion.stage = .cancelled

/-- A deletion that is booked is accounted for at its stage. -/
theorem Booked.accountedAt {stage : DeletionStage} (booked : manager.Booked)
    (present : manager.deletions.get? name = some deletion) (reached : deletion.stage = stage) :
    Accounted { deletion with stage := stage } := by
  subst reached
  exact booked.accounted name deletion present

/-- Nothing is to be booked at first. -/
theorem booked_initial (files : FileSystem) : Booked (initial files) where
  accounted := Table.All.empty
  deleted _ := rfl
  canceled := rfl

/-- A change of one deletion, with its posts, keeps the books. -/
theorem booked_setDeletion {changed : BatchDeletion} {downloads : AwesomeDownload}
    {events : List (AwesomeDownloadEvent × Option AwesomeDownloadObject)}
    (booked : manager.Booked) (present : manager.deletions.get? name = some deletion)
    (accounted : Accounted changed)
    (deleted : ∀ url, deletion.outcomes.count (url, true) + events.count (deletedPost url) =
      changed.outcomes.count (url, true))
    (canceled : (if deletion.stage = .cancelled then 1 else 0) + events.count canceledPost =
      if changed.stage = .cancelled then 1 else 0) :
    Booked (({ manager with
      downloads := downloads
      posted := manager.posted ++ events } : DeletionManager).setDeletion name changed) where
  accounted := booked.accounted.modify fun _ _ => accounted
  deleted url := by
    have weighs := Table.total_modify (fun deletion => deletion.outcomes.count (url, true))
      (fun _ => changed) present
    have before := booked.deleted url
    have added := deleted url
    unfold setDeletion
    dsimp only
    rw [List.count_append]
    omega
  canceled := by
    have counts := Table.count_modify (fun deletion => decide (deletion.stage = .cancelled))
      (fun _ => changed) present
    have before := booked.canceled
    simp only [decide_eq_true_eq] at counts
    unfold setDeletion
    dsimp only
    rw [List.count_append]
    omega

/-- A change of the stage alone, without a post. -/
theorem booked_moveTo {stage : DeletionStage} (booked : manager.Booked)
    (present : manager.deletions.get? name = some deletion)
    (accounted : Accounted { deletion with stage := stage })
    (running : deletion.stage ≠ .cancelled) (runs : stage ≠ .cancelled) :
    Booked (manager.setDeletion name { deletion with stage := stage }) := by
  have same : manager = { manager with
      downloads := manager.downloads
      posted := manager.posted ++ [] } := by
    rw [List.append_nil]
  rw [same]
  refine booked_setDeletion booked present accounted (fun _ => rfl) ?_
  rw [if_neg running]
  exact (if_neg runs).symm

theorem count_posts (url other : URL) (deleted : Bool) :
    (posts url deleted).count (deletedPost other) = [(url, deleted)].count (other, true) ∧
      (posts url deleted).count canceledPost = 0 := by
  cases deleted with
  | false =>
      refine ⟨(List.count_eq_zero.mpr ?_).symm, rfl⟩
      rw [List.mem_singleton]
      exact nofun
  | true =>
      refine ⟨?_, List.count_eq_zero.mpr ?_⟩
      · by_cases same : url = other
        · subst same
          unfold posts deletedPost
          rw [if_pos rfl, List.count_singleton_self, List.count_singleton_self]
        · unfold posts deletedPost
          rw [if_pos rfl, List.count_singleton, List.count_singleton, if_neg, if_neg]
          · simpa using same
          · simpa using same
      · unfold posts canceledPost
        rw [if_pos rfl, List.mem_singleton]
        exact nofun

/-- What a step does. -/
inductive StepCases (manager : DeletionManager) : Label → DeletionManager → Prop
  | delete (urls : List URL) : StepCases manager (.delete urls) { manager with
      downloads.cancels := manager.downloads.cancels.push .cancellingTask
      deletions := manager.deletions.push ⟨urls, .cancelling manager.downloads.cancels.size, []⟩ }
  | present (name : Nat) (deletion : BatchDeletion) (cancel : Nat) :
      manager.deletions.get? name = some deletion → deletion.stage = .cancelling cancel →
      StepCases manager (.present name) (manager.setDeletion name { deletion with
        stage := if deletion.urls = [] then .ended else .presented })
  | confirm (name : Nat) (deletion : BatchDeletion) :
      manager.deletions.get? name = some deletion → deletion.stage = .presented →
      StepCases manager (.confirm name)
        (manager.setDeletion name { deletion with stage := .deleting deletion.urls })
  | cancel (name : Nat) (deletion : BatchDeletion) :
      manager.deletions.get? name = some deletion → deletion.stage = .presented →
      StepCases manager (.cancel name) (({ manager with
        posted := manager.posted ++ [canceledPost] } : DeletionManager).setDeletion name
          { deletion with stage := .cancelled })
  | deleteNext (name : Nat) (folder : String) (removal : Removal) (deletion : BatchDeletion)
      (url : URL) (rest : List URL) :
      manager.deletions.get? name = some deletion → deletion.stage = .deleting (url :: rest) →
      StepCases manager (.deleteNext name folder removal)
        (manager.deleteFile name deletion url rest folder removal)
  | downloads (label : AwesomeDownload.Label) (downloads : AwesomeDownload) :
      manager.downloads.step label = some downloads →
      StepCases manager (.downloads label) { manager with downloads := downloads }

/-- Every step is one of these cases. -/
theorem stepCases {label : Label} (taken : step manager label = some next) :
    StepCases manager label next := by
  cases label with
  | delete urls =>
      cases taken
      exact .delete urls
  | present name =>
      unfold step at taken
      dsimp only at taken
      split at taken
      · next deletion present =>
          split at taken
          · next cancel cancelling =>
              obtain ⟨_, same⟩ := Option.ite_none_right_eq_some.mp taken
              cases same
              exact .present name deletion cancel present cancelling
          · cases taken
      · cases taken
  | confirm name =>
      obtain ⟨deletion, present, presented, rfl⟩ := Table.when_eq_some.mp taken
      exact .confirm name deletion present presented
  | cancel name =>
      obtain ⟨deletion, present, presented, rfl⟩ := Table.when_eq_some.mp taken
      exact .cancel name deletion present presented
  | deleteNext name folder removal =>
      unfold step at taken
      dsimp only at taken
      split at taken
      · next deletion present =>
          split at taken
          · next url rest looping =>
              cases taken
              exact .deleteNext name folder removal deletion url rest present looping
          · cases taken
      · cases taken
  | downloads label =>
      obtain ⟨downloads, stepped, rfl⟩ := Option.map_eq_some_iff.mp taken
      exact .downloads label downloads stepped

/-- One turn of the loop tries the next URL, and posts it when the file was removed. -/
theorem booked_deleteFile {url : URL} {rest : List URL} (booked : manager.Booked)
    (present : manager.deletions.get? name = some deletion)
    (looping : deletion.stage = .deleting (url :: rest)) (folder : String) (removal : Removal) :
    (manager.deleteFile name deletion url rest folder removal).Booked := by
  obtain ⟨_, tried⟩ := booked.accountedAt present looping
  change deletion.outcomes.map Prod.fst ++ url :: rest = deletion.urls at tried
  unfold deleteFile
  set result := url.deleteOfflineFile manager.downloads.files (some folder) removal
  refine booked_setDeletion booked present ?_ (fun other => ?_) ?_
  · have extended : (deletion.outcomes ++ [(url, result.1)]).map Prod.fst ++ rest =
        deletion.urls := by
      rw [List.map_append, List.append_assoc]
      exact tried
    by_cases empty : rest = []
    · rw [if_pos empty]
      rw [empty, List.append_nil] at extended
      exact extended
    · rw [if_neg empty]
      exact ⟨empty, extended⟩
  · rw [List.count_append, (count_posts url other result.1).1]
  · have goesOn : (if rest = [] then DeletionStage.ended else .deleting rest) ≠ .cancelled := by
      split <;> exact nofun
    rw [looping, (count_posts url url result.1).2, if_neg nofun]
    exact (if_neg goesOn).symm

/-- Every step keeps the posts booked. -/
theorem booked_step {label : Label} (booked : manager.Booked)
    (taken : step manager label = some next) : next.Booked := by
  cases stepCases taken with
  | delete urls =>
      refine ⟨booked.accounted.push rfl, fun url => ?_, ?_⟩
      · rw [Table.total_push]
        exact booked.deleted url
      · rw [Table.count_push]
        exact booked.canceled
  | present name deletion cancel present cancelling =>
      have untried : deletion.outcomes = [] := booked.accountedAt present cancelling
      have running : deletion.stage ≠ .cancelled := by
        rw [cancelling]
        exact nofun
      by_cases empty : deletion.urls = []
      · rw [if_pos empty]
        refine booked_moveTo booked present ?_ running nofun
        change deletion.outcomes.map Prod.fst = deletion.urls
        rw [untried, empty]
        rfl
      · rw [if_neg empty]
        exact booked_moveTo booked present ⟨untried, empty⟩ running nofun
  | confirm name deletion present presented =>
      obtain ⟨untried, filled⟩ := booked.accountedAt present presented
      have running : deletion.stage ≠ .cancelled := by
        rw [presented]
        exact nofun
      refine booked_moveTo booked present ⟨filled, ?_⟩ running nofun
      change deletion.outcomes.map Prod.fst ++ deletion.urls = deletion.urls
      rw [show deletion.outcomes = [] from untried]
      rfl
  | cancel name deletion present presented =>
      obtain ⟨untried, _⟩ := booked.accountedAt present presented
      refine booked_setDeletion booked present untried (fun url => ?_) ?_
      · have other : deletedPost url ∉ [canceledPost] := by
          rw [List.mem_singleton]
          exact nofun
        exact congrArg _ (List.count_eq_zero.mpr other)
      · rw [presented]
        rfl
  | deleteNext name folder removal deletion url rest present looping =>
      exact booked_deleteFile booked present looping folder removal
  | downloads label downloads stepped =>
      exact ⟨booked.accounted, booked.deleted, booked.canceled⟩

variable {files : FileSystem} {labels : List Label} {target : DeletionManager}

/-- In every run the posts are booked. -/
theorem booked_run (run : Transition.Run step (initial files) labels target) : target.Booked :=
  run.preserves (fun _ _ _ booked taken => booked_step booked taken) (booked_initial files)

/-- **A confirmed deletion.** The loop posts `deleted` for a URL exactly when its removal
goes through and its place was there and no removal before has taken it away. Afterwards all
that the removals took is gone, which is everything at or below a place whose removal went
through and what the other removals took before they failed; the rest is as it was. -/
theorem confirmed_deletes (folder : String) (attempts : List (URL × Removal))
    (reached : Transition.Run step (initial files) labels manager)
    (present : manager.deletions.get? name = some deletion)
    (presented : deletion.stage = .presented)
    (asked : attempts.map Prod.fst = deletion.urls) :
    ∃ target outcomes, Transition.Run step manager
        (.confirm name :: attempts.map fun attempt => .deleteNext name folder attempt.2) target ∧
      target.deletions.get? name = some ⟨deletion.urls, .ended, outcomes⟩ ∧
      target.posted = manager.posted ++ postsFor outcomes ∧
      outcomes.map Prod.fst = deletion.urls ∧
      (∀ before url removal after, attempts = before ++ (url, removal) :: after →
        ∃ deleted, outcomes[before.length]? = some (url, deleted) ∧
          (deleted = true ↔ removal = .succeeds ∧
            manager.downloads.files.nodes (place folder url) ≠ none ∧
            ¬ Taken folder manager.downloads.files before (place folder url))) ∧
      ∀ path,
        (Covered folder outcomes path → Taken folder manager.downloads.files attempts path) ∧
        (Taken folder manager.downloads.files attempts path →
          (∃ url ∈ deletion.urls, place folder url <+: path) ∧
            target.downloads.files.nodes path = none) ∧
        (¬ Taken folder manager.downloads.files attempts path →
          target.downloads.files.nodes path = manager.downloads.files.nodes path) := by
  obtain ⟨untried, filled⟩ := (booked_run reached).accountedAt present presented
  have confirms : step manager (.confirm name) = some (manager.setDeletion name
      { deletion with stage := .deleting deletion.urls }) :=
    Table.when_eq_some.mpr ⟨deletion, present, presented, rfl⟩
  have moved : (manager.setDeletion name
      { deletion with stage := .deleting deletion.urls }).deletions.get? name = some _ :=
    (Table.get?_modify_self ..).trans (congrArg (Option.map _) present)
  have nonempty : attempts ≠ [] := by
    rintro rfl
    exact filled asked.symm
  obtain ⟨target, run, found, downloads, posted⟩ :=
    loop_run folder attempts nonempty moved (congrArg DeletionStage.deleting asked.symm)
  refine ⟨target, (deleteAll folder attempts manager.downloads.files).1, .cons confirms run, ?_,
    posted, (fst_deleteAll ..).trans asked, ?_, fun path => ?_⟩
  · rw [found, show deletion.outcomes = [] from untried]
    rfl
  · rintro before url removal after rfl
    obtain ⟨deleted, later, split, succeeds⟩ :=
      outcome_deleteAll folder before after url removal manager.downloads.files
    have length : before.length = (deleteAll folder before manager.downloads.files).1.length := by
      have same := congrArg List.length (fst_deleteAll folder before manager.downloads.files)
      rw [List.length_map, List.length_map] at same
      exact same.symm
    refine ⟨deleted, ?_, succeeds⟩
    rw [split, length, List.getElem?_append_right le_rfl, Nat.sub_self]
    rfl
  · rw [downloads]
    obtain ⟨gone, kept⟩ := nodes_deleteAll folder attempts manager.downloads.files path
    refine ⟨taken_of_covered, fun taken => ⟨?_, gone taken⟩, kept⟩
    obtain ⟨attempt, member, below⟩ := below_of_taken taken
    exact ⟨attempt.1, asked ▸ List.mem_map_of_mem member, below⟩

/-- A URL is asked for twice, and the alert is on the screen. -/
def askTwice : List Label :=
  [.delete [AwesomeDownload.storedURL, AwesomeDownload.storedURL], .downloads (.advanceCancel 0),
    .downloads (.advanceCancel 0), .present 0]

/-- Two deletions that were asked for. -/
def askedTwice : DeletionManager :=
  (Transition.execute step (initial AwesomeDownload.storedFiles) askTwice).getD
    (initial AwesomeDownload.storedFiles)

/-- The file is removed once, posted once, and gone for the second attempt. -/
theorem confirmed_deletes_twice : ∃ target outcomes,
    Transition.Run step askedTwice
        [.confirm 0, .deleteNext 0 "aaNetworking" .succeeds, .deleteNext 0 "aaNetworking" .succeeds]
        target ∧
      target.posted = postsFor outcomes ∧
      outcomes[0]? = some (AwesomeDownload.storedURL, true) ∧
      outcomes[1]? = some (AwesomeDownload.storedURL, false) ∧
      target.downloads.files.nodes ["Documents", "aaNetworking", "b.pdf"] = none ∧
      target.downloads.files.nodes ["Documents", "aaNetworking"] = some .directory := by
  have reached : Transition.Run step (initial AwesomeDownload.storedFiles) askTwice askedTwice :=
    Transition.run_iff_execute.mpr rfl
  have present : askedTwice.deletions.get? 0 =
      some ⟨[AwesomeDownload.storedURL, AwesomeDownload.storedURL], .presented, []⟩ := rfl
  obtain ⟨target, outcomes, run, _, posted, _, outcome, after⟩ :=
    confirmed_deletes "aaNetworking"
      [(AwesomeDownload.storedURL, .succeeds), (AwesomeDownload.storedURL, .succeeds)]
      reached present rfl rfl
  obtain ⟨deleted, first, succeeds⟩ := outcome [] AwesomeDownload.storedURL .succeeds _ rfl
  have stored : deleted = true := succeeds.mpr ⟨rfl, by decide, id⟩
  obtain ⟨again, second, succeeds'⟩ :=
    outcome [(AwesomeDownload.storedURL, .succeeds)] AwesomeDownload.storedURL .succeeds _ rfl
  have missing : again = false := by
    refine Bool.eq_false_iff.mpr fun deleted' => (succeeds'.mp deleted').2.2 ?_
    exact Or.inr ⟨by decide, id, by decide⟩
  have gone := (after ["Documents", "aaNetworking", "b.pdf"]).1
    ⟨AwesomeDownload.storedURL, stored ▸ List.mem_of_getElem? first, by decide⟩
  have kept : ¬ Taken "aaNetworking" askedTwice.downloads.files
      [(AwesomeDownload.storedURL, .succeeds), (AwesomeDownload.storedURL, .succeeds)]
      ["Documents", "aaNetworking"] := by
    intro taken
    obtain ⟨⟨url, asked, below⟩, _⟩ := (after _).2.1 taken
    rcases List.eq_or_mem_of_mem_cons asked with rfl | asked
    · exact absurd below (by decide)
    · rw [List.mem_singleton.mp asked] at below
      exact absurd below (by decide)
  exact ⟨target, outcomes, run, posted, stored ▸ first, missing ▸ second,
    ((after _).2.1 gone).2, ((after _).2.2 kept).trans (by decide)⟩

end DeletionManager

end AwesomeNetwork
