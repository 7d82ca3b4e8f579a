import AwesomeNetwork.Downloading.SuccessiveDownloads

/-! # The steps of a call itself

The check of a call finds its file or does not, a forced call removes what it has found,
and the writes lead to the one transfer of the call. A call that has found nothing stays
fresh, unless the removal of its file fails.
-/

namespace AwesomeNetwork

namespace AwesomeDownload

variable {downloads next : AwesomeDownload} {label : Label} {name : Nat} {call : DownloadCall}
  {before : FileSystem} {force : Bool}

/-- The check of a call looks for its file. -/
theorem checking_cases {removal : Removal} (checking : call.stage = .checking)
    (advanced : downloads.advance name call removal = some next) :
    (call.url = none ∧ next = downloads.setCall name ((call.answer .noUrl).moveTo .returned)) ∨
      (call.node downloads.files ≠ none ∧ call.force = true ∧
        next = downloads.setCall name (call.moveTo .deleting)) ∨
      (call.node downloads.files ≠ none ∧ call.force = false ∧
        next = downloads.setCall name ((call.answer .existed).moveTo .returned)) ∨
      (call.node downloads.files = none ∧
        next = downloads.setCall name (call.moveTo .writingFolder)) := by
  unfold advance at advanced
  rw [checking] at advanced
  dsimp only at advanced
  split at advanced
  · next absent => exact Or.inl ⟨absent, (Option.some.inj advanced).symm⟩
  · next url asked =>
      right
      split at advanced
      · next stored =>
          have there : call.node downloads.files ≠ none := by
            intro missing
            rw [(node_eq_none_iff asked _).mp missing] at stored
            cases stored
          split at advanced
          · next forced => exact Or.inl ⟨there, forced, (Option.some.inj advanced).symm⟩
          · next unforced =>
              exact Or.inr (Or.inl ⟨there, Bool.not_eq_true _ ▸ unforced,
                (Option.some.inj advanced).symm⟩)
      · next missing =>
          have absent : url.offlineFileExists downloads.files call.folder = false :=
            Bool.not_eq_true _ ▸ missing
          exact Or.inr (Or.inr ⟨(node_eq_none_iff asked _).mpr absent,
            (Option.some.inj advanced).symm⟩)

/-- Nothing is at the destination after a removal that goes through, and what was there after
one that fails. -/
theorem node_deleteOfflineFile {url : URL} {files : FileSystem} (asked : call.url = some url)
    (there : call.node files ≠ none) (removal : Removal) :
    call.node (url.deleteOfflineFile files call.folder removal).2 =
      if removal = .succeeds then none else call.node files := by
  have stored : url.offlineFileExists files call.folder = true := by
    by_contra missing
    exact there ((node_eq_none_iff asked files).mpr (Bool.not_eq_true _ ▸ missing))
  unfold URL.deleteOfflineFile
  rw [if_pos stored]
  unfold DownloadCall.node
  rw [asked]
  dsimp only [Option.bind_some]
  cases removal with
  | succeeds =>
      rw [if_pos rfl, FileSystem.nodes_removeItem_succeeds]
      exact if_pos (List.prefix_refl _)
  | fails removed => exact FileSystem.nodes_removeItem_fails_self ..

section Own

variable {removal : Removal} (found : downloads.calls.get? name = some call)
  (taken : step downloads (.advance name removal) = some next)

include found taken

/-- The check finds what was there before, or goes on. -/
theorem checking_own (checking : call.stage = .checking) (forced : call.force = force)
    (unanswered : call.answers = []) (quiet : Quiet downloads) (unmade : downloads.Unmade name)
    (same : call.node downloads.files = call.node before) :
    ∃ after, next.calls.get? name = some after ∧
      (Fresh before force next name after ∨ (Stale before next name after ∧ force = false)) := by
  rcases checking_cases checking ((step_advance_eq found).symm.trans taken) with
    ⟨absent, rfl⟩ | ⟨there, wanted, rfl⟩ | ⟨there, unforced, rfl⟩ | ⟨missing, rfl⟩
  · exact ⟨_, get?_setCall_self found _, Or.inl (.noUrl absent rfl
      (congrArg (· ++ [_]) unanswered) quiet)⟩
  · exact ⟨_, get?_setCall_self found _, Or.inl (.deleting rfl (forced.symm.trans wanted) unanswered
      quiet unmade same (same ▸ there))⟩
  · exact ⟨_, get?_setCall_self found _, Or.inr ⟨.existed rfl (congrArg (· ++ [_]) unanswered) quiet
      unmade same (same ▸ there), forced.symm.trans unforced⟩⟩
  · exact ⟨_, get?_setCall_self found _, Or.inl (.unserved (fun _ => same ▸ missing) (Or.inl rfl)
      unanswered quiet fun _ => missing)⟩

/-- The removal leaves the call fresh exactly when it succeeds. -/
theorem deleting_own (deleting : call.stage = .deleting) (forced : force = true)
    (unanswered : call.answers = []) (quiet : Quiet downloads) (unmade : downloads.Unmade name)
    (same : call.node downloads.files = call.node before) (there : call.node before ≠ none) :
    ∃ after, next.calls.get? name = some after ∧
      ((Fresh before force next name after ∧ removal = .succeeds) ∨
        (Stale before next name after ∧ removal ≠ .succeeds)) := by
  cases asked : call.url with
  | none =>
      unfold DownloadCall.node at there
      rw [asked] at there
      exact (there rfl).elim
  | some url =>
      have moved := step_deleting taken found deleting asked
      have left := node_deleteOfflineFile asked (same ▸ there) removal
      subst moved
      refine ⟨_, get?_setCall_self found _, ?_⟩
      by_cases succeeds : removal = .succeeds
      · rw [if_pos succeeds] at left
        exact Or.inl ⟨.removed rfl forced unanswered quiet left, succeeds⟩
      · rw [if_neg succeeds] at left
        exact Or.inr ⟨.kept rfl rfl unanswered quiet unmade (left.trans same) there, succeeds⟩

/-- A check that finds nothing leaves the call fresh. -/
theorem removed_own (checking : call.stage = .checking) (forced : force = true)
    (unanswered : call.answers = []) (quiet : Quiet downloads)
    (gone : call.node downloads.files = none) :
    ∃ after, next.calls.get? name = some after ∧ Fresh before force next name after := by
  rcases checking_cases checking ((step_advance_eq found).symm.trans taken) with
    ⟨absent, rfl⟩ | ⟨there, _⟩ | ⟨there, _⟩ | ⟨missing, rfl⟩
  · exact ⟨_, get?_setCall_self found _, .noUrl absent rfl (congrArg (· ++ [_]) unanswered) quiet⟩
  · exact (there gone).elim
  · exact (there gone).elim
  · refine ⟨_, get?_setCall_self found _, .unserved (fun unforced => ?_) (Or.inl rfl) unanswered
      quiet fun _ => missing⟩
    cases forced.symm.trans unforced

/-- A check that finds the file leaves an unforced call stale. -/
theorem kept_own (checking : call.stage = .checking) (unforced : call.force = false)
    (unanswered : call.answers = []) (quiet : Quiet downloads) (unmade : downloads.Unmade name)
    (same : call.node downloads.files = call.node before) (there : call.node before ≠ none) :
    ∃ after, next.calls.get? name = some after ∧ Stale before next name after := by
  rcases checking_cases checking ((step_advance_eq found).symm.trans taken) with
    ⟨absent, _⟩ | ⟨_, forced, _⟩ | ⟨_, _, rfl⟩ | ⟨missing, _⟩
  · unfold DownloadCall.node at there
    rw [absent] at there
    exact (there rfl).elim
  · cases unforced.symm.trans forced
  · exact ⟨_, get?_setCall_self found _, .existed rfl (congrArg (· ++ [_]) unanswered) quiet
      unmade same there⟩
  · exact (there (same ▸ missing)).elim

/-- The statements after the check write the fields and make the one transfer. -/
theorem unserved_own (passed : force = false → call.node before = none)
    (written : call.stage = .writingFolder ∨ downloads.Written name call call.stage)
    (unanswered : call.answers = []) (quiet : Quiet downloads) (vacant : downloads.Vacant call) :
    ∃ after, next.calls.get? name = some after ∧ Fresh before force next name after := by
  rcases advance_cases ((step_advance_eq found).symm.trans taken) with
    ⟨files, changed, checks, _⟩ | ⟨stage, effect, writes, rfl⟩
  · rcases checks.early with reached | reached <;> rw [reached] at written <;>
      rcases written with begins | written <;> first | cases begins | exact written.elim
  have written' : effect.Written name call stage :=
    writes.written fun begun => written.resolve_left begun
  have vacant' : effect.Vacant call := vacant.of_files writes.files
  refine ⟨_, get?_setCall_self (writes.records.calls ▸ found) _, ?_⟩
  by_cases making : call.stage = .makingTask
  · rw [making] at writes
    cases writes with
    | noTask absent => exact .unserved passed (Or.inr written') unanswered quiet vacant'
    | task session present usable =>
        refine .transferring downloads.transfers.size _ passed (Or.inr ⟨rfl, Or.inl rfl⟩) written'
          unanswered quiet.2 (Table.get?_push_self ..) rfl ?_ vacant'
        intro other transfer present' active
        rcases Table.get?_push_cases present' with old | ⟨newest, _⟩
        · exact (absurd_of_inactive quiet.1 old active).elim
        · exact newest
  · refine .unserved passed (Or.inr written') unanswered (quiet_step quiet taken ?_) vacant'
    intro caller through call' advances found'
    cases advances
    cases Option.some.inj (found.symm.trans found')
    exact making

/-- The call resumes its task and returns. -/
theorem transferring_own {own : Nat} {transfer : Transfer}
    (passed : force = false → call.node before = none)
    (stands : call.stage = .returned ∨ (call.stage = .resuming ∧
      (transfer.status = .suspended ∨ transfer.status = .cancelled)))
    (written : downloads.Written name call call.stage) (unanswered : call.answers = [])
    (none : downloads.results = []) (present : downloads.transfers.get? own = some transfer)
    (mine : transfer.call = name)
    (sole : downloads.transfers.All fun other transfer => transfer.status.active = true →
      other = own)
    (places : downloads.Places call transfer transfer.status) :
    ∃ after, next.calls.get? name = some after ∧ Fresh before force next name after := by
  rcases stands with returned | ⟨resuming, idle⟩
  · cases (not_advance_returned found returned).symm.trans taken
  rcases advance_cases ((step_advance_eq found).symm.trans taken) with
    ⟨files, changed, checks, _⟩ | ⟨stage, effect, writes, rfl⟩
  · exact (checks.unreturned (Or.inl resuming)).elim
  have returns : stage = .returned := by
    rw [resuming] at writes
    cases writes <;> rfl
  have written' : effect.Written name call stage := writes.written fun _ => written
  have vacant : effect.Vacant call := by
    refine Vacant.of_files (places.vacant fun success enqueuing => ?_) writes.files
    rw [enqueuing] at idle
    rcases idle with reached | reached <;> cases reached
  have results : effect.results = [] := (results_congr writes.records.mainQueue).trans none
  have sole' : (effect.setCall name (call.moveTo stage)).transfers.All fun other transfer =>
      transfer.status.active = true → other = own := by
    refine soleActive_step sole taken fun caller _ call' advances found' making => ?_
    cases advances
    cases Option.some.inj (found.symm.trans found')
    cases resuming.symm.trans making
  subst returns
  obtain ⟨after, present', moves⟩ := step_transfer taken present
  refine ⟨_, get?_setCall_self (writes.records.calls ▸ found) _, .transferring own after passed
    (Or.inl rfl) written' unanswered results present' (moves.call_eq.trans mine) sole' ?_⟩
  have places' : ∀ status, (status = .suspended ∨ status = .cancelled ∨ status = .running) →
      effect.Places call after status := by
    rintro status (rfl | rfl | rfl) <;> exact vacant
  refine places' after.status ?_
  cases moves with
  | stay => exact idle.imp_right Or.inl
  | cancel =>
      unfold Transfer.cancel
      split
      · exact Or.inr (Or.inl rfl)
      · exact idle.imp_right Or.inl
  | resume =>
      unfold Transfer.resume
      split
      · exact Or.inr (Or.inr rfl)
      · exact idle.imp_right Or.inl
  | finish bytes finishes => cases finishes
  | fail fails => cases fails
  | handle _ _ _ delivers => cases delivers

end Own

/-- A call that is not about to remove a file removes none. -/
theorem removes_of_ne_deleting (found : downloads.calls.get? name = some call)
    (elsewhere : call.stage ≠ .deleting) : Removes name downloads label := by
  cases label with
  | advance caller removal =>
      refine Or.inr (Or.inr fun call' found' => ?_)
      cases Option.some.inj (found.symm.trans found')
      exact elsewhere
  | _ => trivial

/-- A step keeps a call fresh, unless the call finds its file or the removal of it fails. -/
theorem fresh_step (only : Only downloads name call)
    (deletes : ∀ url folder removal, label ≠ .delete url folder removal)
    (fresh : Fresh before force downloads name call) (taken : step downloads label = some next) :
    ∃ after, next.calls.get? name = some after ∧
      ((Fresh before force next name after ∧ Removes name downloads label) ∨
        (Stale before next name after ∧ (force = false ∨ ¬ Removes name downloads label))) := by
  have stay (removes : Removes name downloads label) (served : ∃ after,
      next.calls.get? name = some after ∧ Fresh before force next name after) :
      ∃ after, next.calls.get? name = some after ∧
        ((Fresh before force next name after ∧ Removes name downloads label) ∨
          (Stale before next name after ∧ (force = false ∨ ¬ Removes name downloads label))) :=
    served.imp fun _ moved => ⟨moved.1, Or.inl ⟨moved.2, removes⟩⟩
  by_cases own : ∃ removal, label = .advance name removal
  · obtain ⟨removal, rfl⟩ := own
    have returned_elim {motive : Prop} (returned : call.stage = .returned) : motive := by
      cases (not_advance_returned only.found returned).symm.trans taken
    have removes {stage : DownloadStage} (reached : call.stage = stage)
        (elsewhere : stage ≠ .deleting) :
        Removes name downloads (.advance name removal) :=
      removes_of_ne_deleting only.found (reached ▸ elsewhere)
    cases fresh with
    | checking checking forced unanswered quiet unmade same =>
        obtain ⟨after, present, moved⟩ :=
          checking_own only.found taken checking forced unanswered quiet unmade same
        exact ⟨after, present, moved.imp (fun kept => ⟨kept, removes checking nofun⟩)
          fun stale => ⟨stale.1, Or.inl stale.2⟩⟩
    | deleting deleting forced unanswered quiet unmade same there =>
        obtain ⟨after, present, moved⟩ :=
          deleting_own only.found taken deleting forced unanswered quiet unmade same there
        refine ⟨after, present, moved.imp (fun kept => ⟨kept.1, Or.inl kept.2⟩)
          fun stale => ⟨stale.1, Or.inr fun removes => ?_⟩⟩
        rcases removes with through | another | elsewhere
        · exact stale.2 through
        · exact another rfl
        · exact elsewhere call only.found deleting
    | removed checking forced unanswered quiet gone =>
        exact stay (removes checking nofun)
          (removed_own only.found taken checking forced unanswered quiet gone)
    | noUrl absent returned => exact returned_elim returned
    | unserved passed written unanswered quiet vacant =>
        have elsewhere : call.stage ≠ .deleting := by
          intro deleting
          rw [deleting] at written
          rcases written with begins | written
          · cases begins
          · exact written
        exact stay (removes rfl elsewhere)
          (unserved_own only.found taken passed written unanswered quiet vacant)
    | transferring _ _ passed stands written unanswered none present mine sole places =>
        have elsewhere : call.stage ≠ .deleting := by
          rcases stands with reached | ⟨reached, _⟩ <;> rw [reached] <;> nofun
        exact stay (removes rfl elsewhere) (transferring_own only.found taken passed stands written
          unanswered none present mine sole places)
    | queued _ _ _ _ returned => exact returned_elim returned
    | answered _ _ _ _ returned => exact returned_elim returned
  · have elsewhere : ∀ removal, label ≠ .advance name removal :=
      fun removal advances => own ⟨removal, advances⟩
    have removes : Removes name downloads label := by
      cases label with
      | advance caller removal =>
          refine Or.inr (Or.inl fun same => ?_)
          exact elsewhere removal (by rw [same])
      | _ => trivial
    exact stay removes (fresh_others only elsewhere taken deletes fresh)

/-- A stale call stays stale. -/
theorem stale_step (only : Only downloads name call)
    (deletes : ∀ url folder removal, label ≠ .delete url folder removal)
    (stale : Stale before downloads name call) (taken : step downloads label = some next) :
    ∃ after, next.calls.get? name = some after ∧ Stale before next name after := by
  by_cases own : ∃ removal, label = .advance name removal
  · obtain ⟨removal, rfl⟩ := own
    cases stale with
    | kept checking unforced unanswered quiet unmade same there =>
        exact kept_own only.found taken checking unforced unanswered quiet unmade same there
    | existed returned =>
        cases (not_advance_returned only.found returned).symm.trans taken
  · exact ⟨call, stale_others only (fun removal advances => own ⟨removal, advances⟩) taken
      deletes stale⟩

end AwesomeDownload

end AwesomeNetwork
