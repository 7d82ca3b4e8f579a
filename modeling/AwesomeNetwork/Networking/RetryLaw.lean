import AwesomeNetwork.Networking.AwesomeRequester

/-! # The attempts of the retrying requester

The retrying requester is followed over any state and with any `performRequest` that
reports exactly once for each attempt. What the requester does is then determined by
the outcomes in their order: the attempts, what is passed on after each of them, and the
completion.
-/

namespace AwesomeNetwork

namespace AwesomeRequester

section Overriding

variable {State : Type*}

/-- `performRequestRetrying(_:retryCount:intermediate:completion:)` of a requester with a
`performRequest(_:completion:)` of its own. -/
def performRequestRetryingOver
    (performRequest : (Option Data → Option AwesomeError → State → State) → State → State)
    (request : AwesomeRequestProtocol) (retryCount : Int)
    (intermediate : Option (Option Data → Option AwesomeError → Int → State → State))
    (completion : Option Data → Option AwesomeError → State → State) : State → State :=
  performRequest fun data error state =>
    let state := match intermediate with
      | some intermediate => intermediate data error retryCount state
      | none => state
    if retrying : request.isSuccessResponse data = false ∧ 0 < retryCount then
      performRequestRetryingOver performRequest request (retryCount - 1) intermediate completion
        state
    else completion data error state
termination_by retryCount.toNat
decreasing_by omega

/-- The requester of the sources is the one with its own `performRequest`. -/
theorem performRequestRetrying_eq_over (requester : AwesomeRequester)
    (request : AwesomeRequestProtocol) (retryCount : Int)
    (intermediate : Option AwesomeRetryDataResponse) (completion : AwesomeDataResponse) :
    requester.performRequestRetrying request retryCount intermediate completion =
      performRequestRetryingOver (requester.performRequest request) request retryCount
        intermediate completion := by
  generalize bound : retryCount.toNat = retries
  induction retries generalizing retryCount with
  | zero =>
      rw [performRequestRetrying, performRequestRetryingOver]
      have exhausted (data : Option Data) :
          ¬ (request.isSuccessResponse data = false ∧ 0 < retryCount) := by omega
      simp only [exhausted, ↓reduceDIte]
      cases intermediate <;> rfl
  | succ retries ih =>
      rw [performRequestRetrying, performRequestRetryingOver, ih (retryCount - 1) (by omega)]
      cases intermediate <;> rfl

/-- A `performRequest` that reports exactly once: an attempt changes the state and has an
outcome, and its completion is called with that outcome. -/
def reporting (attempt : State → Outcome × State)
    (completion : Option Data → Option AwesomeError → State → State) : State → State :=
  fun state => completion (attempt state).1.data (attempt state).1.error (attempt state).2

variable (attempt : State → Outcome × State)
  (intermediate : Option Data → Option AwesomeError → Int → State → State) (retryCount : Int)
  (state : State)

/-- The state before the attempt of the given index, when every earlier outcome was passed
on and another attempt was made. -/
def stateBefore : Nat → State
  | 0 => state
  | index + 1 =>
      let outcome := (attempt (stateBefore index)).1
      intermediate outcome.data outcome.error (retryCount - index)
        (attempt (stateBefore index)).2

/-- The outcome of the attempt of the given index. -/
def outcomeOf (index : Nat) : Outcome :=
  (attempt (stateBefore attempt intermediate retryCount state index)).1

variable (request : AwesomeRequestProtocol)
  (completion : Option Data → Option AwesomeError → State → State)

/-- One attempt: its outcome is passed on, and either another attempt is made with one
retry less or the completion is called. -/
theorem performRequestRetryingOver_reporting :
    performRequestRetryingOver (reporting attempt) request retryCount (some intermediate)
        completion state =
      let outcome := (attempt state).1
      let passed := intermediate outcome.data outcome.error retryCount (attempt state).2
      if request.rejects outcome = true ∧ 0 < retryCount then
        performRequestRetryingOver (reporting attempt) request (retryCount - 1)
          (some intermediate) completion passed
      else completion outcome.data outcome.error passed := by
  rw [performRequestRetryingOver]
  simp only [reporting, AwesomeRequestProtocol.rejects, Bool.not_eq_true', dite_eq_ite]

/-- Attempt after attempt, from the one with number `start`. -/
theorem performRequestRetryingOver_from (start : Nat) :
    performRequestRetryingOver (reporting attempt) request (retryCount - start)
        (some intermediate) completion
        (stateBefore attempt intermediate retryCount state start) =
      let last := start + Retry.stop request.rejects
        (outcomeOf attempt intermediate retryCount state) (retryCount - start).toNat start
      let outcome := outcomeOf attempt intermediate retryCount state last
      completion outcome.data outcome.error
        (stateBefore attempt intermediate retryCount state (last + 1)) := by
  generalize bound : (retryCount - start).toNat = retries
  induction retries generalizing start with
  | zero =>
      rw [performRequestRetryingOver_reporting]
      refine if_neg fun again => ?_
      omega
  | succ retries ih =>
      rw [performRequestRetryingOver_reporting]
      have left : 0 < retryCount - start := by omega
      have fewer : retryCount - start - 1 = retryCount - (start + 1 : Nat) := by omega
      cases rejected : request.rejects
          (outcomeOf attempt intermediate retryCount state start) with
      | false =>
          have stops : Retry.stop request.rejects
              (outcomeOf attempt intermediate retryCount state) (retries + 1) start = 0 := by
            simp only [Retry.stop, rejected, Bool.false_eq_true, ↓reduceIte]
          rw [stops]
          exact if_neg fun again => Bool.false_ne_true (rejected.symm.trans again.1)
      | true =>
          have continues : Retry.stop request.rejects
              (outcomeOf attempt intermediate retryCount state) (retries + 1) start =
                Retry.stop request.rejects (outcomeOf attempt intermediate retryCount state)
                  retries (start + 1) + 1 := by
            simp only [Retry.stop, rejected, ↓reduceIte]
          rw [continues, ← Nat.add_assoc, Nat.add_right_comm, ← ih (start + 1) (by omega), ← fewer]
          exact if_pos ⟨rejected, left⟩

/-- The whole call: the completion is called once, after the last attempt and with its
outcome. -/
theorem performRequestRetryingOver_eq :
    performRequestRetryingOver (reporting attempt) request retryCount (some intermediate)
        completion state =
      let last := Retry.stop request.rejects (outcomeOf attempt intermediate retryCount state)
        retryCount.toNat 0
      let outcome := outcomeOf attempt intermediate retryCount state last
      completion outcome.data outcome.error
        (stateBefore attempt intermediate retryCount state (last + 1)) := by
  have whole := performRequestRetryingOver_from attempt intermediate retryCount state request
    completion 0
  have start : retryCount - (0 : Nat) = retryCount := Int.sub_zero retryCount
  rw [start, Nat.zero_add] at whole
  exact whole

end Overriding

end AwesomeRequester

/-- The index of the first outcome whose data is a success, infinite if there is none. -/
noncomputable def AwesomeRequestProtocol.firstSuccess (request : AwesomeRequestProtocol)
    (outcomes : Nat → Outcome) : ℕ∞ :=
  ⨅ index ∈ {index | request.isSuccessResponse (outcomes index).data = true}, (index : ℕ∞)

/-- The attempts end with the first success or with the retries. -/
theorem AwesomeRequestProtocol.stop_eq_min (request : AwesomeRequestProtocol)
    (outcomes : Nat → Outcome) (retries : Nat) :
    (Retry.stop request.rejects outcomes retries 0 : ℕ∞) =
      min (request.firstSuccess outcomes) retries := by
  rw [Retry.stop_eq_min]
  simp only [Retry.firstAccepted, firstSuccess, rejects, Bool.not_eq_false']

/-- What the retrying requester does. -/
inductive RetryEvent where
  | attempted
  | intermediate (outcome : Outcome) (retryCount : Int)
  | completed (outcome : Outcome)
deriving DecidableEq, Repr

/-- What a call did, in order, and the number of its attempts. -/
structure RetryLog where
  attempts : Nat
  events : List RetryEvent
deriving DecidableEq, Repr

namespace RetryLog

/-- An event is entered in the log. -/
def record (event : RetryEvent) (log : RetryLog) : RetryLog :=
  { log with events := log.events ++ [event] }

/-- The next attempt of a call whose attempts have the given outcomes. -/
def attempt (outcomes : Nat → Outcome) (log : RetryLog) : Outcome × RetryLog :=
  (outcomes log.attempts, { log with attempts := log.attempts + 1 }.record .attempted)

/-- The callback that notes what is passed on after an attempt. -/
def noteIntermediate (data : Option Data) (error : Option AwesomeError) (retryCount : Int) :
    RetryLog → RetryLog :=
  record (.intermediate ⟨data, error⟩ retryCount)

/-- The completion that notes what it is called with. -/
def noteCompletion (data : Option Data) (error : Option AwesomeError) : RetryLog → RetryLog :=
  record (.completed ⟨data, error⟩)

/-- One attempt and what is passed on after it. -/
def round (outcomes : Nat → Outcome) (retryCount : Int) (index : Nat) : List RetryEvent :=
  [.attempted, .intermediate (outcomes index) (retryCount - index)]

variable (outcomes : Nat → Outcome) (retryCount : Int)

/-- Before an attempt, the log holds the rounds of the earlier ones. -/
theorem stateBefore_eq (count : Nat) :
    AwesomeRequester.stateBefore (attempt outcomes) noteIntermediate retryCount ⟨0, []⟩ count =
      ⟨count, (List.range count).flatMap (round outcomes retryCount)⟩ := by
  induction count with
  | zero => rfl
  | succ count ih =>
      rw [AwesomeRequester.stateBefore, ih, List.range_succ, List.flatMap_append,
        List.flatMap_singleton]
      simp only [attempt, noteIntermediate, record, round, List.append_assoc, List.singleton_append]

/-- The attempts have the outcomes of the tape. -/
theorem outcomeOf_eq :
    AwesomeRequester.outcomeOf (attempt outcomes) noteIntermediate retryCount ⟨0, []⟩ =
      outcomes := by
  funext index
  unfold AwesomeRequester.outcomeOf
  rw [stateBefore_eq]
  rfl

end RetryLog

namespace AwesomeRequester

/-- The session answers the next data task. -/
def answerNext (world : World) : Outcome × World :=
  (world.outcomes world.tasks, { world with tasks := world.tasks + 1 })

/-- `performRequest` of a request with a URL reports once for each attempt. -/
theorem performRequest_eq_reporting (requester : AwesomeRequester)
    (request : AwesomeRequestProtocol) {urlRequest : URLRequest}
    (present : request.urlRequest = some urlRequest) :
    requester.performRequest request = reporting answerNext := by
  funext completion world
  exact requester.performRequest_of_some request completion present world

/-- **The retry law.** With `m` the index of the first success, the last attempt is the
one of index `min m (max n 0)`. Each attempt is followed by `intermediate` with its outcome
and the retries left, and the completion is called once, after the last attempt and with
its outcome. The requester of the sources does the same on any world, whatever its
callbacks do to it. -/
theorem performRequestRetrying_law (request : AwesomeRequestProtocol) (retryCount : Int) :
    (∀ outcomes : Nat → Outcome, ∃ last : Nat,
      (last : ℕ∞) = min (request.firstSuccess outcomes) (max retryCount 0).toNat ∧
      performRequestRetryingOver (reporting (RetryLog.attempt outcomes)) request retryCount
          (some RetryLog.noteIntermediate) RetryLog.noteCompletion ⟨0, []⟩ =
        ⟨last + 1, (List.range (last + 1)).flatMap (fun index =>
          [.attempted, .intermediate (outcomes index) (retryCount - index)]) ++
            [.completed (outcomes last)]⟩) ∧
    ∀ (requester : AwesomeRequester) (urlRequest : URLRequest)
      (intermediate : AwesomeRetryDataResponse) (completion : AwesomeDataResponse) (world : World),
      request.urlRequest = some urlRequest →
      let outcomes := outcomeOf answerNext intermediate retryCount world
      ∃ last : Nat, (last : ℕ∞) = min (request.firstSuccess outcomes) (max retryCount 0).toNat ∧
        requester.performRequestRetrying request retryCount (some intermediate) completion world =
          completion (outcomes last).data (outcomes last).error
            (stateBefore answerNext intermediate retryCount world (last + 1)) := by
  have bound : (max retryCount 0).toNat = retryCount.toNat := by omega
  rw [bound]
  constructor
  · intro outcomes
    refine ⟨_, request.stop_eq_min outcomes retryCount.toNat, ?_⟩
    rw [performRequestRetryingOver_eq, RetryLog.outcomeOf_eq]
    dsimp only
    rw [RetryLog.stateBefore_eq]
    rfl
  · intro requester urlRequest intermediate completion world present outcomes
    refine ⟨_, request.stop_eq_min outcomes retryCount.toNat, ?_⟩
    rw [performRequestRetrying_eq_over, requester.performRequest_eq_reporting request present,
      performRequestRetryingOver_eq]

end AwesomeRequester

end AwesomeNetwork
