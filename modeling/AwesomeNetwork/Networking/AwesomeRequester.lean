import AwesomeNetwork.Library.Retry
import AwesomeNetwork.Networking.AwesomeRequestProtocol

/-! # Performing and retrying a request

One call is followed here in isolation: a callback is an action on the world, an
asynchronous call runs its callback when the answer is there, and `URLSession`
answers the data tasks of the call from a tape. What other calls do in between,
the registry of running tasks and the dispatcher, is the subject of the runs
over `Session`.
-/

namespace AwesomeNetwork

/-- What a completion is called with. -/
structure Outcome where
  data : Option Data
  error : Option AwesomeError
deriving DecidableEq, Repr

/-- How the completion handler of a data task reads the session's response. -/
def SessionResponse.outcome (response : SessionResponse) : Outcome :=
  match response.error with
  | some error =>
      if error.code = NSURLErrorTimedOut then
        ⟨none, some (.timeOut error.localizedDescription)⟩
      else if error.code = NSURLErrorNotConnectedToInternet then
        ⟨none, some (.noConnection error.localizedDescription)⟩
      else if error.code = NSURLErrorCancelled then
        ⟨none, some (.cancelled error.localizedDescription)⟩
      else ⟨none, some (.unknown error.localizedDescription)⟩
  | none =>
      if response.statusCode = some 401 then ⟨none, some .unauthorized⟩
      else ⟨response.data, none⟩

/-- An outcome with an error has no data. -/
theorem SessionResponse.outcome_data_of_error (response : SessionResponse)
    (failed : response.outcome.error ≠ none) : response.outcome.data = none := by
  unfold outcome at failed ⊢
  split at failed
  · split
    · rfl
    · split
      · rfl
      · split <;> rfl
  · split at failed
    · next unauthorized => simp only [unauthorized, ↓reduceIte]
    · exact (failed rfl).elim

/-- A session reports time-outs, lost connections, cancellations, unknown errors and
unauthorized requests only. -/
theorem SessionResponse.outcome_error_ne (response : SessionResponse) {error : AwesomeError}
    (other : ∀ message, error ≠ .timeOut message ∧ error ≠ .noConnection message ∧
      error ≠ .cancelled message ∧ error ≠ .unknown message)
    (authorized : error ≠ .unauthorized) : response.outcome.error ≠ some error := by
  intro reported
  unfold outcome at reported
  split at reported
  · split at reported
    · exact (other _).1 (Option.some.inj reported).symm
    · split at reported
      · exact (other _).2.1 (Option.some.inj reported).symm
      · split at reported
        · exact (other _).2.2.1 (Option.some.inj reported).symm
        · exact (other _).2.2.2 (Option.some.inj reported).symm
  · split at reported
    · exact authorized (Option.some.inj reported).symm
    · cases reported

/-- What a call does that its caller or the session can see. -/
inductive Event where
  | fetchStarted
  | delivered (data : Option Data) (error : Option AwesomeError)
deriving DecidableEq, Repr

/-- The world a call acts on; `session` answers its data tasks and `tasks` counts
them. -/
structure World where
  shared : Shared
  realm : Realm
  session : Nat → SessionResponse
  tasks : Nat
  trace : List Event

/-- What a call does to the world. -/
abbrev Act := World → World

/-- `AwesomeDataResponse`, as an action on the world. -/
abbrev AwesomeDataResponse := Option Data → Option AwesomeError → Act

/-- `AwesomeRetryDataResponse`, as an action on the world. -/
abbrev AwesomeRetryDataResponse := Option Data → Option AwesomeError → Int → Act

/-- An event is entered in the trace. -/
def World.record (event : Event) (world : World) : World :=
  { world with trace := world.trace ++ [event] }

/-- The completion of a caller that only takes note of what it is given. -/
def deliver : AwesomeDataResponse := fun data error => World.record (.delivered data error)

/-- `AwesomeDispatcher.executeBlock` for a single call: the block runs in the end. -/
def executeBlock (block : Act) : Act := block

namespace AwesomeRequester

/-- `performRequest(_:cancelPrevious:completion:)`: the next data task. -/
def performURLRequest (_ : AwesomeRequester) (_ : URLRequest) (_cancelPrevious : Bool)
    (completion : AwesomeDataResponse) : Act := fun world =>
  let outcome := (world.session world.tasks).outcome
  completion outcome.data outcome.error { world with tasks := world.tasks + 1 }

/-- `performRequest(_:completion:)`. -/
def performRequest (requester : AwesomeRequester) (request : AwesomeRequestProtocol)
    (completion : AwesomeDataResponse) : Act :=
  match request.urlRequest with
  | none => id
  | some urlRequest =>
      if requester.useSemaphore then
        executeBlock
          (requester.performURLRequest urlRequest request.cancelPreviousRequest completion)
      else requester.performURLRequest urlRequest request.cancelPreviousRequest completion

/-- `performRequestRetrying(_:retryCount:intermediate:completion:)`. -/
def performRequestRetrying (requester : AwesomeRequester) (request : AwesomeRequestProtocol)
    (retryCount : Int) (intermediate : Option AwesomeRetryDataResponse)
    (completion : AwesomeDataResponse) : Act :=
  requester.performRequest request fun data error world =>
    let world := match intermediate with
      | some intermediate => intermediate data error retryCount world
      | none => world
    if retrying : request.isSuccessResponse data = false ∧ 0 < retryCount then
      performRequestRetrying requester request (retryCount - 1) intermediate completion world
    else completion data error world
termination_by retryCount.toNat
decreasing_by omega

variable (requester : AwesomeRequester) (request : AwesomeRequestProtocol)
  (completion : AwesomeDataResponse)

/-- A request without a URL is dropped without calling the completion. -/
theorem performRequest_of_none (absent : request.urlRequest = none) :
    requester.performRequest request completion = id := by
  unfold performRequest
  rw [absent]

/-- A request with a URL gets the session's next answer, with or without the
semaphore. -/
theorem performRequest_of_some {urlRequest : URLRequest}
    (present : request.urlRequest = some urlRequest) (world : World) :
    requester.performRequest request completion world =
      completion (world.session world.tasks).outcome.data
        (world.session world.tasks).outcome.error { world with tasks := world.tasks + 1 } := by
  unfold performRequest
  rw [present]
  by_cases gated : requester.useSemaphore = true
  · simp only [gated, ↓reduceIte]
    rfl
  · simp only [gated, Bool.false_eq_true, ↓reduceIte]
    rfl

end AwesomeRequester

/-- The outcomes that the session has for the tasks, in their order. -/
def World.outcomes (world : World) (index : Nat) : Outcome := (world.session index).outcome

/-- An outcome asks for another attempt when its data is not a success. -/
def AwesomeRequestProtocol.rejects (request : AwesomeRequestProtocol) (outcome : Outcome) : Bool :=
  !request.isSuccessResponse outcome.data

/-- The outcomes of the attempts that a call makes from here. -/
def AwesomeRequestProtocol.attempts (request : AwesomeRequestProtocol) (world : World)
    (retryCount : Int) : List Outcome :=
  Retry.attempts request.rejects world.outcomes retryCount.toNat world.tasks

/-- The outcome of the last of these attempts. -/
def AwesomeRequestProtocol.finalOutcome (request : AwesomeRequestProtocol) (world : World)
    (retryCount : Int) : Outcome :=
  Retry.last request.rejects world.outcomes retryCount.toNat world.tasks

/-- The retrying requester reports once, after its last attempt and with the
outcome of that attempt. -/
theorem AwesomeRequester.performRequestRetrying_eq (requester : AwesomeRequester)
    (request : AwesomeRequestProtocol) {urlRequest : URLRequest}
    (present : request.urlRequest = some urlRequest) (retryCount : Int)
    (completion : AwesomeDataResponse) (world : World) :
    requester.performRequestRetrying request retryCount none completion world =
      completion (request.finalOutcome world retryCount).data
        (request.finalOutcome world retryCount).error
        { world with tasks := world.tasks + (request.attempts world retryCount).length } := by
  -- a negative number of retries counts as none
  generalize bound : retryCount.toNat = retries
  induction retries generalizing retryCount world with
  | zero =>
      rw [performRequestRetrying, requester.performRequest_of_some request _ present world]
      have exhausted :
          ¬ (request.isSuccessResponse (world.session world.tasks).outcome.data = false ∧
            0 < retryCount) := by omega
      simp only [exhausted, ↓reduceDIte, AwesomeRequestProtocol.finalOutcome,
        AwesomeRequestProtocol.attempts, bound, Retry.last, Retry.attempts, World.outcomes,
        List.length_singleton]
  | succ retries ih =>
      rw [performRequestRetrying, requester.performRequest_of_some request _ present world]
      have left : 0 < retryCount := by omega
      have fewer : (retryCount - 1).toNat = retries := by omega
      cases success : request.isSuccessResponse (world.session world.tasks).outcome.data with
      | true =>
          have stops : request.rejects (world.outcomes world.tasks) = false := by
            simp only [AwesomeRequestProtocol.rejects, World.outcomes, success, Bool.not_true]
          simp only [Bool.true_eq_false, false_and, ↓reduceDIte,
            AwesomeRequestProtocol.finalOutcome, AwesomeRequestProtocol.attempts, bound, Retry.last,
            Retry.attempts, stops, Bool.false_eq_true, ↓reduceIte, List.length_singleton]
          rfl
      | false =>
          have repeats : request.rejects (world.outcomes world.tasks) = true := by
            simp only [AwesomeRequestProtocol.rejects, World.outcomes, success, Bool.not_false]
          simp only [left, and_self, ↓reduceDIte]
          rw [ih (retryCount - 1) { world with tasks := world.tasks + 1 } fewer]
          simp only [AwesomeRequestProtocol.finalOutcome, AwesomeRequestProtocol.attempts, bound,
            fewer, Retry.last, Retry.attempts, repeats, ↓reduceIte, List.length_cons]
          congr 2
          exact Nat.add_right_comm world.tasks 1 _

end AwesomeNetwork
