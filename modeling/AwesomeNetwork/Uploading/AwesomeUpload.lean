import AwesomeNetwork.Extensions.String
import AwesomeNetwork.Extensions.URLRequest
import AwesomeNetwork.Networking.AwesomeRequester
import AwesomeNetwork.Networking.AwesomeRequestManager

/-! # Uploads

A call of `upload` is answered before it returns, or it creates a task and is answered by the
callback of the task. The registry is the one of the requests: the threads of the calls
register and resume their tasks, the session completes them, and tasks may be cancelled, all
in any order.
-/

namespace AwesomeNetwork

/-- `(200...299).contains(response.statusCode)`, for a response over HTTP. -/
def SessionResponse.hasSuccessStatus (response : SessionResponse) : Bool :=
  response.statusCode.any fun statusCode => 200 ≤ statusCode ∧ statusCode ≤ 299

/-- How far a call has come: it returned at a guard, its task was created, or the callback of
the task has run. -/
inductive UploadProgress where
  | returned
  | started (task : Nat)
  | calledBack (task : Nat) (response : SessionResponse)
deriving DecidableEq, Repr

/-- A call of `upload`, with what was passed to its completion. -/
structure UploadCall where
  uploadData : Option Data
  urlString : Option String
  headers : Option AwesomeRequesterHeader
  progress : UploadProgress
  answers : List Outcome
deriving DecidableEq

/-- The uploads with their registry. -/
structure AwesomeUpload where
  requestManager : AwesomeRequestManager String
  calls : Table UploadCall

namespace AwesomeUpload

/-- A call of `upload`, a step of the registry, or the callback of a task. -/
inductive Label where
  | upload (uploadData : Option Data) (urlString : Option String)
      (headers : Option AwesomeRequesterHeader)
  | registry (label : AwesomeRequestManager.Label String)
  | callback (call : Nat) (response : SessionResponse)

/-- No upload was ever made. -/
def initial : AwesomeUpload := ⟨.initial, .empty⟩

/-- A call that is answered by a guard. -/
def answer (state : AwesomeUpload) (uploadData : Option Data) (urlString : Option String)
    (headers : Option AwesomeRequesterHeader) (error : AwesomeError) : AwesomeUpload :=
  { state with
    calls := state.calls.push ⟨uploadData, urlString, headers, .returned, [⟨none, some error⟩]⟩ }

/-- A call that creates a task for its request. -/
def start (state : AwesomeUpload) (uploadData : Option Data) (urlString : Option String)
    (headers : Option AwesomeRequesterHeader) (urlRequest : URLRequest) : AwesomeUpload where
  requestManager := state.requestManager.createTask urlRequest.urlCacheKey false
  calls := state.calls.push
    ⟨uploadData, urlString, headers, .started state.requestManager.tasks.size, []⟩

/-- `upload(_:to:headers:completion:)`, up to the creation of the task. -/
def upload (foundation : Foundation) (state : AwesomeUpload) (uploadData : Option Data)
    (urlString : Option String) (headers : Option AwesomeRequesterHeader) : AwesomeUpload :=
  match uploadData with
  | none => state.answer uploadData urlString headers .invalidData
  | some _ =>
      match urlString.bind fun string => foundation.urlOfString string none with
      | none => state.answer uploadData urlString headers .invalidUrl
      | some url =>
          state.start uploadData urlString headers
            (URLRequest.request url (some .POST) none headers 15)

/-- What the callback of the task passes to the completion, after it has removed the request. -/
def callbackAnswers (response : SessionResponse) : List Outcome :=
  match response.error with
  | some error => [⟨none, some (.uploadFailed error.localizedDescription)⟩]
  | none =>
      if response.hasSuccessStatus = false then [⟨none, some (.uploadFailed "server error")⟩]
      else
        match response.data with
        | some data => [⟨some data, none⟩]
        | none => []

/-- The accesses of the registry other than the creation of a task and its callback. -/
def Registers : AwesomeRequestManager.Label String → Prop
  | .create _ _ => False
  | .remove _ => False
  | _ => True

instance : DecidablePred Registers := fun label => by
  cases label <;> unfold Registers <;> infer_instance

/-- One step of the uploads. -/
def step (foundation : Foundation) (state : AwesomeUpload) : Label → Option AwesomeUpload
  | .upload uploadData urlString headers =>
      some (state.upload foundation uploadData urlString headers)
  | .registry label =>
      if Registers label then
        (state.requestManager.step label).map fun manager =>
          { state with requestManager := manager }
      else none
  | .callback call response =>
      match state.calls.get? call with
      | some ⟨_, _, _, .started task, _⟩ =>
          (state.requestManager.step (.remove task)).map fun manager =>
            { requestManager := manager
              calls := state.calls.modify call fun record =>
                { record with
                  progress := .calledBack task response
                  answers := record.answers ++ callbackAnswers response } }
      | _ => none

end AwesomeUpload

end AwesomeNetwork
