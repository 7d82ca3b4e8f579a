import AwesomeNetwork.Networking.RequestData

/-! # Requesting decoded values

`requestGeneric` decodes what `requestData` replies. Whether cached bytes are good
enough to be replied is decided before that, by the predicate of the request on the
bytes, so an accepted entry that does not decode is a parse error of the call.
-/

namespace AwesomeNetwork

/-- `JSONDecoder().decode`, with the description of the error that it throws. -/
abbrev Decoder (Value : Type) := Data → Except String Value

/-- `AwesomeGenericResponse`, as an action on the world. -/
abbrev AwesomeGenericResponse (Value : Type) := Value → Option AwesomeError → Act

/-- What both forms of `requestGeneric` do with a reply; the value passed along with an
error is their own. -/
def decodeReply {Value : Type} (decode : Decoder Value) (failed : Value)
    (completion : AwesomeGenericResponse Value) : AwesomeDataResponse := fun data error =>
  match error with
  | some error => completion failed (some error)
  | none =>
      match data with
      | none =>
          completion failed (some (.unknown (some "No error from server and Data is nil.")))
      | some data =>
          match decode data with
          | .ok generic => completion generic none
          | .error localizedDescription =>
              completion failed (some (.parse (some localizedDescription)))

/-- `requestGeneric(with:completion:)` for a single value. -/
def requestGeneric {Value : Type} (decode : Decoder Value) (request : AwesomeRequestProtocol)
    (completion : AwesomeGenericResponse (Option Value)) : Act :=
  requestData request (decodeReply (fun data => (decode data).map some) none completion)

/-- `requestGeneric(with:completion:)` for an array. -/
def requestGenericArray {Value : Type} (decode : Decoder (List Value))
    (request : AwesomeRequestProtocol) (completion : AwesomeGenericResponse (List Value)) : Act :=
  requestData request (decodeReply decode [] completion)

/-- The data does not decode. -/
def Decoder.Fails {Value : Type} (decode : Decoder Value) (data : Data) : Prop :=
  ∃ description, decode data = .error description

/-- A completion that takes note of the error that it gets. -/
def noteError {Value : Type} : AwesomeGenericResponse Value := fun _ error =>
  World.record (.delivered none error)

/-- The events of a call tell of a parse error. -/
def TellsParse (events : List Event) : Prop :=
  ∃ description, .delivered none (some (.parse description)) ∈ events

/-- A parse error tells of fetched data that does not decode, and cached bytes that do not
decode are passed over for the URL. -/
structure FallsBack (request : AwesomeRequestProtocol) (fails : Data → Prop) (world : World)
    (events : List Event) : Prop where
  fetched : TellsParse events → .fetchStarted ∈ events ∧
    ∃ data ∈ (request.finalOutcome world request.retryCount).data, fails data
  passed : ∀ data ∈ request.cachedData world.shared world.realm, fails data →
    .fetchStarted ∈ events

/-- A parse error tells of the data that was replied, which are the cached bytes if the
request accepts them, and else the fetched data. -/
structure TellsReplied (request : AwesomeRequestProtocol) (fails : Data → Prop) (world : World)
    (events : List Event) : Prop where
  replied : TellsParse events →
    (∃ data ∈ request.servedData world.shared world.realm, fails data) ∨
      (request.servedData world.shared world.realm = none ∧ .fetchStarted ∈ events ∧
        ∃ data ∈ (request.finalOutcome world request.retryCount).data, fails data)
  served : ∀ data ∈ request.servedData world.shared world.realm,
    .fetchStarted ∉ events ∧ (fails data → TellsParse events)
  unserved : request.servedData world.shared world.realm = none → .fetchStarted ∈ events

section Replies

variable {Value : Type} {decode : Decoder Value} {failed : Value}
  {request : AwesomeRequestProtocol} {world : World} {requester : AwesomeRequester}
  {completion : AwesomeDataResponse}

/-- Under `fromCacheOrUrl` a served value is all that is replied. -/
theorem requestData_served {data : Data}
    (keeps : ∀ data error world, (completion data error world).shared = world.shared)
    (rule : request.cacheRule world.shared = .fromCacheOrUrl)
    (served : request.servedData world.shared world.realm = some data) :
    requestData request completion world = completion (some data) none world := by
  unfold requestData requestDataWith dataFromCache
  rw [served]
  simp only [keeps, rule, AwesomeCacheRule.shouldGetFromUrl, Bool.not_true, Bool.false_eq_true,
    ↓reduceIte]

/-- Under `fromCacheOrUrl` a call that serves nothing goes to the URL. -/
theorem requestData_unserved (installed : world.shared.requester = some requester)
    (rule : request.cacheRule world.shared = .fromCacheOrUrl)
    (absent : request.servedData world.shared world.realm = none) :
    requestData request completion world =
      requester.performRequestRetrying request request.retryCount none
        (returnUrlData request completion false) (world.record .fetchStarted) := by
  unfold requestData requestDataWith dataFromCache
  rw [absent]
  simp only [rule, AwesomeCacheRule.shouldGetFromUrl, Bool.not_false, ↓reduceIte, installed]

variable (completion) in
/-- A fetch that reports has its reply passed on, after the start of the fetch. -/
theorem requestData_fetched (installed : world.shared.requester = some requester)
    (rule : request.cacheRule world.shared = .fromCacheOrUrl)
    (absent : request.servedData world.shared world.realm = none) {urlRequest : URLRequest}
    (present : request.urlRequest = some urlRequest) :
    ∃ landed, landed.trace = world.trace ++ [.fetchStarted] ∧
      requestData request completion world =
        completion (request.finalOutcome world request.retryCount).data
          (request.finalOutcome world request.retryCount).error landed := by
  rw [requestData_unserved installed rule absent,
    requester.performRequestRetrying_eq request present]
  unfold returnUrlData
  simp only [World.record_shared, rule, AwesomeCacheRule.shouldReturnUrlData, Bool.not_false,
    ↓reduceIte]
  exact ⟨_, rfl, rfl⟩

/-- A fetch never ends with a parse error. -/
theorem finalOutcome_error_ne_parse (request : AwesomeRequestProtocol) (world : World)
    (retryCount : Int) (description : Option String) :
    (request.finalOutcome world retryCount).error ≠ some (.parse description) := by
  obtain ⟨index, last⟩ :=
    Retry.exists_last request.rejects world.outcomes retryCount.toNat world.tasks
  unfold AwesomeRequestProtocol.finalOutcome
  rw [last]
  exact (world.session index).outcome_error_ne (fun _ => ⟨nofun, nofun, nofun, nofun⟩) nofun

variable (decode failed) in
/-- The error that is told of a reply: a parse error exactly for data that do not decode. -/
theorem decodeReply_noteError (data : Option Data) (error : Option AwesomeError) (world : World) :
    ∃ told, decodeReply decode failed noteError data error world =
        world.record (.delivered none told) ∧
      (∀ description, told = some (.parse description) →
        error = some (.parse description) ∨ ∃ bytes ∈ data, decode.Fails bytes) ∧
      ∀ bytes ∈ data, error = none → decode.Fails bytes →
        ∃ description, told = some (.parse description) := by
  unfold decodeReply
  cases error with
  | some error => exact ⟨some error, rfl, fun _ same => Or.inl same, nofun⟩
  | none =>
      cases data with
      | none => exact ⟨_, rfl, nofun, nofun⟩
      | some data =>
          dsimp only
          cases decoded : decode data with
          | ok generic =>
              refine ⟨none, rfl, nofun, ?_⟩
              rintro _ ⟨⟩ _ ⟨description, rejected⟩
              cases decoded.symm.trans rejected
          | error description =>
              refine ⟨_, rfl, fun _ _ => Or.inr ⟨data, rfl, description, decoded⟩, ?_⟩
              exact fun _ _ _ _ => ⟨some description, rfl⟩

/-- Decoding a reply leaves the configuration alone. -/
theorem decodeReply_keeps (data : Option Data) (error : Option AwesomeError) (world : World) :
    (decodeReply decode failed noteError data error world).shared = world.shared := by
  obtain ⟨told, same, _⟩ := decodeReply_noteError decode failed data error world
  rw [same]
  rfl

variable (decode failed) in
/-- What a call of either form tells of its reply. -/
theorem decodeReply_tellsReplied (installed : world.shared.requester = some requester)
    (rule : request.cacheRule world.shared = .fromCacheOrUrl) :
    ∃ events, (requestData request (decodeReply decode failed noteError) world).trace =
        world.trace ++ events ∧ TellsReplied request decode.Fails world events := by
  cases served : request.servedData world.shared world.realm with
  | some data =>
      obtain ⟨told, same, parses, fails⟩ :=
        decodeReply_noteError decode failed (some data) none world
      rw [requestData_served decodeReply_keeps rule served, same]
      refine ⟨[.delivered none told], rfl, ?_, ?_, ?_⟩
      · rintro ⟨description, member⟩
        cases List.mem_singleton.mp member
        obtain ⟨_, ⟨⟩, rejected⟩ := (parses description rfl).resolve_left nofun
        exact Or.inl ⟨data, served, rejected⟩
      · intro other same
        cases served.symm.trans same
        refine ⟨fun member => ?_, fun rejected => ?_⟩
        · cases List.mem_singleton.mp member
        · obtain ⟨description, rfl⟩ := fails data rfl rfl rejected
          exact ⟨description, List.mem_singleton_self _⟩
      · intro absent
        cases served.symm.trans absent
  | none =>
      cases present : request.urlRequest with
      | none =>
          rw [requestData_unserved installed rule served, AwesomeRequester.performRequestRetrying,
            requester.performRequest_of_none request _ present]
          refine ⟨[.fetchStarted], rfl, ?_, ?_, fun _ => List.mem_singleton_self _⟩
          · rintro ⟨description, member⟩
            cases List.mem_singleton.mp member
          · intro data same
            cases served.symm.trans same
      | some urlRequest =>
          obtain ⟨landed, before, replied⟩ :=
            requestData_fetched (decodeReply decode failed noteError) installed rule served present
          obtain ⟨told, same, parses, _⟩ :=
            decodeReply_noteError decode failed
              (request.finalOutcome world request.retryCount).data
              (request.finalOutcome world request.retryCount).error landed
          rw [replied, same, World.record_trace, before, List.append_assoc]
          refine ⟨_, rfl, ?_, ?_, fun _ => List.mem_cons_self⟩
          · rintro ⟨description, member⟩
            refine Or.inr ⟨served, List.mem_cons_self, ?_⟩
            rcases List.mem_cons.mp member with first | last
            · cases first
            · cases List.mem_singleton.mp last
              exact (parses description rfl).resolve_left
                (finalOutcome_error_ne_parse request world _ description)
          · intro data same
            cases served.symm.trans same

/-- Decoding into an optional fails on the same data. -/
theorem Decoder.fails_map_some {decode : Decoder Value} :
    Decoder.Fails (fun data => (decode data).map some) = decode.Fails := by
  funext data
  refine propext ⟨fun ⟨description, rejected⟩ => ⟨description, ?_⟩,
    fun ⟨description, rejected⟩ => ⟨description, congrArg (Except.map some) rejected⟩⟩
  change (decode data).map some = .error description at rejected
  cases decoded : decode data with
  | ok value =>
      rw [decoded] at rejected
      cases rejected
  | error other =>
      rw [decoded] at rejected
      cases rejected
      rfl

/-- **Parse errors of `requestGeneric`.** Under `fromCacheOrUrl` either form tells of a
parse error only for the data that were replied: the cached bytes, if the request accepts
them, and then without a fetch, and else what the URL gave. -/
theorem requestGeneric_tellsReplied (Value : Type)
    (installed : world.shared.requester = some requester)
    (rule : request.cacheRule world.shared = .fromCacheOrUrl) :
    (∀ decode : Decoder Value, ∃ events,
      (requestGeneric decode request noteError world).trace = world.trace ++ events ∧
        TellsReplied request decode.Fails world events) ∧
    ∀ decode : Decoder (List Value), ∃ events,
      (requestGenericArray decode request noteError world).trace = world.trace ++ events ∧
        TellsReplied request decode.Fails world events := by
  refine ⟨fun decode => ?_, fun decode => decodeReply_tellsReplied decode [] installed rule⟩
  obtain ⟨events, trace, tells⟩ :=
    decodeReply_tellsReplied (fun data => (decode data).map some) none installed rule
  rw [Decoder.fails_map_some] at tells
  exact ⟨events, trace, tells⟩

end Replies

/-- Decodes the bytes `[2]` only. -/
def decodeTwo : Decoder Unit := fun data =>
  if data = [2] then .ok () else .error "The data is not in the correct format."

/-- The same decoder for a list. -/
def decodeTwos : Decoder (List Unit) := fun data => (decodeTwo data).map fun value => [value]

/-- A request for items that is content with anything. -/
def plainRequest : AwesomeRequestProtocol where
  urlString := "https://a.example/items"
  urlRequest := some (URLRequest.request ⟨some "https", some "a.example", "/items", none⟩
    (some .GET) none none 15)

/-- A started library whose cache holds `[1]` for `plainRequest` and whose server answers
with `[2]`. -/
def outdatedWorld : World where
  shared := start false 15 .fromCacheOrUrl .realm
  realm := AwesomeRealmCache.save ⟨"/items?keyHash=GET", some [1]⟩ Realm.empty
  session := fun _ => ⟨some [2], some 200, none⟩
  tasks := 0
  trace := []

/-- Cached bytes that do not decode are a parse error, although the URL has data that do. -/
theorem undecodable_entry_blocks :
    (∃ description, (requestGeneric decodeTwo plainRequest noteError outdatedWorld).trace =
        [.delivered none (some (.parse description))] ∧
      ¬ FallsBack plainRequest decodeTwo.Fails outdatedWorld
        [.delivered none (some (.parse description))]) ∧
    ∃ description, (requestGenericArray decodeTwos plainRequest noteError outdatedWorld).trace =
        [.delivered none (some (.parse description))] ∧
      ¬ FallsBack plainRequest decodeTwos.Fails outdatedWorld
        [.delivered none (some (.parse description))] := by
  constructor
  · refine ⟨some "The data is not in the correct format.", rfl, fun falls => ?_⟩
    have started := falls.passed [1] rfl ⟨_, rfl⟩
    cases List.mem_singleton.mp started
  · refine ⟨some "The data is not in the correct format.", rfl, fun falls => ?_⟩
    have started := falls.passed [1] rfl ⟨_, rfl⟩
    cases List.mem_singleton.mp started

/-- An entry that is accepted but outdated, for both forms. -/
theorem requestGeneric_tellsReplied_outdated :
    (∀ decode : Decoder Unit, ∃ events,
      (requestGeneric decode plainRequest noteError outdatedWorld).trace = [] ++ events ∧
        TellsReplied plainRequest decode.Fails outdatedWorld events) ∧
    ∀ decode : Decoder (List Unit), ∃ events,
      (requestGenericArray decode plainRequest noteError outdatedWorld).trace = [] ++ events ∧
        TellsReplied plainRequest decode.Fails outdatedWorld events :=
  requestGeneric_tellsReplied Unit (rfl : outdatedWorld.shared.requester = some ⟨false⟩) rfl

end AwesomeNetwork
