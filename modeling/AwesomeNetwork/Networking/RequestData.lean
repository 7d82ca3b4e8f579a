import AwesomeNetwork.Networking.AwesomeRequester

/-! # Requesting data

`requestData` reads the cache, decides on the fetch and saves what the fetch
returns. The retrying requester is a parameter of the first part, where only
what it reports matters, and the one of the sources in the second.
-/

namespace AwesomeNetwork

/-- The error of a call that may not go to the URL and finds nothing in the cache. -/
def cacheRuleError : AwesomeError :=
  .cacheRule (some
    "Cache rule set to get only from cache, but there was no cache for this URL request.")

/-- The cached value that is returned, if any: the rule reads the cache and the
request accepts what is there. -/
def AwesomeRequestProtocol.servedData (request : AwesomeRequestProtocol) (shared : Shared)
    (realm : Realm) : Option Data :=
  if (request.cacheRule shared).shouldGetFromCache then
    (request.cachedData shared realm).filter fun data => request.isSuccessResponse (some data)
  else none

/-- `AwesomeNetwork.dataFromCache`. -/
def dataFromCache (request : AwesomeRequestProtocol) (completion : AwesomeDataResponse)
    (fetchFromUrl : Bool → Act) : Act := fun world =>
  let (didReturnCache, world) :=
    match request.servedData world.shared world.realm with
    | some data => (true, completion (some data) none world)
    | none => (false, world)
  if (request.cacheRule world.shared).shouldGetFromUrl didReturnCache then
    fetchFromUrl didReturnCache world
  else if !didReturnCache then completion none (some cacheRuleError) world
  else world

/-- A way of performing a request with retries. -/
abbrev RetryingRequester :=
  AwesomeRequester → AwesomeRequestProtocol → Int → AwesomeDataResponse → Act

/-- What `requestData` does with the reply of the fetch. -/
def returnUrlData (request : AwesomeRequestProtocol) (completion : AwesomeDataResponse)
    (didReturnCache : Bool) : AwesomeDataResponse := fun data error world =>
  let world := { world with realm := request.saveToCache data world.shared world.realm }
  if (request.cacheRule world.shared).shouldReturnUrlData didReturnCache then
    completion data error world
  else world

/-- `requestData(with:completion:)` over a retrying requester. -/
def requestDataWith (perform : RetryingRequester) (request : AwesomeRequestProtocol)
    (completion : AwesomeDataResponse) : Act :=
  dataFromCache request completion fun didReturnCache world =>
    match world.shared.requester with
    | none => world
    | some requester =>
        perform requester request request.retryCount
          (returnUrlData request completion didReturnCache) (world.record .fetchStarted)

/-- `AwesomeNetwork.requestData(with:completion:)`. -/
def requestData : AwesomeRequestProtocol → AwesomeDataResponse → Act :=
  requestDataWith fun requester request retryCount completion =>
    requester.performRequestRetrying request retryCount none completion

section Trace

/-- A fetch is called for: by the rule alone, or because nothing was served. -/
def Fetches (rule : AwesomeCacheRule) (served : Option Data) : Prop :=
  rule = .fromURL ∨ rule = .fromCacheAndUrl ∨ rule = .fromCacheOrUrlThenUpdate ∨
    (rule = .fromCacheOrUrl ∧ served = none)

instance (rule : AwesomeCacheRule) (served : Option Data) : Decidable (Fetches rule served) :=
  inferInstanceAs (Decidable (_ ∨ _))

/-- What a call does for its rule, what the cache has for it and the outcome of its fetch:
the cached data first, then the fetch, then the reply. -/
def expectedEvents (rule : AwesomeCacheRule) (served : Option Data) (outcome : Outcome) :
    List Event :=
  (served.toList.map fun data => .delivered (some data) none) ++
    (if Fetches rule served then [.fetchStarted] else []) ++
    (if Fetches rule served ∧ (served = none ∨ rule = .fromCacheAndUrl) then
      [.delivered outcome.data outcome.error] else []) ++
    (if rule = .fromCacheOnly ∧ served = none then [.delivered none (some cacheRuleError)] else [])

/-- Whether the completion of the caller is called. -/
def Event.isDelivery : Event → Bool
  | .delivered _ _ => true
  | .fetchStarted => false

/-- The world in which the fetch begins. -/
def AwesomeRequestProtocol.beforeFetch (request : AwesomeRequestProtocol) (world : World) : World :=
  match request.servedData world.shared world.realm with
  | some data => (deliver (some data) none world).record .fetchStarted
  | none => world.record .fetchStarted

/-- A fetch of a call reports once, in the world `landed`: by then nothing else was
delivered and the rule of the request is what it was. -/
structure ReportsOnce (perform : RetryingRequester) (requester : AwesomeRequester)
    (request : AwesomeRequestProtocol) (world : World) (outcome : Outcome) (landed : World) :
    Prop where
  reports : ∀ completion, perform requester request request.retryCount completion
    (request.beforeFetch world) = completion outcome.data outcome.error landed
  trace_eq : landed.trace = (request.beforeFetch world).trace
  rule_eq : request.cacheRule landed.shared = request.cacheRule world.shared

variable {perform : RetryingRequester} {requester : AwesomeRequester}
  {request : AwesomeRequestProtocol} {world landed : World} {outcome : Outcome}

/-- The code asks for a fetch exactly when one is called for. -/
theorem shouldGetFromUrl_iff (rule : AwesomeCacheRule) (served : Option Data) :
    rule.shouldGetFromUrl served.isSome = true ↔ Fetches rule served := by
  cases rule <;> cases served <;> simp [AwesomeCacheRule.shouldGetFromUrl, Fetches]

/-- The code returns the reply of a fetch exactly when nothing was served or the rule
returns both. -/
theorem shouldReturnUrlData_iff {rule : AwesomeCacheRule} {served : Option Data}
    (fetches : Fetches rule served) (reads : served ≠ none → rule ≠ .fromURL) :
    rule.shouldReturnUrlData served.isSome = true ↔ served = none ∨ rule = .fromCacheAndUrl := by
  cases rule <;> cases served <;> simp [AwesomeCacheRule.shouldReturnUrlData, Fetches] at *

/-- The events of a call that goes to the URL. -/
theorem expectedEvents_fetching {rule : AwesomeCacheRule} {served : Option Data}
    {outcome : Outcome} (fetches : Fetches rule served)
    (reads : served ≠ none → rule ≠ .fromURL) :
    expectedEvents rule served outcome =
      ((served.toList.map fun data => .delivered (some data) none) ++ [.fetchStarted]) ++
        if rule.shouldReturnUrlData served.isSome then [.delivered outcome.data outcome.error]
        else [] := by
  have returns := shouldReturnUrlData_iff fetches reads
  have only : ¬ (rule = .fromCacheOnly ∧ served = none) := by
    rintro ⟨rfl, _⟩
    rcases fetches with same | same | same | ⟨same, _⟩ <;> cases same
  unfold expectedEvents
  rw [if_pos fetches, if_neg only, List.append_nil]
  by_cases returned : rule.shouldReturnUrlData served.isSome = true
  · rw [if_pos returned, if_pos ⟨fetches, returns.mp returned⟩]
  · rw [if_neg returned, if_neg fun expected => returned (returns.mpr expected.2)]

/-- A rule that does not read the cache serves nothing from it. -/
theorem rule_ne_fromURL_of_servedData {shared : Shared} {realm : Realm}
    (served : request.servedData shared realm ≠ none) : request.cacheRule shared ≠ .fromURL := by
  intro fromURL
  unfold AwesomeRequestProtocol.servedData at served
  rw [fromURL] at served
  exact served rfl

/-- A value is served when the rule reads the cache, the cache holds it and the request
accepts it. -/
theorem servedData_eq_some_iff {request : AwesomeRequestProtocol} {shared : Shared} {realm : Realm}
    {data : Data} :
    request.servedData shared realm = some data ↔
      (request.cacheRule shared).shouldGetFromCache = true ∧
        request.cachedData shared realm = some data ∧
        request.isSuccessResponse (some data) = true := by
  unfold AwesomeRequestProtocol.servedData
  split
  · next reads => rw [Option.filter_eq_some_iff, and_iff_right reads]
  · next silent => exact iff_of_false nofun fun served => silent served.1

@[simp] theorem World.record_shared (event : Event) (world : World) :
    (world.record event).shared = world.shared := rfl

@[simp] theorem World.record_trace (event : Event) (world : World) :
    (world.record event).trace = world.trace ++ [event] := rfl

/-- A call that is to fetch hands over to the requester in `beforeFetch`. -/
theorem requestDataWith_fetching (installed : world.shared.requester = some requester)
    (fetches : Fetches (request.cacheRule world.shared)
      (request.servedData world.shared world.realm)) :
    requestDataWith perform request deliver world =
      perform requester request request.retryCount
        (returnUrlData request deliver (request.servedData world.shared world.realm).isSome)
        (request.beforeFetch world) := by
  have asked := (shouldGetFromUrl_iff _ _).mpr fetches
  unfold requestDataWith dataFromCache AwesomeRequestProtocol.beforeFetch
  cases served : request.servedData world.shared world.realm with
  | some data =>
      rw [served, Option.isSome_some] at asked
      simp only [deliver, World.record_shared, asked, ↓reduceIte, installed, Option.isSome_some]
  | none =>
      rw [served, Option.isSome_none] at asked
      simp only [asked, ↓reduceIte, installed, Option.isSome_none]

/-- A call that is not to fetch returns the served value or the rule's error. -/
theorem requestDataWith_not_fetching
    (stays : ¬ Fetches (request.cacheRule world.shared)
      (request.servedData world.shared world.realm)) :
    requestDataWith perform request deliver world =
      match request.servedData world.shared world.realm with
      | some data => world.record (.delivered (some data) none)
      | none => world.record (.delivered none (some cacheRuleError)) := by
  rw [← shouldGetFromUrl_iff] at stays
  unfold requestDataWith dataFromCache
  cases served : request.servedData world.shared world.realm with
  | some data =>
      rw [served, Option.isSome_some] at stays
      simp only [deliver, World.record_shared, stays, Bool.false_eq_true, ↓reduceIte, Bool.not_true]
  | none =>
      rw [served, Option.isSome_none] at stays
      simp only [deliver, stays, Bool.false_eq_true, ↓reduceIte, Bool.not_false]

/-- Before the fetch, the cached data is delivered. -/
theorem beforeFetch_trace (request : AwesomeRequestProtocol) (world : World) :
    (request.beforeFetch world).trace = world.trace ++
      (((request.servedData world.shared world.realm).toList.map fun data =>
        Event.delivered (some data) none) ++ [.fetchStarted]) := by
  unfold AwesomeRequestProtocol.beforeFetch
  cases request.servedData world.shared world.realm with
  | some data =>
      simp only [deliver, World.record_trace, Option.toList_some, List.map_cons, List.map_nil,
        List.append_assoc]
  | none => rfl

/-- The trace of a call whose requester reports once. -/
theorem requestDataWith_trace (installed : world.shared.requester = some requester)
    (once : ReportsOnce perform requester request world outcome landed) :
    (requestDataWith perform request deliver world).trace = world.trace ++
      expectedEvents (request.cacheRule world.shared)
        (request.servedData world.shared world.realm) outcome := by
  by_cases fetches : Fetches (request.cacheRule world.shared)
      (request.servedData world.shared world.realm)
  · rw [requestDataWith_fetching installed fetches, once.reports]
    unfold returnUrlData
    simp only [once.rule_eq]
    rw [expectedEvents_fetching fetches rule_ne_fromURL_of_servedData, ← List.append_assoc]
    have before := once.trace_eq.trans (beforeFetch_trace request world)
    split
    · simp only [deliver, World.record_trace, before]
    · simp only [before, List.append_nil]
  · rw [requestDataWith_not_fetching fetches]
    unfold expectedEvents
    rw [if_neg fetches]
    simp only [fetches, false_and, ↓reduceIte, List.append_nil]
    cases served : request.servedData world.shared world.realm with
    | some data =>
        simp only [World.record_trace, Option.toList_some, List.map_cons, List.map_nil,
          reduceCtorEq, and_false, ↓reduceIte, List.append_nil]
    | none =>
        rw [served] at fetches
        cases rule : request.cacheRule world.shared <;> simp [rule, Fetches] at fetches ⊢

/-- A call is answered once, or twice with `fromCacheAndUrl` and cached data. -/
theorem deliveries_expectedEvents (rule : AwesomeCacheRule) (served : Option Data)
    (outcome : Outcome) :
    (expectedEvents rule served outcome).countP Event.isDelivery =
      if rule = .fromCacheAndUrl ∧ served.isSome then 2 else 1 := by
  cases rule <;> cases served <;> simp [expectedEvents, Fetches] <;> rfl

/-- **Deliveries of a call.** Whatever the requester reports, a call is observed
doing exactly what its rule and the served value call for, which is the value that the cache
holds when the rule reads it and the request accepts it; its completion runs once, and twice
only when `fromCacheAndUrl` serves a cached value first. -/
theorem requestDataWith_deliveries (installed : world.shared.requester = some requester)
    (once : ReportsOnce perform requester request world outcome landed) {served : Option Data}
    (serves : ∀ data, served = some data ↔
      (request.cacheRule world.shared).shouldGetFromCache = true ∧
        request.cachedData world.shared world.realm = some data ∧
        request.isSuccessResponse (some data) = true) :
    (requestDataWith perform request deliver world).trace = world.trace ++
        expectedEvents (request.cacheRule world.shared) served outcome ∧
      (requestDataWith perform request deliver world).trace.countP Event.isDelivery =
        world.trace.countP Event.isDelivery +
          if request.cacheRule world.shared = .fromCacheAndUrl ∧ served.isSome then 2 else 1 := by
  have same : served = request.servedData world.shared world.realm :=
    Option.ext fun data => (serves data).trans servedData_eq_some_iff.symm
  have trace := requestDataWith_trace installed once
  rw [← same] at trace
  refine ⟨trace, ?_⟩
  rw [trace, List.countP_append, deliveries_expectedEvents]

end Trace

section Retrying

variable (request : AwesomeRequestProtocol) (world : World)

@[simp] theorem beforeFetch_shared : (request.beforeFetch world).shared = world.shared := by
  unfold AwesomeRequestProtocol.beforeFetch
  cases request.servedData world.shared world.realm <;> rfl

@[simp] theorem beforeFetch_realm : (request.beforeFetch world).realm = world.realm := by
  unfold AwesomeRequestProtocol.beforeFetch
  cases request.servedData world.shared world.realm <;> rfl

/-- What was delivered before does not change how the fetch ends. -/
theorem finalOutcome_beforeFetch (retryCount : Int) :
    request.finalOutcome (request.beforeFetch world) retryCount =
      request.finalOutcome world retryCount := by
  unfold AwesomeRequestProtocol.beforeFetch
  cases request.servedData world.shared world.realm <;> rfl

/-- The world in which the fetch has ended. -/
def AwesomeRequestProtocol.afterFetch (request : AwesomeRequestProtocol) (world : World) : World :=
  { request.beforeFetch world with
    tasks := (request.beforeFetch world).tasks +
      (request.attempts (request.beforeFetch world) request.retryCount).length }

/-- The requester of the sources reports once for a request with a URL. -/
theorem reportsOnce_performRequestRetrying (requester : AwesomeRequester)
    {urlRequest : URLRequest} (present : request.urlRequest = some urlRequest) :
    ReportsOnce
      (fun requester request retryCount completion =>
        requester.performRequestRetrying request retryCount none completion)
      requester request world (request.finalOutcome world request.retryCount)
      (request.afterFetch world) where
  reports completion := by
    rw [requester.performRequestRetrying_eq request present, finalOutcome_beforeFetch]
    rfl
  trace_eq := rfl
  rule_eq := congrArg request.cacheRule (beforeFetch_shared request world)

/-- The trace of a call of the library with a URL. -/
theorem requestData_trace {request : AwesomeRequestProtocol} {world : World}
    {requester : AwesomeRequester} (installed : world.shared.requester = some requester)
    {urlRequest : URLRequest} (present : request.urlRequest = some urlRequest) :
    (requestData request deliver world).trace = world.trace ++
      expectedEvents (request.cacheRule world.shared)
        (request.servedData world.shared world.realm)
        (request.finalOutcome world request.retryCount) :=
  requestDataWith_trace installed
    (reportsOnce_performRequestRetrying request world requester present)

/-- The trace of a call that does not go to the URL. -/
theorem requestData_trace_not_fetching {request : AwesomeRequestProtocol} {world : World}
    (stays : ¬ Fetches (request.cacheRule world.shared)
      (request.servedData world.shared world.realm)) :
    (requestData request deliver world).trace = world.trace ++
      match request.servedData world.shared world.realm with
      | some data => [.delivered (some data) none]
      | none => [.delivered none (some cacheRuleError)] := by
  unfold requestData
  rw [requestDataWith_not_fetching stays]
  split <;> rfl

/-- A call of the sources whose request has no URL stops where it is to fetch. -/
theorem requestData_of_no_url {request : AwesomeRequestProtocol} {world : World}
    {requester : AwesomeRequester} (installed : world.shared.requester = some requester)
    (absent : request.urlRequest = none)
    (fetches : Fetches (request.cacheRule world.shared)
      (request.servedData world.shared world.realm)) :
    requestData request deliver world = request.beforeFetch world := by
  unfold requestData
  rw [requestDataWith_fetching installed fetches, AwesomeRequester.performRequestRetrying,
    requester.performRequest_of_none request _ absent]
  rfl

end Retrying

/-- A request for two items that accepts only the bytes `[1]` and is retried once. -/
def pickyRequest : AwesomeRequestProtocol where
  urlString := "https://a.example/items"
  urlRequest := some (URLRequest.request ⟨some "https", some "a.example", "/items", none⟩
    (some .GET) none none 15)
  cacheRule := fun _ => .fromCacheAndUrl
  retryCount := 1
  isSuccessResponse := fun response => response = some [1]

/-- A started library whose cache holds `[1]` for `pickyRequest` and whose server
answers every task with `[9]`. -/
def pickyWorld : World where
  shared := start false 15 .fromCacheOrUrl .realm
  realm := AwesomeRealmCache.save ⟨"/items?keyHash=GET", some [1]⟩ Realm.empty
  session := fun _ => ⟨some [9], some 200, none⟩
  tasks := 0
  trace := []

/-- The cached value is delivered first, and then what the server answers. -/
theorem requestDataWith_deliveries_picky :
    (requestData pickyRequest deliver pickyWorld).trace =
        [.delivered (some [1]) none, .fetchStarted, .delivered (some [9]) none] ∧
      (requestData pickyRequest deliver pickyWorld).trace.countP Event.isDelivery = 2 := by
  have cached : pickyRequest.cachedData pickyWorld.shared pickyWorld.realm = some [1] := rfl
  refine requestDataWith_deliveries (rfl : pickyWorld.shared.requester = some ⟨false⟩)
    (reportsOnce_performRequestRetrying pickyRequest pickyWorld ⟨false⟩ rfl)
    (fun data => ⟨fun same => ?_, fun served => cached.symm.trans served.2.1⟩)
  cases same
  exact ⟨rfl, cached, rfl⟩

end AwesomeNetwork
