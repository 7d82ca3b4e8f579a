import AwesomeNetwork.Networking.RequestData

/-! # The cache after a failed fetch

The reply of a fetch is saved whatever the request thinks of it: `saveCache` only
looks at whether there is data. A failed fetch therefore leaves the cache alone
when its reply has no data, but not when it is a payload that the request
rejects.
-/

namespace AwesomeNetwork

/-- A fetch has failed: with an error, or with data that the request rejects. -/
def AwesomeRequestProtocol.Failed (request : AwesomeRequestProtocol) (outcome : Outcome) : Prop :=
  outcome.error ≠ none ∨ request.isSuccessResponse outcome.data = false

/-- A call left the cache as it was, for the next call in particular. -/
def AwesomeRequestProtocol.LeavesCache (request : AwesomeRequestProtocol) (before after : World) :
    Prop :=
  after.realm = before.realm ∧ ∀ data,
    request.servedData before.shared before.realm = some data →
      request.servedData after.shared after.realm = some data

/-- The reply has nothing to save: there is no data, there is no cache, or the row
of the request already holds exactly this data. -/
def AwesomeRequestProtocol.NothingToSave (request : AwesomeRequestProtocol) (world : World)
    (data : Option Data) : Prop :=
  data = none ∨ world.shared.cacheManager = none ∨
    ∃ key, request.effectiveKey = some key ∧ world.realm.rows key = some ⟨key, data⟩

variable {request : AwesomeRequestProtocol} {world : World} {requester : AwesomeRequester}

/-- Saving changes nothing exactly when there is nothing to save. -/
theorem saveToCache_eq_self_iff {key : String} (keyed : request.effectiveKey = some key)
    (data : Option Data) :
    request.saveToCache data world.shared world.realm = world.realm ↔
      request.NothingToSave world data := by
  unfold AwesomeRequestProtocol.NothingToSave
  cases data with
  | none => simp only [request.saveToCache_none, true_or]
  | some data =>
      rw [request.saveToCache_some, keyed]
      cases world.shared.cacheManager with
      | none => simp only [true_or, or_true]
      | some manager =>
          simp only [AwesomeRealmCache.save_eq_self_iff, reduceCtorEq, Option.some.injEq,
            exists_eq_left', false_or]

theorem returnUrlData_realm (didReturnCache : Bool) (data : Option Data)
    (error : Option AwesomeError) :
    (returnUrlData request deliver didReturnCache data error world).realm =
      request.saveToCache data world.shared world.realm := by
  unfold returnUrlData
  dsimp only
  split <;> rfl

theorem returnUrlData_shared (didReturnCache : Bool) (data : Option Data)
    (error : Option AwesomeError) :
    (returnUrlData request deliver didReturnCache data error world).shared = world.shared := by
  unfold returnUrlData
  dsimp only
  split <;> rfl

/-- A call that fetches ends with the final outcome being saved and returned. -/
theorem requestData_fetching (installed : world.shared.requester = some requester)
    {urlRequest : URLRequest} (present : request.urlRequest = some urlRequest)
    (fetches : Fetches (request.cacheRule world.shared)
      (request.servedData world.shared world.realm)) :
    requestData request deliver world =
      returnUrlData request deliver (request.servedData world.shared world.realm).isSome
        (request.finalOutcome world request.retryCount).data
        (request.finalOutcome world request.retryCount).error (request.afterFetch world) :=
  (requestDataWith_fetching installed fetches).trans
    ((reportsOnce_performRequestRetrying request world requester present).reports _)

/-- A request with a URL request has a key. -/
theorem effectiveKey_isSome {urlRequest : URLRequest}
    (present : request.urlRequest = some urlRequest) : ∃ key, request.effectiveKey = some key := by
  unfold AwesomeRequestProtocol.effectiveKey
  rw [present]
  cases request.cacheKey with
  | none => exact ⟨_, rfl⟩
  | some key => exact ⟨key, rfl⟩

/-- A call that fetches leaves the cache as it was exactly when its reply has
nothing to save. -/
theorem requestData_leavesCache_iff (installed : world.shared.requester = some requester)
    {urlRequest : URLRequest} (present : request.urlRequest = some urlRequest)
    (fetches : Fetches (request.cacheRule world.shared)
      (request.servedData world.shared world.realm)) :
    request.LeavesCache world (requestData request deliver world) ↔
      request.NothingToSave world (request.finalOutcome world request.retryCount).data := by
  obtain ⟨key, keyed⟩ := effectiveKey_isSome present
  have shared : (requestData request deliver world).shared = world.shared := by
    rw [requestData_fetching installed present fetches, returnUrlData_shared]
    exact beforeFetch_shared request world
  have realm : (requestData request deliver world).realm = request.saveToCache
      (request.finalOutcome world request.retryCount).data world.shared world.realm := by
    rw [requestData_fetching installed present fetches, returnUrlData_realm]
    change request.saveToCache _ (request.beforeFetch world).shared
      (request.beforeFetch world).realm = _
    rw [beforeFetch_shared, beforeFetch_realm]
  rw [← saveToCache_eq_self_iff keyed]
  unfold AwesomeRequestProtocol.LeavesCache
  rw [shared, realm]
  constructor
  · exact And.left
  · intro unchanged
    refine ⟨unchanged, ?_⟩
    rw [unchanged]
    exact fun _ => id

/-- **A failed fetch and the cache.** A call whose fetch failed leaves the cache as
it was exactly when its reply has nothing to save. -/
theorem failed_leavesCache_iff (installed : world.shared.requester = some requester)
    {urlRequest : URLRequest} (present : request.urlRequest = some urlRequest)
    (fetches : Fetches (request.cacheRule world.shared)
      (request.servedData world.shared world.realm))
    (_failed : request.Failed (request.finalOutcome world request.retryCount)) :
    request.LeavesCache world (requestData request deliver world) ↔
      request.NothingToSave world (request.finalOutcome world request.retryCount).data :=
  requestData_leavesCache_iff installed present fetches

/-- A rejected payload replaces the accepted one: the next call is served nothing. -/
theorem rejected_payload_overwrites :
    pickyRequest.Failed (pickyRequest.finalOutcome pickyWorld pickyRequest.retryCount) ∧
      pickyRequest.servedData pickyWorld.shared pickyWorld.realm = some [1] ∧
      pickyRequest.servedData (requestData pickyRequest deliver pickyWorld).shared
        (requestData pickyRequest deliver pickyWorld).realm = none ∧
      ¬ pickyRequest.LeavesCache pickyWorld (requestData pickyRequest deliver pickyWorld) := by
  have before : pickyRequest.servedData pickyWorld.shared pickyWorld.realm = some [1] := rfl
  have after : pickyRequest.servedData (requestData pickyRequest deliver pickyWorld).shared
      (requestData pickyRequest deliver pickyWorld).realm = none := by
    rw [requestData_fetching (rfl : pickyWorld.shared.requester = some ⟨false⟩) rfl (by decide)]
    rfl
  refine ⟨Or.inr rfl, before, after, ?_⟩
  intro leaves
  have kept := leaves.2 [1] before
  rw [after] at kept
  cases kept

/-- The fetch of a payload that the request rejects. -/
theorem failed_leavesCache_iff_picky :
    pickyRequest.LeavesCache pickyWorld (requestData pickyRequest deliver pickyWorld) ↔
      pickyRequest.NothingToSave pickyWorld (some [9]) :=
  failed_leavesCache_iff (rfl : pickyWorld.shared.requester = some ⟨false⟩) rfl (by decide)
    (Or.inr rfl)

end AwesomeNetwork
