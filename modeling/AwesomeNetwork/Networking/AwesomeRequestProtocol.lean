import AwesomeNetwork.Caching.AwesomeCacheManager
import AwesomeNetwork.Extensions.String

/-! # Requests

A request is the record of its protocol requirements, with the defaults of the
protocol extension. The requirements whose default reads the shared
configuration are getters on it. The queue a request is delivered on is left
out: the runs below allow every scheduling.
-/

namespace AwesomeNetwork

/-- `AwesomeRequester`, as installed by `AwesomeNetwork.start`. -/
structure AwesomeRequester where
  useSemaphore : Bool
deriving DecidableEq, Repr

/-- `AwesomeNetwork.shared`. -/
structure Shared where
  defaultCacheRule : AwesomeCacheRule
  defaultRequestTimeout : TimeInterval
  cacheManager : Option AwesomeCacheManager
  requester : Option AwesomeRequester

/-- `AwesomeNetwork.shared` after `AwesomeNetwork.start`. -/
def start (useSemaphore : Bool) (defaultRequestTimeout : TimeInterval)
    (defaultCacheRule : AwesomeCacheRule) (cacheType : AwesomeCacheType) : Shared where
  defaultCacheRule := defaultCacheRule
  defaultRequestTimeout := defaultRequestTimeout
  cacheManager := some ⟨cacheType⟩
  requester := some ⟨useSemaphore⟩

/-- `AwesomeRequestProtocol`. -/
structure AwesomeRequestProtocol where
  urlString : String
  body : Option Data := none
  queryItems : Option (List URLQueryItem) := none
  headers : Option AwesomeRequesterHeader := none
  timeout : Shared → TimeInterval := fun shared => shared.defaultRequestTimeout
  method : URLMethod := .GET
  urlRequest : Option URLRequest
  cacheRule : Shared → AwesomeCacheRule := fun shared => shared.defaultCacheRule
  retryCount : Int := 0
  cancelPreviousRequest : Bool := false
  cacheKey : Option String := none
  isSuccessResponse : Option Data → Bool := fun response => response.isSome

namespace AwesomeRequestProtocol

/-- The default `urlRequest` of a request. -/
def defaultUrlRequest (foundation : Foundation) (request : AwesomeRequestProtocol)
    (shared : Shared) : Option URLRequest :=
  match foundation.urlOfString request.urlString request.queryItems with
  | none => none
  | some url =>
      some (URLRequest.request url (some request.method) request.body request.headers
        (request.timeout shared))

/-- The data that `dataFromCache` looks up, before the request is asked about it. -/
def cachedData (request : AwesomeRequestProtocol) (shared : Shared) (realm : Realm) :
    Option Data :=
  match request.cacheKey with
  | some cacheKey =>
      shared.cacheManager.bind fun manager => manager.verifyForCacheKey realm cacheKey
  | none =>
      match request.urlRequest with
      | none => none
      | some urlRequest =>
          shared.cacheManager.bind fun manager => manager.verifyForCacheRequest realm urlRequest

/-- `saveToCache(_:)`: under the key of its own, if there is one, else under the key of the
URL request. -/
def saveToCache (request : AwesomeRequestProtocol) (data : Option Data) (shared : Shared)
    (realm : Realm) : Realm :=
  match request.cacheKey with
  | some cacheKey =>
      match shared.cacheManager with
      | some manager => manager.saveCacheKey data cacheKey realm
      | none => realm
  | none =>
      match request.urlRequest with
      | none => realm
      | some urlRequest =>
          match shared.cacheManager with
          | some manager => manager.saveCacheRequest data urlRequest realm
          | none => realm

/-- The key under which a request reads and saves. -/
def effectiveKey (request : AwesomeRequestProtocol) : Option String :=
  request.cacheKey.or (request.urlRequest.map URLRequest.urlCacheKey)

/-- Reading goes through the effective key, whichever overload is taken. -/
theorem cachedData_eq (request : AwesomeRequestProtocol) (shared : Shared) (realm : Realm) :
    request.cachedData shared realm =
      shared.cacheManager.bind fun _ =>
        request.effectiveKey.bind (AwesomeRealmCache.data realm) := by
  unfold cachedData effectiveKey
  cases request.cacheKey with
  | some cacheKey =>
      cases shared.cacheManager with
      | none => rfl
      | some manager => exact manager.verifyForCacheKey_eq realm cacheKey
  | none =>
      cases request.urlRequest with
      | none => cases shared.cacheManager <;> rfl
      | some urlRequest =>
          cases shared.cacheManager with
          | none => rfl
          | some manager => exact manager.verifyForCacheRequest_eq realm urlRequest

/-- Saving goes through the effective key, whichever overload is taken. -/
theorem saveToCache_some (request : AwesomeRequestProtocol) (data : Data) (shared : Shared)
    (realm : Realm) :
    request.saveToCache (some data) shared realm =
      match shared.cacheManager, request.effectiveKey with
      | some _, some key => AwesomeRealmCache.save ⟨key, some data⟩ realm
      | _, _ => realm := by
  unfold saveToCache effectiveKey
  cases request.cacheKey with
  | some cacheKey => cases shared.cacheManager <;> rfl
  | none =>
      cases request.urlRequest with
      | none => cases shared.cacheManager <;> rfl
      | some urlRequest => cases shared.cacheManager <;> rfl

/-- Without data nothing is saved. -/
@[simp] theorem saveToCache_none (request : AwesomeRequestProtocol) (shared : Shared)
    (realm : Realm) : request.saveToCache none shared realm = realm := by
  unfold saveToCache
  cases request.cacheKey with
  | some cacheKey => cases shared.cacheManager <;> rfl
  | none =>
      cases request.urlRequest with
      | none => rfl
      | some urlRequest => cases shared.cacheManager <;> rfl

end AwesomeRequestProtocol

end AwesomeNetwork
