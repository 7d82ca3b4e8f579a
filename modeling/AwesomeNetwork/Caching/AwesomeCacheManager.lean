import AwesomeNetwork.Caching.AwesomeRealmCache
import AwesomeNetwork.Extensions.URLRequest

/-! # Cache rules and the cache manager -/

namespace AwesomeNetwork

/-- `AwesomeCacheType`. -/
inductive AwesomeCacheType where
  | urlCache
  | realm
deriving DecidableEq, Repr

/-- `AwesomeCacheRule`. -/
inductive AwesomeCacheRule where
  | fromCacheOnly
  | fromCacheOrUrl
  | fromCacheOrUrlThenUpdate
  | fromCacheAndUrl
  | fromURL
deriving DecidableEq, Repr

namespace AwesomeCacheRule

/-- `shouldGetFromCache`. -/
def shouldGetFromCache : AwesomeCacheRule → Bool
  | .fromCacheOnly | .fromCacheOrUrl | .fromCacheAndUrl | .fromCacheOrUrlThenUpdate => true
  | _ => false

/-- `shouldGetFromUrl(didReturnCache:)`. -/
def shouldGetFromUrl : AwesomeCacheRule → Bool → Bool
  | .fromCacheOrUrl, didReturnCache => !didReturnCache
  | .fromURL, _ | .fromCacheAndUrl, _ | .fromCacheOrUrlThenUpdate, _ => true
  | _, _ => false

/-- `shouldReturnUrlData(didReturnCache:)`. -/
def shouldReturnUrlData : AwesomeCacheRule → Bool → Bool
  | .fromCacheOnly, _ => false
  | .fromCacheAndUrl, _ | .fromURL, _ => true
  | _, didReturnCache => !didReturnCache

end AwesomeCacheRule

/-- The manager; both cache types keep their data in Realm. -/
structure AwesomeCacheManager where
  cacheType : AwesomeCacheType
deriving DecidableEq, Repr

namespace AwesomeCacheManager

/-- `clearCache()`. -/
def clearCache (_ : AwesomeCacheManager) (realm : Realm) : Realm :=
  AwesomeRealmCache.clearDatabase realm

/-- `cache(_:forKey:)`. -/
def cache (_ : AwesomeCacheManager) (data : Data) (key : String) (realm : Realm) : Realm :=
  AwesomeRealmCache.save ⟨key, some data⟩ realm

/-- `data(forKey:)`. -/
def data (_ : AwesomeCacheManager) (realm : Realm) (key : String) : Option Data :=
  AwesomeRealmCache.data realm key

/-- `verifyForCache(with: URLRequest)`. -/
def verifyForCacheRequest (manager : AwesomeCacheManager) (realm : Realm)
    (urlRequest : URLRequest) : Option Data :=
  match manager.data realm urlRequest.urlCacheKey with
  | some data => some data
  | none => none

/-- `saveCache(_:with: URLRequest)`. -/
def saveCacheRequest (manager : AwesomeCacheManager) (data : Option Data)
    (urlRequest : URLRequest) (realm : Realm) : Realm :=
  match data with
  | some data => manager.cache data urlRequest.urlCacheKey realm
  | none => realm

/-- `verifyForCache(with: String)`. -/
def verifyForCacheKey (manager : AwesomeCacheManager) (realm : Realm) (cacheKey : String) :
    Option Data :=
  match manager.data realm cacheKey with
  | some data => some data
  | none => none

/-- `saveCache(_:with: String)`. -/
def saveCacheKey (manager : AwesomeCacheManager) (data : Option Data) (cacheKey : String)
    (realm : Realm) : Realm :=
  match data with
  | some data => manager.cache data cacheKey realm
  | none => realm

/-- The data of a request is the row under its key. -/
theorem verifyForCacheRequest_eq (manager : AwesomeCacheManager) (realm : Realm)
    (urlRequest : URLRequest) :
    manager.verifyForCacheRequest realm urlRequest =
      AwesomeRealmCache.data realm urlRequest.urlCacheKey := by
  unfold verifyForCacheRequest data
  split
  · next present => exact present.symm
  · next absent => exact absent.symm

/-- The data of a key is the row under it. -/
theorem verifyForCacheKey_eq (manager : AwesomeCacheManager) (realm : Realm) (cacheKey : String) :
    manager.verifyForCacheKey realm cacheKey = AwesomeRealmCache.data realm cacheKey := by
  unfold verifyForCacheKey data
  split
  · next present => exact present.symm
  · next absent => exact absent.symm

end AwesomeCacheManager

end AwesomeNetwork
