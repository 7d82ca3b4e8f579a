import AwesomeNetwork.Caching.History

/-! # Which requests share a cache row

A request without a cache key of its own is cached under the key of its URL
request. Of the URL that key holds the path alone, so for requests with the same
method and body the reads of one are isolated from the saves of the other
exactly when the paths differ.
-/

namespace AwesomeNetwork

/-- A request without a cache key of its own whose URL request is the default one,
with the URL it is for. -/
structure ResourceRequest (foundation : Foundation) (shared : Shared) where
  request : AwesomeRequestProtocol
  url : URL
  noCacheKey : request.cacheKey = none
  builds : foundation.urlOfString request.urlString request.queryItems = some url
  isDefault : request.urlRequest = request.defaultUrlRequest foundation shared

/-- A history in which the only saves are those of one request. -/
def OnlySaves (saver : AwesomeRequestProtocol) (operations : List CacheOperation) : Prop :=
  ∀ operation ∈ operations,
    operation = .clearCache ∨ ∃ data, operation = .saveToCache saver data

/-- Nothing that `saver` saves is ever read by `reader`. -/
def Isolated (shared : Shared) (saver reader : AwesomeRequestProtocol) : Prop :=
  ∀ realm, reader.cachedData shared realm = none → ∀ operations, OnlySaves saver operations →
    reader.cachedData shared (CacheOperation.performAll shared realm operations) = none

namespace ResourceRequest

variable {foundation : Foundation} {shared : Shared}

/-- The URL request is built from the URL and the fields of the request. -/
theorem urlRequest_eq (resource : ResourceRequest foundation shared) :
    resource.request.urlRequest =
      some (URLRequest.request resource.url (some resource.request.method) resource.request.body
        resource.request.headers (resource.request.timeout shared)) := by
  rw [resource.isDefault, AwesomeRequestProtocol.defaultUrlRequest, resource.builds]

/-- The request is cached under the key of that URL request. -/
theorem effectiveKey_eq (resource : ResourceRequest foundation shared) :
    resource.request.effectiveKey =
      some (URLRequest.request resource.url (some resource.request.method) resource.request.body
        resource.request.headers (resource.request.timeout shared)).urlCacheKey := by
  rw [AwesomeRequestProtocol.effectiveKey, resource.noCacheKey, resource.urlRequest_eq]
  rfl

/-- For requests with the same method and body the effective keys agree exactly
when the paths of the URLs do. -/
theorem effectiveKey_eq_iff (first second : ResourceRequest foundation shared)
    (sameMethod : first.request.method = second.request.method)
    (sameBody : first.request.body = second.request.body) :
    first.request.effectiveKey = second.request.effectiveKey ↔
      first.url.path = second.url.path := by
  rw [first.effectiveKey_eq, second.effectiveKey_eq, Option.some_inj, sameMethod, sameBody]
  exact URLRequest.urlCacheKey_eq_iff_path _ _ _ _ _ _ _ _

end ResourceRequest

/-- Requests with different keys are isolated. -/
theorem Isolated.of_effectiveKey_ne {shared : Shared} {saver reader : AwesomeRequestProtocol}
    (different : saver.effectiveKey ≠ reader.effectiveKey) : Isolated shared saver reader := by
  intro realm absent operations onlySaves
  rw [reader.cachedData_eq] at absent ⊢
  cases installed : shared.cacheManager with
  | none => rfl
  | some manager =>
      rw [installed, Option.bind_some] at absent
      rw [Option.bind_some]
      cases key : reader.effectiveKey with
      | none => rfl
      | some key =>
          rw [key, Option.bind_some] at absent
          rw [Option.bind_some, CacheOperation.data_performAll]
          apply KeyValue.applyAll_absent absent
          intro value member
          obtain ⟨operation, performed, writes⟩ := List.mem_map.mp member
          rcases onlySaves operation performed with rfl | ⟨data, rfl⟩
          · simp only [CacheOperation.command, installed, reduceCtorEq] at writes
          · cases data with
            | none => simp only [CacheOperation.command, installed, reduceCtorEq] at writes
            | some data =>
                simp only [CacheOperation.command, installed] at writes
                cases written : saver.effectiveKey with
                | none => simp only [written, reduceCtorEq] at writes
                | some other =>
                    simp only [written, KeyValue.Command.put.injEq] at writes
                    exact different (by rw [written, key, writes.1])

/-- A request whose effective key another request shares reads what that one
saves. -/
theorem not_isolated_of_effectiveKey_eq {shared : Shared} {manager : AwesomeCacheManager}
    {saver reader : AwesomeRequestProtocol} {key : String}
    (installed : shared.cacheManager = some manager) (saves : saver.effectiveKey = some key)
    (reads : reader.effectiveKey = some key) : ¬ Isolated shared saver reader := by
  intro isolated
  have absent : reader.cachedData shared Realm.empty = none := by
    rw [reader.cachedData_eq, installed, reads]
    rfl
  have onlySaves : OnlySaves saver [.saveToCache saver (some [])] := by
    intro operation member
    exact Or.inr ⟨some [], List.mem_singleton.mp member⟩
  have leaked := isolated Realm.empty absent _ onlySaves
  have stored : CacheOperation.performAll shared Realm.empty [.saveToCache saver (some [])] =
      AwesomeRealmCache.save ⟨key, some []⟩ Realm.empty := by
    change saver.saveToCache (some []) shared Realm.empty = _
    rw [saver.saveToCache_some, installed, saves]
  rw [reader.cachedData_eq, installed, reads, stored, Option.bind_some, Option.bind_some,
    AwesomeRealmCache.data_save] at leaked
  simp only [↓reduceIte, reduceCtorEq] at leaked

/-- **Isolation between URLs.** Of two requests with the same method and body the
second never reads what the first saves exactly when the paths of their URLs
differ or there is no cache. -/
theorem isolated_iff_path_ne {foundation : Foundation} {shared : Shared}
    (saver reader : ResourceRequest foundation shared)
    (sameMethod : saver.request.method = reader.request.method)
    (sameBody : saver.request.body = reader.request.body) :
    Isolated shared saver.request reader.request ↔
      shared.cacheManager = none ∨ saver.url.path ≠ reader.url.path := by
  have keys := saver.effectiveKey_eq_iff reader sameMethod sameBody
  constructor
  · intro isolated
    cases installed : shared.cacheManager with
    | none => exact Or.inl rfl
    | some manager =>
        right
        intro samePath
        have shares := keys.mpr samePath
        rw [saver.effectiveKey_eq] at shares
        exact not_isolated_of_effectiveKey_eq installed saver.effectiveKey_eq shares.symm isolated
  · rintro (uncached | different)
    · intro realm _ operations _
      rw [AwesomeRequestProtocol.cachedData_eq, uncached]
      rfl
    · exact .of_effectiveKey_ne fun same => different (keys.mp same)

/-- What Foundation makes of a URL string of two hosts; no other string is read. -/
def twoHosts : Foundation where
  urlComponents string :=
    if string = "https://a.example/items" then
      some ⟨some "https", some "a.example", "/items", none⟩
    else if string = "https://b.example/items" then
      some ⟨some "https", some "b.example", "/items", none⟩
    else none
  url components :=
    some ⟨components.scheme, components.host, components.path, components.queryItems⟩

/-- A request for the items of a host. -/
def itemsRequest (host : String) : AwesomeRequestProtocol where
  urlString := "https://" ++ host ++ "/items"
  urlRequest := some (URLRequest.request ⟨some "https", some host, "/items", none⟩ (some .GET)
    none none 15)

/-- The library after `start`. -/
def started : Shared := start false 15 .fromCacheOrUrl .realm

/-- The request for the items of a host, with the URL that its string denotes. -/
def itemsOf (host : String)
    (reads : twoHosts.urlOfString ("https://" ++ host ++ "/items") none =
      some ⟨some "https", some host, "/items", none⟩) : ResourceRequest twoHosts started where
  request := itemsRequest host
  url := ⟨some "https", some host, "/items", none⟩
  noCacheKey := rfl
  builds := reads
  isDefault := by
    rw [AwesomeRequestProtocol.defaultUrlRequest]
    change _ = match twoHosts.urlOfString ("https://" ++ host ++ "/items") none with
      | none => none
      | some url => some (URLRequest.request url (some .GET) none none 15)
    rw [reads]
    rfl

/-- The items of the first host. -/
def itemsOfA : ResourceRequest twoHosts started := itemsOf "a.example" (by decide)

/-- The items of the second host. -/
def itemsOfB : ResourceRequest twoHosts started := itemsOf "b.example" (by decide)

/-- What one host answered is served for the same path on another host. -/
theorem items_leak_across_hosts :
    itemsOfA.request.method = itemsOfB.request.method ∧
      itemsOfA.request.body = itemsOfB.request.body ∧ itemsOfA.url ≠ itemsOfB.url ∧
      itemsOfB.request.cachedData started (CacheOperation.performAll started Realm.empty
        [.saveToCache itemsOfA.request (some [1, 2, 3])]) = some [1, 2, 3] ∧
      ¬ Isolated started itemsOfA.request itemsOfB.request := by
  refine ⟨rfl, rfl, by decide, rfl, ?_⟩
  have same : itemsOfA.request.effectiveKey = itemsOfB.request.effectiveKey :=
    (itemsOfA.effectiveKey_eq_iff itemsOfB rfl rfl).mpr rfl
  exact not_isolated_of_effectiveKey_eq rfl itemsOfA.effectiveKey_eq
    (same.symm.trans itemsOfA.effectiveKey_eq)

/-- Requests for one path of two hosts. -/
theorem isolated_iff_path_ne_hosts :
    Isolated started itemsOfA.request itemsOfB.request ↔
      started.cacheManager = none ∨ itemsOfA.url.path ≠ itemsOfB.url.path :=
  isolated_iff_path_ne itemsOfA itemsOfB rfl rfl

end AwesomeNetwork
