import AwesomeNetwork.Caching.Isolation
import AwesomeNetwork.Extensions.UrlCacheKey

/-! # Which bodies share a cache row

The key of a request holds the text of its body. Bodies that are valid UTF-8 have texts of
their own, and all others have none, like a request without a body.
-/

namespace AwesomeNetwork

namespace ResourceRequest

variable {foundation : Foundation} {shared : Shared}

/-- The key of a request. -/
def urlCacheKey (resource : ResourceRequest foundation shared) : String :=
  (URLRequest.request resource.url (some resource.request.method) resource.request.body
    resource.request.headers (resource.request.timeout shared)).urlCacheKey

/-- The key of the same request without a body. -/
def urlCacheKeyWithoutBody (resource : ResourceRequest foundation shared) : String :=
  (URLRequest.request resource.url (some resource.request.method) none resource.request.headers
    (resource.request.timeout shared)).urlCacheKey

/-- The keys of two requests differ from each other and from those without a body, and
neither request reads what the other one saves. -/
structure BodiesIsolated (first second : ResourceRequest foundation shared) : Prop where
  keys : first.urlCacheKey ≠ second.urlCacheKey
  withoutBody : first.urlCacheKey ≠ first.urlCacheKeyWithoutBody ∧
    second.urlCacheKey ≠ second.urlCacheKeyWithoutBody
  responses : Isolated shared first.request second.request ∧
    Isolated shared second.request first.request

variable {first second resource : ResourceRequest foundation shared} {body body' : Data}

/-- With the same URL and method, the texts of the bodies decide about the keys. -/
theorem urlCacheKey_eq_iff_body (sameUrl : first.url = second.url)
    (sameMethod : first.request.method = second.request.method) :
    first.urlCacheKey = second.urlCacheKey ↔
      URLRequest.bodyText first.request.body = URLRequest.bodyText second.request.body := by
  unfold urlCacheKey
  rw [sameUrl, sameMethod]
  exact URLRequest.urlCacheKey_eq_iff_bodyText ..

/-- A body shows in the key when it is valid UTF-8. -/
theorem urlCacheKey_ne_withoutBody_iff (given : resource.request.body = some body)
    (filled : body ≠ []) :
    resource.urlCacheKey ≠ resource.urlCacheKeyWithoutBody ↔ (utf8String body).isSome = true := by
  unfold urlCacheKey urlCacheKeyWithoutBody
  rw [Ne, URLRequest.urlCacheKey_eq_iff_bodyText, given]
  exact URLRequest.bodyText_ne_empty_iff filled

/-- Requests with different keys do not read what the other one saves. -/
theorem isolated_of_urlCacheKey_ne (different : first.urlCacheKey ≠ second.urlCacheKey) :
    Isolated shared first.request second.request := by
  apply Isolated.of_effectiveKey_ne
  rw [first.effectiveKey_eq, second.effectiveKey_eq]
  exact fun same => different (Option.some.inj same)

/-- **Isolation between bodies.** Of two requests that differ in their bodies only, and have
some, the cache keeps the responses apart exactly when both bodies are valid UTF-8. -/
theorem bodiesIsolated_iff (sameUrl : first.url = second.url)
    (sameMethod : first.request.method = second.request.method)
    (given : first.request.body = some body) (given' : second.request.body = some body')
    (filled : body ≠ []) (filled' : body' ≠ []) (different : body ≠ body') :
    first.BodiesIsolated second ↔
      (utf8String body).isSome = true ∧ (utf8String body').isSome = true := by
  have shown := urlCacheKey_ne_withoutBody_iff given filled
  have shown' := urlCacheKey_ne_withoutBody_iff given' filled'
  constructor
  · intro isolated
    exact ⟨shown.mp isolated.withoutBody.1, shown'.mp isolated.withoutBody.2⟩
  · rintro ⟨valid, valid'⟩
    have keys : first.urlCacheKey ≠ second.urlCacheKey := by
      rw [Ne, urlCacheKey_eq_iff_body sameUrl sameMethod, given, given']
      exact URLRequest.bodyText_ne valid valid' different
    exact ⟨keys, ⟨shown.mpr valid, shown'.mpr valid'⟩, isolated_of_urlCacheKey_ne keys,
      isolated_of_urlCacheKey_ne keys.symm⟩

end ResourceRequest

/-- A search posted to one URL with the given body. -/
def searchOf (body : Data) : ResourceRequest twoHosts started where
  request := {
    urlString := "https://a.example/items"
    body := some body
    method := .POST
    urlRequest := some (URLRequest.request ⟨some "https", some "a.example", "/items", none⟩
      (some .POST) (some body) none 15) }
  url := ⟨some "https", some "a.example", "/items", none⟩
  noCacheKey := rfl
  builds := rfl
  isDefault := rfl

/-- The response for one binary body is served for another one. -/
theorem binary_bodies_share_response :
    (searchOf [0xff]).urlCacheKey = (searchOf [0xfe]).urlCacheKey ∧
      (searchOf [0xfe]).request.cachedData started (CacheOperation.performAll started Realm.empty
        [.saveToCache (searchOf [0xff]).request (some [1, 2, 3])]) = some [1, 2, 3] ∧
      ¬ (searchOf [0xff]).BodiesIsolated (searchOf [0xfe]) := by
  have same : (searchOf [0xff]).urlCacheKey = (searchOf [0xfe]).urlCacheKey := by decide
  exact ⟨same, by decide, fun isolated => isolated.keys same⟩

/-- Two bodies that are texts. -/
theorem bodiesIsolated_iff_texts :
    (searchOf [0x61]).BodiesIsolated (searchOf [0x62]) ↔
      (utf8String [0x61]).isSome = true ∧ (utf8String [0x62]).isSome = true :=
  ResourceRequest.bodiesIsolated_iff rfl rfl rfl rfl (by decide) (by decide) (by decide)

end AwesomeNetwork
