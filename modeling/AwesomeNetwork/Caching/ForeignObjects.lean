import AwesomeNetwork.Caching.History

/-! # Objects of the host application

The cache rows live in the default Realm next to the objects of the application. Saves
and lookups touch rows of the cache alone; clearing the cache deletes every object of
every type.
-/

namespace AwesomeNetwork

/-- What an application does with the cache: it changes it, or looks something up in it
through a request or through one of the overloads of `verifyForCache`. -/
inductive CacheAccess where
  | operation (operation : CacheOperation)
  | cachedData (request : AwesomeRequestProtocol)
  | verifyForCacheRequest (urlRequest : URLRequest)
  | verifyForCacheKey (cacheKey : String)

namespace CacheAccess

/-- The data that a lookup returns. -/
def result (shared : Shared) (realm : Realm) : CacheAccess → Option Data
  | operation _ => none
  | cachedData request => request.cachedData shared realm
  | verifyForCacheRequest urlRequest =>
      shared.cacheManager.bind fun manager => manager.verifyForCacheRequest realm urlRequest
  | verifyForCacheKey cacheKey =>
      shared.cacheManager.bind fun manager => manager.verifyForCacheKey realm cacheKey

/-- The database after an access, and what it returned. -/
def perform (shared : Shared) (realm : Realm) : CacheAccess → Realm × Option Data
  | operation change => (change.perform shared realm, none)
  | lookup => (realm, lookup.result shared realm)

/-- Accesses, one after the other. -/
def performAll (shared : Shared) (realm : Realm) (accesses : List CacheAccess) : Realm :=
  accesses.foldl (fun realm access => (access.perform shared realm).1) realm

end CacheAccess

variable {shared : Shared} {realm : Realm}

/-- A save keeps the objects of the application. -/
theorem otherObjects_saveToCache (request : AwesomeRequestProtocol) (data : Option Data) :
    (request.saveToCache data shared realm).otherObjects = realm.otherObjects := by
  cases data with
  | none => rw [request.saveToCache_none]
  | some data =>
      rw [request.saveToCache_some]
      cases shared.cacheManager with
      | none => rfl
      | some manager => cases request.effectiveKey <;> rfl

namespace CacheOperation

/-- Only clearing the cache touches the objects of the application. -/
theorem otherObjects_perform (operation : CacheOperation) (kept : operation ≠ .clearCache) :
    (operation.perform shared realm).otherObjects = realm.otherObjects := by
  cases operation with
  | saveToCache request data => exact otherObjects_saveToCache request data
  | saveCacheRequest data urlRequest =>
      unfold perform
      cases shared.cacheManager with
      | none => rfl
      | some manager => cases data <;> rfl
  | saveCacheKey data cacheKey =>
      unfold perform
      cases shared.cacheManager with
      | none => rfl
      | some manager => cases data <;> rfl
  | clearCache => exact (kept rfl).elim

/-- Without a cache no operation does anything to the objects of other types. -/
theorem otherObjects_perform_uncached (absent : shared.cacheManager = none)
    (operation : CacheOperation) :
    (operation.perform shared realm).otherObjects = realm.otherObjects := by
  by_cases clears : operation = .clearCache
  · subst clears
    simp only [perform, AwesomeNetwork.clearCache, absent]
  · exact otherObjects_perform operation clears

/-- Clearing the cache leaves no object of the application. -/
theorem otherObjects_clearCache {manager : AwesomeCacheManager}
    (installed : shared.cacheManager = some manager) :
    (CacheOperation.clearCache.perform shared realm).otherObjects = [] := by
  simp only [perform, AwesomeNetwork.clearCache, installed]
  rfl

end CacheOperation

namespace CacheAccess

variable {accesses : List CacheAccess}

/-- An access that does not clear the cache keeps the objects. -/
theorem otherObjects_perform_of_ne (access : CacheAccess)
    (kept : access ≠ .operation .clearCache) :
    (access.perform shared realm).1.otherObjects = realm.otherObjects := by
  cases access with
  | operation operation =>
      refine operation.otherObjects_perform fun clears => ?_
      subst clears
      exact kept rfl
  | cachedData request => rfl
  | verifyForCacheRequest urlRequest => rfl
  | verifyForCacheKey cacheKey => rfl

/-- No access brings an object back. -/
theorem otherObjects_perform_nil (access : CacheAccess) (none : realm.otherObjects = []) :
    (access.perform shared realm).1.otherObjects = [] := by
  by_cases clears : access = .operation .clearCache
  · subst clears
    cases installed : shared.cacheManager with
    | none => exact (CacheOperation.otherObjects_perform_uncached installed _).trans none
    | some manager => exact CacheOperation.otherObjects_clearCache installed
  · exact (otherObjects_perform_of_ne access clears).trans none

/-- Where the application has no objects, it has none afterwards. -/
theorem otherObjects_performAll_nil (none : realm.otherObjects = []) :
    (performAll shared realm accesses).otherObjects = [] := by
  induction accesses generalizing realm with
  | nil => exact none
  | cons access accesses ih => exact ih (otherObjects_perform_nil access none)

/-- Accesses keep the objects of other types when none of them clears the cache. -/
theorem otherObjects_performAll (kept : .operation .clearCache ∉ accesses) :
    (performAll shared realm accesses).otherObjects = realm.otherObjects := by
  induction accesses generalizing realm with
  | nil => rfl
  | cons access accesses ih =>
      rw [List.mem_cons, not_or] at kept
      exact (ih kept.2).trans (otherObjects_perform_of_ne access (Ne.symm kept.1))

/-- Without a cache manager every access keeps the objects. -/
theorem otherObjects_performAll_uncached (absent : shared.cacheManager = none) :
    (performAll shared realm accesses).otherObjects = realm.otherObjects := by
  induction accesses generalizing realm with
  | nil => rfl
  | cons access accesses ih =>
      refine ih.trans ?_
      by_cases clears : access = .operation .clearCache
      · subst clears
        exact CacheOperation.otherObjects_perform_uncached absent _
      · exact otherObjects_perform_of_ne access clears

/-- Clearing the cache leaves no object of another type. -/
theorem otherObjects_performAll_cleared {manager : AwesomeCacheManager}
    (installed : shared.cacheManager = some manager)
    (clears : .operation .clearCache ∈ accesses) :
    (performAll shared realm accesses).otherObjects = [] := by
  obtain ⟨before, after, rfl⟩ := List.mem_iff_append.mp clears
  have split : performAll shared realm (before ++ .operation .clearCache :: after) =
      performAll shared (performAll shared (performAll shared realm before)
        [.operation .clearCache]) after := by
    unfold performAll
    rw [List.foldl_append]
    rfl
  rw [split]
  exact otherObjects_performAll_nil (CacheOperation.otherObjects_clearCache installed)

/-- **Objects of other types.** Any accesses to the cache leave them unchanged exactly
when there are none, there is no cache, or none of the accesses clears the cache. -/
theorem otherObjects_performAll_iff (shared : Shared) (realm : Realm)
    (accesses : List CacheAccess) :
    (performAll shared realm accesses).otherObjects = realm.otherObjects ↔
      realm.otherObjects = [] ∨ shared.cacheManager = none ∨
        .operation .clearCache ∉ accesses := by
  constructor
  · intro unchanged
    by_contra loses
    rw [not_or, not_or, not_not] at loses
    obtain ⟨foreign, cached, clears⟩ := loses
    obtain ⟨manager, installed⟩ := Option.ne_none_iff_exists'.mp cached
    exact foreign (unchanged.symm.trans (otherObjects_performAll_cleared installed clears))
  · rintro (none | uncached | kept)
    · rw [none]
      exact otherObjects_performAll_nil none
    · exact otherObjects_performAll_uncached uncached
    · exact otherObjects_performAll kept

/-- A database that holds a note of the application. -/
def notesRealm : Realm := { Realm.empty with otherObjects := [⟨"Note", [1, 2, 3]⟩] }

/-- Clearing the cache deletes the note. -/
theorem clearCache_deletes_note :
    ∃ realm accesses, (performAll (start false 15 .fromCacheOrUrl .realm) realm
      accesses).otherObjects ≠ realm.otherObjects :=
  ⟨notesRealm, [.operation .clearCache], nofun⟩

end CacheAccess

end AwesomeNetwork
