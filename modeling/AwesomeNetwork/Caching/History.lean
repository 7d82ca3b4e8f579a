import AwesomeNetwork.Library.KeyValue
import AwesomeNetwork.Networking.AwesomeRequestProtocol

/-! # Histories of cache operations

Every operation of the cache acts on the stored values as one command on a map
from keys to values, so what a request reads after a history is what the map
holds under its effective key.
-/

namespace AwesomeNetwork

/-- `AwesomeNetwork.clearCache()`. -/
def clearCache (shared : Shared) (realm : Realm) : Realm :=
  match shared.cacheManager with
  | some manager => manager.clearCache realm
  | none => realm

/-- An operation that may write to the cache. -/
inductive CacheOperation where
  | saveToCache (request : AwesomeRequestProtocol) (data : Option Data)
  | saveCacheRequest (data : Option Data) (urlRequest : URLRequest)
  | saveCacheKey (data : Option Data) (cacheKey : String)
  | clearCache

namespace CacheOperation

/-- What an operation does to the Realm file. -/
def perform (shared : Shared) (realm : Realm) : CacheOperation → Realm
  | saveToCache request data => request.saveToCache data shared realm
  | saveCacheRequest data urlRequest =>
      match shared.cacheManager with
      | some manager => manager.saveCacheRequest data urlRequest realm
      | none => realm
  | saveCacheKey data cacheKey =>
      match shared.cacheManager with
      | some manager => manager.saveCacheKey data cacheKey realm
      | none => realm
  | clearCache => AwesomeNetwork.clearCache shared realm

/-- Operations, one after the other. -/
def performAll (shared : Shared) (realm : Realm) (operations : List CacheOperation) : Realm :=
  operations.foldl (perform shared) realm

/-- The command on the stored values that an operation amounts to. -/
def command (shared : Shared) (operation : CacheOperation) : KeyValue.Command String Data :=
  match shared.cacheManager, operation with
  | none, _ => .skip
  | some _, saveToCache request (some data) =>
      match request.effectiveKey with
      | some key => .put key data
      | none => .skip
  | some _, saveCacheRequest (some data) urlRequest => .put urlRequest.urlCacheKey data
  | some _, saveCacheKey (some data) cacheKey => .put cacheKey data
  | some _, clearCache => .clear
  | some _, _ => .skip

/-- Saving a row puts its value under its key. -/
private theorem data_save_eq_apply (realm : Realm) (key : String) (value : Data) :
    AwesomeRealmCache.data (AwesomeRealmCache.save ⟨key, some value⟩ realm) =
      KeyValue.apply (AwesomeRealmCache.data realm) (.put key value) := by
  funext other
  rw [AwesomeRealmCache.data_save, KeyValue.apply]
  by_cases same : other = key
  · subst same
    simp only [↓reduceIte, Function.update_self]
  · simp only [same, ↓reduceIte, Function.update_of_ne same]

/-- Without a cache manager no operation does anything. -/
private theorem perform_of_no_manager {shared : Shared} (absent : shared.cacheManager = none)
    (realm : Realm) (operation : CacheOperation) : operation.perform shared realm = realm := by
  cases operation with
  | saveToCache request data =>
      cases data with
      | none => exact request.saveToCache_none shared realm
      | some data => simp only [perform, request.saveToCache_some, absent]
  | saveCacheRequest data urlRequest => simp only [perform, absent]
  | saveCacheKey data cacheKey => simp only [perform, absent]
  | clearCache => simp only [perform, AwesomeNetwork.clearCache, absent]

/-- What is stored goes through the command of the operation. -/
theorem data_perform (shared : Shared) (realm : Realm) (operation : CacheOperation) :
    AwesomeRealmCache.data (operation.perform shared realm) =
      KeyValue.apply (AwesomeRealmCache.data realm) (operation.command shared) := by
  cases installed : shared.cacheManager with
  | none =>
      rw [perform_of_no_manager installed]
      simp only [command, installed, KeyValue.apply]
  | some manager =>
      cases operation with
      | saveToCache request data =>
          cases data with
          | none =>
              rw [perform, request.saveToCache_none]
              simp only [command, installed, KeyValue.apply]
          | some data =>
              simp only [perform, command, request.saveToCache_some, installed]
              cases request.effectiveKey with
              | none => rfl
              | some key => exact data_save_eq_apply realm key data
      | saveCacheRequest data urlRequest =>
          simp only [perform, command, installed]
          cases data with
          | none => rfl
          | some data => exact data_save_eq_apply realm _ data
      | saveCacheKey data cacheKey =>
          simp only [perform, command, installed]
          cases data with
          | none => rfl
          | some data => exact data_save_eq_apply realm _ data
      | clearCache =>
          simp only [perform, command, AwesomeNetwork.clearCache, installed]
          rfl

/-- A history of operations is a history of commands on the stored values. -/
theorem data_performAll (shared : Shared) (realm : Realm) (operations : List CacheOperation) :
    AwesomeRealmCache.data (performAll shared realm operations) =
      KeyValue.applyAll (AwesomeRealmCache.data realm) (operations.map (command shared)) := by
  induction operations generalizing realm with
  | nil => rfl
  | cons operation operations ih =>
      have rest := ih (operation.perform shared realm)
      rw [data_perform] at rest
      exact rest

end CacheOperation

end AwesomeNetwork
