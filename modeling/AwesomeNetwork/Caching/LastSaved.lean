import AwesomeNetwork.Caching.History

/-! # The cache as a map

A request reads back the last data saved under its effective key since the cache was
cleared, whichever request saved it and through whichever overload.
-/

namespace AwesomeNetwork

namespace CacheOperation

/-- The data that an operation is asked to save, with the key. -/
def saves : CacheOperation → Option (String × Data)
  | saveToCache request (some data) => request.effectiveKey.map fun key => (key, data)
  | saveCacheRequest (some data) urlRequest => some (urlRequest.urlCacheKey, data)
  | saveCacheKey (some data) cacheKey => some (cacheKey, data)
  | _ => none

/-- The operation neither clears the cache nor saves anything under the key. -/
def Spares (key : String) (operation : CacheOperation) : Prop :=
  operation ≠ .clearCache ∧ ∀ data, operation.saves ≠ some (key, data)

/-- The data is the last that was saved under the key since the cache was cleared. -/
def LastSaved (key : String) (data : Data) (operations : List CacheOperation) : Prop :=
  ∃ before operation after, operations = before ++ operation :: after ∧
    operation.saves = some (key, data) ∧ ∀ later ∈ after, later.Spares key

variable {shared : Shared} {manager : AwesomeCacheManager} {key : String} {data : Data}
  {operations : List CacheOperation} {operation : CacheOperation}

/-- With a cache, what an operation saves is what it puts. -/
theorem command_eq_put_iff (installed : shared.cacheManager = some manager) :
    operation.command shared = .put key data ↔ operation.saves = some (key, data) := by
  cases operation with
  | saveToCache request saved =>
      cases saved with
      | none => simp only [command, installed, saves, reduceCtorEq]
      | some saved =>
          simp only [command, installed, saves]
          cases request.effectiveKey with
          | none => simp only [Option.map_none, reduceCtorEq]
          | some other =>
              simp only [KeyValue.Command.put.injEq, Option.map_some, Option.some.injEq,
                Prod.mk.injEq]
  | saveCacheRequest saved urlRequest =>
      cases saved with
      | none => simp only [command, installed, saves, reduceCtorEq]
      | some saved =>
          simp only [command, installed, saves, KeyValue.Command.put.injEq, Option.some.injEq,
            Prod.mk.injEq]
  | saveCacheKey saved cacheKey =>
      cases saved with
      | none => simp only [command, installed, saves, reduceCtorEq]
      | some saved =>
          simp only [command, installed, saves, KeyValue.Command.put.injEq, Option.some.injEq,
            Prod.mk.injEq]
  | clearCache => simp only [command, installed, saves, reduceCtorEq]

/-- With a cache manager only `clearCache` clears. -/
theorem command_eq_clear_iff (installed : shared.cacheManager = some manager) :
    operation.command shared = .clear ↔ operation = .clearCache := by
  cases operation with
  | saveToCache request saved =>
      cases saved with
      | none => simp only [command, installed, reduceCtorEq]
      | some saved =>
          simp only [command, installed]
          cases request.effectiveKey <;> simp only [reduceCtorEq]
  | saveCacheRequest saved urlRequest =>
      cases saved <;> simp only [command, installed, reduceCtorEq]
  | saveCacheKey saved cacheKey => cases saved <;> simp only [command, installed, reduceCtorEq]
  | clearCache => simp only [command, installed]

/-- An operation spares a key when its command does not touch it. -/
theorem spares_iff (installed : shared.cacheManager = some manager) :
    operation.Spares key ↔ ¬ (operation.command shared).Touches key := by
  have clears : operation.command shared = .clear ↔ operation = .clearCache :=
    command_eq_clear_iff installed
  have puts (data : Data) :
      operation.command shared = .put key data ↔ operation.saves = some (key, data) :=
    command_eq_put_iff installed
  unfold Spares
  cases amounts : operation.command shared with
  | put other value =>
      rw [amounts] at clears puts
      refine ⟨fun spares same => ?_, fun spares => ⟨fun clear => ?_, fun data saved => ?_⟩⟩
      · cases same
        exact spares.2 value ((puts value).mp rfl)
      · cases clears.mpr clear
      · cases (puts data).mpr saved
        exact spares rfl
  | clear =>
      rw [amounts] at clears
      exact iff_of_false (fun spares => spares.1 (clears.mp rfl)) (fun spares => spares trivial)
  | skip =>
      rw [amounts] at clears puts
      refine iff_of_true ⟨fun clear => ?_, fun data saved => ?_⟩ nofun
      · cases clears.mpr clear
      · cases (puts data).mpr saved

/-- What was saved last under a key is what was put there last. -/
theorem lastSaved_iff (installed : shared.cacheManager = some manager) :
    LastSaved key data operations ↔
      KeyValue.LastPut key data (operations.map (command shared)) := by
  constructor
  · rintro ⟨before, operation, after, rfl, saved, spared⟩
    refine ⟨before.map (command shared), after.map (command shared), ?_, ?_⟩
    · rw [List.map_append, List.map_cons, (command_eq_put_iff installed).mpr saved]
    · rintro _ member
      obtain ⟨later, present, rfl⟩ := List.mem_map.mp member
      exact (spares_iff installed).mp (spared later present)
  · rintro ⟨before, after, split, untouched⟩
    obtain ⟨first, rest, rfl, rfl, remains⟩ := List.map_eq_append_iff.mp split
    obtain ⟨operation, later, rfl, saved, rfl⟩ := List.map_eq_cons_iff.mp remains
    refine ⟨first, operation, later, rfl, (command_eq_put_iff installed).mp saved, ?_⟩
    intro other member
    exact (spares_iff installed).mpr (untouched _ (List.mem_map_of_mem member))

/-- An operation with nothing to save, or with no key to save it under, changes
nothing. -/
theorem perform_of_saves_nothing (realm : Realm) (unsaved : operation.saves = none)
    (kept : operation ≠ .clearCache) : operation.perform shared realm = realm := by
  cases operation with
  | saveToCache request saved =>
      cases saved with
      | none => exact request.saveToCache_none shared realm
      | some saved =>
          rw [perform, request.saveToCache_some]
          rw [saves, Option.map_eq_none_iff] at unsaved
          rw [unsaved]
          cases shared.cacheManager <;> rfl
  | saveCacheRequest saved urlRequest =>
      cases saved with
      | none =>
          unfold perform
          cases shared.cacheManager <;> rfl
      | some saved => cases unsaved
  | saveCacheKey saved cacheKey =>
      cases saved with
      | none =>
          unfold perform
          cases shared.cacheManager <;> rfl
      | some saved => cases unsaved
  | clearCache => exact (kept rfl).elim

end CacheOperation

/-- **The cache refines a map.** After any operations on an empty store a request reads
the last data that was saved under its effective key since the cache was cleared, and
nothing if there is none, or no key, or no cache. Saving nothing, or without a key,
changes nothing. -/
theorem cachedData_iff_lastSaved (shared : Shared) (operations : List CacheOperation)
    (request : AwesomeRequestProtocol) :
    (∀ data, request.cachedData shared (CacheOperation.performAll shared Realm.empty operations) =
        some data ↔
      shared.cacheManager.isSome = true ∧ ∃ key, request.effectiveKey = some key ∧
        CacheOperation.LastSaved key data operations) ∧
    (request.effectiveKey = none ↔ request.cacheKey = none ∧ request.urlRequest = none) ∧
    ∀ (realm : Realm) (operation : CacheOperation), operation ≠ .clearCache →
      operation.saves = none → operation.perform shared realm = realm := by
  refine ⟨fun data => ?_, ?_, fun realm operation kept unsaved =>
    CacheOperation.perform_of_saves_nothing realm unsaved kept⟩
  · rw [request.cachedData_eq]
    cases installed : shared.cacheManager with
    | none => exact iff_of_false nofun nofun
    | some manager =>
        rw [Option.bind_some]
        cases keyed : request.effectiveKey with
        | none => exact iff_of_false nofun nofun
        | some key =>
            rw [Option.bind_some, CacheOperation.data_performAll, KeyValue.applyAll_eq_some_iff,
              ← CacheOperation.lastSaved_iff installed]
            have absent : AwesomeRealmCache.data Realm.empty key = none := rfl
            simp only [absent, reduceCtorEq, and_false, or_false, Option.isSome_some, true_and,
              Option.some.injEq, exists_eq_left']
  · unfold AwesomeRequestProtocol.effectiveKey
    rw [Option.or_eq_none_iff, Option.map_eq_none_iff]

end AwesomeNetwork
