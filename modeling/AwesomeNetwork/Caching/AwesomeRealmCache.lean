import AwesomeNetwork.Foundation
import Mathlib.Logic.Function.Basic

/-! # The cache rows in the default Realm

A Realm file holds the cache rows, at most one for each primary key, next to
whatever objects the host application stores in the same file. Opening the file
and writing to it are taken to succeed.
-/

namespace AwesomeNetwork

/-- A row of the cache; `key` is the primary key. -/
structure AwesomeRealmCache where
  key : String
  value : Option Data
deriving DecidableEq, Repr

/-- An object of another type of the host application. -/
structure RealmObject where
  className : String
  contents : Data
deriving DecidableEq, Repr

/-- The default Realm. -/
structure Realm where
  rows : String → Option AwesomeRealmCache
  otherObjects : List RealmObject

namespace Realm

/-- A Realm file without objects. -/
def empty : Realm where
  rows := fun _ => none
  otherObjects := []

/-- `realm.add(_:update: true)`: an upsert on the primary key. -/
def add (realm : Realm) (row : AwesomeRealmCache) : Realm :=
  { realm with rows := Function.update realm.rows row.key (some row) }

/-- `realm.object(ofType: AwesomeRealmCache.self, forPrimaryKey:)`. -/
def object (realm : Realm) (key : String) : Option AwesomeRealmCache := realm.rows key

/-- `realm.deleteAll()`: every object of every type. -/
def deleteAll (_ : Realm) : Realm := empty

end Realm

namespace AwesomeRealmCache

/-- `AwesomeRealmCache.clearDatabase()`, which deletes every object of the file. -/
def clearDatabase (realm : Realm) : Realm := realm.deleteAll

/-- `save()`. -/
def save (row : AwesomeRealmCache) (realm : Realm) : Realm := realm.add row

/-- `AwesomeRealmCache.object(forKey:)`. -/
def object (realm : Realm) (key : String) : Option AwesomeRealmCache := realm.object key

/-- `AwesomeRealmCache.data(forKey:)`. -/
def data (realm : Realm) (key : String) : Option Data :=
  (object realm key).bind AwesomeRealmCache.value

/-- A row that is saved is found under its key, and no other key is touched. -/
@[simp] theorem data_save (realm : Realm) (key other : String) (value : Data) :
    data (save ⟨key, some value⟩ realm) other =
      if other = key then some value else data realm other := by
  unfold data object save Realm.object Realm.add
  by_cases same : other = key
  · subst same
    simp only [Function.update_self, Option.bind_some, ↓reduceIte]
  · simp only [Function.update_of_ne same, same, ↓reduceIte]

/-- Saving a value leaves the file as it was exactly when the row is already
there with that value. -/
theorem save_eq_self_iff (realm : Realm) (key : String) (value : Data) :
    save ⟨key, some value⟩ realm = realm ↔ realm.rows key = some ⟨key, some value⟩ := by
  constructor
  · intro unchanged
    have read := congrArg (fun current => current.rows key) unchanged
    simpa only [save, Realm.add, Function.update_self] using read.symm
  · intro present
    unfold save Realm.add
    rw [← present, Function.update_eq_self]

end AwesomeRealmCache

end AwesomeNetwork
