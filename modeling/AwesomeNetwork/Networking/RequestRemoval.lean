import AwesomeNetwork.Extensions.URLRequest
import AwesomeNetwork.Library.SerialQueue
import AwesomeNetwork.Networking.AwesomeRequestManager

/-! # The queues of a removal

`removeRequest` removes its entry in a block of the main queue and waits for the block, and
`cancelRequest` ends with it. A call from the main queue waits for itself; every other one
returns and has done what the steps of the registry say.
-/

namespace AwesomeNetwork

/-- The main queue and the other queues, by their labels. -/
inductive DispatchQueue where
  | main
  | labelled (label : String)
deriving DecidableEq, Repr

namespace AwesomeRequestManager

open SerialQueue

/-- A method of the registry, with the queues of its blocks. -/
abbrev Method := Program DispatchQueue (AwesomeRequestManager String)

namespace Method

/-- `removeRequest(to:)`. -/
def removeRequest (urlRequest : URLRequest) : Method :=
  .sync .main (.act (fun manager => manager.removeEntry urlRequest.urlCacheKey) .done) .done

/-- `cancelRequest(to:)`. -/
def cancelRequest (urlRequest : URLRequest) : Method :=
  .act (fun manager => manager.cancelEntry urlRequest.urlCacheKey) (removeRequest urlRequest)

end Method

section Effects

variable {Key : Type} [DecidableEq Key]

/-- The key has no entry any more, and every other entry is as before. -/
def Removes (key : Key) (before after : AwesomeRequestManager Key) : Prop :=
  after.requestQueue.lookup key = none ∧
    ∀ other, other ≠ key → after.requestQueue.lookup other = before.requestQueue.lookup other

/-- The task registered under the key is cancelled, and every other task is as before. -/
def CancelsOnly (key : Key) (before after : AwesomeRequestManager Key) : Prop :=
  ∀ name, after.tasks.get? name =
    if before.requestQueue.lookup key = some name then
      (before.tasks.get? name).map URLSessionTask.cancel
    else before.tasks.get? name

/-- The removal of an entry removes it. -/
theorem removes_removeEntry (manager : AwesomeRequestManager Key) (key : Key) :
    Removes key manager (manager.removeEntry key) := by
  refine ⟨AList.lookup_erase key manager.requestQueue, fun other different => ?_⟩
  exact AList.lookup_erase_ne different

/-- A cancelled request loses its own entry only. -/
theorem cancelsOnly_cancelEntry (manager : AwesomeRequestManager Key) (key : Key) :
    CancelsOnly key manager ((manager.cancelEntry key).removeEntry key) :=
  fun name => get?_cancelEntry manager key name

/-- A cancelled request loses its entry. -/
theorem removes_cancelEntry (manager : AwesomeRequestManager Key) (key : Key) :
    Removes key manager ((manager.cancelEntry key).removeEntry key) := by
  have removes := removes_removeEntry (manager.cancelEntry key) key
  unfold Removes at removes ⊢
  rw [requestQueue_cancelEntry] at removes
  exact removes

end Effects

/-- `removeRequest` returns and removes the entry, `cancelRequest` returns, removes the entry
and cancels its task. -/
structure RemovesFrom (manager : AwesomeRequestManager String) (urlRequest : URLRequest)
    (queue : DispatchQueue) (context : List DispatchQueue) : Prop where
  removeRequest : ∃ after, (Method.removeRequest urlRequest).Returns queue context manager after ∧
    Removes urlRequest.urlCacheKey manager after ∧ after.tasks = manager.tasks
  cancelRequest : ∃ after, (Method.cancelRequest urlRequest).Returns queue context manager after ∧
    Removes urlRequest.urlCacheKey manager after ∧
    CancelsOnly urlRequest.urlCacheKey manager after

variable {manager after : AwesomeRequestManager String} {urlRequest : URLRequest}
  {queue : DispatchQueue} {context : List DispatchQueue}

/-- `removeRequest` waits for no occupied queue exactly off the main queue. -/
theorem removeRequest_free_iff :
    (Method.removeRequest urlRequest).Free (queue :: context) ↔
      DispatchQueue.main ∉ queue :: context :=
  ⟨fun free => free.1, fun outside => ⟨outside, trivial, trivial⟩⟩

/-- `removeRequest` returns exactly off the main queue, its entry removed. -/
theorem removeRequest_returns_iff :
    (Method.removeRequest urlRequest).Returns queue context manager after ↔
      DispatchQueue.main ∉ queue :: context ∧
        after = manager.removeEntry urlRequest.urlCacheKey := by
  rw [Program.returns_iff, removeRequest_free_iff]
  rfl

/-- `cancelRequest` returns exactly off the main queue, its task cancelled and its entry
removed. -/
theorem cancelRequest_returns_iff :
    (Method.cancelRequest urlRequest).Returns queue context manager after ↔
      DispatchQueue.main ∉ queue :: context ∧
        after = (manager.cancelEntry urlRequest.urlCacheKey).removeEntry
          urlRequest.urlCacheKey := by
  rw [Program.returns_iff]
  exact and_congr_left' removeRequest_free_iff

/-- **Removals.** They work in every state of the registry exactly when neither the caller nor
a block that waits for it is on the main queue. -/
theorem removesFrom_iff (manager : AwesomeRequestManager String) (urlRequest : URLRequest)
    (queue : DispatchQueue) (context : List DispatchQueue) :
    RemovesFrom manager urlRequest queue context ↔ DispatchQueue.main ∉ queue :: context := by
  constructor
  · rintro ⟨⟨after, returns, _⟩, _⟩
    exact (removeRequest_returns_iff.mp returns).1
  · intro outside
    constructor
    · exact ⟨_, removeRequest_returns_iff.mpr ⟨outside, rfl⟩, removes_removeEntry .., rfl⟩
    · exact ⟨_, cancelRequest_returns_iff.mpr ⟨outside, rfl⟩, removes_cancelEntry ..,
        cancelsOnly_cancelEntry manager _⟩

/-- A call from the main queue hangs. -/
theorem hangs_on_main (manager : AwesomeRequestManager String) (urlRequest : URLRequest)
    (context : List DispatchQueue) :
    (Method.removeRequest urlRequest).Hangs .main context manager ∧
      (Method.cancelRequest urlRequest).Hangs .main context manager := by
  have conflict : ¬ (Method.removeRequest urlRequest).Free (DispatchQueue.main :: context) :=
    fun free => removeRequest_free_iff.mp free List.mem_cons_self
  exact ⟨Program.hangs_iff.mpr conflict, Program.hangs_iff.mpr conflict⟩

/-- The steps of the registry for a cancelled request do what `cancelRequest` computes. -/
theorem run_cancelRequest (manager : AwesomeRequestManager String) (urlRequest : URLRequest) :
    ∃ next, Transition.Run step manager
      [.cancelRequest urlRequest.urlCacheKey, .removeCancelled manager.cancellations.size] next ∧
      next.requestQueue = ((Method.cancelRequest urlRequest).effect manager).requestQueue ∧
      next.tasks = ((Method.cancelRequest urlRequest).effect manager).tasks := by
  let cancelled := (manager.cancelEntry urlRequest.urlCacheKey).addCancellation
    (.removing urlRequest.urlCacheKey)
  have called : cancelled.cancellations.get? manager.cancellations.size =
      some (.removing urlRequest.urlCacheKey) := by
    have size : manager.cancellations.size =
        (manager.cancelEntry urlRequest.urlCacheKey).cancellations.size := by
      rw [cancellations_cancelEntry]
    rw [size]
    exact Table.get?_push_self ..
  have removed : step cancelled (.removeCancelled manager.cancellations.size) =
      some ((cancelled.removeEntry urlRequest.urlCacheKey).setCancellation
        manager.cancellations.size .finished) := by
    unfold step
    dsimp only
    rw [called]
  exact ⟨_, .cons rfl (.single removed), rfl, rfl⟩

/-- The removal by a completion handler is the one that `removeRequest` computes. -/
theorem step_remove {next : AwesomeRequestManager String} {name : Nat}
    {task : URLSessionTask String} (taken : step manager (.remove name) = some next)
    (present : manager.tasks.get? name = some task) (key : task.key = urlRequest.urlCacheKey) :
    next.requestQueue = ((Method.removeRequest urlRequest).effect manager).requestQueue := by
  obtain ⟨ended, found, _, rfl⟩ := Table.when_eq_some.mp taken
  cases Option.some.inj (found.symm.trans present)
  unfold AwesomeRequestManager.removeRequest
  rw [requestQueue_modifyTask, key]
  rfl

/-- A request under way, as the application finds it on the main queue. -/
def registered (urlRequest : URLRequest) : AwesomeRequestManager String where
  requestQueue := AList.insert urlRequest.urlCacheKey 0 ∅
  tasks := ⟨[⟨urlRequest.urlCacheKey, .resumed, false, .running⟩]⟩
  cancellations := .empty

/-- A request cannot be removed or cancelled from the main queue. -/
theorem not_removesFrom_main :
    let urlRequest := URLRequest.ofURL ⟨some "https", some "a.example", "/", none⟩
    (registered urlRequest).requestQueue.lookup urlRequest.urlCacheKey = some 0 ∧
      ¬ RemovesFrom (registered urlRequest) urlRequest .main [] ∧
      (Method.removeRequest urlRequest).Hangs .main [] (registered urlRequest) ∧
      (Method.cancelRequest urlRequest).Hangs .main [] (registered urlRequest) := by
  intro urlRequest
  refine ⟨AList.lookup_insert _, ?_, hangs_on_main ..⟩
  rintro ⟨⟨after, returns, _⟩, _⟩
  exact (removeRequest_returns_iff.mp returns).1 List.mem_cons_self

end AwesomeRequestManager

end AwesomeNetwork
