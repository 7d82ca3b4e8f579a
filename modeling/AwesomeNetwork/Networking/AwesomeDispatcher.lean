import AwesomeNetwork.Foundation
import AwesomeNetwork.Library.Table
import AwesomeNetwork.Library.Transition

/-! # The dispatcher's semaphore

A block that finds no green light waits on the semaphore in a closure of its own
queue, is handed over to the queue and then lets the next one through. A step is
one access to the semaphore or the flag, or one move of a queue.
-/

namespace AwesomeNetwork

/-- Where the waiting closure of a block stands. -/
inductive WaitPhase where
  | queued
  | waiting
  | passed
  | signalling
  | returned
deriving DecidableEq, Repr

/-- Where a block itself stands. -/
inductive BlockState where
  | held
  | dispatched
  | ran
deriving DecidableEq, Repr

/-- A block with its wait for the semaphore. -/
structure GatedBlock where
  signalNext : Bool
  wait : WaitPhase
  block : BlockState
deriving DecidableEq, Repr

/-- The dispatcher: the count of its semaphore, the calls of `releaseSemaphore` that
have still to signal, and the blocks. -/
structure AwesomeDispatcher where
  value : Nat
  hasGreenLights : Bool
  timeout : Option TimeInterval
  releasing : Nat
  blocks : Table GatedBlock

namespace AwesomeDispatcher

/-- An access to the semaphore or the flag, or a move of a queue. -/
inductive Label where
  | executeBlock (signalNext : Bool)
  | enter (block : Nat)
  | acquire (block : Nat)
  | expire (block : Nat)
  | dispatch (block : Nat)
  | signal (block : Nat)
  | run (block : Nat)
  | releaseSemaphore
  | releaseSignal
deriving DecidableEq, Repr

/-- The dispatcher as it is made. -/
def initial : AwesomeDispatcher where
  value := 1
  hasGreenLights := false
  timeout := some 5
  releasing := 0
  blocks := .empty

/-- One block changes. -/
def modifyBlock (dispatcher : AwesomeDispatcher) (name : Nat) (change : GatedBlock → GatedBlock) :
    AwesomeDispatcher :=
  { dispatcher with blocks := dispatcher.blocks.modify name change }

/-- `executeBlock(signalNext:queue:block:)` for the next block. -/
def executeBlock (dispatcher : AwesomeDispatcher) (signalNext : Bool) : AwesomeDispatcher :=
  if dispatcher.hasGreenLights then
    { dispatcher with blocks := dispatcher.blocks.push ⟨signalNext, .returned, .dispatched⟩ }
  else { dispatcher with blocks := dispatcher.blocks.push ⟨signalNext, .queued, .held⟩ }

/-- `queue.async(execute: block)` after the wait. -/
def GatedBlock.dispatch (block : GatedBlock) : GatedBlock :=
  { block with
    wait := if block.signalNext then .signalling else .returned
    block := .dispatched }

/-- One step of the dispatcher. -/
def step (dispatcher : AwesomeDispatcher) : Label → Option AwesomeDispatcher
  | .executeBlock signalNext => some (dispatcher.executeBlock signalNext)
  | .enter name =>
      dispatcher.blocks.when name (·.wait = .queued) fun _ =>
        dispatcher.modifyBlock name fun block => { block with wait := .waiting }
  | .acquire name =>
      dispatcher.blocks.when name (fun block => block.wait = .waiting ∧ 0 < dispatcher.value)
        fun _ => { dispatcher with value := dispatcher.value - 1 }.modifyBlock name fun block =>
          { block with wait := .passed }
  | .expire name =>
      dispatcher.blocks.when name
        (fun block => block.wait = .waiting ∧ dispatcher.timeout.isSome = true)
        fun _ => dispatcher.modifyBlock name fun block => { block with wait := .passed }
  | .dispatch name =>
      dispatcher.blocks.when name (·.wait = .passed) fun _ =>
        dispatcher.modifyBlock name GatedBlock.dispatch
  | .signal name =>
      dispatcher.blocks.when name (·.wait = .signalling) fun _ =>
        { dispatcher with value := dispatcher.value + 1 }.modifyBlock name fun block =>
          { block with wait := .returned }
  | .run name =>
      dispatcher.blocks.when name (·.block = .dispatched) fun _ =>
        dispatcher.modifyBlock name fun block => { block with block := .ran }
  | .releaseSemaphore =>
      some { dispatcher with hasGreenLights := true, releasing := dispatcher.releasing + 1 }
  | .releaseSignal =>
      if 0 < dispatcher.releasing then
        some { dispatcher with
          value := dispatcher.value + 1
          releasing := dispatcher.releasing - 1 }
      else none

end AwesomeDispatcher

end AwesomeNetwork
