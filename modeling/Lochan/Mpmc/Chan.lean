import Lochan.Api
import Lochan.Queue.Flavor

/-!
# The shared state of an mpmc channel

The core behind every `mpmc` handle, and the operations on it: the registries of
parked tasks, the queue with its redelivery slot, and the draining of the queue when
the last receiver goes.
-/

namespace Lochan.Mpmc

open Reentrant Queue

/-- The shared core: the queue with its redelivery slot, the numbers of handles, and the registries
of parked tasks. -/
structure Chan (α : Type) where
  flavor : Flavor α
  /-- An item popped from `flavor` but not yet handed to the receiver. -/
  redelivery : Option α
  senders : Nat
  receivers : Nat
  closed : Bool
  recvWakers : List (UInt64 × Waker)
  nextRecvId : UInt64
  sendWakers : List (UInt64 × Waker)
  nextSendId : UInt64

/-- The state of a receive future. -/
structure Recv where
  receiver : Nat
  done : Bool
  wakerId : Option UInt64

/-- The channel with its live handles and futures. -/
structure State (α : Type) where
  chan : Chan α
  /-- The number of handles that keep the channel alive. -/
  strong : Nat
  senders : List Nat
  receivers : List Nat
  streamWakerId : Nat → Option UInt64
  recvs : Nat → Option Recv
  sends : Nat → Option (Send α)
  /-- The next id of a handle or future. -/
  fresh : Nat
  /-- The references held by operations in progress. -/
  uses : List Ref

/-- The operations of an mpmc channel. -/
abbrev M (α β : Type) := Act (State α) (Op α) (Result α) α β

variable {α β : Type}

namespace Chan

/-- A channel over some storage, with one sender and one receiver. -/
def new (flavor : Flavor α) : Chan α := ⟨flavor, none, 1, 1, false, [], 0, [], 0⟩

/-- The items of the channel in the order they are delivered: the one in the
redelivery slot, then the queue. -/
def contents (chan : Chan α) : List α := chan.redelivery.toList ++ chan.flavor.toList

/-- Receivers that find the channel empty observe disconnect. -/
def disconnected (chan : Chan α) : Bool := chan.senders == 0 || chan.closed

/-- Sends fail. -/
def rejecting (chan : Chan α) : Bool := chan.receivers == 0 || chan.closed

end Chan

/-- The registration id of a task. -/
def State.wakerId (state : State α) : Owner → Option UInt64
  | .stream receiver => state.streamWakerId receiver
  | .recv future => (state.recvs future).bind Recv.wakerId
  | .send future => (state.sends future).bind Send.wakerId

/-- Changes the shared core. -/
def State.onChan (state : State α) (update : Chan α → Chan α) : State α :=
  { state with chan := update state.chan }

/-- The core is what the change makes of it. -/
@[simp] theorem State.onChan_chan (state : State α) (update : Chan α → Chan α) :
    (state.onChan update).chan = update state.chan := rfl

/-- Changes the state of a receive future. -/
def State.updateRecv (state : State α) (future : Nat) (update : Recv → Recv) : State α :=
  { state with recvs := Function.update state.recvs future ((state.recvs future).map update) }

/-- Changes the state of a send future. -/
def State.updateSend (state : State α) (future : Nat) (update : Send α → Send α) : State α :=
  { state with sends := Function.update state.sends future ((state.sends future).map update) }

/-- Assigns a registration id to a task. -/
def State.setWakerId (state : State α) (id : Option UInt64) : Owner → State α
  | .stream receiver =>
    { state with streamWakerId := Function.update state.streamWakerId receiver id }
  | .recv future => state.updateRecv future fun this => { this with wakerId := id }
  | .send future => state.updateSend future fun this => { this with wakerId := id }

/-- Reads the shared core. -/
def getChan : M α (Chan α) := do return (← getState).chan

/-- Writes the shared core. -/
def modifyChan (update : Chan α → Chan α) : M α Unit := modifyState (·.onChan update)

/-- Takes the registration id of a task. -/
def takeWakerId (owner : Owner) : M α (Option UInt64) := do
  let id := (← getState).wakerId owner
  modifyState (·.setWakerId none owner)
  return id

/-- Keeps the registration id of a task. -/
def setWakerId (owner : Owner) (id : UInt64) : M α Unit :=
  modifyState (·.setWakerId (some id) owner)

/-! ### Observers -/

/-- The capacity of the queue, if it has one. -/
def cap : M α (Option Nat) := borrowing .flavor do return (← getChan).flavor.cap

/-- The number of items, with the one in the redelivery slot. -/
def len : M α Nat :=
  borrowing .flavor do
    let queued := (← getChan).flavor.len
    borrowing .redelivery do
      return queued + if (← getChan).redelivery.isSome then 1 else 0

/-- Whether there is nothing to receive, the redelivery slot included. -/
def isEmpty : M α Bool :=
  borrowing .redelivery do
    if (← getChan).redelivery.isSome then return false
    else borrowing .flavor do return (← getChan).flavor.isEmpty

/-- Whether the queue has reached its capacity. -/
def isFull : M α Bool := borrowing .flavor do return (← getChan).flavor.isFull

/-! ### Parked receivers -/

/-- Registers a parked receiver's waker under a new id, unless the channel is or
becomes terminal; the id is consumed all the same. -/
def addRecvWaker (waker : Waker) : M α UInt64 := do
  let id := (← getChan).nextRecvId
  modifyChan fun chan => { chan with nextRecvId := id + 1 }
  emit (.registered .receivers)
  let chan ← getChan
  if chan.disconnected || chan.receivers == 0 then return id
  else
    callback (.clone waker)
    let chan ← getChan
    if chan.disconnected || chan.receivers == 0 then
      -- The clone goes out of scope.
      callback (.dropWaker waker)
      return id
    else
      borrowing .recvWakers
        (modifyChan fun chan => { chan with recvWakers := chan.recvWakers ++ [(id, waker)] })
      return id

/-- Removes the entry registered under an id, dropping its waker after the borrow. -/
def removeRecvWaker (id : UInt64) : M α Unit := do
  let removed ← borrowing .recvWakers do
    let (removed, wakers) := removeById (← getChan).recvWakers id
    modifyChan fun chan => { chan with recvWakers := wakers }
    return removed
  match removed with
  | none => return
  | some (_, waker) => callback (.dropWaker waker)

/-- Removes the registration under an id, if there is one. -/
def removeRecv : Option UInt64 → M α Unit
  | some id => removeRecvWaker id
  | none => return

/-- Wakes every parked receiver. -/
def wakeReceivers : M α Unit := do
  if ← borrowing .recvWakers do return (← getChan).recvWakers.isEmpty then return
  else
    let wakers ← borrowing .recvWakers do
      let wakers := (← getChan).recvWakers
      modifyChan fun chan => { chan with recvWakers := [] }
      return wakers
    wakeAll .receivers wakers

/-! ### Parked senders -/

/-- Registers a parked sender's waker under a new id. -/
def addSendWaker (waker : Waker) : M α UInt64 := do
  callback (.clone waker)
  let id := (← getChan).nextSendId
  modifyChan fun chan => { chan with nextSendId := id + 1 }
  emit (.registered .senders)
  borrowing .sendWakers
    (modifyChan fun chan => { chan with sendWakers := chan.sendWakers ++ [(id, waker)] })
  return id

/-- Removes the entry registered under an id, dropping its waker after the borrow. -/
def removeSendWaker (id : UInt64) : M α Unit := do
  let removed ← borrowing .sendWakers do
    let (removed, wakers) := removeById (← getChan).sendWakers id
    modifyChan fun chan => { chan with sendWakers := wakers }
    return removed
  match removed with
  | none => return
  | some (_, waker) => callback (.dropWaker waker)

/-- Removes the registration under an id, if there is one. -/
def removeSend : Option UInt64 → M α Unit
  | some id => removeSendWaker id
  | none => return

/-- Whether a sender is parked. -/
def hasParkedSenders : M α Bool :=
  borrowing .sendWakers do return !(← getChan).sendWakers.isEmpty

/-- Wakes every parked sender. -/
def wakeSenders : M α Unit := do
  if ← borrowing .sendWakers do return (← getChan).sendWakers.isEmpty then return
  else
    let wakers ← borrowing .sendWakers do
      let wakers := (← getChan).sendWakers
      modifyChan fun chan => { chan with sendWakers := [] }
      return wakers
    wakeAll .senders wakers

/-- Marks the channel closed and wakes both halves, isolating their panics. -/
def close : M α Unit := do
  let chan ← getChan
  modifyChan fun chan => { chan with closed := true }
  if chan.closed then return
  else
    emit (.closed chan.contents)
    let received ← wakeReceivers.attempt
    let sent ← wakeSenders.attempt
    match received, sent with
    | .error first, .error second =>
      (dropPanicPayload second).guarded (callback (.dropPanic first))
      Prog.unwind first
    | .error payload, .ok _ => Prog.unwind payload
    | .ok _, .error payload => Prog.unwind payload
    | .ok _, .ok _ => return

/-! ### The queue -/

/-- Pushes if there is room; hands the item back when a bounded channel is full. The log
names the send future that pushes. -/
def tryPush (item : α) (future : Option Nat) : M α (Except α Unit) :=
  borrowing .flavor do
    let (flavor, result) := (← getChan).flavor.tryPush item
    modifyChan fun chan => { chan with flavor := flavor }
    match result with
    | .ok _ =>
      emit (.pushed future item)
      return .ok ()
    | .error item => return .error item

/-- Pops the oldest item. Storage freed on the way would drop its items inside the
borrow. -/
def pop : M α (Option α) :=
  borrowing .flavor do
    let (flavor, item, dropped) := (← getChan).flavor.pop
    modifyChan fun chan => { chan with flavor := flavor }
    dropItems dropped
    return item

/-- Takes the item out of the redelivery slot. -/
def takeRedelivery : M α (Option α) :=
  borrowing .redelivery do
    let item := (← getChan).redelivery
    modifyChan fun chan => { chan with redelivery := none }
    return item

/-- Parks an item in the redelivery slot. The assignment drops an item still parked
there, inside the borrow. -/
def setRedelivery (item : α) : M α Unit :=
  borrowing .redelivery do
    dropItems (← getChan).redelivery.toList
    modifyChan fun chan => { chan with redelivery := some item }

/-- One turn of the loop of `tryTake`: nothing if it has to go round again. -/
def tryTakeTurn : M α (Option (Option α)) := do
  match ← takeRedelivery with
  | some item =>
    emit (.took item)
    return some (some item)
  | none =>
    match ← pop with
    | none =>
      emit (.missed (← getChan).contents)
      return some none
    | some item =>
      if !(← hasParkedSenders) then
        emit (.took item)
        return some (some item)
      else
        setRedelivery item
        wakeSenders.guarded (emit .stranded)
        match ← takeRedelivery with
        | some item =>
          emit (.took item)
          return some (some item)
        -- A re-entrant consumer took the parked item.
        | none => return none

/-- Takes the next item, parking it across the wake of the parked senders so that a
panicking waker cannot drop it. -/
def tryTake : M α (Option α) := Prog.loop tryTakeTurn

/-- Drops every queued item, going on when a payload panics; nested at most `depth`
deep. -/
def drainWithin : Nat → M α Unit
  | 0 => Prog.hang
  | depth + 1 => Prog.guarded (do
      match ← takeRedelivery with
      | none => pure ()
      | some item => callback (.dropQueued item)
      Prog.loop do
        match ← pop with
        | none => return some ()
        | some item =>
          callback (.dropQueued item)
          return none)
    (drainWithin depth)

/-- Drops every queued item, the one in the redelivery slot first. -/
def drain : M α Unit := Prog.budget drainWithin

/-! ### The shared allocation -/

/-- Frees the channel: drops what its fields hold, in the order of the fields. -/
def freeChan : M α Unit := do
  let chan ← getChan
  emit (.freed chan.contents)
  dropGlue (dropItems chan.flavor.toList)
    (dropGlue (dropItems chan.redelivery.toList)
      (dropGlue (dropWakers (chan.recvWakers.map Prod.snd))
        (dropWakers (chan.sendWakers.map Prod.snd))))

/-- Releases the share of a dropped handle in the channel. -/
def releaseChan : M α Unit := do
  modifyState fun state => { state with strong := state.strong - 1 }
  if (← getState).strong = 0 then freeChan
  else return

end Lochan.Mpmc
