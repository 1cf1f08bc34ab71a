import Lochan.Api
import Lochan.Queue.Flavor

/-!
# The shared state of an mpsc channel

The core behind every `mpsc` handle, and the operations on it: the slot for the waker of
the one receiver, the registry of parked senders, the queue, and its draining when the
receiver goes.
-/

namespace Lochan.Mpsc

open Reentrant Queue

/-- The shared core: the queue, what is left of the handles, the waker of the receiver, and the
registry of parked senders. -/
structure Chan (α : Type) where
  flavor : Flavor α
  senders : Nat
  receiverAlive : Bool
  closed : Bool
  recvWaker : Option Waker
  sendWakers : List (UInt64 × Waker)
  nextSendId : UInt64

/-- The state of a receive future. -/
structure Recv where
  receiver : Nat
  done : Bool

/-- The channel with its live handles and futures. -/
structure State (α : Type) where
  chan : Chan α
  /-- The number of handles that keep the channel alive. -/
  strong : Nat
  senders : List Nat
  receiver : Option Nat
  recvs : Nat → Option Recv
  sends : Nat → Option (Send α)
  /-- The next id of a handle or future. -/
  fresh : Nat
  /-- The references held by operations in progress. -/
  uses : List Ref

/-- The operations of an mpsc channel. -/
abbrev M (α β : Type) := Act (State α) (Op α) (Result α) α β

variable {α β : Type}

namespace Chan

/-- A channel over some storage, with one sender and the receiver. -/
def new (flavor : Flavor α) : Chan α := ⟨flavor, 1, true, false, none, [], 0⟩

/-- The items of the channel in the order they are delivered. -/
def contents (chan : Chan α) : List α := chan.flavor.toList

/-- A receiver that finds the channel empty observes disconnect. -/
def disconnected (chan : Chan α) : Bool := chan.senders == 0 || chan.closed

/-- Sends fail. -/
def rejecting (chan : Chan α) : Bool := !chan.receiverAlive || chan.closed

/-- Registering the receiver's waker is ignored. -/
def terminal (chan : Chan α) : Bool := !chan.receiverAlive || chan.senders == 0 || chan.closed

end Chan

/-- Changes the shared core. -/
def State.onChan (state : State α) (update : Chan α → Chan α) : State α :=
  { state with chan := update state.chan }

/-- The core is what the change makes of it. -/
@[simp] theorem State.onChan_chan (state : State α) (update : Chan α → Chan α) :
    (state.onChan update).chan = update state.chan := rfl

/-- Changes the state of a receive future. -/
def State.updateRecv (state : State α) (future : Nat) (update : Recv → Recv) : State α :=
  { state with recvs := Function.update state.recvs future ((state.recvs future).map update) }

/-- Changes the state of a send future. -/
def State.updateSend (state : State α) (future : Nat) (update : Send α → Send α) : State α :=
  { state with sends := Function.update state.sends future ((state.sends future).map update) }

/-- Assigns a registration id to a send future. -/
def State.setWakerId (state : State α) (id : Option UInt64) (future : Nat) : State α :=
  state.updateSend future fun this => { this with wakerId := id }

/-- Reads the shared core. -/
def getChan : M α (Chan α) := do return (← getState).chan

/-- Writes the shared core. -/
def modifyChan (update : Chan α → Chan α) : M α Unit := modifyState (·.onChan update)

/-- Takes the registration id of a send future. -/
def takeWakerId (future : Nat) : M α (Option UInt64) := do
  let id := ((← getState).sends future).bind Send.wakerId
  modifyState (·.setWakerId none future)
  return id

/-- Keeps the registration id of a send future. -/
def setWakerId (future : Nat) (id : UInt64) : M α Unit :=
  modifyState (·.setWakerId (some id) future)

/-! ### Observers -/

/-- The capacity of the queue, if it has one. -/
def cap : M α (Option Nat) := borrowing .flavor do return (← getChan).flavor.cap

/-- The number of items in the queue. -/
def len : M α Nat := borrowing .flavor do return (← getChan).flavor.len

/-- Whether there is nothing to receive. -/
def isEmpty : M α Bool := borrowing .flavor do return (← getChan).flavor.isEmpty

/-- Whether the queue has reached its capacity. -/
def isFull : M α Bool := borrowing .flavor do return (← getChan).flavor.isFull

/-! ### The parked receiver -/

/-- Takes the receiver's waker out of its slot. -/
def takeRecvWaker : M α (Option Waker) :=
  borrowing .recvWaker do
    let waker := (← getChan).recvWaker
    modifyChan fun chan => { chan with recvWaker := none }
    return waker

/-- Wakes the receiver, if it is parked. -/
def wakeReceiver : M α Unit := do
  if ← borrowing .recvWaker do return (← getChan).recvWaker.isNone then return
  else
    match ← takeRecvWaker with
    | none => return
    | some waker => callback (.wake .receivers waker)

/-- Registers the receiver's waker, unless the channel is or becomes terminal. A waker it
replaces is dropped after the borrow. -/
def registerRecvWaker (waker : Waker) : M α Unit := do
  if (← getChan).terminal then return
  else
    callback (.clone waker)
    if (← getChan).terminal then
      -- The clone goes out of scope.
      callback (.dropWaker waker)
    else
      let replaced ← borrowing .recvWaker do
        let replaced := (← getChan).recvWaker
        modifyChan fun chan => { chan with recvWaker := some waker }
        return replaced
      match replaced with
      | none => return
      | some old => callback (.dropWaker old)

/-- Clears the slot of the receiver's waker, dropping the waker after the borrow. -/
def clearRecvWaker : M α Unit := do
  match ← takeRecvWaker with
  | none => return
  | some waker => callback (.dropWaker waker)

/-! ### Parked senders -/

/-- Registers a parked sender's waker under a new id. -/
def addSendWaker (waker : Waker) : M α UInt64 := do
  callback (.clone waker)
  let id := (← getChan).nextSendId
  modifyChan fun chan => { chan with nextSendId := id + 1 }
  emit (.registered .senders)
  borrowing .sendWakers
    (modifyChan fun chan => { chan with sendWakers := chan.sendWakers ++ [(id, waker)] })
  return id

/-- Removes the entry registered under an id, dropping its waker after the borrow. -/
def removeSendWaker (id : UInt64) : M α Unit := do
  let removed ← borrowing .sendWakers do
    let (removed, wakers) := removeById (← getChan).sendWakers id
    modifyChan fun chan => { chan with sendWakers := wakers }
    return removed
  match removed with
  | none => return
  | some (_, waker) => callback (.dropWaker waker)

/-- Removes the registration under an id, if there is one. -/
def removeSend : Option UInt64 → M α Unit
  | some id => removeSendWaker id
  | none => return

/-- Wakes every parked sender. -/
def wakeSenders : M α Unit := do
  if ← borrowing .sendWakers do return (← getChan).sendWakers.isEmpty then return
  else
    let wakers ← borrowing .sendWakers do
      let wakers := (← getChan).sendWakers
      modifyChan fun chan => { chan with sendWakers := [] }
      return wakers
    wakeAll .senders wakers

/-- Marks the channel closed and wakes both halves, isolating their panics. -/
def close : M α Unit := do
  let chan ← getChan
  modifyChan fun chan => { chan with closed := true }
  if chan.closed then return
  else
    emit (.closed chan.contents)
    let received ← wakeReceiver.attempt
    let sent ← wakeSenders.attempt
    match received, sent with
    | .error first, .error second =>
      (dropPanicPayload second).guarded (callback (.dropPanic first))
      Prog.unwind first
    | .error payload, .ok _ => Prog.unwind payload
    | .ok _, .error payload => Prog.unwind payload
    | .ok _, .ok _ => return

/-! ### The queue -/

/-- Pushes if there is room; hands the item back when a bounded channel is full. The log
names the send future that pushes, and the receiver's waker at that time. -/
def tryPush (item : α) (future : Option Nat) : M α (Except α Unit) :=
  borrowing .flavor do
    let chan ← getChan
    let (flavor, result) := chan.flavor.tryPush item
    modifyChan fun chan => { chan with flavor := flavor }
    match result with
    | .ok _ =>
      emit (.watched chan.recvWaker)
      emit (.pushed future item)
      return .ok ()
    | .error item => return .error item

/-- Pops the oldest item. Storage freed on the way would drop its items inside the
borrow. -/
def pop : M α (Option α) :=
  borrowing .flavor do
    let (flavor, item, dropped) := (← getChan).flavor.pop
    modifyChan fun chan => { chan with flavor := flavor }
    dropItems dropped
    return item

/-- Drops every queued item, going on when a payload panics; nested at most `depth`
deep. -/
def drainWithin : Nat → M α Unit
  | 0 => Prog.hang
  | depth + 1 => Prog.guarded (Prog.loop do
      match ← pop with
      | none => return some ()
      | some item =>
        callback (.dropQueued item)
        return none)
    (drainWithin depth)

/-- Drops every queued item. -/
def drain : M α Unit := Prog.budget drainWithin

/-! ### The shared allocation -/

/-- Frees the channel: drops what its fields hold, in the order of the fields. -/
def freeChan : M α Unit := do
  let chan ← getChan
  emit (.freed chan.contents)
  dropGlue (dropItems chan.flavor.toList)
    (dropGlue (dropWakers chan.recvWaker.toList)
      (dropWakers (chan.sendWakers.map Prod.snd)))

/-- Releases the share of a dropped handle in the channel. -/
def releaseChan : M α Unit := do
  modifyState fun state => { state with strong := state.strong - 1 }
  if (← getState).strong = 0 then freeChan
  else return

end Lochan.Mpsc
