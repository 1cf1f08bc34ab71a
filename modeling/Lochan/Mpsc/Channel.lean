import Lochan.Mpsc.Chan

/-!
# The handles of an mpsc channel

Senders and the receiver. Dropping a handle releases its share in the channel once its
destructor is over, however it is left.
-/

namespace Lochan.Mpsc

open Reentrant

variable {α β : Type}

/-- Runs an operation that holds a reference. -/
def holding (ref : Ref) (act : M α β) : M α β := do
  modifyState fun state => { state with uses := ref :: state.uses }
  act.ensuring (modifyState fun state => { state with uses := state.uses.erase ref })

/-- Allocates the id of a new handle or future. -/
def freshId : M α Nat := do
  let id := (← getState).fresh
  modifyState fun state => { state with fresh := id + 1 }
  return id

namespace Sender

/-- Pushes an item without waiting. -/
def trySend (item : α) : M α (Except (TrySendError α) Unit) := do
  if (← getChan).rejecting then return .error (.closed item)
  else
    match ← tryPush item none with
    | .ok _ =>
      wakeReceiver
      return .ok ()
    | .error item => return .error (.full item)

/-- Whether sends fail. -/
def isClosed : M α Bool := do return (← getChan).rejecting

/-- Closes the channel, unless sends fail already. -/
def close : M α Bool := do
  if ← isClosed then return false
  else
    Mpsc.close
    return true

/-- Another handle of the sending half. -/
def clone : M α Nat := do
  modifyChan fun chan => { chan with senders := chan.senders + 1 }
  let id ← freshId
  modifyState fun state =>
    { state with strong := state.strong + 1, senders := id :: state.senders }
  return id

/-- The destructor of a sender: the last one wakes the receiver. -/
def drop : M α Unit := do
  let senders := (← getChan).senders
  modifyChan fun chan => { chan with senders := senders - 1 }
  if senders == 1 then wakeReceiver
  else return

end Sender

namespace Receiver

/-- Pops an item for the receiver and wakes the parked senders. If one of them panics, the
item goes out of scope. -/
def take : M α (Option α) := do
  match ← pop with
  | none =>
    emit (.missed (← getChan).contents)
    return none
  | some item =>
    emit (.took item)
    wakeSenders.guarded (callback (.dropItem item))
    return some item

/-- Pops an item without waiting. -/
def tryRecv : M α (Except TryRecvError α) := do
  match ← take with
  | some item => return .ok item
  | none =>
    if (← getChan).disconnected then return .error .disconnected
    else return .error .empty

/-- The next item of an iterator over the queued items. -/
def tryIterNext : M α (Option α) := do
  match ← tryRecv with
  | .ok item => return some item
  | .error _ => return none

/-- The receive state machine shared by the receive future and the stream. -/
def pollRecv (waker : Waker) : M α (Poll (Option α)) := do
  match ← take with
  | some item => return .ready (some item)
  | none =>
    if (← getChan).disconnected then
      clearRecvWaker
      return .ready none
    else
      registerRecvWaker waker
      -- Registering ran user code, which may have pushed an item or disconnected.
      match ← take with
      | some item => return .ready (some item)
      | none =>
        if (← getChan).disconnected then
          clearRecvWaker
          return .ready none
        else return .pending

/-- Whether the receiver observes disconnect once the channel is empty. -/
def isClosed : M α Bool := do return (← getChan).disconnected

/-- Closes the channel, unless it is disconnected already. -/
def close : M α Bool := do
  if ← isClosed then return false
  else
    Mpsc.close
    return true

/-- The destructor of the receiver. The queue is drained at the end, also when a panic skips
what comes before. -/
def drop (receiver : Nat) : M α Unit := do
  let chan ← getChan
  modifyChan fun chan => { chan with receiverAlive := false }
  emit (.lastReceiver receiver (chan.sendWakers.map Prod.snd) chan.contents)
  Prog.ensuring (do wakeSenders; clearRecvWaker) drain

/-- Terminated once the channel is drained and disconnected. -/
def isTerminated : M α Bool := do
  if (← getChan).disconnected then isEmpty
  else return false

end Receiver

end Lochan.Mpsc
