import Lochan.Mpmc.Chan

/-!
# The handles of an mpmc channel

Senders and receivers. Dropping a handle releases its share in the channel once its
destructor is over, however it is left.
-/

namespace Lochan.Mpmc

open Reentrant

variable {α β : Type}

/-- Runs an operation that holds a reference. -/
def holding (ref : Ref) (act : M α β) : M α β := do
  modifyState fun state => { state with uses := ref :: state.uses }
  act.ensuring (modifyState fun state => { state with uses := state.uses.erase ref })

/-- Allocates the id of a new handle or future. -/
def freshId : M α Nat := do
  let id := (← getState).fresh
  modifyState fun state => { state with fresh := id + 1 }
  return id

namespace Sender

/-- Pushes an item without waiting. -/
def trySend (item : α) : M α (Except (TrySendError α) Unit) := do
  if (← getChan).rejecting then return .error (.closed item)
  else
    match ← tryPush item none with
    | .ok _ =>
      wakeReceivers
      return .ok ()
    | .error item => return .error (.full item)

/-- Whether sends fail. -/
def isClosed : M α Bool := do return (← getChan).rejecting

/-- Closes the channel, unless sends fail already. -/
def close : M α Bool := do
  if ← isClosed then return false
  else
    Mpmc.close
    return true

/-- Another handle of the sending half. -/
def clone : M α Nat := do
  modifyChan fun chan => { chan with senders := chan.senders + 1 }
  let id ← freshId
  modifyState fun state =>
    { state with strong := state.strong + 1, senders := id :: state.senders }
  return id

/-- The destructor of a sender: the last one wakes the receivers. -/
def drop : M α Unit := do
  let senders := (← getChan).senders
  modifyChan fun chan => { chan with senders := senders - 1 }
  if senders == 1 then wakeReceivers
  else return

end Sender

namespace Receiver

/-- Pops an item without waiting. -/
def tryRecv : M α (Except TryRecvError α) := do
  match ← tryTake with
  | some item => return .ok item
  | none =>
    if (← getChan).disconnected then return .error .disconnected
    else return .error .empty

/-- The next item of an iterator over the queued items. -/
def tryIterNext : M α (Option α) := do
  match ← tryRecv with
  | .ok item => return some item
  | .error _ => return none

/-- Removes the registration of a task. -/
def removeOwn (owner : Owner) : M α Unit := do removeRecv (← takeWakerId owner)

/-- The receive state machine shared by the receive future and the stream, with the
slot of their registration. -/
def pollRecv (waker : Waker) (owner : Owner) : M α (Poll (Option α)) := do
  removeOwn owner
  match ← tryTake with
  | some item => return .ready (some item)
  | none =>
    if (← getChan).disconnected then return .ready none
    else
      let id ← addRecvWaker waker
      setWakerId owner id
      -- Registering ran user code, which may have pushed an item or disconnected.
      match ← tryTake with
      | some item => return .ready (some item)
      | none =>
        if (← getChan).disconnected then
          removeOwn owner
          return .ready none
        else return .pending

/-- Whether receivers observe disconnect once the channel is empty. -/
def isClosed : M α Bool := do return (← getChan).disconnected

/-- Closes the channel, unless it is disconnected already. -/
def close : M α Bool := do
  if ← isClosed then return false
  else
    Mpmc.close
    return true

/-- Another handle of the receiving half, with a stream of its own. -/
def clone : M α Nat := do
  modifyChan fun chan => { chan with receivers := chan.receivers + 1 }
  let id ← freshId
  modifyState fun state =>
    { state with
      strong := state.strong + 1
      receivers := id :: state.receivers
      streamWakerId := Function.update state.streamWakerId id none }
  return id

/-- Drains the queue and then removes the stream registration `id`, which also happens
when draining unwinds. -/
def cleanup (id : Option UInt64) : M α Unit := drain.ensuring (removeRecv id)

/-- The destructor of a receiver. The last one wakes the senders and then cleans up,
also when waking them unwinds. -/
def drop (receiver : Nat) : M α Unit := do
  let chan ← getChan
  modifyChan fun chan => { chan with receivers := chan.receivers - 1 }
  if chan.receivers == 1 then
    emit (.lastReceiver receiver (chan.sendWakers.map Prod.snd) chan.contents)
    let id ← takeWakerId (.stream receiver)
    wakeSenders.ensuring (cleanup id)
  else removeOwn (.stream receiver)

/-- Terminated once the channel is drained and disconnected, and no stream
registration is outstanding. -/
def isTerminated (receiver : Nat) : M α Bool := do
  let state ← getState
  if (state.streamWakerId receiver).isNone && state.chan.disconnected then isEmpty
  else return false

end Receiver

end Lochan.Mpmc
