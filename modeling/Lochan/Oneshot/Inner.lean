import Lochan.World

/-!
# The shared state of a oneshot channel

The slot for the one value, with the flag that tracks its presence, the waker of the
receiver, and the operations on them. Reading a slot that holds no value faults.
-/

namespace Lochan.Oneshot

open Reentrant

/-- The error of a receive whose sender dropped without sending. -/
inductive Canceled where
  | mk
deriving DecidableEq

/-- The outcome of polling the receiver. -/
inductive Poll (α : Type) where
  | ready (result : Except Canceled α)
  | pending

/-- The shared state: the slot for the value, the flags, and the waker of the receiver. -/
structure Inner (α : Type) where
  /-- The value, if the slot is initialized. -/
  value : Option α
  valuePresent : Bool
  senderDropped : Bool
  receiverDropped : Bool
  recvWaker : Option Waker

/-- A slot without a value, and two live handles. -/
def Inner.new {α : Type} : Inner α := ⟨none, false, false, false, none⟩

/-- The channel with its handles. -/
structure State (α : Type) where
  inner : Inner α
  /-- The number of handles that keep the shared state alive. -/
  strong : Nat
  sender : Bool
  receiver : Bool
  /-- The receiver has yielded its result. -/
  done : Bool
  /-- An operation in progress uses the receiver. -/
  polling : Bool

/-- What user code may do with a oneshot channel. -/
inductive Op (α : Type) where
  | send (value : α)
  | dropSender
  | senderIsClosed
  | poll (waker : Waker)
  | tryRecv
  /-- The next item of an iterator over the value. -/
  | tryIterNext
  | receiverIsClosed
  | isTerminated
  | dropReceiver

/-- What the operations answer. -/
inductive Result (α : Type) where
  | unit
  | bool (value : Bool)
  | send (result : Except α Unit)
  | poll (polled : Poll α)
  | tryRecv (result : Except Canceled (Option α))
  | next (item : Option α)

/-- The operations of a oneshot channel. -/
abbrev M (α β : Type) := Act (State α) (Op α) (Result α) α β

variable {α β : Type}

/-- Changes the shared state. -/
def State.onInner (state : State α) (update : Inner α → Inner α) : State α :=
  { state with inner := update state.inner }

/-- The shared state is what the change makes of it. -/
@[simp] theorem State.onInner_inner (state : State α) (update : Inner α → Inner α) :
    (state.onInner update).inner = update state.inner := rfl

/-- Reads the shared state. -/
def getInner : M α (Inner α) := do return (← getState).inner

/-- Writes the shared state. -/
def modifyInner (update : Inner α → Inner α) : M α Unit := modifyState (·.onInner update)

/-- Takes the waker out of its cell. -/
def takeRecvWaker : M α (Option Waker) :=
  borrowing .recvWaker do
    let waker := (← getInner).recvWaker
    modifyInner fun inner => { inner with recvWaker := none }
    return waker

/-- Registers the receiver's waker, unless the receiver is being dropped. A waker it replaces is
dropped after the borrow. -/
def registerRecvWaker (waker : Waker) : M α Unit := do
  if (← getInner).receiverDropped then return
  else
    callback (.clone waker)
    let replaced ← borrowing .recvWaker do
      let replaced := (← getInner).recvWaker
      modifyInner fun inner => { inner with recvWaker := some waker }
      return replaced
    match replaced with
    | none => return
    | some old => callback (.dropWaker old)

/-- Once the receiver has begun to drop, a poll of it registers nothing, and runs no user code. -/
theorem registerRecvWaker_dropped (waker : Waker) {channel : World (State α) (Op α) (Result α) α}
    (dropped : channel.state.inner.receiverDropped = true) (count : Nat) :
    (registerRecvWaker waker : M α Unit).exec count channel = .returned () channel := by
  show (if channel.state.inner.receiverDropped then (return : M α Unit) else _).exec
    count channel = _
  rw [if_pos dropped]
  rfl

/-- Wakes the receiver, if it is parked. -/
def wakeReceiver : M α Unit := do
  match ← takeRecvWaker with
  | none => return
  | some waker => callback (.wake .receivers waker)

/-- Clears the receiver's registration, dropping the waker after the borrow. -/
def clearRecvWaker : M α Unit := do
  match ← takeRecvWaker with
  | none => return
  | some waker => callback (.dropWaker waker)

/-- Moves the value out of the slot. -/
def readValue : M α α := do
  let value := (← getInner).value
  modifyInner fun inner => { inner with value := none }
  match value with
  | some value => return value
  | none => Prog.fault

/-- Drops the value if it is present, clearing the flag first. -/
def dropValue : M α Unit := do
  let present := (← getInner).valuePresent
  modifyInner fun inner => { inner with valuePresent := false }
  if present then
    let value ← readValue
    callback (.dropQueued value)
  else return

/-- Releases the share of a dropped handle. The last one drops the value, and the waker also if
that panics. -/
def release : M α Unit := do
  modifyState fun state => { state with strong := state.strong - 1 }
  if (← getState).strong = 0 then
    dropGlue dropValue (do dropWakers (← getInner).recvWaker.toList)
  else return

end Lochan.Oneshot
