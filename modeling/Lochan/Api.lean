import Lochan.World

/-!
# What the channels share with their callers

The results of operations, the state of the futures, and the references that
operations in progress hold. A reference keeps user code from using an object that
the borrow checker would not let it touch.
-/

namespace Lochan

variable {α : Type}

/-- The outcome of polling a future. -/
inductive Poll (β : Type) where
  | ready (value : β)
  | pending
deriving DecidableEq

/-- Why an item could not be delivered; the item is carried back. -/
inductive TrySendError (α : Type) where
  | full (item : α)
  | closed (item : α)
deriving DecidableEq

/-- The error of a send whose receivers are gone; the item is carried back. -/
structure SendError (α : Type) where
  item : α
deriving DecidableEq

/-- The error of a receive that does not wait. -/
inductive TryRecvError where
  | empty
  | disconnected
deriving DecidableEq

/-- What user code may do with a channel. Handles and futures are named by the ids that
creating them returned. -/
inductive Op (α : Type) where
  | trySend (sender : Nat) (item : α)
  | cloneSender (sender : Nat)
  | dropSender (sender : Nat)
  | closeSender (sender : Nat)
  | senderCapacity (sender : Nat)
  | senderLen (sender : Nat)
  | senderIsEmpty (sender : Nat)
  | senderIsFull (sender : Nat)
  | senderIsClosed (sender : Nat)
  | send (sender : Nat) (item : α)
  | pollSend (future : Nat) (waker : Waker)
  | sendIsTerminated (future : Nat)
  | dropSend (future : Nat)
  | tryRecv (receiver : Nat)
  | tryIterNext (receiver : Nat)
  | pollNext (receiver : Nat) (waker : Waker)
  | cloneReceiver (receiver : Nat)
  | dropReceiver (receiver : Nat)
  | closeReceiver (receiver : Nat)
  | receiverLen (receiver : Nat)
  | receiverIsEmpty (receiver : Nat)
  | receiverIsClosed (receiver : Nat)
  | streamIsTerminated (receiver : Nat)
  | recv (receiver : Nat)
  | pollRecv (future : Nat) (waker : Waker)
  | recvIsTerminated (future : Nat)
  | dropRecv (future : Nat)

/-- The result of an operation. -/
inductive Result (α : Type) where
  | unit
  /-- A new handle or future. -/
  | handle (id : Nat)
  | bool (value : Bool)
  | size (value : Nat)
  | capacity (value : Option Nat)
  | trySend (result : Except (TrySendError α) Unit)
  | tryRecv (result : Except TryRecvError α)
  /-- What an iterator over the queued items yields. -/
  | next (item : Option α)
  | recv (polled : Poll (Option α))
  | send (polled : Poll (Except (SendError α) Unit))

/-- A registered task: the stream of a receiver, or a future. -/
inductive Owner where
  | stream (receiver : Nat)
  | recv (future : Nat)
  | send (future : Nat)
deriving DecidableEq

/-- A reference that an operation in progress holds. -/
inductive Ref where
  | sender (handle : Nat)
  | receiver (handle : Nat)
  | receiverMut (handle : Nat)
  | recv (future : Nat)
  | send (future : Nat)
deriving DecidableEq

/-- The state of a send future. -/
structure Send (α : Type) where
  sender : Nat
  item : Option α
  done : Bool
  wakerId : Option UInt64
  outcome : Option (Except (SendError α) Unit)

/-- A new send future holds its item, and is not registered. -/
def Send.new (sender : Nat) (item : α) : Send α := ⟨sender, some item, false, none, none⟩

/-- The message that the stored outcome of a send future carries back. -/
def Send.unsent (send : Send α) : Option α :=
  match send.outcome with
  | some (.error error) => some error.item
  | _ => none

end Lochan
