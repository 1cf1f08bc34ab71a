import Lochan.Mpmc.Futures

/-!
# The mpmc channel as a system

Every operation of user code on an mpmc channel, with what the borrow checker asks
of it, and the channel as `bounded` and `unbounded` create it.
-/

namespace Lochan.Mpmc

open Reentrant Queue

variable {α : Type}

namespace State

/-- Whether a live send future borrows the sender. -/
def senderBorrowed (state : State α) (sender : Nat) : Bool :=
  (List.range state.fresh).any fun future => (state.sends future).any (·.sender == sender)

/-- Whether a live receive future borrows the receiver. -/
def receiverBorrowed (state : State α) (receiver : Nat) : Bool :=
  (List.range state.fresh).any fun future => (state.recvs future).any (·.receiver == receiver)

/-- The sender can be used through a shared reference. -/
def SenderShared (state : State α) (sender : Nat) : Prop := sender ∈ state.senders

/-- The sender can be moved into its destructor. -/
def SenderOwned (state : State α) (sender : Nat) : Prop :=
  sender ∈ state.senders ∧ .sender sender ∉ state.uses ∧ state.senderBorrowed sender = false

/-- The receiver can be used through a shared reference. -/
def ReceiverShared (state : State α) (receiver : Nat) : Prop :=
  receiver ∈ state.receivers ∧ .receiverMut receiver ∉ state.uses

/-- The receiver can be used through a unique reference, or moved into its destructor. -/
def ReceiverOwned (state : State α) (receiver : Nat) : Prop :=
  receiver ∈ state.receivers ∧ .receiver receiver ∉ state.uses ∧
    .receiverMut receiver ∉ state.uses ∧ state.receiverBorrowed receiver = false

/-- The send future can be used through a unique reference. -/
def SendOwned (state : State α) (future : Nat) : Prop :=
  (state.sends future).isSome ∧ .send future ∉ state.uses

/-- The receive future can be used through a unique reference. -/
def RecvOwned (state : State α) (future : Nat) : Prop :=
  (state.recvs future).isSome ∧ .recv future ∉ state.uses

/-- Whether the borrow checker lets user code start an operation. -/
def Legal (state : State α) : Op α → Prop
  | .trySend sender _ | .cloneSender sender | .closeSender sender | .senderCapacity sender
  | .senderLen sender | .senderIsEmpty sender | .senderIsFull sender | .senderIsClosed sender
  | .send sender _ => state.SenderShared sender
  | .dropSender sender => state.SenderOwned sender
  | .pollSend future _ | .sendIsTerminated future | .dropSend future => state.SendOwned future
  | .tryRecv receiver | .tryIterNext receiver | .cloneReceiver receiver | .closeReceiver receiver
  | .receiverLen receiver | .receiverIsEmpty receiver | .receiverIsClosed receiver
  | .streamIsTerminated receiver | .recv receiver => state.ReceiverShared receiver
  | .pollNext receiver _ | .dropReceiver receiver => state.ReceiverOwned receiver
  | .pollRecv future _ | .recvIsTerminated future | .dropRecv future => state.RecvOwned future

instance (state : State α) (op : Op α) : Decidable (state.Legal op) := by
  cases op <;>
    simp only [Legal, SenderShared, SenderOwned, ReceiverShared, ReceiverOwned, SendOwned,
      RecvOwned] <;> infer_instance

end State

/-- What an operation does. -/
def body : Op α → M α (Result α)
  | .trySend sender item => do return .trySend (← holding (.sender sender) (Sender.trySend item))
  | .cloneSender _ => do return .handle (← Sender.clone)
  | .dropSender sender => do
    modifyState fun state => { state with senders := state.senders.erase sender }
    Sender.drop.ensuring releaseChan
    return .unit
  | .closeSender sender => do return .bool (← holding (.sender sender) Sender.close)
  | .senderCapacity _ => do return .capacity (← cap)
  | .senderLen _ => do return .size (← len)
  | .senderIsEmpty _ => do return .bool (← isEmpty)
  | .senderIsFull _ => do return .bool (← isFull)
  | .senderIsClosed _ => do return .bool (← Sender.isClosed)
  | .send sender item => do
    let id ← freshId
    modifyState fun state =>
      { state with sends := Function.update state.sends id (some (Send.new sender item)) }
    return .handle id
  | .pollSend future waker => do
    return .send (← holding (.send future) (SendFuture.poll future waker))
  | .sendIsTerminated future => do return .bool (← SendFuture.isTerminated future)
  | .dropSend future => do
    match (← getState).sends future with
    | none => Prog.fault
    | some this =>
      modifyState fun state => { state with sends := Function.update state.sends future none }
      holding (.sender this.sender) (SendFuture.drop this)
      return .unit
  | .tryRecv receiver => do return .tryRecv (← holding (.receiver receiver) Receiver.tryRecv)
  | .tryIterNext receiver => do return .next (← holding (.receiver receiver) Receiver.tryIterNext)
  | .pollNext receiver waker => do
    return .recv (← holding (.receiverMut receiver) (Receiver.pollRecv waker (.stream receiver)))
  | .cloneReceiver _ => do return .handle (← Receiver.clone)
  | .dropReceiver receiver => do
    modifyState fun state => { state with receivers := state.receivers.erase receiver }
    (Receiver.drop receiver).ensuring releaseChan
    return .unit
  | .closeReceiver receiver => do return .bool (← holding (.receiver receiver) Receiver.close)
  | .receiverLen _ => do return .size (← len)
  | .receiverIsEmpty _ => do return .bool (← isEmpty)
  | .receiverIsClosed _ => do return .bool (← Receiver.isClosed)
  | .streamIsTerminated receiver => do return .bool (← Receiver.isTerminated receiver)
  | .recv receiver => do
    let id ← freshId
    modifyState fun state =>
      { state with recvs := Function.update state.recvs id (some ⟨receiver, false, none⟩) }
    return .handle id
  | .pollRecv future waker => do
    return .recv (← holding (.recv future) (RecvFuture.poll future waker))
  | .recvIsTerminated future => do return .bool (← RecvFuture.isTerminated future)
  | .dropRecv future => do
    match (← getState).recvs future with
    | none => Prog.fault
    | some this =>
      modifyState fun state => { state with recvs := Function.update state.recvs future none }
      holding (.receiver this.receiver) (RecvFuture.drop this)
      return .unit

/-- An operation as user code runs it, with its beginning and its end in the log. -/
def perform (op : Op α) : M α Unit := do
  let start := (← Prog.read).log.length
  emit (.began op)
  match ← (body op).attempt with
  | .ok result => emit (.returned start op result)
  | .error payload =>
    emit (.unwound start op)
    Prog.unwind payload

/-- The operations that user code may start, and what they do. -/
def system (α : Type) : System (World (State α) (Op α) (Result α) α) (Callback α) Panic (Op α) where
  legal world op := world.state.Legal op
  prog := perform

/-- A new channel over some storage, with one sender and one receiver. -/
def start (flavor : Flavor α) : World (State α) (Op α) (Result α) α where
  state :=
    { chan := .new flavor, strong := 2, senders := [0], receivers := [1],
      streamWakerId := fun _ => none, recvs := fun _ => none, sends := fun _ => none, fresh := 2,
      uses := [] }
  held := []
  log := []

/-- `bounded(cap)`; the capacity is not zero. -/
def bounded (cap : Nat) (positive : 0 < cap) : World (State α) (Op α) (Result α) α :=
  start (.mkBounded cap positive)

/-- `unbounded()`. -/
def unbounded : World (State α) (Op α) (Result α) α := start .mkUnbounded

/-- The channels that `bounded` and `unbounded` create. -/
inductive New : World (State α) (Op α) (Result α) α → Prop where
  | bounded (cap : Nat) (positive : 0 < cap) : New (bounded cap positive)
  | unbounded : New unbounded

end Lochan.Mpmc
