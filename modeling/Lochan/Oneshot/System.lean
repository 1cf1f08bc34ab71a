import Lochan.Oneshot.Inner

/-!
# The oneshot channel as a system

The two handles of a oneshot channel, and every operation of user code on them, with what the
borrow checker asks of it.
-/

namespace Lochan.Oneshot

open Reentrant

variable {α β : Type}

namespace Sender

/-- Writes the value and wakes the receiver, unless that has dropped. -/
def send (value : α) : M α (Except α Unit) := do
  if (← getInner).receiverDropped then return .error value
  else
    modifyInner fun inner => { inner with value := some value }
    modifyInner fun inner => { inner with valuePresent := true }
    wakeReceiver
    return .ok ()

/-- The destructor of the sender wakes the receiver if no value is there. -/
def drop : M α Unit := do
  modifyInner fun inner => { inner with senderDropped := true }
  if !(← getInner).valuePresent then wakeReceiver
  else return

/-- Whether the receiver has begun to drop. -/
def isClosed : M α Bool := do return (← getInner).receiverDropped

end Sender

namespace Receiver

/-- The receiver has yielded its result. -/
def setDone : M α Unit := modifyState fun state => { state with done := true }

/-- Reads the value out of the slot if it is present. -/
def receive : M α (Option α) := do
  let present := (← getInner).valuePresent
  modifyInner fun inner => { inner with valuePresent := false }
  if present then
    let value ← readValue
    setDone
    return some value
  else return none

/-- Takes the value without observing that the sender dropped. -/
def takeValue : M α (Option α) := do
  if (← getState).done then return none
  else receive

/-- Takes the value without waiting. -/
def tryRecv : M α (Except Canceled (Option α)) := do
  match ← takeValue with
  | some value => return .ok (some value)
  | none =>
    if !(← getState).done && (← getInner).senderDropped then
      setDone
      return .error .mk
    else return .ok none

/-- Whether the sender has dropped. -/
def isClosed : M α Bool := do return (← getInner).senderDropped

/-- Yields the value, or that the sender dropped, or else goes on with `parked`. -/
def check (parked : M α (Poll α)) : M α (Poll α) := do
  match ← receive with
  | some value => return .ready (.ok value)
  | none =>
    if (← getInner).senderDropped then
      setDone
      return .ready (.error .mk)
    else parked

/-- Yields the result if there is one, and registers the waker otherwise. -/
def poll (waker : Waker) : M α (Poll α) := do
  if (← getState).done then return .pending
  else
    check do
      registerRecvWaker waker
      -- Registering ran user code, which may have sent the value or dropped the sender.
      check (return .pending)

/-- Whether the receiver has yielded its result. -/
def isTerminated : M α Bool := do return (← getState).done

/-- The destructor of the receiver clears the registration, and then drops the value. -/
def drop : M α Unit := do
  modifyInner fun inner => { inner with receiverDropped := true }
  clearRecvWaker
  dropValue

end Receiver

/-- Runs an operation that holds the receiver. -/
def holding (act : M α β) : M α β := do
  modifyState fun state => { state with polling := true }
  act.ensuring (modifyState fun state => { state with polling := false })

/-- Whether the borrow checker lets user code start an operation. -/
def State.Legal (state : State α) : Op α → Prop
  | .send _ | .dropSender | .senderIsClosed => state.sender = true
  | .poll _ | .tryRecv | .tryIterNext | .receiverIsClosed | .isTerminated | .dropReceiver =>
    state.receiver = true ∧ state.polling = false

instance (state : State α) (op : Op α) : Decidable (state.Legal op) := by
  cases op <;> simp only [State.Legal] <;> infer_instance

/-- What an operation does. Sending consumes the sender, which is dropped at the end. -/
def body : Op α → M α (Result α)
  | .send value => do
    modifyState fun state => { state with sender := false }
    return .send (← (Sender.send value).ensuring (Sender.drop.ensuring release))
  | .dropSender => do
    modifyState fun state => { state with sender := false }
    Sender.drop.ensuring release
    return .unit
  | .senderIsClosed => do return .bool (← Sender.isClosed)
  | .poll waker => do return .poll (← holding (Receiver.poll waker))
  | .tryRecv => do return .tryRecv (← holding Receiver.tryRecv)
  | .tryIterNext => do return .next (← holding Receiver.takeValue)
  | .receiverIsClosed => do return .bool (← Receiver.isClosed)
  | .isTerminated => do return .bool (← Receiver.isTerminated)
  | .dropReceiver => do
    modifyState fun state => { state with receiver := false }
    Receiver.drop.ensuring release
    return .unit

/-- An operation as user code runs it, with its beginning and its end in the log. -/
def perform (op : Op α) : M α Unit := do
  let start := (← Prog.read).log.length
  emit (.began op)
  match ← (body op).attempt with
  | .ok result => emit (.returned start op result)
  | .error payload =>
    emit (.unwound start op)
    Prog.unwind payload

/-- The operations that user code may start, and what they do. -/
def system (α : Type) : System (World (State α) (Op α) (Result α) α) (Callback α) Panic (Op α) where
  legal world op := world.state.Legal op
  prog := perform

instance (world : World (State α) (Op α) (Result α) α) (op : Op α) :
    Decidable ((system α).legal world op) :=
  inferInstanceAs (Decidable (world.state.Legal op))

/-- `channel()`. -/
def channel : World (State α) (Op α) (Result α) α where
  state :=
    { inner := .new, strong := 2, sender := true, receiver := true, done := false,
      polling := false }
  held := []
  log := []

end Lochan.Oneshot
