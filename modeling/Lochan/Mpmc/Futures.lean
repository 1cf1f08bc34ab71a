import Lochan.Mpmc.Channel

/-!
# The futures of an mpmc channel

The send and the receive future, as `poll`, `is_terminated` and their destructors
drive them.
-/

namespace Lochan.Mpmc

open Reentrant

variable {α : Type}

namespace SendFuture

/-- Changes the state of a send future. -/
def update (future : Nat) (change : Send α → Send α) : M α Unit :=
  modifyState (·.updateSend future change)

/-- Takes the message out of a future that is not done. -/
def takeItem (future : Nat) : M α α := do
  let item := ((← getState).sends future).bind Send.item
  update future fun this => { this with item := none }
  expect "message present" item

/-- What follows on a committed outcome: the receivers are woken if the item was pushed,
and this future's registration is removed, also when a receiver's waker panics. -/
def effects (future : Nat) (pushed : Bool) (id : Option UInt64) :
    M α (Poll (Except (SendError α) Unit)) := do
  Prog.ensuring (if pushed then wakeReceivers else return) (removeSend id)
  let outcome := ((← getState).sends future).bind Send.outcome
  update future fun this => { this with outcome := none }
  return .ready (← expect "committed outcome" outcome)

/-- Commits the outcome, before any user code runs, and then runs its effects. -/
def commit (future : Nat) (result : Except (SendError α) Unit) :
    M α (Poll (Except (SendError α) Unit)) := do
  update future fun this => { this with done := true, outcome := some result }
  emit (.committed future result.toBool)
  let id ← takeWakerId (.send future)
  effects future result.toBool id

/-- Fails the send if the channel rejects it. Otherwise pushes the message and commits,
or hands the message back to the future and goes on with `parked`. -/
def attemptPush (future : Nat) (parked : M α (Poll (Except (SendError α) Unit))) :
    M α (Poll (Except (SendError α) Unit)) := do
  if (← getChan).rejecting then
    let item ← takeItem future
    commit future (.error ⟨item⟩)
  else
    let item ← takeItem future
    match ← tryPush item (some future) with
    | .ok _ => commit future (.ok ())
    | .error item =>
      update future fun this => { this with item := some item }
      parked

/-- Pushes the item, or parks the task; a committed outcome is returned without further ado. -/
def poll (future : Nat) (waker : Waker) : M α (Poll (Except (SendError α) Unit)) := do
  match (← getState).sends future with
  | none => Prog.fault
  | some this =>
    match this.outcome with
    | some outcome =>
      -- A prior poll committed, but unwound before it could return.
      update future fun this => { this with outcome := none }
      return .ready outcome
    | none =>
      if this.done then return .pending
      else
        attemptPush future do
          removeSend (← takeWakerId (.send future))
          let id ← addSendWaker waker
          setWakerId (.send future) id
          -- Registering ran user code, which may have freed a slot or closed.
          attemptPush future (return .pending)

/-- Terminated once the outcome was returned. -/
def isTerminated (future : Nat) : M α Bool := do
  match (← getState).sends future with
  | none => Prog.fault
  | some this => return this.done && this.outcome.isNone

/-- Removes the registration, and drops the fields. -/
def drop (this : Send α) : M α Unit :=
  dropGlue (removeSend this.wakerId)
    (dropGlue (dropItems this.item.toList) (dropItems this.unsent.toList))

end SendFuture

namespace RecvFuture

/-- Receives through the state machine of the receiver; a completed future stays pending. -/
def poll (future : Nat) (waker : Waker) : M α (Poll (Option α)) := do
  match (← getState).recvs future with
  | none => Prog.fault
  | some this =>
    if this.done then
      -- A completion may have left its registration behind: clear it once.
      match ← takeWakerId (.recv future) with
      | some id =>
        removeRecvWaker id
        callback (.wakeByRef waker)
        return .pending
      | none => return .pending
    else
      let polled ← Receiver.pollRecv waker (.recv future)
      match polled with
      | .ready item =>
        modifyState (·.updateRecv future fun this => { this with done := true })
        return .ready item
      | .pending => return .pending

/-- Terminated once the future has completed and left no registration behind. -/
def isTerminated (future : Nat) : M α Bool := do
  match (← getState).recvs future with
  | none => Prog.fault
  | some this => return this.done && this.wakerId.isNone

/-- Removes the registration. -/
def drop (this : Recv) : M α Unit := removeRecv this.wakerId

end RecvFuture

end Lochan.Mpmc
