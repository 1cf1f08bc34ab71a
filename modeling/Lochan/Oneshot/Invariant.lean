import Lochan.Rules
import Lochan.Oneshot.System

/-!
# The invariant of a oneshot channel

What the log of a oneshot channel says, and what holds whenever user code is in control. The
guarantee says what an operation leaves alone while the receiver is in use.
-/

namespace Lochan.Oneshot

open Reentrant

variable {α : Type}

/-- A oneshot channel with what has happened to it. -/
abbrev Channel (α : Type) := World (State α) (Op α) (Result α) α

/-- The log of a oneshot channel. -/
abbrev Log (α : Type) := List (Event (Op α) (Result α) α)

/-! ### What the log says -/

/-- The value that an operation begins to send. -/
def Event.sent? : Event (Op α) (Result α) α → Option α
  | .began (.send value) => some value
  | _ => none

/-- The value that a send hands back. -/
def Event.rejected? : Event (Op α) (Result α) α → Option α
  | .returned _ _ (.send (.error value)) => some value
  | _ => none

/-- What a result of the receiver yields. -/
def Result.yields : Result α → Option (Except Canceled α)
  | .poll (.ready result) => some result
  | .tryRecv (.ok (some value)) => some (.ok value)
  | .tryRecv (.error error) => some (.error error)
  | .next (some value) => some (.ok value)
  | _ => none

/-- The result that an operation of the receiver yields. -/
def Event.yielded? : Event (Op α) (Result α) α → Option (Except Canceled α)
  | .returned _ _ result => result.yields
  | _ => none

/-- The values that were passed to `send`. -/
def sent (log : Log α) : List α := collect Event.sent? log

/-- The values that `send` returned. -/
def rejected (log : Log α) : List α := collect Event.rejected? log

/-- What the receiver has yielded. -/
def yielded (log : Log α) : List (Except Canceled α) := collect Event.yielded? log

/-- The values that the receiver has yielded. -/
def received (log : Log α) : List α := (yielded log).filterMap Except.toOption

/-- The number of callbacks that panicked. -/
def panics : Log α → Nat
  | .panicked _ :: log => panics log + 1
  | _ :: log => panics log
  | [] => 0

/-- The waker that the receiver waits for: its last poll returned `Pending`, and the waker of that
poll has not been invoked since. -/
def waiting : Log α → Option Waker
  | .returned _ (.poll waker) (.poll .pending) :: _ => some waker
  | .began (.poll _) :: _ | .returned _ (.poll _) _ :: _ | .unwound _ (.poll _) :: _ => none
  | .called code :: log => (waiting log).filter fun waker => code.invokes ≠ some waker
  | _ :: log => waiting log
  | [] => none

/-- A poll of the receiver begins or ends. -/
def Polls : Event (Op α) (Result α) α → Prop
  | .began (.poll _) | .returned _ (.poll _) _ | .unwound _ (.poll _) => True
  | _ => False

/-- The sender began to drop without having sent. -/
def Abandoned (log : Log α) : Prop := .began .dropSender ∈ log

/-- The receiver began to drop. -/
def Closed (log : Log α) : Prop := .began .dropReceiver ∈ log

/-- The receiver reported that the sender dropped. -/
def Reported (log : Log α) : Prop := .error .mk ∈ yielded log

/-- The log when it had the given length. -/
def past (length : Nat) (log : Log α) : Log α := log.drop (log.length - length)

/-- What an operation answers, by what had happened when it began. -/
def Answers (op : Op α) (result : Result α) (past : Log α) : Prop :=
  match op with
  | .poll _ =>
    (Abandoned past → ¬ Reported past → result = .poll (.ready (.error .mk))) ∧
      (yielded past ≠ [] → result = .poll .pending)
  | .tryRecv => Abandoned past → ¬ Reported past → result = .tryRecv (.error .mk)
  | .send value => ∀ back, result = .send (.error back) → back = value ∧ Closed past
  | _ => True

/-- Every operation has answered as it should. -/
def Lawful : Log α → Prop
  | .returned start op result :: log => Answers op result (past start log) ∧ Lawful log
  | _ :: log => Lawful log
  | [] => True

/-! ### The invariant -/

namespace State

/-- The handles that user code holds. -/
def handles (state : State α) : Nat := state.sender.toNat + state.receiver.toNat

/-- The receiver can be polled, and has not yielded. -/
def Expecting (state : State α) : Prop :=
  state.polling = false ∧ state.receiver = true ∧ state.done = false

end State

/-- The receiver is registered with this waker, and nothing has come yet. -/
structure Inner.Parked (inner : Inner α) (waker : Waker) : Prop where
  sender : inner.senderDropped = false
  value : inner.value = none
  waker : inner.recvWaker = some waker

/-- The part of the invariant that also holds before the receiver has heard of a change. -/
structure Core (channel : Channel α) : Prop where
  held : channel.held = []
  present : channel.state.inner.valuePresent = channel.state.inner.value.isSome
  single : (sent channel.log).length ≤ 1
  books : sent channel.log = rejected channel.log ++ received channel.log ++ drained channel.log ++
    channel.state.inner.value.toList
  unsent : channel.state.sender = true →
    channel.state.inner.senderDropped = false ∧ sent channel.log = [] ∧ ¬ Abandoned channel.log
  abandoned : Abandoned channel.log →
    channel.state.inner.senderDropped = true ∧ sent channel.log = []
  receiver : channel.state.receiver = !channel.state.inner.receiverDropped
  closed : Closed channel.log ↔ channel.state.inner.receiverDropped = true
  alive : channel.state.receiver = true → rejected channel.log = [] ∧ drained channel.log = []
  vacated : channel.state.inner.receiverDropped = true → channel.state.inner.recvWaker = none
  polling : channel.state.polling = true → channel.state.receiver = true
  done : channel.state.done = true ↔ yielded channel.log ≠ []
  once : (yielded channel.log).length ≤ 1
  canceled : Reported channel.log → sent channel.log = [] ∧ channel.state.sender = false
  strong : channel.state.handles ≤ channel.state.strong
  lawful : Lawful channel.log

/-- The invariant of a oneshot channel. -/
structure Inv (channel : Channel α) : Prop where
  core : Core channel
  freed : channel.state.strong = 0 → channel.state.inner.value = none
  parked : ∀ waker, waiting channel.log = some waker → channel.state.Expecting →
    channel.state.inner.Parked waker

/-- The receiver has yet to hear of a change: its waker is registered, if it waits. -/
structure Unheard (channel : Channel α) : Prop where
  core : Core channel
  freed : channel.state.strong = 0 → channel.state.inner.value = none
  parked : ∀ waker, waiting channel.log = some waker → channel.state.Expecting →
    channel.state.inner.recvWaker = some waker
  urgent : channel.state.inner.senderDropped = true ∨ channel.state.inner.value ≠ none

/-- What an operation does, seen from outside. -/
structure Guarantee (before after : Channel α) : Prop where
  log : before.log <:+ after.log
  polling : after.state.polling = before.state.polling
  done : before.state.polling = true → after.state.done = before.state.done
  sender : before.state.sender = false → after.state.sender = false
  receiver : before.state.receiver = false → after.state.receiver = false
  senderDropped : before.state.inner.senderDropped = true →
    after.state.inner.senderDropped = true
  balance : after.state.strong + before.state.handles =
    before.state.strong + after.state.handles
  value : before.state.polling = true → before.state.inner.value ≠ none →
    after.state.inner.value = before.state.inner.value
  /-- A waker is only taken from a receiver in use to wake it. -/
  waker : before.state.polling = true →
    after.state.inner.recvWaker = before.state.inner.recvWaker ∨
      after.state.inner.recvWaker = none ∧
        (after.state.inner.senderDropped = true ∨ after.state.inner.value ≠ none)

end Lochan.Oneshot
