import Lochan.History
import Lochan.Ticket
import Lochan.Mpmc.Primitives

/-!
# The invariant of an mpmc channel

`Inv` holds whenever user code is in control: between operations and inside every
callback. `Guarantee` relates the state in which a callback is entered, or an operation
starts, to the one in which it is left. What only holds between operations (that every
registration belongs to a live task, that no wake-up is lost) is not in the invariant:
the guarantee says that operations add no exception to it.
-/

namespace Lochan.Mpmc

open Reentrant

variable {α : Type}

/-- What user code refrains from. -/
structure Manners where
  /-- Panics are calm everywhere. -/
  calm : Prop
  /-- Waking a parked sender does not panic. -/
  quiet : Prop
  /-- At most one kind of panic occurs in the drop of the receiver. -/
  calmDrop : Nat → Prop

namespace State

/-- The registrations of a side. -/
def wakers (state : State α) : Side → List (UInt64 × Waker)
  | .receivers => state.chan.recvWakers
  | .senders => state.chan.sendWakers

/-- The next registration id of a half of the channel. -/
def nextId (state : State α) : Side → UInt64
  | .receivers => state.chan.nextRecvId
  | .senders => state.chan.nextSendId

/-- The registration id that a task holds on a side. -/
def idOf (state : State α) : Side → Owner → Option UInt64
  | .receivers, .stream receiver => state.streamWakerId receiver
  | .receivers, .recv future => (state.recvs future).bind Recv.wakerId
  | .senders, .send future => (state.sends future).bind Send.wakerId
  | _, _ => none

/-- The task is alive and has not completed. -/
def Unfinished (state : State α) : Owner → Prop
  | .stream receiver => receiver ∈ state.receivers
  | .recv future => ∃ this, state.recvs future = some this ∧ this.done = false
  | .send future => ∃ this, state.sends future = some this ∧ this.done = false

/-- What a reference refers to is alive. -/
def RefLive (state : State α) : Ref → Prop
  | .sender sender => sender ∈ state.senders
  | .receiver receiver | .receiverMut receiver => receiver ∈ state.receivers
  | .recv future => (state.recvs future).isSome
  | .send future => (state.sends future).isSome

/-- The handles that user code holds. -/
def handles (state : State α) : Nat := state.senders.length + state.receivers.length

/-- An operation in progress uses a receiver. -/
def Receiving (state : State α) : Prop :=
  ∃ ref ∈ state.uses, match ref with
    | .receiver _ | .receiverMut _ | .recv _ => True
    | _ => False

end State

/-- Replaces the registrations of a side. -/
def Chan.setWakers (chan : Chan α) : Side → List (UInt64 × Waker) → Chan α
  | .receivers, wakers => { chan with recvWakers := wakers }
  | .senders, wakers => { chan with sendWakers := wakers }

/-- Replaces the next registration id of a side. -/
def Chan.setNextId (chan : Chan α) : Side → UInt64 → Chan α
  | .receivers, id => { chan with nextRecvId := id }
  | .senders, id => { chan with nextSendId := id }

/-- No item is pushed any more. -/
def Chan.sealed (chan : Chan α) : Bool :=
  chan.closed || chan.senders == 0 || chan.receivers == 0

/-- The registry of a half of the channel, with the ids that its tasks keep. -/
def ledger (channel : Channel α) (side : Side) : Ticket.Ledger Owner Waker where
  entries := channel.state.wakers side
  ids := channel.state.idOf side
  issued := registrations side channel.log

/-- The task is registered with this waker. -/
def Parked (channel : Channel α) (owner : Owner) (waker : Waker) : Prop :=
  ∃ id, channel.state.idOf owner.side owner = some id ∧
    (id, waker) ∈ channel.state.wakers owner.side

/-- The task waits for this waker and is not registered with it. -/
def Missing (channel : Channel α) (owner : Owner) (waker : Waker) : Prop :=
  waiting owner channel.log = some waker ∧ channel.state.Unfinished owner ∧
    ¬ Parked channel owner waker

/-- A report that a send future has terminated says that its result was returned. -/
def SendOver (future : Nat) (log : Log α) : Prop := Resolved (.send future) log

/-! ### The invariant -/

/-- Where the items are, and what the log says about the state. -/
structure Books (manners : Manners) (channel : Channel α) : Prop where
  fifo : accepted channel.log =
    delivered channel.log ++ drained channel.log ++ channel.state.chan.contents
  undrained : channel.state.chan.receivers ≠ 0 → drained channel.log = []
  shut : Shut channel.log ↔ channel.state.chan.rejecting = true
  last : ∀ receiver, LastReceiver receiver channel.log → channel.state.chan.receivers = 0
  sole : ∀ first second, LastReceiver first channel.log → LastReceiver second channel.log →
    first = second
  released : Released channel.log → channel.state.chan.contents = []
  observed : Observed channel.log →
    channel.state.chan.disconnected = true ∧ channel.state.chan.contents = []
  terminal : ∀ receiver, Terminal receiver channel.log → Observed channel.log ∧
    channel.state.streamWakerId receiver = none
  lawful : Lawful SendOver channel.log
  quiet : manners.quiet → ¬ Deserted channel.log
  prompt : ∀ receiver, manners.calmDrop receiver → LastReceiver receiver channel.log →
    Prompt channel.log

/-- The handles and references of user code. -/
structure Handles (channel : Channel α) : Prop where
  senders : channel.state.chan.senders = channel.state.senders.length
  receivers : channel.state.chan.receivers = channel.state.receivers.length
  nodup : channel.state.receivers.Nodup
  below : ∀ receiver ∈ channel.state.receivers, receiver < channel.state.fresh
  send : ∀ future this, channel.state.sends future = some this →
    this.sender ∈ channel.state.senders ∧ future < channel.state.fresh
  recv : ∀ future this, channel.state.recvs future = some this →
    this.receiver ∈ channel.state.receivers ∧ future < channel.state.fresh
  stream : ∀ receiver id, channel.state.streamWakerId receiver = some id →
    receiver ∈ channel.state.receivers
  uses : ∀ ref ∈ channel.state.uses, channel.state.RefLive ref
  strong : channel.state.handles ≤ channel.state.strong
  /-- No receiver is being dropped: the last one has emptied the channel. -/
  settled : channel.state.strong = channel.state.handles → channel.state.receivers = [] →
    channel.state.chan.contents = []
  waiting : ∀ owner waker, waiting owner channel.log = some waker →
    owner.index < channel.state.fresh

/-- The futures, and what the log says about them. -/
structure Futures (channel : Channel α) : Prop where
  unsent : ∀ future this, channel.state.sends future = some this → this.done = false →
    this.item.isSome ∧ this.outcome = none ∧ ¬ Committed future channel.log ∧
      ∀ item, Created future item channel.log → this.item = some item
  sent : ∀ future this, channel.state.sends future = some this → this.done = true →
    this.wakerId = none ∧ Committed future channel.log
  outcome : ∀ future this result, channel.state.sends future = some this →
    this.outcome = some result → Accounts future result channel.log
  pushed : ∀ future, Pushed future channel.log → Committed future channel.log
  resolved : ∀ future, Resolved (.send future) channel.log → Committed future channel.log
  answered : ∀ future this, channel.state.sends future = some this →
    .send future ∉ channel.state.uses → this.done = true →
    (this.outcome = none ↔ Resolved (.send future) channel.log)
  polled : ∀ future this, channel.state.recvs future = some this → this.done = true →
    Polled future channel.log
  received : ∀ future this, channel.state.recvs future = some this →
    .recv future ∉ channel.state.uses →
    (this.done = true ↔ Resolved (.recv future) channel.log)
  created : ∀ future item, Created future item channel.log → future < channel.state.fresh
  committed : ∀ future, Committed future channel.log → future < channel.state.fresh
  completed : ∀ future, Resolved (.recv future) channel.log → future < channel.state.fresh

/-- The registration ids. -/
structure Registries (channel : Channel α) : Prop where
  next : ∀ side, channel.state.nextId side = UInt64.ofNat (registrations side channel.log)
  tickets : Fits channel.log → ∀ side, (ledger channel side).Sound

/-- The part of the invariant that also holds while the parked tasks have yet to hear of a
change. -/
structure Core (manners : Manners) (channel : Channel α) : Prop where
  held : channel.held = []
  books : Books manners channel
  handles : Handles channel
  futures : Futures channel
  registries : Registries channel

/-- Receivers are parked only while there is nothing to receive. -/
structure RecvQuiet (channel : Channel α) : Prop where
  disconnected : channel.state.chan.disconnected = true → channel.state.chan.recvWakers = []
  empty : Fits channel.log → ∀ owner waker, owner.side = .receivers →
    owner.ref ∉ channel.state.uses → waiting owner channel.log = some waker →
    channel.state.Unfinished owner → Parked channel owner waker →
    channel.state.chan.contents = []

/-- Senders are parked only while the queue is full. -/
def SendQuiet (channel : Channel α) : Prop :=
  Fits channel.log → ∀ owner waker, owner.side = .senders →
    owner.ref ∉ channel.state.uses → waiting owner channel.log = some waker →
    channel.state.Unfinished owner → Parked channel owner waker →
    channel.state.chan.flavor.isFull = true

/-- The invariant of an mpmc channel. -/
structure Inv (manners : Manners) (channel : Channel α) : Prop where
  core : Core manners channel
  recvQuiet : RecvQuiet channel
  sendQuiet : SendQuiet channel

/-! ### The guarantee -/

/-- What an operation that polls `own`, if any, does to everything else. -/
structure Evolves (manners : Manners) (own : Option Owner) (before after : Channel α) : Prop where
  log : before.log <:+ after.log
  uses : after.state.uses = before.state.uses
  fresh : before.state.fresh ≤ after.state.fresh
  closed : before.state.chan.closed = true → after.state.chan.closed = true
  senders : before.state.chan.senders = 0 → after.state.chan.senders = 0
  receivers : before.state.chan.receivers = 0 → after.state.chan.receivers = 0
  empty : before.state.chan.sealed = true → before.state.chan.contents = [] →
    after.state.chan.contents = []
  slot : before.state.chan.receivers = 0 → before.state.chan.redelivery = none →
    after.state.chan.redelivery = none
  cap : after.state.chan.flavor.cap = before.state.chan.flavor.cap
  /-- An item leaves the redelivery slot only for good. -/
  parked : ∀ item, before.state.chan.redelivery = some item →
    after.state.chan.redelivery = some item ∨ removals before.log < removals after.log
  gone : ∀ receiver < before.state.fresh, receiver ∉ before.state.receivers →
    receiver ∉ after.state.receivers ∧
      (LastReceiver receiver after.log → LastReceiver receiver before.log)
  sends : ∀ future, .send future ∈ before.state.uses → own ≠ some (.send future) →
    after.state.sends future = before.state.sends future
  recvs : ∀ future, .recv future ∈ before.state.uses → own ≠ some (.recv future) →
    after.state.recvs future = before.state.recvs future
  streams : ∀ receiver, .receiverMut receiver ∈ before.state.uses →
    own ≠ some (.stream receiver) →
    after.state.streamWakerId receiver = before.state.streamWakerId receiver
  waiting : ∀ owner, owner.ref ∈ before.state.uses → ∀ waker,
    waiting owner after.log = some waker → waiting owner before.log = some waker
  terminal : ∀ receiver, .receiverMut receiver ∈ before.state.uses →
    Terminal receiver after.log → Terminal receiver before.log
  resolved : ∀ owner, owner.ref ∈ before.state.uses → Resolved owner after.log →
    Resolved owner before.log
  tickets : Fits after.log → ∀ side, (ledger before side).Follows (ledger after side)
  missing : manners.calm → Fits after.log → ∀ owner waker, own ≠ some owner →
    Missing after owner waker → Missing before owner waker

/-- What an operation that polls `own`, if any, does, seen from outside, except for the
registration `spare`. -/
structure Guarantee (manners : Manners) (own : Option Owner) (spare : Option (Side × UInt64))
    (before after : Channel α) : Prop where
  evolves : Evolves manners own before after
  balance : after.state.strong + before.state.handles = before.state.strong + after.state.handles
  emptied : before.state.chan.receivers ≠ 0 → after.state.chan.receivers = 0 →
    after.state.chan.contents = []
  /-- Only a receive that unwound out of a wake leaves an item in the redelivery slot. -/
  occupied : after.state.chan.redelivery ≠ none → Stranded after.log ∨
    (before.state.chan.redelivery ≠ none ∧ receipts after.log = receipts before.log)
  orphans : Fits after.log → ∀ side entry, spare ≠ some (side, entry.1) →
    (ledger after side).Orphan entry → (ledger before side).Orphan entry
  stuck : Fits after.log → after.state.chan.rejecting = true →
    ∀ entry ∈ after.state.chan.sendWakers, spare ≠ some (.senders, entry.1) →
      before.state.chan.rejecting = true ∧ entry ∈ before.state.chan.sendWakers

end Lochan.Mpmc
