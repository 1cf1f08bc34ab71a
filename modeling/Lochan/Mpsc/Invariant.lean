import Lochan.History
import Lochan.Ticket
import Lochan.Mpsc.Primitives

/-!
# The invariant of an mpsc channel

`Inv` holds whenever user code is in control. `Guarantee` relates the state in which a callback
is entered, or an operation starts, to the one in which it is left. That the receiver hears of
every change, and that a terminal channel keeps no waker, only holds between operations, and
not everywhere: the guarantee says that operations add no exception where user code keeps its
manners.
-/

namespace Lochan.Mpsc

open Reentrant

variable {α : Type}

/-- What user code refrains from. -/
structure Manners where
  /-- Waking a parked sender does not panic in a receive. -/
  quiet : Prop
  /-- Waking a parked sender does not panic in the drop of the receiver while a waker is
  registered for the receiver. -/
  tidy : Prop
  /-- Nothing panics in a poll of a send future that has committed. -/
  faithful : Prop
  /-- Dropping the waker of a send future that has committed neither panics nor removes or replaces
  the waker of the receiver. -/
  prompt : Prop
  /-- Nothing panics, and no receive future that has not completed is dropped while the
  receiver waits as a stream. -/
  orderly : Prop
  /-- At most one kind of panic occurs in the drop of the receiver. -/
  calmDrop : Nat → Prop

/-! ### What the log says -/

/-- The task of the receiver that an operation polls, and the waker it is polled with. -/
def pollsReceiver : Op α → Option (Owner × Waker)
  | .pollNext receiver waker => some (.stream receiver, waker)
  | .pollRecv future waker => some (.recv future, waker)
  | _ => none

/-- The task that the receiver was last polled by, with its waker, if that poll returned
`Pending` and the waker has not been invoked since. -/
def expecting : Log α → Option (Owner × Waker)
  | .returned _ op result :: log =>
    match pollsReceiver op with
    | some polled => if result.isPending then some polled else none
    | none => expecting log
  | .began op :: log | .unwound _ op :: log =>
    if (pollsReceiver op).isSome then none else expecting log
  | .called code :: log => (expecting log).filter fun polled => code.invokes ≠ some polled.2
  | _ :: log => expecting log
  | [] => none

/-- The waker that was registered for the receiver when the last item was pushed. -/
def watched : Log α → Option Waker
  | .watched waker :: _ => waker
  | _ => none

/-- The waker that was registered for the receiver when the send future pushed its item, if it
has not been invoked since and the receiver has not begun to drop. -/
def owed (future : Nat) : Log α → Option Waker
  | .pushed (some sent) _ :: log => if sent = future then watched log else owed future log
  | .called code :: log => (owed future log).filter fun waker => code.invokes ≠ some waker
  | .lastReceiver _ _ _ :: _ => none
  | _ :: log => owed future log
  | [] => none

/-- Every poll of a send future that pushed its item has woken the receiver when it ended. -/
def Notified : Log α → Prop
  | .returned _ (.pollSend future _) _ :: log | .unwound _ (.pollSend future _) :: log =>
    owed future log = none ∧ Notified log
  | _ :: log => Notified log
  | [] => True

/-- A report that a send future has terminated says that it has committed. -/
def SendOver (manners : Manners) (future : Nat) (log : Log α) : Prop :=
  Committed future log ∧ (manners.faithful → Resolved (.send future) log)

/-! ### What the state says -/

/-- The reference uses the receiver exclusively. -/
def exclusive : Ref → Prop
  | .receiverMut _ | .recv _ => True
  | _ => False

namespace State

/-- The registration id of a send future. -/
def idOf (state : State α) (future : Nat) : Option UInt64 :=
  (state.sends future).bind Send.wakerId

/-- What a reference refers to is alive. -/
def RefLive (state : State α) : Ref → Prop
  | .sender sender => sender ∈ state.senders
  | .receiver receiver | .receiverMut receiver => state.receiver = some receiver
  | .recv future => (state.recvs future).isSome
  | .send future => (state.sends future).isSome

/-- The handles that user code holds. -/
def handles (state : State α) : Nat := state.senders.length + state.receiver.toList.length

/-- An operation in progress uses the receiver exclusively. -/
def InUse (state : State α) : Prop := ∃ ref ∈ state.uses, exclusive ref

/-- The task can still be polled. -/
def Awaits (state : State α) : Owner → Prop
  | .stream receiver => state.receiver = some receiver
  | .recv future => (state.recvs future).isSome
  | .send _ => False

end State

/-- No item is pushed any more. -/
def Chan.sealed (chan : Chan α) : Bool := chan.terminal

/-- The registry of the parked senders, with the ids that the futures keep. -/
def ledger (channel : Channel α) : Ticket.Ledger Nat Waker where
  entries := channel.state.chan.sendWakers
  ids := channel.state.idOf
  issued := registrations .senders channel.log

/-- The receiver waits for this waker and is not registered with it. -/
structure Missing (channel : Channel α) (owner : Owner) (waker : Waker) : Prop where
  expects : expecting channel.log = some (owner, waker)
  awaits : channel.state.Awaits owner
  unparked : channel.state.chan.recvWaker ≠ some waker

/-- There is something to receive, or there is nothing to come. -/
def Chan.urgent (chan : Chan α) : Prop := chan.contents ≠ [] ∨ chan.disconnected = true

/-- The receiver waits although there is something to hear of. -/
structure Exposed (channel : Channel α) (owner : Owner) (waker : Waker) : Prop where
  expects : expecting channel.log = some (owner, waker)
  awaits : channel.state.Awaits owner
  urgent : channel.state.chan.urgent

/-- A terminal channel keeps the waker of the receiver. -/
structure Retained (chan : Chan α) : Prop where
  waker : chan.recvWaker ≠ none
  terminal : chan.terminal = true

/-! ### The invariant -/

/-- Where the items are, and what the log says about the state. -/
structure Books (manners : Manners) (channel : Channel α) : Prop where
  fifo : accepted channel.log =
    delivered channel.log ++ drained channel.log ++ channel.state.chan.contents
  undrained : channel.state.chan.receiverAlive = true → drained channel.log = []
  shut : Shut channel.log ↔ channel.state.chan.rejecting = true
  last : ∀ receiver, LastReceiver receiver channel.log → channel.state.chan.receiverAlive = false
  sole : ∀ first second, LastReceiver first channel.log → LastReceiver second channel.log →
    first = second
  released : Released channel.log → channel.state.chan.contents = []
  observed : Observed channel.log →
    channel.state.chan.disconnected = true ∧ channel.state.chan.contents = []
  terminal : ∀ receiver, Terminal receiver channel.log → Observed channel.log
  lawful : Lawful (SendOver manners) channel.log
  drains : ∀ receiver, manners.calmDrop receiver → LastReceiver receiver channel.log →
    Prompt channel.log
  received : manners.quiet → ¬ channel.state.InUse → received channel.log = delivered channel.log
  notified : manners.prompt → Notified channel.log

/-- The handles and references of user code. -/
structure Handles (channel : Channel α) : Prop where
  senders : channel.state.chan.senders = channel.state.senders.length
  receiver : channel.state.chan.receiverAlive = channel.state.receiver.isSome
  below : ∀ receiver, channel.state.receiver = some receiver → receiver < channel.state.fresh
  send : ∀ future this, channel.state.sends future = some this →
    this.sender ∈ channel.state.senders ∧ future < channel.state.fresh
  recv : ∀ future this, channel.state.recvs future = some this →
    channel.state.receiver = some this.receiver ∧ future < channel.state.fresh
  single : ∀ first second, (channel.state.recvs first).isSome →
    (channel.state.recvs second).isSome → first = second
  unborrowed : ∀ receiver, .receiverMut receiver ∈ channel.state.uses →
    ∀ future, channel.state.recvs future = none
  uses : ∀ ref ∈ channel.state.uses, channel.state.RefLive ref
  strong : channel.state.handles ≤ channel.state.strong
  /-- The receiver is not being dropped: it has emptied the channel. -/
  settled : channel.state.strong = channel.state.handles → channel.state.receiver = none →
    channel.state.chan.contents = []
  expecting : ∀ owner waker, expecting channel.log = some (owner, waker) →
    owner.index < channel.state.fresh

/-- The send futures, and what the log says about them. -/
structure Futures (manners : Manners) (channel : Channel α) : Prop where
  unsent : ∀ future this, channel.state.sends future = some this → this.done = false →
    this.item.isSome ∧ this.outcome = none ∧ ¬ Committed future channel.log ∧
      ∀ item, Created future item channel.log → this.item = some item
  sent : ∀ future this, channel.state.sends future = some this → this.done = true →
    this.wakerId = none ∧ Committed future channel.log
  outcome : ∀ future this result, channel.state.sends future = some this →
    this.outcome = some result → Accounts future result channel.log
  pushed : ∀ future, Pushed future channel.log → Committed future channel.log
  resolved : ∀ future, Resolved (.send future) channel.log → Committed future channel.log
  answered : ∀ future this, channel.state.sends future = some this →
    .send future ∉ channel.state.uses → this.done = true →
    (this.outcome = none ↔ Resolved (.send future) channel.log)
  created : ∀ future item, Created future item channel.log → future < channel.state.fresh
  committed : ∀ future, Committed future channel.log → future < channel.state.fresh
  faithful : manners.faithful → ∀ future, .send future ∉ channel.state.uses →
    Committed future channel.log → Resolved (.send future) channel.log
  notified : manners.prompt → ∀ future, .send future ∉ channel.state.uses →
    owed future channel.log = none

/-- The registrations of the parked senders: each belongs to a live send future. -/
structure Registry (channel : Channel α) : Prop where
  next : channel.state.chan.nextSendId = UInt64.ofNat (registrations .senders channel.log)
  tickets : Fits channel.log → (ledger channel).Sound
  owned : Fits channel.log → ∀ entry ∈ channel.state.chan.sendWakers,
    ∃ future, channel.state.idOf future = some entry.1

/-- The invariant of an mpsc channel. -/
structure Inv (manners : Manners) (channel : Channel α) : Prop where
  held : channel.held = []
  books : Books manners channel
  handles : Handles channel
  futures : Futures manners channel
  registry : Registry channel

/-! ### The guarantee -/

/-- What is kept while the receiver is in use by somebody else. -/
structure Reserved (before after : Channel α) : Prop where
  delivered : delivered after.log = delivered before.log
  received : received after.log = received before.log
  expects : ∀ polled, expecting after.log = some polled → expecting before.log = some polled
  contents : before.state.chan.contents <+: after.state.chan.contents
  waker : after.state.chan.recvWaker = before.state.chan.recvWaker ∨
    after.state.chan.recvWaker = none ∧ after.state.chan.urgent

/-- What an operation that polls `own`, if any, does to everything else. -/
structure Evolves (manners : Manners) (own : Option Owner) (before after : Channel α) : Prop where
  log : before.log <:+ after.log
  uses : after.state.uses = before.state.uses
  fresh : before.state.fresh ≤ after.state.fresh
  closed : before.state.chan.closed = true → after.state.chan.closed = true
  senders : before.state.chan.senders = 0 → after.state.chan.senders = 0
  receiver : before.state.chan.receiverAlive = false → after.state.chan.receiverAlive = false
  empty : before.state.chan.sealed = true → before.state.chan.contents = [] →
    after.state.chan.contents = []
  sends : ∀ future, .send future ∈ before.state.uses → own ≠ some (.send future) →
    after.state.sends future = before.state.sends future
  recvs : ∀ future, .recv future ∈ before.state.uses → own ≠ some (.recv future) →
    after.state.recvs future = before.state.recvs future
  reserved : before.state.InUse → (∀ owner, own = some owner → owner.side = .senders) →
    Reserved before after
  resolved : ∀ owner, owner.ref ∈ before.state.uses → Resolved owner after.log →
    Resolved owner before.log
  committed : ∀ future, .send future ∈ before.state.uses → own ≠ some (.send future) →
    Committed future after.log → Committed future before.log
  owed : ∀ future, .send future ∈ before.state.uses → own ≠ some (.send future) →
    ∀ waker, owed future after.log = some waker → owed future before.log = some waker
  missing : manners.orderly → ∀ owner waker, Missing after owner waker →
    Missing before owner waker

/-- The shares, the items and the parked senders before and after an operation. -/
structure Tally (before after : Channel α) : Prop where
  balance : after.state.strong + before.state.handles = before.state.strong + after.state.handles
  emptied : before.state.chan.receiverAlive = true → after.state.chan.receiverAlive = false →
    after.state.chan.contents = []
  stuck : Fits after.log → after.state.chan.rejecting = true →
    ∀ entry ∈ after.state.chan.sendWakers,
      before.state.chan.rejecting = true ∧ entry ∈ before.state.chan.sendWakers

/-- What an operation that polls `own`, if any, does, seen from outside. -/
structure Guarantee (manners : Manners) (own : Option Owner) (before after : Channel α) : Prop where
  evolves : Evolves manners own before after
  tally : Tally before after
  retained : manners.tidy → Retained after.state.chan → Retained before.state.chan
  exposed : manners.orderly → ∀ owner waker, Exposed after owner waker →
    Exposed before owner waker ∨ Missing before owner waker

end Lochan.Mpsc
