import Lochan.Rules
import Lochan.Mpmc.System

/-!
# The accesses to an mpmc channel

What the accesses that run no user code do, outside every borrow: the observers, the
queue with its redelivery slot, and the swapping out of the registries.
-/

namespace Lochan.Mpmc

open Reentrant Queue

variable {α β : Type}

/-- An mpmc channel with what has happened to it. -/
abbrev Channel (α : Type) := World (State α) (Op α) (Result α) α

section Rules

variable {contract : Prog.Contract (Channel α) (Callback α) Panic}
  {exc : Panic → Channel α → Prop} {channel : Channel α}

/-- The rule for reading the shared core. -/
@[simp] theorem wp_getChan {post : Chan α → Channel α → Prop} :
    (getChan : M α (Chan α)).wp contract post exc =
      fun channel => post channel.state.chan channel := rfl

/-- The rule for writing the shared core. -/
@[simp] theorem wp_modifyChan {post : Unit → Channel α → Prop} (update : Chan α → Chan α) :
    (modifyChan update : M α Unit).wp contract post exc = fun channel =>
      post () (channel.onState (·.onChan update)) := rfl

/-- Taking a registration id leaves none behind. -/
@[simp] theorem wp_takeWakerId {post : Option UInt64 → Channel α → Prop} (owner : Owner) :
    (takeWakerId owner : M α (Option UInt64)).wp contract post exc = fun channel =>
      post (channel.state.wakerId owner) (channel.onState (·.setWakerId none owner)) := rfl

/-- The rule for keeping a registration id. -/
@[simp] theorem wp_setWakerId {post : Unit → Channel α → Prop} (owner : Owner) (id : UInt64) :
    (setWakerId owner id : M α Unit).wp contract post exc = fun channel =>
      post () (channel.onState (·.setWakerId (some id) owner)) := rfl

/-- The capacity is the one of the queue. -/
theorem wp_cap {post : Option Nat → Channel α → Prop} (clear : channel.held = []) :
    (cap : M α (Option Nat)).wp contract post exc channel =
      post channel.state.chan.flavor.cap channel := by
  obtain ⟨state, held, log⟩ := channel
  subst clear
  simp [cap, wp_borrowing]

/-- The channel is full when the queue is. -/
theorem wp_isFull {post : Bool → Channel α → Prop} (clear : channel.held = []) :
    (isFull : M α Bool).wp contract post exc channel =
      post channel.state.chan.flavor.isFull channel := by
  obtain ⟨state, held, log⟩ := channel
  subst clear
  simp [isFull, wp_borrowing]

/-- A sender is parked when the registry is not empty. -/
theorem wp_hasParkedSenders {post : Bool → Channel α → Prop} (clear : channel.held = []) :
    (hasParkedSenders : M α Bool).wp contract post exc channel =
      post (!channel.state.chan.sendWakers.isEmpty) channel := by
  obtain ⟨state, held, log⟩ := channel
  subst clear
  simp [hasParkedSenders, wp_borrowing]

/-- Taking the item out of the redelivery slot. -/
theorem wp_takeRedelivery {post : Option α → Channel α → Prop} (clear : channel.held = [])
    (vacant : channel.state.chan.redelivery = none → post none channel)
    (parked : ∀ item, channel.state.chan.redelivery = some item → post (some item)
      (channel.onState (·.onChan fun chan => { chan with redelivery := none }))) :
    (takeRedelivery : M α (Option α)).wp contract post exc channel := by
  obtain ⟨state, held, log⟩ := channel
  subst clear
  simp [takeRedelivery, wp_borrowing]
  cases found : state.chan.redelivery with
  | some item => exact parked item found
  | none =>
      have same : state.onChan (fun chan => { chan with redelivery := none }) = state := by
        obtain ⟨chan, strong, senders, receivers, stream, recvs, sends, fresh, uses⟩ := state
        simp [State.onChan, ← found]
      rw [same]
      exact vacant found

/-- The number of items counts the one in the redelivery slot. -/
theorem wp_len {post : Nat → Channel α → Prop} (clear : channel.held = []) :
    (len : M α Nat).wp contract post exc channel =
      post channel.state.chan.contents.length channel := by
  obtain ⟨state, held, log⟩ := channel
  subst clear
  cases parked : state.chan.redelivery <;>
    simp [len, borrowing, parked, Chan.contents, Flavor.len_eq, Nat.add_comm]

/-- The channel is empty when neither the redelivery slot nor the queue holds an item. -/
theorem wp_isEmpty {post : Bool → Channel α → Prop} (clear : channel.held = []) :
    (isEmpty : M α Bool).wp contract post exc channel =
      post channel.state.chan.contents.isEmpty channel := by
  obtain ⟨state, held, log⟩ := channel
  subst clear
  cases parked : state.chan.redelivery <;>
    simp [isEmpty, borrowing, parked, Chan.contents, Flavor.isEmpty_eq]

/-- A push appends the item if there is room, and changes nothing otherwise. -/
theorem wp_tryPush {post : Except α Unit → Channel α → Prop} (clear : channel.held = []) {item : α}
    {future : Option Nat}
    (full : channel.state.chan.flavor.isFull = true → post (.error item) channel)
    (room : ∀ pushed : Flavor α, channel.state.chan.flavor.isFull = false →
      pushed.toList = channel.state.chan.flavor.toList ++ [item] →
      pushed.cap = channel.state.chan.flavor.cap →
      post (.ok ()) ((channel.onState (·.onChan fun chan => { chan with flavor := pushed })).logged
        (.pushed future item))) :
    (tryPush item future : M α (Except α Unit)).wp contract post exc channel := by
  obtain ⟨state, held, log⟩ := channel
  subst clear
  cases capacity : state.chan.flavor.isFull with
  | true =>
      simp [tryPush, wp_borrowing, Flavor.tryPush_full capacity]
      exact full capacity
  | false =>
      obtain ⟨pushed, accepts, contents, size⟩ := Flavor.tryPush_room capacity item
      simp [tryPush, wp_borrowing, accepts]
      exact room pushed capacity contents size

/-- A pop takes the oldest item out of the queue; freeing storage runs no user code. -/
theorem wp_pop {post : Option α → Channel α → Prop} (clear : channel.held = [])
    (pops : ∀ popped : Flavor α, popped.toList = channel.state.chan.flavor.toList.tail →
      popped.cap = channel.state.chan.flavor.cap →
      post channel.state.chan.flavor.toList.head?
        (channel.onState (·.onChan fun chan => { chan with flavor := popped }))) :
    (pop : M α (Option α)).wp contract post exc channel := by
  obtain ⟨state, held, log⟩ := channel
  subst clear
  obtain ⟨popped, takes, contents, capacity⟩ := state.chan.flavor.pop_eq
  simp [pop, wp_borrowing, takes, dropItems]
  exact pops popped contents capacity

/-- Parking an item in the empty redelivery slot runs no user code. -/
theorem wp_setRedelivery {post : Unit → Channel α → Prop} (clear : channel.held = []) {item : α}
    (vacant : channel.state.chan.redelivery = none)
    (parks : post () (channel.onState
      (·.onChan fun chan => { chan with redelivery := some item }))) :
    (setRedelivery item : M α Unit).wp contract post exc channel := by
  obtain ⟨state, held, log⟩ := channel
  subst clear
  simp only at vacant
  simp [setRedelivery, wp_borrowing, vacant, dropItems]
  exact parks

/-- The receivers are woken after their registry was emptied. -/
theorem wp_wakeReceivers {post : Unit → Channel α → Prop} (clear : channel.held = [])
    (none : channel.state.chan.recvWakers = [] → post () channel)
    (wakes : (wakeAll .receivers channel.state.chan.recvWakers).wp contract post exc
      (channel.onState (·.onChan fun chan => { chan with recvWakers := [] }))) :
    (wakeReceivers : M α Unit).wp contract post exc channel := by
  obtain ⟨state, held, log⟩ := channel
  subst clear
  by_cases empty : state.chan.recvWakers = []
  · simp [wakeReceivers, wp_borrowing, empty]
    exact none empty
  · simp [wakeReceivers, wp_borrowing, empty]
    exact wakes

/-- The senders are woken after their registry was emptied. -/
theorem wp_wakeSenders {post : Unit → Channel α → Prop} (clear : channel.held = [])
    (none : channel.state.chan.sendWakers = [] → post () channel)
    (wakes : (wakeAll .senders channel.state.chan.sendWakers).wp contract post exc
      (channel.onState (·.onChan fun chan => { chan with sendWakers := [] }))) :
    (wakeSenders : M α Unit).wp contract post exc channel := by
  obtain ⟨state, held, log⟩ := channel
  subst clear
  by_cases empty : state.chan.sendWakers = []
  · simp [wakeSenders, wp_borrowing, empty]
    exact none empty
  · simp [wakeSenders, wp_borrowing, empty]
    exact wakes

/-- Removing a registration runs user code only if there is an entry to drop. -/
theorem wp_removeRecvWaker {post : Unit → Channel α → Prop} (clear : channel.held = [])
    {id : UInt64}
    (absent : id ∉ channel.state.chan.recvWakers.map Prod.fst → post () channel)
    (present : ∀ waker rest, channel.state.chan.recvWakers.Perm ((id, waker) :: rest) →
      (callback (.dropWaker waker)).wp contract post exc
        (channel.onState (·.onChan fun chan => { chan with recvWakers := rest }))) :
    (removeRecvWaker id : M α Unit).wp contract post exc channel := by
  obtain ⟨state, held, log⟩ := channel
  subst clear
  by_cases member : id ∈ state.chan.recvWakers.map Prod.fst
  · obtain ⟨waker, rest, removes, perm⟩ := removeById_present member
    simp [removeRecvWaker, wp_borrowing, removes]
    exact present waker rest perm
  · simp [removeRecvWaker, wp_borrowing, removeById_absent member]
    exact absent member

/-- Removing a sender's registration drops its waker, if it was registered. -/
theorem wp_removeSendWaker {post : Unit → Channel α → Prop} (clear : channel.held = [])
    {id : UInt64}
    (absent : id ∉ channel.state.chan.sendWakers.map Prod.fst → post () channel)
    (present : ∀ waker rest, channel.state.chan.sendWakers.Perm ((id, waker) :: rest) →
      (callback (.dropWaker waker)).wp contract post exc
        (channel.onState (·.onChan fun chan => { chan with sendWakers := rest }))) :
    (removeSendWaker id : M α Unit).wp contract post exc channel := by
  obtain ⟨state, held, log⟩ := channel
  subst clear
  by_cases member : id ∈ state.chan.sendWakers.map Prod.fst
  · obtain ⟨waker, rest, removes, perm⟩ := removeById_present member
    simp [removeSendWaker, wp_borrowing, removes]
    exact present waker rest perm
  · simp [removeSendWaker, wp_borrowing, removeById_absent member]
    exact absent member

end Rules

end Lochan.Mpmc
