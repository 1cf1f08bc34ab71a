import Lochan.Rules
import Lochan.Mpsc.System

/-!
# The accesses to an mpsc channel

What the accesses that run no user code do, outside every borrow: the observers, the queue,
the slot of the receiver's waker, and the registry of the parked senders.
-/

namespace Lochan.Mpsc

open Reentrant Queue

variable {α β : Type}

/-- An mpsc channel with what has happened to it. -/
abbrev Channel (α : Type) := World (State α) (Op α) (Result α) α

section Rules

variable {contract : Prog.Contract (Channel α) (Callback α) Panic}
  {exc : Panic → Channel α → Prop} {channel : Channel α}

/-- Reading the shared channel outside any borrow. -/
@[simp] theorem wp_getChan {post : Chan α → Channel α → Prop} :
    (getChan : M α (Chan α)).wp contract post exc =
      fun channel => post channel.state.chan channel := rfl

/-- Writing the shared channel outside any borrow. -/
@[simp] theorem wp_modifyChan {post : Unit → Channel α → Prop} (update : Chan α → Chan α) :
    (modifyChan update : M α Unit).wp contract post exc = fun channel =>
      post () (channel.onState (·.onChan update)) := rfl

/-- Taking the id of a send future, wherever it is. -/
@[simp] theorem wp_takeWakerId {post : Option UInt64 → Channel α → Prop} (future : Nat) :
    (takeWakerId future : M α (Option UInt64)).wp contract post exc = fun channel =>
      post ((channel.state.sends future).bind Send.wakerId)
        (channel.onState (·.setWakerId none future)) := rfl

/-- Setting the id of a send future, wherever it is. -/
@[simp] theorem wp_setWakerId {post : Unit → Channel α → Prop} (future : Nat) (id : UInt64) :
    (setWakerId future id : M α Unit).wp contract post exc = fun channel =>
      post () (channel.onState (·.setWakerId (some id) future)) := rfl

/-- `cap` reads the capacity of the queue. -/
theorem wp_cap {post : Option Nat → Channel α → Prop} (clear : channel.held = []) :
    (cap : M α (Option Nat)).wp contract post exc channel =
      post channel.state.chan.flavor.cap channel := by
  obtain ⟨state, held, log⟩ := channel
  subst clear
  simp [cap, wp_borrowing]

/-- `is_full` asks the queue. -/
theorem wp_isFull {post : Bool → Channel α → Prop} (clear : channel.held = []) :
    (isFull : M α Bool).wp contract post exc channel =
      post channel.state.chan.flavor.isFull channel := by
  obtain ⟨state, held, log⟩ := channel
  subst clear
  simp [isFull, wp_borrowing]

/-- `len` reads the length of the queue. -/
theorem wp_len {post : Nat → Channel α → Prop} (clear : channel.held = []) :
    (len : M α Nat).wp contract post exc channel =
      post channel.state.chan.contents.length channel := by
  obtain ⟨state, held, log⟩ := channel
  subst clear
  simp [len, wp_borrowing, Chan.contents, Flavor.len_eq]

/-- `is_empty` asks the queue. -/
theorem wp_isEmpty {post : Bool → Channel α → Prop} (clear : channel.held = []) :
    (isEmpty : M α Bool).wp contract post exc channel =
      post channel.state.chan.contents.isEmpty channel := by
  obtain ⟨state, held, log⟩ := channel
  subst clear
  simp [isEmpty, wp_borrowing, Chan.contents, Flavor.isEmpty_eq]

/-- The channel with another queue. -/
abbrev restocked (channel : Channel α) (flavor : Flavor α) : Channel α :=
  channel.onState (·.onChan fun chan => { chan with flavor := flavor })

/-- The channel with another waker in the slot of the receiver. -/
abbrev slotted (channel : Channel α) (waker : Option Waker) : Channel α :=
  channel.onState (·.onChan fun chan => { chan with recvWaker := waker })

/-- The channel with other parked senders. -/
abbrev queued (channel : Channel α) (rest : List (UInt64 × Waker)) : Channel α :=
  channel.onState (·.onChan fun chan => { chan with sendWakers := rest })

/-- A push appends the item if there is room, and changes nothing otherwise. -/
theorem wp_tryPush {post : Except α Unit → Channel α → Prop} (clear : channel.held = []) {item : α}
    {future : Option Nat}
    (full : channel.state.chan.flavor.isFull = true → post (.error item) channel)
    (room : ∀ pushed : Flavor α, channel.state.chan.flavor.isFull = false →
      pushed.toList = channel.state.chan.flavor.toList ++ [item] →
      pushed.cap = channel.state.chan.flavor.cap →
      post (.ok ()) (((restocked channel pushed).logged
        (.watched channel.state.chan.recvWaker)).logged (.pushed future item))) :
    (tryPush item future : M α (Except α Unit)).wp contract post exc channel := by
  obtain ⟨state, held, log⟩ := channel
  subst clear
  cases capacity : state.chan.flavor.isFull with
  | true =>
      simp [tryPush, wp_borrowing, Flavor.tryPush_full capacity]
      exact full capacity
  | false =>
      obtain ⟨pushed, accepts, contents, size⟩ := Flavor.tryPush_room capacity item
      simp [tryPush, wp_borrowing, accepts]
      exact room pushed capacity contents size

/-- A pop takes the oldest item out of the queue; freeing storage runs no user code. -/
theorem wp_pop {post : Option α → Channel α → Prop} (clear : channel.held = [])
    (pops : ∀ popped : Flavor α, popped.toList = channel.state.chan.flavor.toList.tail →
      popped.cap = channel.state.chan.flavor.cap →
      post channel.state.chan.flavor.toList.head? (restocked channel popped)) :
    (pop : M α (Option α)).wp contract post exc channel := by
  obtain ⟨state, held, log⟩ := channel
  subst clear
  obtain ⟨popped, takes, contents, capacity⟩ := state.chan.flavor.pop_eq
  simp [pop, wp_borrowing, takes, dropItems]
  exact pops popped contents capacity

/-- The waker that is registered is the one in the slot. -/
theorem slotted_self {waker : Option Waker} (registered : channel.state.chan.recvWaker = waker) :
    slotted channel waker = channel := by
  subst registered
  rfl

/-- No sender parked, emptying the registry changes nothing. -/
theorem queued_nil (empty : channel.state.chan.sendWakers = []) : queued channel [] = channel := by
  obtain ⟨⟨chan, strong, senders, receiver, recvs, sends, fresh, uses⟩, held, log⟩ := channel
  obtain ⟨flavor, count, alive, closed, waker, wakers, next⟩ := chan
  obtain rfl : wakers = [] := empty
  rfl

/-- `take_recv_waker` empties the slot. -/
theorem wp_takeRecvWaker {post : Option Waker → Channel α → Prop} (clear : channel.held = []) :
    (takeRecvWaker : M α (Option Waker)).wp contract post exc channel =
      post channel.state.chan.recvWaker (slotted channel none) := by
  obtain ⟨state, held, log⟩ := channel
  subst clear
  simp [takeRecvWaker, wp_borrowing, World.onState]

/-- Storing a waker in the slot of the receiver yields the one that was there. -/
theorem wp_storeRecvWaker {post : Option Waker → Channel α → Prop} (clear : channel.held = [])
    (waker : Waker) :
    (borrowing .recvWaker do
      let replaced := (← getChan).recvWaker
      modifyChan fun chan => { chan with recvWaker := some waker }
      return replaced : M α (Option Waker)).wp contract post exc channel =
      post channel.state.chan.recvWaker (slotted channel (some waker)) := by
  obtain ⟨state, held, log⟩ := channel
  subst clear
  simp [wp_borrowing, World.onState]

/-- The receiver's waker is taken out before it is invoked. -/
theorem wp_wakeReceiver {post : Unit → Channel α → Prop} (clear : channel.held = [])
    (vacant : channel.state.chan.recvWaker = none → post () channel)
    (wakes : ∀ waker, channel.state.chan.recvWaker = some waker →
      (callback (.wake .receivers waker)).wp contract post exc (slotted channel none)) :
    (wakeReceiver : M α Unit).wp contract post exc channel := by
  obtain ⟨state, held, log⟩ := channel
  subst clear
  cases registered : state.chan.recvWaker with
  | none =>
      simp [wakeReceiver, wp_borrowing, registered]
      exact vacant registered
  | some waker =>
      simp [wakeReceiver, wp_borrowing, takeRecvWaker, registered]
      exact wakes waker registered

/-- The receiver's waker is taken out before it is dropped. -/
theorem wp_clearRecvWaker {post : Unit → Channel α → Prop} (clear : channel.held = [])
    (vacant : channel.state.chan.recvWaker = none → post () channel)
    (drops : ∀ waker, channel.state.chan.recvWaker = some waker →
      (callback (.dropWaker waker)).wp contract post exc (slotted channel none)) :
    (clearRecvWaker : M α Unit).wp contract post exc channel := by
  rw [clearRecvWaker, Prog.wp_bind, wp_takeRecvWaker clear]
  cases registered : channel.state.chan.recvWaker with
  | none =>
      rw [slotted_self registered]
      exact vacant registered
  | some waker => exact drops waker registered

/-- The parked senders are taken out before the first of them is woken. -/
theorem wp_wakeSenders {post : Unit → Channel α → Prop} (clear : channel.held = [])
    (none : channel.state.chan.sendWakers = [] → post () channel)
    (wakes : (wakeAll .senders channel.state.chan.sendWakers).wp contract post exc
      (queued channel [])) :
    (wakeSenders : M α Unit).wp contract post exc channel := by
  obtain ⟨state, held, log⟩ := channel
  subst clear
  by_cases empty : state.chan.sendWakers = []
  · simp [wakeSenders, wp_borrowing, empty]
    exact none empty
  · simp [wakeSenders, wp_borrowing, empty]
    exact wakes

/-- Removing a registration runs user code only if there is an entry to drop. -/
theorem wp_removeSendWaker {post : Unit → Channel α → Prop} (clear : channel.held = [])
    {id : UInt64}
    (absent : id ∉ channel.state.chan.sendWakers.map Prod.fst → post () channel)
    (present : ∀ waker rest, channel.state.chan.sendWakers.Perm ((id, waker) :: rest) →
      (callback (.dropWaker waker)).wp contract post exc (queued channel rest)) :
    (removeSendWaker id : M α Unit).wp contract post exc channel := by
  obtain ⟨state, held, log⟩ := channel
  subst clear
  by_cases member : id ∈ state.chan.sendWakers.map Prod.fst
  · obtain ⟨waker, rest, removes, perm⟩ := removeById_present member
    simp [removeSendWaker, wp_borrowing, removes]
    exact present waker rest perm
  · simp [removeSendWaker, wp_borrowing, removeById_absent member]
    exact absent member

end Rules

end Lochan.Mpsc
