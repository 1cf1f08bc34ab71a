import Lochan.History

/-!
# What a channel does

What both kinds of channels come to when nothing that they call back does anything: a queue with a
capacity, the parked senders, and the handles and futures. The registrations of the receivers'
tasks are kept in different ways, and are left out; an operation only says what becomes of them.
-/

namespace Lochan

open Reentrant

variable {α : Type}

/-- Whether an operation answers the same on every channel: reports of termination are not the
same. -/
def Op.isShared : Op α → Bool
  | .sendIsTerminated _ | .streamIsTerminated _ | .recvIsTerminated _ => false
  | _ => true

/-- What an operation means to the tasks of the receivers that are registered. -/
inductive Signal where
  | keeps
  | wakes
  /-- At most registrations that will not be woken any more are given up. -/
  | forgets
  | registers (waker : Waker)

/-- What becomes of a single registration. -/
def Signal.slot : Signal → Option Waker → Option Waker
  | .keeps, waker => waker
  | .wakes, _ | .forgets, _ => none
  | .registers waker, _ => some waker

/-- The wakers among the registered ones that are woken. -/
def Signal.woken : Signal → List Waker → List Waker
  | .wakes, wakers => wakers
  | _, _ => []

/-- The registrations left once the one under an id, if there is one, is removed. -/
def withdrawn (entries : List (UInt64 × Waker)) : Option UInt64 → List (UInt64 × Waker)
  | some id => (removeById entries id).2
  | none => entries

/-- A channel without the registrations of its receivers. -/
structure Ideal (α : Type) where
  cap : Option Nat
  items : List α
  senderCount : Nat
  receiverCount : Nat
  closed : Bool
  parked : List (UInt64 × Waker)
  nextId : UInt64
  strong : Nat
  senders : List Nat
  receivers : List Nat
  /-- The receiver that a receive future borrows, and whether the future has completed. -/
  recvs : Nat → Option (Nat × Bool)
  sends : Nat → Option (Send α)
  fresh : Nat
  /-- The parked senders that were woken so far. -/
  woken : List Waker

/-- What an operation answers, and what it does. -/
structure Turn (α : Type) where
  result : Result α
  signal : Signal
  next : Ideal α

/-- The answer to an operation, if it is heard of. -/
def Turn.answers (turn : Turn α) (op : Op α) : List (Op α × Result α) :=
  if op.isShared then [(op, turn.result)] else []

namespace Ideal

variable (ideal : Ideal α)

/-- Sends fail. -/
def rejecting : Bool := ideal.receiverCount == 0 || ideal.closed

/-- Receivers that find the channel empty observe disconnect. -/
def disconnected : Bool := ideal.senderCount == 0 || ideal.closed

/-- The queue has reached its capacity. -/
def isFull : Bool := ideal.cap == some ideal.items.length

/-- Every parked sender is woken. -/
def wakeSenders : Ideal α :=
  { ideal with parked := [], woken := ideal.woken ++ ideal.parked.map Prod.snd }

/-- A future commits its outcome and returns it. -/
def settle (future : Nat) (this : Send α) : Ideal α :=
  { ideal with
    parked := withdrawn ideal.parked this.wakerId
    sends := Function.update ideal.sends future
      (some { this with item := none, done := true, wakerId := none }) }

/-- A future is registered under a new id. -/
def park (future : Nat) (this : Send α) (waker : Waker) : Ideal α :=
  { ideal with
    parked := withdrawn ideal.parked this.wakerId ++ [(ideal.nextId, waker)]
    nextId := ideal.nextId + 1
    sends := Function.update ideal.sends future
      (some { this with wakerId := some ideal.nextId }) }

/-- The channel is closed, and every task is woken. -/
def close : Turn α :=
  ⟨.bool true, .wakes, { ideal with closed := true }.wakeSenders⟩

/-- An item is accepted if there is room and somebody is there to receive it. -/
def trySend (item : α) : Turn α :=
  if ideal.rejecting then ⟨.trySend (.error (.closed item)), .keeps, ideal⟩
  else if ideal.isFull then ⟨.trySend (.error (.full item)), .keeps, ideal⟩
  else ⟨.trySend (.ok ()), .wakes, { ideal with items := ideal.items ++ [item] }⟩

/-- A send future completes if it can, and is registered otherwise. -/
def pollSend (future : Nat) (waker : Waker) : Turn α :=
  match ideal.sends future with
  | none => ⟨.unit, .keeps, ideal⟩
  | some this =>
    match this.done, this.item with
    | false, some item =>
      if ideal.rejecting then
        ⟨.send (.ready (.error ⟨item⟩)), .keeps, ideal.settle future this⟩
      else if ideal.isFull then ⟨.send .pending, .keeps, ideal.park future this waker⟩
      else
        ⟨.send (.ready (.ok ())), .wakes,
          { ideal with items := ideal.items ++ [item] }.settle future this⟩
    | _, _ => ⟨.send .pending, .keeps, ideal⟩

/-- A send future is given up, and with it its registration. -/
def dropSend (future : Nat) : Turn α :=
  match ideal.sends future with
  | none => ⟨.unit, .keeps, ideal⟩
  | some this =>
    ⟨.unit, .keeps,
      { ideal with
        parked := withdrawn ideal.parked this.wakerId
        sends := Function.update ideal.sends future none }⟩

/-- The items behind the one that is taken. -/
def taken (rest : List α) : Ideal α := { ideal with items := rest }.wakeSenders

/-- The oldest item is taken, or the error tells why there is none. -/
def tryRecv : Turn α :=
  match ideal.items with
  | item :: rest => ⟨.tryRecv (.ok item), .keeps, ideal.taken rest⟩
  | [] =>
    ⟨.tryRecv (.error (if ideal.disconnected then .disconnected else .empty)), .keeps, ideal⟩

/-- The oldest item is taken, if there is one. -/
def tryIterNext : Turn α :=
  match ideal.items with
  | item :: rest => ⟨.next (some item), .keeps, ideal.taken rest⟩
  | [] => ⟨.next none, .keeps, ideal⟩

/-- The oldest item is taken, or the end is observed, or the task is registered. -/
def pollNext (waker : Waker) : Turn α :=
  match ideal.items with
  | item :: rest => ⟨.recv (.ready (some item)), .forgets, ideal.taken rest⟩
  | [] =>
    if ideal.disconnected then ⟨.recv (.ready none), .forgets, ideal⟩
    else ⟨.recv .pending, .registers waker, ideal⟩

/-- A future completes. -/
def complete (future : Nat) : Ideal α :=
  { ideal with
    recvs := Function.update ideal.recvs future
      ((ideal.recvs future).map fun this => (this.1, true)) }

/-- A receive future completes once its poll is ready. -/
def pollRecv (future : Nat) (waker : Waker) : Turn α :=
  let turn := ideal.pollNext waker
  match turn.result with
  | .recv (.ready item) => ⟨.recv (.ready item), turn.signal, turn.next.complete future⟩
  | _ => turn

/-- A receive future is given up, and with it its registration. -/
def dropRecv (future : Nat) : Turn α :=
  ⟨.unit, if (ideal.recvs future).any (·.2) then .keeps else .forgets,
    { ideal with recvs := Function.update ideal.recvs future none }⟩

/-- A receiver is gone; the last one leaves nothing in the channel, and wakes the senders. -/
def dropReceiver (receiver : Nat) : Turn α :=
  let rest :=
    { ideal with
      receiverCount := ideal.receiverCount - 1
      receivers := ideal.receivers.erase receiver
      strong := ideal.strong - 1 }
  ⟨.unit, .forgets,
    if ideal.receiverCount == 1 then { rest with items := [] }.wakeSenders else rest⟩

/-- The operations of a channel. -/
def step : Op α → Turn α
  | .trySend _ item => ideal.trySend item
  | .cloneSender _ =>
    ⟨.handle ideal.fresh, .keeps,
      { ideal with
        senderCount := ideal.senderCount + 1
        fresh := ideal.fresh + 1
        strong := ideal.strong + 1
        senders := ideal.fresh :: ideal.senders }⟩
  | .dropSender sender =>
    ⟨.unit, if ideal.senderCount == 1 then .wakes else .keeps,
      { ideal with
        senderCount := ideal.senderCount - 1
        senders := ideal.senders.erase sender
        strong := ideal.strong - 1 }⟩
  | .closeSender _ => if ideal.rejecting then ⟨.bool false, .keeps, ideal⟩ else ideal.close
  | .senderCapacity _ => ⟨.capacity ideal.cap, .keeps, ideal⟩
  | .senderLen _ | .receiverLen _ => ⟨.size ideal.items.length, .keeps, ideal⟩
  | .senderIsEmpty _ | .receiverIsEmpty _ => ⟨.bool ideal.items.isEmpty, .keeps, ideal⟩
  | .senderIsFull _ => ⟨.bool ideal.isFull, .keeps, ideal⟩
  | .senderIsClosed _ => ⟨.bool ideal.rejecting, .keeps, ideal⟩
  | .send sender item =>
    ⟨.handle ideal.fresh, .keeps,
      { ideal with
        fresh := ideal.fresh + 1
        sends := Function.update ideal.sends ideal.fresh (some (.new sender item)) }⟩
  | .pollSend future waker => ideal.pollSend future waker
  | .dropSend future => ideal.dropSend future
  | .tryRecv _ => ideal.tryRecv
  | .tryIterNext _ => ideal.tryIterNext
  | .pollNext _ waker => ideal.pollNext waker
  | .cloneReceiver _ =>
    ⟨.handle ideal.fresh, .keeps,
      { ideal with
        receiverCount := ideal.receiverCount + 1
        fresh := ideal.fresh + 1
        strong := ideal.strong + 1
        receivers := ideal.fresh :: ideal.receivers }⟩
  | .dropReceiver receiver => ideal.dropReceiver receiver
  | .closeReceiver _ => if ideal.disconnected then ⟨.bool false, .keeps, ideal⟩ else ideal.close
  | .receiverIsClosed _ => ⟨.bool ideal.disconnected, .keeps, ideal⟩
  | .recv receiver =>
    ⟨.handle ideal.fresh, .keeps,
      { ideal with
        fresh := ideal.fresh + 1
        recvs := Function.update ideal.recvs ideal.fresh (some (receiver, false)) }⟩
  | .pollRecv future waker => ideal.pollRecv future waker
  | .dropRecv future => ideal.dropRecv future
  | .sendIsTerminated _ | .streamIsTerminated _ | .recvIsTerminated _ =>
    ⟨.unit, .keeps, ideal⟩

/-- No live receive future borrows the receiver. -/
def Unborrowed (receiver : Nat) : Prop :=
  ∀ future this, ideal.recvs future = some this → this.1 ≠ receiver

/-- Whether the borrow checker lets user code start an operation. No receive future is polled once
it has completed. -/
def Permitted : Op α → Prop
  | .trySend sender _ | .cloneSender sender | .closeSender sender | .senderCapacity sender
  | .senderLen sender | .senderIsEmpty sender | .senderIsFull sender | .senderIsClosed sender
  | .send sender _ => sender ∈ ideal.senders
  | .dropSender sender => sender ∈ ideal.senders ∧
      ∀ future this, ideal.sends future = some this → this.sender ≠ sender
  | .pollSend future _ | .sendIsTerminated future | .dropSend future => (ideal.sends future).isSome
  | .tryRecv receiver | .tryIterNext receiver | .cloneReceiver receiver | .closeReceiver receiver
  | .receiverLen receiver | .receiverIsEmpty receiver | .receiverIsClosed receiver
  | .streamIsTerminated receiver | .recv receiver => receiver ∈ ideal.receivers
  | .pollNext receiver _ | .dropReceiver receiver =>
    receiver ∈ ideal.receivers ∧ ideal.Unborrowed receiver
  | .pollRecv future _ => ∃ receiver, ideal.recvs future = some (receiver, false)
  | .recvIsTerminated future | .dropRecv future => (ideal.recvs future).isSome

/-- An operation that user code can start on a channel whose receiver is not cloned, and is
borrowed exclusively. -/
def Exclusive : Op α → Prop
  | .cloneReceiver _ => False
  | .tryRecv receiver | .tryIterNext receiver | .closeReceiver receiver | .receiverLen receiver
  | .receiverIsEmpty receiver | .receiverIsClosed receiver | .streamIsTerminated receiver
  | .recv receiver => ideal.Unborrowed receiver
  | _ => True

/-- An operation as user code runs it. -/
def perform (op : Op α) : Act (Ideal α) (Op α) (Result α) α Unit := do
  let start := (← Prog.read).log.length
  emit (.began op)
  let turn := (← getState).step op
  modifyState fun _ => turn.next
  emit (.returned start op turn.result)

/-- The plain channel as a system; its operations call nothing back. -/
def system (α : Type) : System (World (Ideal α) (Op α) (Result α) α) (Callback α) Panic (Op α) where
  legal world op := world.state.Permitted op
  prog := perform

/-- Only exclusive operations are started. -/
def exclusive : Policy (World (Ideal α) (Op α) (Result α) α) (Callback α) Panic (Op α) where
  call world op := world.state.Exclusive op
  resume _ _ _ _ := True
  patience := 0

/-! ### What every operation keeps -/

variable {ideal} {op : Op α}

/-- No send future waits to return an outcome. -/
def Settled (ideal : Ideal α) : Prop :=
  ∀ future this, ideal.sends future = some this → this.outcome = none

/-- No outcome is left to be returned where none was before and the new future has none. -/
theorem Settled.update (settled : ideal.Settled) {future : Nat} {send : Option (Send α)}
    (outcome : ∀ this, send = some this → this.outcome = none) :
    ∀ key this, Function.update ideal.sends future send key = some this → this.outcome = none := by
  intro key this found
  by_cases same : key = future
  · subst same
    exact outcome this (by simpa using found)
  · exact settled key this (by simpa [same] using found)

/-- Polling a stream leaves the send futures as they are. -/
theorem pollNext_sends {waker : Waker} : (ideal.pollNext waker).next.sends = ideal.sends := by
  simp only [pollNext]
  split
  · rfl
  · split
    · rfl
    · rfl

/-- No outcome is left to be returned after an operation. -/
theorem Settled.step (settled : ideal.Settled) : (ideal.step op).next.Settled := by
  have polled : ∀ {waker}, (ideal.pollNext waker).next.Settled :=
    fun future this found => settled future this (pollNext_sends ▸ found)
  cases op with
  | send sender item =>
      refine settled.update ?_
      rintro _ ⟨⟩
      rfl
  | pollSend future waker =>
      simp only [Ideal.step, pollSend]
      cases found : ideal.sends future with
      | none => exact settled
      | some this =>
          have replaced : ∀ {send : Send α}, send.outcome = this.outcome → ∀ other,
              some send = some other → other.outcome = none := by
            rintro send same _ ⟨⟩
            exact same.trans (settled future this found)
          dsimp only
          split
          · split
            · exact settled.update (replaced rfl)
            · split
              · exact settled.update (replaced rfl)
              · exact settled.update (replaced rfl)
          · exact settled
  | dropSend future =>
      simp only [Ideal.step, dropSend]
      cases ideal.sends future with
      | none => exact settled
      | some this => exact settled.update (by rintro _ ⟨⟩)
  | trySend sender item =>
      simp only [Ideal.step, trySend]
      split
      · exact settled
      · split
        · exact settled
        · exact settled
  | closeSender sender | closeReceiver receiver =>
      simp only [Ideal.step]
      split
      · exact settled
      · exact settled
  | tryRecv receiver =>
      simp only [Ideal.step, tryRecv]
      split
      · exact settled
      · exact settled
  | tryIterNext receiver =>
      simp only [Ideal.step, tryIterNext]
      split
      · exact settled
      · exact settled
  | pollNext receiver waker =>
      exact polled
  | pollRecv future waker =>
      simp only [Ideal.step, pollRecv]
      split
      · exact polled
      · exact polled
  | dropReceiver receiver =>
      simp only [Ideal.step, dropReceiver]
      split
      · exact settled
      · exact settled
  | _ => exact settled

/-- What an operation can do to the items: it pushes one and wakes, it takes some out, or it
registers while there is nothing to receive. -/
inductive Moves (ideal : Ideal α) (turn : Turn α) : Prop where
  | pushes (item : α) : turn.signal = .wakes → turn.next.items = ideal.items ++ [item] →
      Moves ideal turn
  | takes : (∀ waker, turn.signal ≠ .registers waker) → turn.next.items <:+ ideal.items →
      Moves ideal turn
  | waits : ideal.items = [] → turn.next.items = [] → Moves ideal turn

/-- What an operation moves is seen from its signal and the items that it leaves. -/
theorem Moves.of_same {turn turn' : Turn α} (moves : Moves ideal turn)
    (signal : turn'.signal = turn.signal) (items : turn'.next.items = turn.next.items) :
    Moves ideal turn' := by
  cases moves with
  | pushes item wakes appends => exact .pushes item (signal.trans wakes) (items.trans appends)
  | takes keeps rest => exact .takes (fun waker => signal ▸ keeps waker) (items ▸ rest)
  | waits empty none => exact .waits empty (items.trans none)

/-- Polling a stream takes at most the oldest item. -/
theorem pollNext_moves {waker : Waker} : Moves ideal (ideal.pollNext waker) := by
  simp only [pollNext]
  split
  · rename_i item rest items
    exact .takes (by rintro _ ⟨⟩) (items ▸ List.suffix_cons item rest)
  · rename_i none
    split
    · exact .takes (by rintro _ ⟨⟩) (List.suffix_refl _)
    · exact .waits none none

/-- An operation adds an item at the end, takes the oldest one, or leaves the items alone. -/
theorem step_moves (ideal : Ideal α) (op : Op α) : Moves ideal (ideal.step op) := by
  have same : ∀ {turn : Turn α}, turn.signal = .keeps → turn.next.items = ideal.items →
      Moves ideal turn := by
    intro turn keeps same
    exact .takes (by rw [keeps]; rintro _ ⟨⟩) (same ▸ List.suffix_refl _)
  cases op with
  | trySend sender item =>
      simp only [Ideal.step, trySend]
      split
      · exact same rfl rfl
      · split
        · exact same rfl rfl
        · exact .pushes item rfl rfl
  | pollSend future waker =>
      simp only [Ideal.step, pollSend]
      split
      · exact same rfl rfl
      · split
        · split
          · exact same rfl rfl
          · split
            · exact same rfl rfl
            · exact .pushes _ rfl rfl
        · exact same rfl rfl
  | dropSend future =>
      simp only [Ideal.step, dropSend]
      split
      · exact same rfl rfl
      · exact same rfl rfl
  | dropSender sender =>
      refine .takes (fun waker => ?_) (List.suffix_refl _)
      simp only [Ideal.step]
      split
      · rintro ⟨⟩
      · rintro ⟨⟩
  | closeSender sender | closeReceiver receiver =>
      simp only [Ideal.step]
      split
      · exact same rfl rfl
      · exact .takes (by rintro _ ⟨⟩) (List.suffix_refl _)
  | tryRecv receiver =>
      simp only [Ideal.step, tryRecv]
      split
      · rename_i item rest items
        exact .takes (by rintro _ ⟨⟩) (items ▸ List.suffix_cons item rest)
      · exact same rfl rfl
  | tryIterNext receiver =>
      simp only [Ideal.step, tryIterNext]
      split
      · rename_i item rest items
        exact .takes (by rintro _ ⟨⟩) (items ▸ List.suffix_cons item rest)
      · exact same rfl rfl
  | pollNext receiver waker => exact pollNext_moves
  | pollRecv future waker =>
      have polled : Moves ideal (ideal.pollNext waker) := pollNext_moves
      simp only [Ideal.step, pollRecv]
      split
      · exact polled.of_same rfl rfl
      · exact polled
  | dropReceiver receiver =>
      refine .takes (by rintro _ ⟨⟩) ?_
      simp only [Ideal.step, dropReceiver]
      split
      · exact List.nil_suffix
      · exact List.suffix_refl _
  | dropRecv future =>
      refine .takes (fun waker => ?_) (List.suffix_refl _)
      simp only [Ideal.step, dropRecv]
      split
      · rintro ⟨⟩
      · rintro ⟨⟩
  | _ => exact same rfl rfl

/-- An operation adds at most one item. -/
theorem step_length : (ideal.step op).next.items.length ≤ ideal.items.length + 1 := by
  cases step_moves ideal op with
  | pushes item _ appends => simp [appends]
  | takes _ rest => exact Nat.le_succ_of_le rest.length_le
  | waits empty none => simp [empty, none]

/-- A waker stays registered only while there is nothing to receive. -/
theorem step_idle {slot : Option Waker} (idle : slot ≠ none → ideal.items = [])
    (registered : (ideal.step op).signal.slot slot ≠ none) : (ideal.step op).next.items = [] := by
  cases step_moves ideal op with
  | pushes item wakes _ =>
      rw [wakes] at registered
      exact absurd rfl registered
  | takes keeps rest =>
      cases signal : (ideal.step op).signal with
      | keeps =>
          rw [signal] at registered
          rw [idle registered] at rest
          exact List.suffix_nil.mp rest
      | wakes | forgets =>
          rw [signal] at registered
          exact absurd rfl registered
      | registers waker => exact absurd signal (keeps waker)
  | waits _ none => exact none

/-! ### Two channels -/

/-- The turns of two channels have the same answer, and leave them related. -/
structure Relates (rel : Ideal α → Ideal α → Prop) (turn turn' : Turn α) : Prop where
  result : turn'.result = turn.result
  next : rel turn.next turn'.next

/-- Two turns that branch on the same condition are related if their branches are. -/
theorem Relates.ite {rel : Ideal α → Ideal α → Prop} {condition : Prop} [Decidable condition]
    {yes yes' no no' : Turn α} (left : Relates rel yes yes') (right : Relates rel no no') :
    Relates rel (if condition then yes else no) (if condition then yes' else no') := by
  split
  · exact left
  · exact right

end Ideal

end Lochan
