import Lochan.Fixes
import Lochan.Mpmc.Soundness

/-!
# What an mpmc channel hands over

Every item that is taken out of the channel is returned at once, by the receive that took it: no
callback runs in between. The capacity of the queue is kept along the way.
-/

namespace Lochan.Mpmc

open Reentrant Queue

variable {α β : Type}

/-- The capacity of the queue. -/
def State.capacity (state : State α) : Option Nat := state.chan.flavor.cap

/-! ### The item in hand -/

/-- A receive in progress has taken the item, if there is one, and every item that was taken before
was returned next, by the receive that took it. -/
def InHand : Option α → Log α → Prop
  | held, .took item :: log => held = some item ∧ InHand none log
  | held, .returned _ _ result :: log => held = none ∧ InHand (item? result) log
  | held, _ :: log => held = none ∧ InHand none log
  | held, [] => held = none

/-- No item is handed over. -/
def Plain : Event (Op α) (Result α) α → Prop
  | .took _ | .returned _ _ _ => False
  | _ => True

namespace InHand

variable {held : Option α} {log : Log α}

/-- An item in hand was taken last. -/
theorem took {item : α} (inHand : InHand (some item) log) :
    ∃ before, log = .took item :: before ∧ InHand none before := by
  cases log with
  | nil => cases inHand
  | cons event log =>
      cases event with
      | took taken =>
          obtain ⟨same, rest⟩ := inHand
          cases same
          exact ⟨log, rfl, rest⟩
      | _ => cases inHand.1

/-- The items returned are the items taken, but for the one in hand. -/
theorem received (inHand : InHand held log) :
    Lochan.received log ++ held.toList = delivered log := by
  induction log generalizing held with
  | nil => cases inHand; rfl
  | cons event log ih =>
      cases event with
      | took item =>
          obtain ⟨rfl, rest⟩ := inHand
          have taken := ih rest
          simp_all [Lochan.received, delivered, Event.received?, Event.took?]
      | returned start op result =>
          obtain ⟨rfl, rest⟩ := inHand
          have taken := ih rest
          simp_all [Lochan.received, delivered, Event.received?, Event.took?]
      | _ =>
          obtain ⟨rfl, rest⟩ := inHand
          simpa [Lochan.received, delivered, Event.received?, Event.took?] using ih rest

/-- An item that a receive returned was taken last before. -/
theorem returned {start : Nat} {op : Op α} {result : Result α} {older : Log α} {item : α}
    (inHand : InHand held log) (reached : .returned start op result :: older <:+ log)
    (hands : item? result = some item) : ∃ before, older = .took item :: before := by
  induction log generalizing held with
  | nil => simp at reached
  | cons event log ih =>
      rcases List.suffix_cons_iff.mp reached with same | earlier
      · obtain ⟨rfl, rfl⟩ := List.cons.inj same
        obtain ⟨before, rfl, -⟩ := (hands ▸ inHand.2).took
        exact ⟨before, rfl⟩
      · cases event <;> exact ih inHand.2 earlier

end InHand

/-- The queue has its capacity, and the items taken out of it were returned, but for the one in
hand. -/
structure Tallied (cap : Option Nat) (held : Option α) (channel : Channel α) : Prop where
  capacity : channel.state.capacity = cap
  inHand : InHand held channel.log

variable {cap : Option Nat} {channel : Channel α}

instance : Indifferent (Tallied cap none : Channel α → Prop) where
  called _ _ kept := ⟨kept.capacity, rfl, kept.inHand⟩
  panicked _ _ kept := ⟨kept.capacity, rfl, kept.inHand⟩
  expectFailed _ _ kept := ⟨kept.capacity, rfl, kept.inHand⟩
  held _ _ kept := { kept with }

/-- The program hands over no item, and keeps the capacity of the queue. -/
abbrev Tallies (cap : Option Nat) (prog : M α β) : Prop := prog.Preserves (Tallied cap none)

/-- An event that is no part of a hand-over leaves no item in hand. -/
theorem emit_tallies {event : Event (Op α) (Result α) α} (plain : Plain event) :
    Tallies cap (emit event : M α Unit) := by
  refine .emit fun world kept => ⟨kept.capacity, ?_⟩
  cases event <;> first | exact plain.elim | exact ⟨rfl, kept.inHand⟩

/-- A write of the state hands over nothing, and must keep the capacity. -/
theorem modifyState_tallies {update : State α → State α}
    (same : ∀ state, (update state).capacity = state.capacity) :
    Tallies cap (modifyState update : M α Unit) :=
  .replace fun world kept => ⟨(same world.state).trans kept.capacity, kept.inHand⟩

/-! ### The channel -/

/-- Taking a registration id hands over nothing. -/
theorem takeWakerId_tallies (owner : Owner) :
    Tallies cap (takeWakerId owner : M α (Option UInt64)) :=
  .bind .getState fun _ =>
    .bind (modifyState_tallies fun _ => by cases owner <;> rfl) fun _ => trivial

/-- Keeping a registration id hands over nothing. -/
theorem setWakerId_tallies (owner : Owner) (id : UInt64) :
    Tallies cap (setWakerId owner id : M α Unit) :=
  modifyState_tallies fun _ => by cases owner <;> rfl

/-- Asking whether the channel is empty hands over nothing. -/
theorem isEmpty_tallies : Tallies cap (isEmpty : M α Bool) := by
  refine .borrowing _ (.bind (.read _) fun _ => .ite trivial (.borrowing _ ?_))
  exact .bind (.read _) fun _ => trivial

/-- Registering a receiver hands over nothing. -/
theorem addRecvWaker_tallies (waker : Waker) :
    Tallies cap (addRecvWaker waker : M α UInt64) := by
  refine .bind (.read _) fun _ => .bind (modifyState_tallies fun _ => rfl) fun _ => ?_
  refine .bind (emit_tallies trivial) fun _ => ?_
  refine .bind (.read _) fun _ => .ite trivial (.bind (.callback _) fun _ => ?_)
  refine .bind (.read _) fun _ => .ite (.bind (.callback _) fun _ => trivial) ?_
  exact .bind (.borrowing _ (modifyState_tallies fun _ => rfl)) fun _ => trivial

/-- Removing the entry of a receiver hands over nothing. -/
theorem removeRecvWaker_tallies (id : UInt64) :
    Tallies cap (removeRecvWaker id : M α Unit) := by
  refine .bind (.borrowing _ ?_) fun removed => ?_
  · exact .bind (.read _) fun _ => .bind (modifyState_tallies fun _ => rfl) fun _ => trivial
  cases removed with
  | none => trivial
  | some entry => exact .callback _

/-- Removing the registration of a receiver hands over nothing. -/
theorem removeRecv_tallies (id : Option UInt64) :
    Tallies cap (removeRecv id : M α Unit) := by
  cases id with
  | none => trivial
  | some id => exact removeRecvWaker_tallies id

/-- Waking the receivers hands over nothing. -/
theorem wakeReceivers_tallies : Tallies cap (wakeReceivers : M α Unit) := by
  refine .bind (.borrowing _ (.bind (.read _) fun _ => trivial)) fun _ => .ite trivial ?_
  refine .bind (.borrowing _ ?_) fun _ => .wakeAll _ _
  exact .bind (.read _) fun _ => .bind (modifyState_tallies fun _ => rfl) fun _ => trivial

/-- Registering a sender hands over nothing. -/
theorem addSendWaker_tallies (waker : Waker) :
    Tallies cap (addSendWaker waker : M α UInt64) := by
  refine .bind (.callback _) fun _ => .bind (.read _) fun _ => ?_
  refine .bind (modifyState_tallies fun _ => rfl) fun _ => .bind (emit_tallies trivial) fun _ => ?_
  exact .bind (.borrowing _ (modifyState_tallies fun _ => rfl)) fun _ => trivial

/-- Removing the entry of a sender hands over nothing. -/
theorem removeSendWaker_tallies (id : UInt64) :
    Tallies cap (removeSendWaker id : M α Unit) := by
  refine .bind (.borrowing _ ?_) fun removed => ?_
  · exact .bind (.read _) fun _ => .bind (modifyState_tallies fun _ => rfl) fun _ => trivial
  cases removed with
  | none => trivial
  | some entry => exact .callback _

/-- Removing the registration of a sender hands over nothing. -/
theorem removeSend_tallies (id : Option UInt64) :
    Tallies cap (removeSend id : M α Unit) := by
  cases id with
  | none => trivial
  | some id => exact removeSendWaker_tallies id

/-- Waking the senders hands over nothing. -/
theorem wakeSenders_tallies : Tallies cap (wakeSenders : M α Unit) := by
  refine .bind (.borrowing _ (.bind (.read _) fun _ => trivial)) fun _ => .ite trivial ?_
  refine .bind (.borrowing _ ?_) fun _ => .wakeAll _ _
  exact .bind (.read _) fun _ => .bind (modifyState_tallies fun _ => rfl) fun _ => trivial

/-- Closing the channel hands over nothing. -/
theorem close_tallies : Tallies cap (close : M α Unit) := by
  refine .bind (.read _) fun _ => .bind (modifyState_tallies fun _ => rfl) fun _ => .ite trivial ?_
  refine .bind (emit_tallies trivial) fun _ => ?_
  refine .bind (.attempt wakeReceivers_tallies) fun received => ?_
  refine .bind (.attempt wakeSenders_tallies) fun sent => ?_
  cases received with
  | ok _ => cases sent with
    | ok _ => trivial
    | error payload => trivial
  | error first => cases sent with
    | ok _ => trivial
    | error second =>
      exact .bind (.guarded (.dropPanicPayload _) (.callback _)) fun _ => trivial

/-- A push leaves the capacity of the queue as it is. -/
theorem tryPush_tallies (item : α) (future : Option Nat) :
    Tallies cap (tryPush item future : M α (Except α Unit)) := by
  refine .borrowing _ fun world kept _ kept' => ⟨⟨?_, kept'.inHand⟩, ?_⟩
  · exact (world.state.chan.flavor.tryPush_cap item).trans kept.capacity
  · refine Prog.Preserves.bind trivial fun _ => ?_
    split
    · exact .bind (emit_tallies trivial) fun _ => trivial
    · trivial

/-- A pop leaves the capacity of the queue as it is; the item counts once it is handed out. -/
theorem pop_tallies : Tallies cap (pop : M α (Option α)) := by
  refine .borrowing _ fun world kept _ kept' => ⟨⟨?_, kept'.inHand⟩, ?_⟩
  · exact world.state.chan.flavor.pop_cap.trans kept.capacity
  · exact Prog.Preserves.bind trivial fun _ => .bind (.dropItems _) fun _ => trivial

/-- Taking the item out of the redelivery slot hands over nothing yet. -/
theorem takeRedelivery_tallies : Tallies cap (takeRedelivery : M α (Option α)) :=
  .borrowing _ (.bind (.read _) fun _ => .bind (modifyState_tallies fun _ => rfl) fun _ => trivial)

/-- Parking an item in the redelivery slot hands over nothing. -/
theorem setRedelivery_tallies (item : α) :
    Tallies cap (setRedelivery item : M α Unit) :=
  .borrowing _
    (.bind (.read _) fun _ => .bind (.dropItems _) fun _ => modifyState_tallies fun _ => rfl)

/-- A turn that yields an item has it in hand, and any other turn hands over nothing. -/
theorem tryTakeTurn_takes (kept : Tallied cap none channel) :
    (tryTakeTurn : M α (Option (Option α))).Yields (Tallied cap none)
      (fun yielded => Tallied cap yielded.join) channel := by
  have takes : ∀ item after, Tallied cap none after → ((do
      emit (.took item)
      return some (some item)) : M α (Option (Option α))).Yields (Tallied cap none)
        (fun yielded => Tallied cap yielded.join) after :=
    fun item after kept => Tallied.mk kept.capacity ⟨rfl, kept.inHand⟩
  refine .after takeRedelivery_tallies kept fun parked after kept => ?_
  cases parked with
  | some item => exact takes item after kept
  | none =>
      refine .after pop_tallies kept fun popped after kept => ?_
      cases popped with
      | none =>
          exact .after (.read _) kept fun _ after kept =>
            .after (emit_tallies trivial) kept fun _ after kept => kept
      | some item =>
          refine .after (.borrowing _ (.bind (.read _) fun _ => trivial)) kept
            fun idle after kept => ?_
          cases idle with
          | false => exact takes item after kept
          | true =>
              refine .after (setRedelivery_tallies item) kept fun _ after kept => ?_
              refine .after (.guarded wakeSenders_tallies (emit_tallies trivial)) kept
                fun _ after kept => ?_
              refine .after takeRedelivery_tallies kept fun left after kept => ?_
              cases left with
              | some item => exact takes item after kept
              | none => exact kept

/-- A receive has in hand what it has taken. -/
theorem tryTake_takes (kept : Tallied cap none channel) :
    (tryTake : M α (Option α)).Yields (Tallied cap none) (Tallied cap) channel := by
  refine .loop kept fun before kept => .mono (tryTakeTurn_takes kept) fun yielded after left => ?_
  cases yielded with
  | none => exact left
  | some taken => exact left

/-- One turn of the loop that drains the queue. -/
theorem drainTurn_tallies {next : Option α → M α (Option Unit)}
    (none : next none = return some ())
    (some : ∀ item, next (some item) = do callback (.dropQueued item); return .none) :
    Tallies cap (pop >>= next) := by
  refine .bind pop_tallies fun popped => ?_
  cases popped with
  | none => exact none ▸ trivial
  | some item => exact some item ▸ .bind (.callback _) fun _ => trivial

/-- Draining drops items, and hands over none. -/
theorem drain_tallies : Tallies cap (drain : M α Unit) := by
  show ∀ depth, Tallies cap (drainWithin depth : M α Unit)
  intro depth
  induction depth with
  | zero => trivial
  | succ depth ih =>
      refine .guarded (.bind takeRedelivery_tallies fun parked => ?_) ih
      cases parked with
      | none => exact .loop (drainTurn_tallies rfl fun _ => rfl)
      | some item => exact .bind (.callback _) fun _ => .loop (drainTurn_tallies rfl fun _ => rfl)

/-- Releasing the channel hands over nothing. -/
theorem releaseChan_tallies : Tallies cap (releaseChan : M α Unit) := by
  refine .bind (modifyState_tallies fun _ => rfl) fun _ => .bind .getState fun _ => .ite ?_ trivial
  refine .bind (.read _) fun _ => .bind (emit_tallies trivial) fun _ => .dropGlue (.dropItems _) ?_
  exact .dropGlue (.dropItems _) (.dropGlue (.dropWakers _) (.dropWakers _))

/-! ### The handles -/

/-- Holding a reference hands over nothing. -/
theorem holding_tallies {act : M α β} (ref : Ref) (tallies : Tallies cap act) :
    Tallies cap (holding ref act) :=
  .bind (modifyState_tallies fun _ => rfl) fun _ =>
    .ensuring tallies (modifyState_tallies fun _ => rfl)

/-- A receive keeps what it has taken in hand while its reference is let go of. -/
theorem holding_takes {act : M α β} (ref : Ref) (hands : β → Option α)
    (takes : ∀ before, Tallied cap none before →
      act.Yields (Tallied cap none) (fun value => Tallied cap (hands value)) before)
    (kept : Tallied cap none channel) :
    (holding ref act).Yields (Tallied cap none) (fun value => Tallied cap (hands value))
      channel := by
  refine .after (modifyState_tallies fun _ => rfl) kept fun _ after kept => ?_
  exact .ensuring (takes after kept) (modifyState_tallies fun _ => rfl)
    fun _ _ kept => { kept with }

/-- A fresh id hands over nothing. -/
theorem freshId_tallies : Tallies cap (freshId : M α Nat) :=
  .bind .getState fun _ => .bind (modifyState_tallies fun _ => rfl) fun _ => trivial

/-- Sending without waiting hands over nothing. -/
theorem trySend_tallies (item : α) :
    Tallies cap (Sender.trySend item : M α (Except (TrySendError α) Unit)) := by
  refine .bind (.read _) fun _ => .ite trivial (.bind (tryPush_tallies item none) fun pushed => ?_)
  cases pushed with
  | ok _ => exact .bind wakeReceivers_tallies fun _ => trivial
  | error item => trivial

/-- Dropping a sender hands over nothing. -/
theorem dropSender_tallies : Tallies cap (Sender.drop : M α Unit) :=
  .bind (.read _) fun _ =>
    .bind (modifyState_tallies fun _ => rfl) fun _ => .ite wakeReceivers_tallies trivial

/-- A receive that does not wait has the item in hand that it answers. -/
theorem tryRecv_takes (kept : Tallied cap none channel) :
    (Receiver.tryRecv : M α (Except TryRecvError α)).Yields (Tallied cap none)
      (fun result => Tallied cap (item? (.tryRecv result))) channel := by
  refine .bind (.mono (tryTake_takes kept) fun taken after kept => ?_)
  cases taken with
  | some item => exact kept
  | none =>
      refine .after (.read _) kept fun chan after kept => ?_
      exact .ite kept kept

/-- The iterator has the item in hand that it answers. -/
theorem tryIterNext_takes (kept : Tallied cap none channel) :
    (Receiver.tryIterNext : M α (Option α)).Yields (Tallied cap none)
      (fun item => Tallied cap (item? (.next item))) channel := by
  refine .bind (.mono (tryRecv_takes kept) fun result after kept => ?_)
  cases result <;> exact kept

/-- Removing the registration of a task hands over nothing. -/
theorem removeOwn_tallies (owner : Owner) :
    Tallies cap (Receiver.removeOwn owner : M α Unit) :=
  .bind (takeWakerId_tallies owner) fun id => removeRecv_tallies id

/-- A poll has the item in hand that it answers. -/
theorem pollRecv_takes (waker : Waker) (owner : Owner) (kept : Tallied cap none channel) :
    (Receiver.pollRecv waker owner : M α (Poll (Option α))).Yields (Tallied cap none)
      (fun polled => Tallied cap (item? (.recv polled))) channel := by
  refine .after (removeOwn_tallies owner) kept fun _ after kept => ?_
  refine .bind (.mono (tryTake_takes kept) fun taken after kept => ?_)
  cases taken with
  | some item => exact kept
  | none =>
      refine .after (.read _) kept fun chan after kept => .ite kept ?_
      refine .after (addRecvWaker_tallies waker) kept fun id after kept => ?_
      refine .after (setWakerId_tallies owner id) kept fun _ after kept => ?_
      refine .bind (.mono (tryTake_takes kept) fun taken after kept => ?_)
      cases taken with
      | some item => exact kept
      | none =>
          refine .after (.read _) kept fun chan after kept => .ite ?_ kept
          exact .after (removeOwn_tallies owner) kept fun _ after kept => kept

/-- Dropping a receiver hands over nothing. -/
theorem dropReceiver_tallies (receiver : Nat) :
    Tallies cap (Receiver.drop receiver : M α Unit) := by
  refine .bind (.read _) fun _ => .bind (modifyState_tallies fun _ => rfl) fun _ =>
    .ite ?_ (removeOwn_tallies _)
  refine .bind (emit_tallies trivial) fun _ => .bind (takeWakerId_tallies _) fun id => ?_
  exact .ensuring wakeSenders_tallies (.ensuring drain_tallies (removeRecv_tallies id))

/-! ### The futures -/

/-- Committing an outcome hands over nothing. -/
theorem commit_tallies (future : Nat) (result : Except (SendError α) Unit) :
    Tallies cap (SendFuture.commit future result) := by
  refine .bind (modifyState_tallies fun _ => rfl) fun _ => .bind (emit_tallies trivial) fun _ => ?_
  refine .bind (takeWakerId_tallies _) fun id => .bind ?_ fun _ => ?_
  · exact .ensuring (.ite wakeReceivers_tallies trivial) (removeSend_tallies id)
  · refine .bind .getState fun _ => .bind (modifyState_tallies fun _ => rfl) fun _ => ?_
    exact .bind (.expect _ _) fun _ => trivial

/-- Trying to push hands over nothing, if parking does not. -/
theorem attemptPush_tallies (future : Nat) {parked : M α (Poll (Except (SendError α) Unit))}
    (tallies : Tallies cap parked) :
    Tallies cap (SendFuture.attemptPush future parked) := by
  have takes : Tallies cap (SendFuture.takeItem future : M α α) :=
    .bind .getState fun _ => .bind (modifyState_tallies fun _ => rfl) fun _ => .expect _ _
  refine .bind (.read _) fun _ => .ite (.bind takes fun _ => commit_tallies _ _) ?_
  refine .bind takes fun item => .bind (tryPush_tallies item _) fun pushed => ?_
  cases pushed with
  | ok _ => exact commit_tallies _ _
  | error item => exact .bind (modifyState_tallies fun _ => rfl) fun _ => tallies

/-- Polling a send future hands over nothing. -/
theorem pollSend_tallies (future : Nat) (waker : Waker) :
    Tallies cap (SendFuture.poll future waker : M α _) := by
  refine .bind .getState fun state => ?_
  cases state.sends future with
  | none => trivial
  | some this =>
      dsimp only
      cases this.outcome with
      | some outcome => exact .bind (modifyState_tallies fun _ => rfl) fun _ => trivial
      | none =>
          refine .ite trivial (attemptPush_tallies future ?_)
          refine .bind (takeWakerId_tallies _) fun id => .bind (removeSend_tallies id) fun _ => ?_
          refine .bind (addSendWaker_tallies waker) fun id => ?_
          refine .bind (setWakerId_tallies _ id) fun _ => ?_
          exact attemptPush_tallies future trivial

/-- Dropping a send future hands over nothing. -/
theorem dropSendFuture_tallies (this : Send α) :
    Tallies cap (SendFuture.drop this : M α Unit) :=
  .dropGlue (removeSend_tallies _) (.dropGlue (.dropItems _) (.dropItems _))

/-- Polling a receive future has the item in hand that it answers. -/
theorem pollRecvFuture_takes (future : Nat) (waker : Waker) (kept : Tallied cap none channel) :
    (RecvFuture.poll future waker : M α _).Yields (Tallied cap none)
      (fun polled => Tallied cap (item? (.recv polled))) channel := by
  refine .after .getState kept fun state after kept => ?_
  cases state.recvs future with
  | none => trivial
  | some this =>
      refine .ite ?_ (.bind (.mono (pollRecv_takes waker _ kept) fun polled after kept => ?_))
      · refine .after (takeWakerId_tallies _) kept fun id after kept => ?_
        cases id with
        | none => exact kept
        | some id =>
            exact .after (removeRecvWaker_tallies id) kept fun _ after kept =>
              .after (.callback _) kept fun _ after kept => kept
      · cases polled with
        | ready item => exact { kept with }
        | pending => exact kept

/-! ### Every operation -/

/-- Every operation has in hand the item that it answers with. -/
theorem body_takes (op : Op α) (kept : Tallied cap none channel) :
    (body op).Yields (Tallied cap none) (fun result => Tallied cap (item? result)) channel := by
  cases op with
  | trySend sender item =>
      exact .after (holding_tallies _ (trySend_tallies item)) kept fun _ _ kept => kept
  | cloneSender sender =>
      refine .after (.bind (modifyState_tallies fun _ => rfl) fun _ =>
        .bind freshId_tallies fun _ => ?_) kept fun _ _ kept => kept
      exact .bind (modifyState_tallies fun _ => rfl) fun _ => trivial
  | dropSender sender =>
      refine .after (modifyState_tallies fun _ => rfl) kept fun _ _ kept => ?_
      exact .after (.ensuring dropSender_tallies releaseChan_tallies) kept fun _ _ kept => kept
  | closeSender sender | closeReceiver receiver =>
      refine .after (holding_tallies _ (.bind (.bind (.read _) fun _ => trivial) fun _ => ?_)) kept
        fun _ _ kept => kept
      exact .ite trivial (.bind close_tallies fun _ => trivial)
  | senderCapacity sender | senderIsFull sender =>
      exact .after (.borrowing _ (.bind (.read _) fun _ => trivial)) kept fun _ _ kept => kept
  | senderLen sender | receiverLen receiver =>
      refine .after (.borrowing _ (.bind (.read _) fun _ => .borrowing _ ?_)) kept
        fun _ _ kept => kept
      exact .bind (.read _) fun _ => trivial
  | senderIsEmpty sender | receiverIsEmpty receiver =>
      exact .after isEmpty_tallies kept fun _ _ kept => kept
  | senderIsClosed sender | receiverIsClosed receiver =>
      exact .after (.bind (.read _) fun _ => trivial) kept fun _ _ kept => kept
  | send sender item =>
      refine .after freshId_tallies kept fun _ _ kept => ?_
      exact .after (modifyState_tallies fun _ => rfl) kept fun _ _ kept => kept
  | pollSend future waker =>
      exact .after (holding_tallies _ (pollSend_tallies future waker)) kept fun _ _ kept => kept
  | sendIsTerminated future =>
      refine .after (.bind .getState fun state => ?_) kept fun _ _ kept => kept
      cases state.sends future <;> trivial
  | dropSend future =>
      refine .after .getState kept fun state _ kept => ?_
      cases state.sends future with
      | none => trivial
      | some this =>
          refine .after (modifyState_tallies fun _ => rfl) kept fun _ _ kept => ?_
          exact .after (holding_tallies _ (dropSendFuture_tallies this)) kept fun _ _ kept => kept
  | tryRecv receiver =>
      exact .bind (holding_takes _ (fun result => item? (.tryRecv result))
        (fun _ => tryRecv_takes) kept)
  | tryIterNext receiver =>
      exact .bind (holding_takes _ (fun item => item? (.next item))
        (fun _ => tryIterNext_takes) kept)
  | pollNext receiver waker =>
      exact .bind (holding_takes _ (fun polled => item? (.recv polled))
        (fun _ => pollRecv_takes waker _) kept)
  | cloneReceiver receiver =>
      refine .after (.bind (modifyState_tallies fun _ => rfl) fun _ =>
        .bind freshId_tallies fun _ => ?_) kept fun _ _ kept => kept
      exact .bind (modifyState_tallies fun _ => rfl) fun _ => trivial
  | dropReceiver receiver =>
      refine .after (modifyState_tallies fun _ => rfl) kept fun _ _ kept => ?_
      exact .after (.ensuring (dropReceiver_tallies receiver) releaseChan_tallies) kept
        fun _ _ kept => kept
  | streamIsTerminated receiver =>
      exact .after (.bind .getState fun _ => .ite isEmpty_tallies trivial) kept fun _ _ kept => kept
  | recv receiver =>
      refine .after freshId_tallies kept fun _ _ kept => ?_
      exact .after (modifyState_tallies fun _ => rfl) kept fun _ _ kept => kept
  | pollRecv future waker =>
      exact .bind (holding_takes _ (fun polled => item? (.recv polled))
        (fun _ => pollRecvFuture_takes future waker) kept)
  | recvIsTerminated future =>
      refine .after (.bind .getState fun state => ?_) kept fun _ _ kept => kept
      cases state.recvs future <;> trivial
  | dropRecv future =>
      refine .after .getState kept fun state _ kept => ?_
      cases state.recvs future with
      | none => trivial
      | some this =>
          refine .after (modifyState_tallies fun _ => rfl) kept fun _ _ kept => ?_
          exact .after (holding_tallies _ (removeRecv_tallies _)) kept fun _ _ kept => kept

/-- An operation leaves no item in hand: it returns the one that it has taken. -/
theorem perform_takes (op : Op α) (kept : Tallied cap none channel) :
    (perform op).Yields (Tallied cap none) (fun _ => Tallied cap none) channel := by
  refine .after (fun _ _ => trivial) kept fun world _ kept => ?_
  refine .after (emit_tallies trivial) kept fun _ before kept => ?_
  refine .bind (.attempt (.mono (body_takes op kept) fun result after kept => ?_)
    fun payload after kept => ?_)
  · exact ⟨kept.capacity, rfl, kept.inHand⟩
  · exact .after (emit_tallies trivial) kept fun _ after kept => kept

section Run

variable {policy : Policy (Channel α) (Callback α) Panic (Op α)} {fresh : Channel α} {frames}

/-- At every point of a run every item that was taken has been returned. -/
theorem Runs.tallied (new : New fresh) (runs : Runs policy fresh (.user channel frames)) :
    Tallied fresh.state.capacity none channel := by
  have initially : Tallied fresh.state.capacity none fresh := by
    cases new <;> exact ⟨rfl, rfl⟩
  exact (runs.yields (Tallied fresh.state.capacity none) (fun op _ kept => perform_takes op kept)
    initially).1

/-- At every point of a run the queue has the capacity that it was created with. -/
theorem Runs.capacity (new : New fresh) (runs : Runs policy fresh (.user channel frames)) :
    channel.state.capacity = fresh.state.capacity := (runs.tallied new).capacity

end Run

end Lochan.Mpmc
