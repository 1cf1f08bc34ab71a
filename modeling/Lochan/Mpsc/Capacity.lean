import Lochan.Fixes
import Lochan.Mpsc.Soundness

/-!
# The capacity of an mpsc channel

No operation changes the capacity of the queue, at any point.
-/

namespace Lochan.Mpsc

open Reentrant Queue

variable {α β : Type}

/-- The capacity of the queue. -/
def State.capacity (state : State α) : Option Nat := state.chan.flavor.cap

/-! ### The channel -/

/-- `is_empty` leaves the capacity alone. -/
theorem isEmpty_fixes : Fixes State.capacity (isEmpty : M α Bool) :=
  .borrowing _ (.bind (.read _) fun _ => .pure _)

/-- Taking the id of a send future leaves the capacity alone. -/
theorem takeWakerId_fixes (future : Nat) :
    Fixes State.capacity (takeWakerId future : M α (Option UInt64)) :=
  .bind .getState fun _ => .bind (.replace fun _ => rfl) fun _ => .pure _

/-- Taking the receiver's waker leaves the capacity alone. -/
theorem takeRecvWaker_fixes : Fixes State.capacity (takeRecvWaker : M α (Option Waker)) :=
  .borrowing _ (.bind (.read _) fun _ => .bind (.replace fun _ => rfl) fun _ => .pure _)

/-- Waking the receiver leaves the capacity alone. -/
theorem wakeReceiver_fixes : Fixes State.capacity (wakeReceiver : M α Unit) := by
  refine .bind (.borrowing _ (.bind (.read _) fun _ => .pure _)) fun _ => .ite (.pure _) ?_
  refine .bind takeRecvWaker_fixes fun waker => ?_
  cases waker with
  | none => exact .pure _
  | some waker => exact .callback _

/-- Registering the receiver leaves the capacity alone. -/
theorem registerRecvWaker_fixes (waker : Waker) :
    Fixes State.capacity (registerRecvWaker waker : M α Unit) := by
  refine .bind (.read _) fun _ => .ite (.pure _) (.bind (.callback _) fun _ => ?_)
  refine .bind (.read _) fun _ => .ite (.callback _) (.bind (.borrowing _ ?_) fun replaced => ?_)
  · exact .bind (.read _) fun _ => .bind (.replace fun _ => rfl) fun _ => .pure _
  · cases replaced with
    | none => exact .pure _
    | some old => exact .callback _

/-- Dropping the receiver's waker leaves the capacity alone. -/
theorem clearRecvWaker_fixes : Fixes State.capacity (clearRecvWaker : M α Unit) := by
  refine .bind takeRecvWaker_fixes fun waker => ?_
  cases waker with
  | none => exact .pure _
  | some waker => exact .callback _

/-- Registering a sender leaves the capacity alone. -/
theorem addSendWaker_fixes (waker : Waker) :
    Fixes State.capacity (addSendWaker waker : M α UInt64) := by
  refine .bind (.callback _) fun _ => .bind (.read _) fun _ => .bind (.replace fun _ => rfl)
    fun _ => .bind (.emit _) fun _ => ?_
  exact .bind (.borrowing _ (.replace fun _ => rfl)) fun _ => .pure _

/-- Taking out a sender's entry leaves the capacity alone. -/
theorem removeSendWaker_fixes (id : UInt64) :
    Fixes State.capacity (removeSendWaker id : M α Unit) := by
  refine .bind (.borrowing _ ?_) fun removed => ?_
  · exact .bind (.read _) fun _ => .bind (.replace fun _ => rfl) fun _ => .pure _
  cases removed with
  | none => exact .pure _
  | some entry => exact .callback _

/-- Withdrawing a sender's entry leaves the capacity alone. -/
theorem removeSend_fixes (id : Option UInt64) :
    Fixes State.capacity (removeSend id : M α Unit) := by
  cases id with
  | none => exact .pure _
  | some id => exact removeSendWaker_fixes id

/-- Waking the senders leaves the capacity alone. -/
theorem wakeSenders_fixes : Fixes State.capacity (wakeSenders : M α Unit) := by
  refine .bind (.borrowing _ (.bind (.read _) fun _ => .pure _)) fun _ => .ite (.pure _) ?_
  refine .bind (.borrowing _ ?_) fun _ => .wakeAll _ _
  exact .bind (.read _) fun _ => .bind (.replace fun _ => rfl) fun _ => .pure _

/-- Closing leaves the capacity alone. -/
theorem close_fixes : Fixes State.capacity (close : M α Unit) := by
  refine .bind (.read _) fun _ => .bind (.replace fun _ => rfl) fun _ => .ite (.pure _) ?_
  refine .bind (.emit _) fun _ => .bind (.attempt wakeReceiver_fixes) fun received => ?_
  refine .bind (.attempt wakeSenders_fixes) fun sent => ?_
  cases received with
  | ok _ => cases sent with
    | ok _ => exact .pure _
    | error payload => exact .unwind _
  | error first => cases sent with
    | ok _ => exact .unwind _
    | error second =>
      exact .bind (.guarded (.dropPanicPayload _) (.callback _)) fun _ => .unwind _

/-- A push leaves the capacity of the queue as it is. -/
theorem tryPush_fixes (item : α) (future : Option Nat) :
    Fixes State.capacity (tryPush item future : M α (Except α Unit)) := by
  refine .borrowing _ fun capacity world kept _ _ => ⟨?_, ?_⟩
  · exact (world.state.chan.flavor.tryPush_cap item).trans kept
  · refine Prog.Preserves.bind trivial fun _ => ?_
    split
    · exact (Fixes.bind (.emit _) fun _ => .bind (.emit _) fun _ => .pure _) capacity
    · trivial

/-- A pop leaves the capacity alone. -/
theorem pop_fixes : Fixes State.capacity (pop : M α (Option α)) := by
  refine .borrowing _ fun capacity world kept _ _ => ⟨?_, ?_⟩
  · exact world.state.chan.flavor.pop_cap.trans kept
  · exact (Fixes.bind (.dropItems _) fun _ => .pure _) capacity

/-- One turn of the loop that drains the queue. -/
theorem drainTurn_fixes {next : Option α → M α (Option Unit)}
    (none : next none = return some ())
    (some : ∀ item, next (some item) = do callback (.dropQueued item); return .none) :
    Fixes State.capacity (pop >>= next) := by
  refine .bind pop_fixes fun popped => ?_
  cases popped with
  | none => exact none ▸ .pure _
  | some item => exact some item ▸ .bind (.callback _) fun _ => .pure _

/-- Draining leaves the capacity alone. -/
theorem drain_fixes : Fixes State.capacity (drain : M α Unit) := by
  refine .budget fun depth => ?_
  induction depth with
  | zero => exact .hang
  | succ depth ih => exact .guarded (.loop (drainTurn_fixes rfl fun _ => rfl)) ih

/-- Giving up a count leaves the capacity alone. -/
theorem releaseChan_fixes : Fixes State.capacity (releaseChan : M α Unit) := by
  refine .bind (.replace fun _ => rfl) fun _ => .bind .getState fun _ => .ite ?_ (.pure _)
  refine .bind (.read _) fun _ => .bind (.emit _) fun _ => .dropGlue (.dropItems _) ?_
  exact .dropGlue (.dropWakers _) (.dropWakers _)

/-! ### The handles -/

/-- Holding a reference leaves the capacity alone. -/
theorem holding_fixes {act : M α β} (ref : Ref) (fixes : Fixes State.capacity act) :
    Fixes State.capacity (holding ref act) :=
  .bind (.replace fun _ => rfl) fun _ => .ensuring fixes (.replace fun _ => rfl)

/-- A fresh key leaves the capacity alone. -/
theorem freshId_fixes : Fixes State.capacity (freshId : M α Nat) :=
  .bind .getState fun _ => .bind (.replace fun _ => rfl) fun _ => .pure _

/-- `try_send` leaves the capacity alone. -/
theorem trySend_fixes (item : α) :
    Fixes State.capacity (Sender.trySend item : M α (Except (TrySendError α) Unit)) := by
  refine .bind (.read _) fun _ => .ite (.pure _) (.bind (tryPush_fixes item none) fun pushed => ?_)
  cases pushed with
  | ok _ => exact .bind wakeReceiver_fixes fun _ => .pure _
  | error item => exact .pure _

/-- The drop of a sender leaves the capacity alone. -/
theorem dropSender_fixes : Fixes State.capacity (Sender.drop : M α Unit) :=
  .bind (.read _) fun _ => .bind (.replace fun _ => rfl) fun _ => .ite wakeReceiver_fixes (.pure _)

/-- A `take` leaves the capacity alone. -/
theorem take_fixes : Fixes State.capacity (Receiver.take : M α (Option α)) := by
  refine .bind pop_fixes fun popped => ?_
  cases popped with
  | none => exact .bind (.read _) fun _ => .bind (.emit _) fun _ => .pure _
  | some item =>
      refine .bind (.emit _) fun _ => ?_
      exact .bind (.guarded wakeSenders_fixes (.callback _)) fun _ => .pure _

/-- `try_recv` leaves the capacity alone. -/
theorem tryRecv_fixes : Fixes State.capacity (Receiver.tryRecv : M α (Except TryRecvError α)) := by
  refine .bind take_fixes fun taken => ?_
  cases taken with
  | some item => exact .pure _
  | none => exact .bind (.read _) fun _ => .ite (.pure _) (.pure _)

/-- The iterator that does not wait leaves the capacity alone. -/
theorem tryIterNext_fixes : Fixes State.capacity (Receiver.tryIterNext : M α (Option α)) := by
  refine .bind tryRecv_fixes fun result => ?_
  cases result <;> exact .pure _

/-- A poll of the receiver leaves the capacity alone. -/
theorem pollRecv_fixes (waker : Waker) :
    Fixes State.capacity (Receiver.pollRecv waker : M α (Poll (Option α))) := by
  have ends : ∀ {β : Type} (value : β),
      Fixes State.capacity (do clearRecvWaker; return value : M α β) :=
    fun _ => .bind clearRecvWaker_fixes fun _ => .pure _
  refine .bind take_fixes fun taken => ?_
  cases taken with
  | some item => exact .pure _
  | none =>
      refine .bind (.read _) fun _ => .ite (ends _) ?_
      refine .bind (registerRecvWaker_fixes waker) fun _ => ?_
      refine .bind take_fixes fun taken => ?_
      cases taken with
      | some item => exact .pure _
      | none => exact .bind (.read _) fun _ => .ite (ends _) (.pure _)

/-- The drop of the receiver leaves the capacity alone. -/
theorem dropReceiver_fixes (receiver : Nat) :
    Fixes State.capacity (Receiver.drop receiver : M α Unit) := by
  refine .bind (.read _) fun _ => .bind (.replace fun _ => rfl) fun _ => .bind (.emit _) fun _ => ?_
  exact .ensuring (.bind wakeSenders_fixes fun _ => clearRecvWaker_fixes) drain_fixes

/-! ### The futures -/

/-- Committing a send leaves the capacity alone. -/
theorem commit_fixes (future : Nat) (result : Except (SendError α) Unit) :
    Fixes State.capacity (SendFuture.commit future result) := by
  refine .bind (.replace fun _ => rfl) fun _ => .bind (.emit _) fun _ => ?_
  have settles : Fixes State.capacity (do
      let outcome := ((← getState).sends future).bind Send.outcome
      SendFuture.update future fun this => { this with outcome := none }
      return .ready (← expect "committed outcome" outcome) : M α (Poll _)) := by
    refine .bind .getState fun _ => .bind (.replace fun _ => rfl) fun _ => ?_
    exact .bind (.expect _ _) fun _ => .pure _
  refine .bind (takeWakerId_fixes _) fun id => .bind (removeSend_fixes id) fun _ => ?_
  exact .ite (.bind wakeReceiver_fixes fun _ => settles) settles

/-- Attempting a push leaves the capacity alone, if parking does. -/
theorem attemptPush_fixes (future : Nat) {parked : M α (Poll (Except (SendError α) Unit))}
    (fixes : Fixes State.capacity parked) :
    Fixes State.capacity (SendFuture.attemptPush future parked) := by
  have takes : Fixes State.capacity (SendFuture.takeItem future : M α α) :=
    .bind .getState fun _ => .bind (.replace fun _ => rfl) fun _ => .expect _ _
  refine .bind (.read _) fun _ => .ite (.bind takes fun _ => commit_fixes _ _) ?_
  refine .bind takes fun item => .bind (tryPush_fixes item _) fun pushed => ?_
  cases pushed with
  | ok _ => exact commit_fixes _ _
  | error item => exact .bind (.replace fun _ => rfl) fun _ => fixes

/-- A poll of a send future leaves the capacity alone. -/
theorem pollSend_fixes (future : Nat) (waker : Waker) :
    Fixes State.capacity (SendFuture.poll future waker : M α _) := by
  refine .bind .getState fun state => ?_
  cases state.sends future with
  | none => exact .fault
  | some this =>
      dsimp only
      cases this.outcome with
      | some outcome => exact .bind (.replace fun _ => rfl) fun _ => .pure _
      | none =>
          refine .ite (.pure _) (attemptPush_fixes future ?_)
          refine .bind (takeWakerId_fixes _) fun id => .bind (removeSend_fixes id) fun _ => ?_
          refine .bind (addSendWaker_fixes waker) fun id => ?_
          refine .bind (.replace fun _ => rfl) fun _ => ?_
          exact attemptPush_fixes future (.pure _)

/-- The drop of a send future leaves the capacity alone. -/
theorem dropSendFuture_fixes (this : Send α) :
    Fixes State.capacity (SendFuture.drop this : M α Unit) :=
  .dropGlue (removeSend_fixes _) (.dropGlue (.dropItems _) (.dropItems _))

/-- A poll of a receive future leaves the capacity alone. -/
theorem pollRecvFuture_fixes (future : Nat) (waker : Waker) :
    Fixes State.capacity (RecvFuture.poll future waker : M α _) := by
  refine .bind .getState fun state => ?_
  cases state.recvs future with
  | none => exact .fault
  | some this =>
      refine .bind (pollRecv_fixes waker) fun polled => ?_
      cases polled with
      | ready item => exact .bind (.replace fun _ => rfl) fun _ => .pure _
      | pending => exact .pure _

/-! ### Every operation -/

/-- No operation touches the capacity, before its end is recorded. -/
theorem body_fixes (op : Op α) : Fixes State.capacity (body op) := by
  cases op with
  | trySend sender item => exact .bind (holding_fixes _ (trySend_fixes item)) fun _ => .pure _
  | cloneSender sender =>
      refine .bind (.bind (.replace fun _ => rfl) fun _ => .bind freshId_fixes fun _ => ?_)
        fun _ => .pure _
      exact .bind (.replace fun _ => rfl) fun _ => .pure _
  | dropSender sender =>
      exact .bind (.replace fun _ => rfl) fun _ =>
        .bind (.ensuring dropSender_fixes releaseChan_fixes) fun _ => .pure _
  | closeSender sender | closeReceiver receiver =>
      refine .bind (holding_fixes _ (.bind (.bind (.read _) fun _ => .pure _) fun _ => ?_)) fun _ =>
        .pure _
      exact .ite (.pure _) (.bind close_fixes fun _ => .pure _)
  | senderCapacity sender =>
      exact .bind (.borrowing _ (.bind (.read _) fun _ => .pure _)) fun _ => .pure _
  | senderLen sender | receiverLen receiver =>
      exact .bind (.borrowing _ (.bind (.read _) fun _ => .pure _)) fun _ => .pure _
  | senderIsEmpty sender | receiverIsEmpty receiver => exact .bind isEmpty_fixes fun _ => .pure _
  | senderIsFull sender =>
      exact .bind (.borrowing _ (.bind (.read _) fun _ => .pure _)) fun _ => .pure _
  | senderIsClosed sender | receiverIsClosed receiver =>
      exact .bind (.bind (.read _) fun _ => .pure _) fun _ => .pure _
  | send sender item =>
      exact .bind freshId_fixes fun _ => .bind (.replace fun _ => rfl) fun _ => .pure _
  | pollSend future waker =>
      exact .bind (holding_fixes _ (pollSend_fixes future waker)) fun _ => .pure _
  | sendIsTerminated future =>
      refine .bind (.bind .getState fun state => ?_) fun _ => .pure _
      cases state.sends future with
      | none => exact .fault
      | some this => exact .pure _
  | dropSend future =>
      refine .bind .getState fun state => ?_
      cases state.sends future with
      | none => exact .fault
      | some this =>
          exact .bind (.replace fun _ => rfl) fun _ =>
            .bind (holding_fixes _ (dropSendFuture_fixes this)) fun _ => .pure _
  | tryRecv receiver => exact .bind (holding_fixes _ tryRecv_fixes) fun _ => .pure _
  | tryIterNext receiver => exact .bind (holding_fixes _ tryIterNext_fixes) fun _ => .pure _
  | pollNext receiver waker => exact .bind (holding_fixes _ (pollRecv_fixes waker)) fun _ => .pure _
  | cloneReceiver receiver => exact .fault
  | dropReceiver receiver =>
      exact .bind (.replace fun _ => rfl) fun _ =>
        .bind (.ensuring (dropReceiver_fixes receiver) releaseChan_fixes) fun _ => .pure _
  | streamIsTerminated receiver =>
      exact .bind (.bind (.read _) fun _ => .ite isEmpty_fixes (.pure _)) fun _ => .pure _
  | recv receiver =>
      exact .bind freshId_fixes fun _ => .bind (.replace fun _ => rfl) fun _ => .pure _
  | pollRecv future waker =>
      exact .bind (holding_fixes _ (pollRecvFuture_fixes future waker)) fun _ => .pure _
  | recvIsTerminated future =>
      refine .bind (.bind .getState fun state => ?_) fun _ => .pure _
      cases state.recvs future with
      | none => exact .fault
      | some this => exact .pure _
  | dropRecv future =>
      refine .bind .getState fun state => ?_
      cases state.recvs future with
      | none => exact .fault
      | some this =>
          exact .bind (.replace fun _ => rfl) fun _ =>
            .bind (holding_fixes _ (.ite (.pure _) clearRecvWaker_fixes)) fun _ => .pure _

/-- No operation touches the capacity. -/
theorem perform_fixes (op : Op α) : Fixes State.capacity (perform op) := by
  refine .bind (fun _ _ _ => trivial) fun _ => .bind (.emit _) fun _ =>
    .bind (.attempt (body_fixes op)) fun result => ?_
  cases result with
  | ok result => exact .emit _
  | error payload => exact .bind (.emit _) fun _ => .unwind _

/-- At every point of a run the queue has the capacity that it was created with. -/
theorem Runs.capacity {policy : Policy (Channel α) (Callback α) Panic (Op α)}
    {fresh channel : Channel α} {frames} (runs : Runs policy fresh (.user channel frames)) :
    channel.state.capacity = fresh.state.capacity := by
  have kept := runs.preserves (fun world => world.state.capacity = fresh.state.capacity)
    (fun op => perform_fixes op _) rfl
  exact kept.1

end Lochan.Mpsc
