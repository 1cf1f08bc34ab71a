import Lochan.Oneshot.Soundness

/-!
# The value of a oneshot channel

In every run the value that is sent ends in exactly one way, and a waiting receiver hears of
it, or that there will be none.
-/

namespace Lochan.Oneshot

open Reentrant

variable {α : Type} {channel : Channel α}

/-- The operations by which the receiver hears that the sender dropped. -/
def Op.Hears : Op α → Prop
  | .poll _ | .tryRecv => True
  | _ => False

/-- What has become of the value, and what the receiver has been told. -/
structure Handled (channel : Channel α) : Prop where
  single : (sent channel.log).length ≤ 1
  /-- The value was returned to the sender, or received, or dropped, or it is in the slot. -/
  books : sent channel.log = rejected channel.log ++ received channel.log ++ drained channel.log ++
    channel.state.inner.value.toList
  rejects : ∀ start value back older,
    .returned start (.send value) (.send (.error back)) :: older <:+ channel.log →
    back = value ∧ Closed (past start older)
  once : (yielded channel.log).length ≤ 1
  canceled : Reported channel.log → sent channel.log = []
  told : ∀ start op result older, .returned start op result :: older <:+ channel.log → op.Hears →
    Abandoned (past start older) → ¬ Reported (past start older) →
    result.yields = some (.error .mk)

/-- What is lawful has been answered lawfully at any time before. -/
theorem Lawful.answers {log : Log α} (lawful : Lawful log) {start : Nat} {op : Op α}
    {result : Result α} {older : Log α} (suffix : .returned start op result :: older <:+ log) :
    Answers op result (past start older) := by
  obtain ⟨newer, rfl⟩ := suffix
  induction newer with
  | nil => exact lawful.1
  | cons event newer ih =>
      cases event with
      | returned _ _ _ => exact ih lawful.2
      | _ => exact ih lawful

/-- The books say what became of the value. -/
theorem Core.handled (core : Core channel) : Handled channel where
  single := core.single
  books := core.books
  rejects start value back older suffix := core.lawful.answers suffix back rfl
  once := core.once
  canceled reported := (core.canceled reported).1
  told start op result older suffix hears abandoned unreported := by
    have answers := core.lawful.answers suffix
    cases op with
    | poll waker => rw [answers.1 abandoned unreported]; rfl
    | tryRecv => rw [answers abandoned unreported]; rfl
    | _ => exact hears.elim

/-- The value is accounted for whenever user code is in control, and once both handles are gone
nothing is left in the slot. Nothing reads the slot unless a value is there. -/
def HandlesValue : Config (Channel α) (Callback α) Panic (Op α) → Prop
  | .user channel frames => Handled channel ∧
      (frames = [] → channel.state.sender = false → channel.state.receiver = false →
        channel.state.inner.value = none)
  | .aborted _ channel => 2 ≤ panics channel.log
  | .faulted _ _ | .hung _ _ => False

/-- Whatever the callbacks do, the value that is sent is returned to the sender, received or
dropped, exactly once; the receiver hears of a sender that dropped without sending, at most
once, and no iterator keeps that from it. -/
theorem value_is_handled_once {config : Config (Channel α) (Callback α) Panic (Op α)}
    (runs : Runs config) : HandlesValue config := by
  have sound := runs.sound
  cases config with
  | user channel frames =>
      refine ⟨sound.1.core.handled, ?_⟩
      rintro rfl sender receiver
      refine sound.1.freed ?_
      rw [runs.shares, State.handles, sender, receiver]
      rfl
  | aborted op channel => exact sound
  | faulted op channel => exact sound
  | hung op channel => exact sound

/-- The sender sends from the destructor of the waker that the receiver drops, which then panics. -/
theorem value_is_handled_once_rejected : ∃ channel : Channel Nat, Runs (.user channel []) ∧
    rejected channel.log = [7] ∧ HandlesValue (.user channel []) := by
  have played : ∃ channel : Channel Nat, (system Nat).play 0
      [.call (.poll 5), .leave (.ok ()), .call .dropReceiver, .call (.send 7),
        .leave (.error (.message "waker"))]
      (.user Oneshot.channel []) = some (.user channel []) ∧ rejected channel.log = [7] :=
    ⟨_, rfl, rfl⟩
  obtain ⟨channel, played, rejects⟩ := played
  have runs : Runs (.user channel []) := .played _ played
  exact ⟨channel, runs, rejects, value_is_handled_once runs⟩

/-- The receiver is registered, and whatever delivers the value or drops the sender wakes it
first. -/
structure Awaits (channel : Channel α) (waker : Waker) : Prop where
  parked : channel.state.inner.Parked waker
  woken : ∀ op, (∃ value, op = .send value) ∨ op = .dropSender → channel.state.Legal op →
    ∀ count, ∃ state next, (perform op).exec count channel =
      .waiting (.wake .receivers waker)
        ⟨state, [], .called (.wake .receivers waker) :: .began op :: channel.log⟩ next

/-- A receiver whose poll returned `Pending` is registered until it is woken. Once the receiver
drops, no waker is ever kept. -/
theorem receiver_is_woken {frames} (runs : Runs (.user channel frames)) :
    (∀ waker, waiting channel.log = some waker → channel.state.Expecting →
      Awaits channel waker) ∧
    (Closed channel.log → channel.state.inner.recvWaker = none) := by
  have inv := runs.inv
  refine ⟨fun waker waits expecting => ?_, fun closed =>
    inv.core.vacated (inv.core.closed.mp closed)⟩
  have parked := inv.parked waker waits expecting
  refine ⟨parked, ?_⟩
  have alive : channel.state.inner.receiverDropped = false := by
    have receiver := inv.core.receiver
    rw [expecting.2.1] at receiver
    simpa using receiver.symm
  have absent : channel.state.inner.valuePresent = false := by
    rw [inv.core.present, parked.value]
    rfl
  have clear := inv.core.held
  obtain ⟨-, -, registered⟩ := parked
  obtain ⟨⟨⟨slot, present, senderDropped, receiverDropped, recvWaker⟩, strong, sender, receiver,
    done, polling⟩, held, log⟩ := channel
  obtain rfl : receiverDropped = false := alive
  obtain rfl : present = false := absent
  obtain rfl : recvWaker = some waker := registered
  obtain rfl : held = [] := clear
  rintro op (⟨value, rfl⟩ | rfl) - count
  · exact ⟨_, _, rfl⟩
  · exact ⟨_, _, rfl⟩

/-- The sender is still there while the receiver waits with its second waker. -/
theorem receiver_is_woken_replaced : ∃ channel : Channel Nat, Runs (.user channel []) ∧
    Awaits channel 6 := by
  have played : ∃ channel : Channel Nat, (system Nat).play 0
      [.call (.poll 5), .leave (.ok ()), .call (.poll 6), .leave (.ok ()), .leave (.ok ())]
      (.user Oneshot.channel []) = some (.user channel []) ∧ waiting channel.log = some 6 ∧
      channel.state.Expecting := ⟨_, rfl, rfl, rfl, rfl, rfl⟩
  obtain ⟨channel, played, waits, expecting⟩ := played
  have runs : Runs (.user channel []) := .played _ played
  exact ⟨channel, runs, (receiver_is_woken runs).1 6 waits expecting⟩

end Lochan.Oneshot
