import Lochan.Mpmc.Handover
import Lochan.Mpmc.Delivery
import Lochan.Mpsc.Capacity
import Lochan.Mpsc.Delivery

/-!
# The bound on what a channel holds

The queue of a bounded channel never holds more than its capacity. An mpmc channel may hold one
item more, in the redelivery slot, which between operations is vacant unless waking a parked sender
has panicked.
-/

namespace Lochan

open Reentrant

variable {χ α : Type}

/-- Both halves of the channel report that it holds this many items, and that it is empty if that
is none. -/
structure Measures (perform : Op α → Act χ (Op α) (Result α) α Unit)
    (channel : World χ (Op α) (Result α) α) (length : Nat) : Prop where
  senderLen : ∀ sender count, (perform (.senderLen sender)).exec count channel =
    .returned () (channel.answered (.senderLen sender) (.size length))
  receiverLen : ∀ receiver count, (perform (.receiverLen receiver)).exec count channel =
    .returned () (channel.answered (.receiverLen receiver) (.size length))
  senderIsEmpty : ∀ sender count, (perform (.senderIsEmpty sender)).exec count channel =
    .returned () (channel.answered (.senderIsEmpty sender) (.bool (length == 0)))
  receiverIsEmpty : ∀ receiver count, (perform (.receiverIsEmpty receiver)).exec count channel =
    .returned () (channel.answered (.receiverIsEmpty receiver) (.bool (length == 0)))

/-- To be empty is to be of length zero. -/
theorem isEmpty_length (items : List α) : items.isEmpty = (items.length == 0) := by
  cases items <;> rfl

namespace Mpmc

variable {channel : Channel α}

/-- Where no cell is borrowed, what a channel holds is counted with the item in the redelivery
slot. -/
theorem measures (clear : channel.held = []) :
    Measures perform channel channel.state.chan.contents.length := by
  have size : ∀ op, body op = (do return .size (← len) : M α (Result α)) → ∀ count,
      (perform op).exec count channel =
        .returned () (channel.answered op (.size channel.state.chan.contents.length)) := by
    intro op reads count
    apply Prog.exec_quiet
    rw [wp_perform, reads, Prog.wp_bind, wp_len (by exact clear)]
    exact ⟨rfl, rfl⟩
  have empty : ∀ op, body op = (do return .bool (← isEmpty) : M α (Result α)) → ∀ count,
      (perform op).exec count channel =
        .returned () (channel.answered op (.bool (channel.state.chan.contents.length == 0))) := by
    intro op reads count
    apply Prog.exec_quiet
    rw [wp_perform, reads, Prog.wp_bind, wp_isEmpty (by exact clear), isEmpty_length]
    exact ⟨rfl, rfl⟩
  exact
    { senderLen := fun _ => size _ rfl
      receiverLen := fun _ => size _ rfl
      senderIsEmpty := fun _ => empty _ rfl
      receiverIsEmpty := fun _ => empty _ rfl }

/-- A bounded channel holds its capacity at most, and one item in the redelivery slot. -/
theorem Chan.length_le {chan : Chan α} {cap : Nat} (capped : chan.flavor.cap = some cap) :
    chan.contents.length ≤ cap + 1 ∧ (chan.redelivery = none → chan.contents.length ≤ cap) := by
  have bound := Queue.Flavor.length_le_cap capped
  rw [Chan.contents, List.length_append]
  cases chan.redelivery with
  | none => exact ⟨by simp; omega, fun _ => by simpa using bound⟩
  | some item => exact ⟨by simp; omega, by rintro ⟨⟩⟩

end Mpmc

namespace Mpsc

variable {channel : Channel α}

/-- Where no cell is borrowed, what a channel holds is what its queue holds. -/
theorem measures (clear : channel.held = []) :
    Measures perform channel channel.state.chan.contents.length := by
  have size : ∀ op, body op = (do return .size (← len) : M α (Result α)) → ∀ count,
      (perform op).exec count channel =
        .returned () (channel.answered op (.size channel.state.chan.contents.length)) := by
    intro op reads count
    apply Prog.exec_quiet
    rw [wp_perform, reads, Prog.wp_bind, wp_len (by exact clear)]
    exact ⟨rfl, rfl⟩
  have empty : ∀ op, body op = (do return .bool (← isEmpty) : M α (Result α)) → ∀ count,
      (perform op).exec count channel =
        .returned () (channel.answered op (.bool (channel.state.chan.contents.length == 0))) := by
    intro op reads count
    apply Prog.exec_quiet
    rw [wp_perform, reads, Prog.wp_bind, wp_isEmpty (by exact clear), isEmpty_length]
    exact ⟨rfl, rfl⟩
  exact
    { senderLen := fun _ => size _ rfl
      receiverLen := fun _ => size _ rfl
      senderIsEmpty := fun _ => empty _ rfl
      receiverIsEmpty := fun _ => empty _ rfl }

end Mpsc

/-! ### The bound -/

/-- A receive that left its item behind unwound out of waking the parked senders. -/
theorem Stranded.deserted {log : Log α} (stranded : Stranded log) : Deserted log := by
  induction log with
  | nil => exact stranded
  | cons event log ih =>
      cases event with
      | stranded => trivial
      | returned start op result => exact ih stranded.2
      | _ => exact ih stranded

/-- What a bounded mpmc channel holds, whatever the callbacks do. -/
structure Mpmc.Bound (cap : Nat) (channel : Channel α) : Prop where
  queue : channel.state.chan.flavor.toList.length ≤ cap
  measures : ∃ length ≤ cap + 1, Measures perform channel length

/-- What a bounded mpsc channel holds, whatever the callbacks do. -/
structure Mpsc.Bound (cap : Nat) (channel : Channel α) : Prop where
  queue : channel.state.chan.flavor.toList.length ≤ cap
  measures : ∃ length ≤ cap, Measures perform channel length

/-- Waking a parked sender does not panic. -/
def WakesReturn (policy : Policy χ (Callback α) Panic (Op α)) : Prop :=
  ∀ world op waker payload, ¬ policy.resume world op (.wake .senders waker) (.error payload)

namespace Mpmc

variable {policy : Policy (Channel α) (Callback α) Panic (Op α)} {cap : Nat} {positive : 0 < cap}
  {channel : Channel α}

/-- The capacity of a bounded mpmc channel is the one it was made with. -/
theorem Runs.capped {frames} (runs : Runs policy (bounded cap positive) (.user channel frames)) :
    channel.state.chan.flavor.cap = some cap :=
  (runs.capacity (.bounded cap positive)).trans (Queue.Flavor.mkBounded_cap positive)

/-- Between operations the redelivery slot is occupied only by an item that a receive has left
behind, and that none has taken since. -/
theorem Runs.stranded {manners : Manners} (polite : Polite manners policy)
    (runs : Runs policy (bounded cap positive) (.user channel []))
    (occupied : channel.state.chan.redelivery ≠ none) : Stranded channel.log := by
  have guarantee := runs.quiescent polite (.bounded cap positive)
  refine (guarantee.occupied occupied).resolve_right ?_
  rintro ⟨vacant, -⟩
  exact vacant rfl

/-- Where wakes return, user code is polite about them. -/
theorem Polite.quiet_of (returns : WakesReturn policy) :
    Polite ⟨False, True, fun _ => False⟩ policy :=
  ⟨False.elim, fun _ op waker payload after => returns after op waker payload, fun _ => False.elim⟩

/-- Between operations the redelivery slot is vacant if waking a parked sender does not panic. -/
theorem Runs.vacant (returns : WakesReturn policy)
    (runs : Runs policy (bounded cap positive) (.user channel [])) :
    channel.state.chan.redelivery = none := by
  by_contra occupied
  have polite := Polite.quiet_of returns
  have inv := runs.inv polite (.bounded cap positive)
  exact inv.core.books.quiet trivial (runs.stranded polite occupied).deserted

end Mpmc

/-- The capacity of a bounded mpsc channel is the one it was made with. -/
theorem Mpsc.Runs.capped {policy : Policy (Mpsc.Channel α) (Callback α) Panic (Op α)} {cap : Nat}
    {positive : 0 < cap} {channel : Mpsc.Channel α} {frames}
    (runs : Mpsc.Runs policy (bounded cap positive) (.user channel frames)) :
    channel.state.chan.flavor.cap = some cap :=
  runs.capacity.trans (Queue.Flavor.mkBounded_cap positive)

/-- At every point of every run a bounded channel holds no more than its capacity, and one item in
the redelivery slot of an mpmc channel. Between operations that slot is occupied only if a receive
has unwound out of waking the parked senders, and none has completed with an item since; so it is
vacant if no such waker panics. -/
theorem capacity_is_respected (cap : Nat) (positive : 0 < cap) :
    (∀ (channel : Mpmc.Channel α) frames,
      Mpmc.Runs .any (Mpmc.bounded cap positive) (.user channel frames) →
      Mpmc.Bound cap channel) ∧
    (∀ channel : Mpmc.Channel α, Mpmc.Runs .any (Mpmc.bounded cap positive) (.user channel []) →
      channel.state.chan.redelivery ≠ none → Stranded channel.log) ∧
    (∀ policy, WakesReturn policy → ∀ channel : Mpmc.Channel α,
      Mpmc.Runs policy (Mpmc.bounded cap positive) (.user channel []) →
      ∃ length ≤ cap, Measures Mpmc.perform channel length) ∧
    ∀ (channel : Mpsc.Channel α) frames,
      Mpsc.Runs .any (Mpsc.bounded cap positive) (.user channel frames) →
      Mpsc.Bound cap channel := by
  refine ⟨fun channel frames runs => ?_, fun channel runs => runs.stranded .none,
    fun policy returns channel runs => ?_, fun channel frames runs => ?_⟩
  · have clear := (runs.inv .none (.bounded cap positive)).core.held
    have bound := Queue.Flavor.length_le_cap runs.capped
    exact ⟨bound, _, (Mpmc.Chan.length_le runs.capped).1, Mpmc.measures clear⟩
  · have inv := runs.inv .none (.bounded cap positive)
    have bound := (Mpmc.Chan.length_le runs.capped).2 (runs.vacant returns)
    exact ⟨_, bound, Mpmc.measures inv.core.held⟩
  · have inv := runs.inv (.bounded cap positive)
    have bound := Queue.Flavor.length_le_cap runs.capped
    exact ⟨bound, _, bound, Mpsc.measures inv.held⟩

/-- A parked sender panics when a receive wakes it. The slot of its item is filled again, and the
channel holds one item more than its capacity. -/
theorem capacity_is_respected_exceeded : ∃ channel : Mpmc.Channel Nat,
    Mpmc.Runs .any (Mpmc.bounded 1 (by decide)) (.user channel []) ∧
      channel.state.chan.contents = [1, 3] ∧ Mpmc.Bound 1 channel ∧ Stranded channel.log := by
  have played : ∃ channel : Mpmc.Channel Nat, (Mpmc.system Nat).play 4
      [.call (.trySend 0 1), .call (.send 0 2), .call (.pollSend 2 0), .leave (.ok ()),
        .call (.tryRecv 1), .leave (.error (.message "woken")), .call (.dropSend 2),
        .leave (.ok ()), .call (.trySend 0 3)]
      (.user (Mpmc.bounded 1 (by decide)) []) = some (.user channel []) ∧
      channel.state.chan.contents = [1, 3] ∧ channel.state.chan.redelivery = some 1 :=
    ⟨_, rfl, rfl, rfl⟩
  obtain ⟨channel, played, holds, parked⟩ := played
  have runs : Mpmc.Runs .any (Mpmc.bounded 1 (by decide)) (.user channel []) := .played _ played
  exact ⟨channel, runs, holds, (capacity_is_respected 1 (by decide)).1 channel _ runs,
    (capacity_is_respected 1 (by decide)).2.1 channel runs (by simp [parked])⟩

end Lochan
