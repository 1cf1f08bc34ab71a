import Lochan.Mpmc.Parking
import Lochan.Mpmc.Handover
import Lochan.Mpsc.Capacity
import Lochan.Mpsc.Unforgotten

/-!
# The halves of a channel do not wait for each other

A sender waits only while the queue is full, and a receiver only while it is empty; no queue is
both.
-/

namespace Lochan

open Reentrant

variable {α : Type}

/-- A full queue with room for one item at least has one. -/
theorem Queue.Flavor.nonempty_of_full {flavor : Queue.Flavor α} (some : flavor.cap ≠ some 0)
    (full : flavor.isFull = true) : flavor.toList ≠ [] := by
  intro none
  rw [Queue.Flavor.isFull_iff, none] at full
  exact some full

namespace Mpsc

variable {policy : Policy (Channel α) (Callback α) Panic (Op α)} {fresh channel : Channel α}

/-- A send future waits, and so does the receiver, as its most recent poll has left it. -/
structure Deadlocked (channel : Channel α) : Prop where
  sends : ∃ future waker, Waits channel future waker
  receives : ∃ owner waker, expecting channel.log = some (owner, waker) ∧
    channel.state.Awaits owner

/-- A new mpmc channel has room for one item at least. -/
theorem New.capacity (new : New fresh) : fresh.state.capacity ≠ some 0 := by
  cases new with
  | bounded cap positive =>
      intro none
      have size := (Queue.Flavor.mkBounded_cap positive).symm.trans none
      obtain rfl := Option.some.inj size
      exact absurd positive (Nat.lt_irrefl 0)
  | unbounded => rintro ⟨⟩

/-- A sender waits while there is something to receive, the receiver only while there is not. -/
theorem Deadlocked.absurd (orderly : Orderly policy) (new : New fresh)
    (runs : Runs policy fresh (.user channel [])) (fits : Fits channel.log) :
    ¬ Deadlocked channel := by
  rintro ⟨⟨future, waker, waits⟩, owner, woken, expects, awaits⟩
  have calm : ∀ op, Calm (Admits policy op) :=
    fun op code payload world admitted => (orderly.panicFree op code payload world admitted).elim
  have sound := Runs.attended calm new runs
  obtain ⟨-, heeds⟩ := sound.quiescent
  have parked := heeds.parked new fits waits
  have idle : .send future ∉ channel.state.uses := by
    rw [heeds.uses, new.uses]
    exact List.not_mem_nil
  have full := sound.1.2.full fits future waker idle waits parked
  have capacity : channel.state.chan.flavor.cap ≠ some 0 := by
    have kept : channel.state.capacity = fresh.state.capacity := runs.capacity
    exact fun none => new.capacity (kept.symm.trans none)
  have some : channel.state.chan.contents ≠ [] := Queue.Flavor.nonempty_of_full capacity full
  -- The receiver would have heard of what there is.
  rcases (runs.quiescent new).exposed orderly owner woken ⟨expects, awaits, .inl some⟩ with
    before | before
  · cases new.expecting.symm.trans before.expects
  · cases new.expecting.symm.trans before.expects

end Mpsc

namespace Mpmc

variable {policy : Policy (Channel α) (Callback α) Panic (Op α)} {fresh channel : Channel α}

/-- A send future waits, and so does a receiver, as a stream or through a receive future. -/
structure Deadlocked (channel : Channel α) : Prop where
  sends : ∃ future waker, waiting (.send future) channel.log = some waker ∧
    channel.state.Unfinished (.send future)
  receives : ∃ owner waker, owner.side = .receivers ∧ waiting owner channel.log = some waker ∧
    channel.state.Unfinished owner

/-- A new mpsc channel has room for one item at least. -/
theorem New.capacity (new : New fresh) : fresh.state.capacity ≠ some 0 := by
  cases new with
  | bounded cap positive =>
      intro none
      have size := (Queue.Flavor.mkBounded_cap positive).symm.trans none
      obtain rfl := Option.some.inj size
      exact absurd positive (Nat.lt_irrefl 0)
  | unbounded => rintro ⟨⟩

/-- No calm run leaves a deadlocked channel. -/
theorem Deadlocked.absurd (calm : ∀ op, Calm (Admits policy op)) (new : New fresh)
    (runs : Runs policy fresh (.user channel [])) (fits : Fits channel.log) :
    ¬ Deadlocked channel := by
  rintro ⟨⟨future, waker, waits, unfinished⟩, owner, woken, receives, waits', unfinished'⟩
  have polite : Polite .calmly policy := .calmly calm
  have inv := runs.inv polite new
  have guarantee := runs.quiescent polite new
  have idle : ∀ ref, ref ∉ channel.state.uses := by
    intro ref
    rw [guarantee.evolves.uses, new.uses]
    exact List.not_mem_nil
  have parked : ∀ {owner waker}, waiting owner channel.log = some waker →
      channel.state.Unfinished owner → Parked channel owner waker := by
    intro owner waker waits unfinished
    by_contra unparked
    obtain ⟨waited, -⟩ := guarantee.evolves.missing trivial fits owner waker (by rintro ⟨⟩)
      ⟨waits, unfinished, unparked⟩
    cases (new.waiting owner).symm.trans waited
  have full := inv.sendQuiet fits (.send future) waker rfl (idle _) waits unfinished
    (parked waits unfinished)
  have empty := inv.recvQuiet.empty fits owner woken receives (idle _) waits' unfinished'
    (parked waits' unfinished')
  have capacity : channel.state.chan.flavor.cap ≠ some 0 := by
    have kept : channel.state.capacity = fresh.state.capacity := runs.capacity new
    exact fun none => new.capacity (kept.symm.trans none)
  exact Queue.Flavor.nonempty_of_full capacity full (List.append_eq_nil_iff.mp empty).2

end Mpmc

/-- Between operations no sender and no receiver of one channel wait at the same time. On an mpsc
channel that is said of the most recent poll of the receiver, of runs in which nothing panics and no
pending receive future is dropped while a stream waits; on an mpmc channel of all runs whose panic
payloads can be disposed of. -/
theorem never_deadlocks :
    (∀ (policy : Policy (Mpsc.Channel α) (Callback α) Panic (Op α))
      (fresh channel : Mpsc.Channel α),
      Mpsc.Orderly policy → Mpsc.New fresh → Mpsc.Runs policy fresh (.user channel []) →
      Fits channel.log → ¬ Mpsc.Deadlocked channel) ∧
    ∀ (policy : Policy (Mpmc.Channel α) (Callback α) Panic (Op α)) (fresh channel : Mpmc.Channel α),
      (∀ op, Calm (Mpmc.Admits policy op)) → Mpmc.New fresh →
      Mpmc.Runs policy fresh (.user channel []) → Fits channel.log → ¬ Mpmc.Deadlocked channel :=
  ⟨fun _ _ _ orderly new runs fits => Mpsc.Deadlocked.absurd orderly new runs fits,
    fun _ _ _ calm new runs fits => Mpmc.Deadlocked.absurd calm new runs fits⟩

/-- A sender waits on a full queue, and nobody waits to receive. -/
theorem never_deadlocks_parked :
    (∃ channel : Mpsc.Channel Nat,
      Mpsc.Runs Mpsc.patientReceives (Mpsc.bounded 1 (by decide)) (.user channel []) ∧
        Mpsc.Waits channel 2 5 ∧ ¬ Mpsc.Deadlocked channel) ∧
    ∃ channel : Mpmc.Channel Nat,
      Mpmc.Runs Policy.panicFree (Mpmc.bounded 1 (by decide)) (.user channel []) ∧
        waiting (.send 2) channel.log = some 5 ∧ ¬ Mpmc.Deadlocked channel := by
  constructor
  · have played : ∃ channel : Mpsc.Channel Nat, (Mpsc.system Nat).play 4
        [.call (.trySend 0 7), .call (.send 0 8), .call (.pollSend 2 5), .leave (.ok ())]
        (.user (Mpsc.bounded 1 (by decide)) []) = some (.user channel []) ∧
        waiting (.send 2) channel.log = some 5 ∧
        channel.state.sends 2 = some ⟨0, some 8, false, some 0, none⟩ ∧
        registrations .receivers channel.log = 0 ∧ registrations .senders channel.log = 1 :=
      ⟨_, rfl, rfl, rfl, rfl, rfl⟩
    obtain ⟨channel, played, waits, found, received, sent⟩ := played
    have runs : Mpsc.Runs Mpsc.patientReceives (Mpsc.bounded 1 (by decide)) (.user channel []) := by
      refine System.Reachable.start.play played (fun state op member => ?_)
        (fun left member => ?_) (Nat.zero_le 4)
      · rintro future rfl
        simp at member
      · show left.2.2.2 = .ok ()
        simpa using System.departures_leave member
    have fits : Fits channel.log := .intro (received ▸ by decide) (sent ▸ by decide)
    exact ⟨channel, runs, ⟨waits, _, found, rfl⟩,
      never_deadlocks.1 _ _ _ Mpsc.patientReceives_orderly (.bounded 1 (by decide)) runs fits⟩
  · have played : ∃ channel : Mpmc.Channel Nat, (Mpmc.system Nat).play 4
        [.call (.trySend 0 7), .call (.send 0 8), .call (.pollSend 2 5), .leave (.ok ())]
        (.user (Mpmc.bounded 1 (by decide)) []) = some (.user channel []) ∧
        waiting (.send 2) channel.log = some 5 ∧
        registrations .receivers channel.log = 0 ∧ registrations .senders channel.log = 1 :=
      ⟨_, rfl, rfl, rfl, rfl⟩
    obtain ⟨channel, played, waits, received, sent⟩ := played
    have runs : Mpmc.Runs Policy.panicFree (Mpmc.bounded 1 (by decide)) (.user channel []) :=
      .playedCalm played (by simp)
    have fits : Fits channel.log := .intro (received ▸ by decide) (sent ▸ by decide)
    have calm : ∀ op, Calm
        (Mpmc.Admits (Policy.panicFree : Policy (Mpmc.Channel Nat) _ _ _) op) := by
      rintro op code payload world ⟨⟩
    exact ⟨channel, runs, waits,
      never_deadlocks.2 _ _ _ calm (.bounded 1 (by decide)) runs fits⟩

end Lochan
