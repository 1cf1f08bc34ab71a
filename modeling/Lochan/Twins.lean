import Lochan.Mpmc.Refines
import Lochan.Mpsc.Refines

/-!
# The two kinds of channels with one receiver

An mpsc channel, and an mpmc channel whose receiver is not cloned, cannot be told apart by what
their operations answer, or by the parked senders that they wake. An mpmc channel may wake a task
of the receiver that an mpsc channel has forgotten.
-/

namespace Lochan

open Reentrant

variable {α : Type}

/-- Two channels that are created the same way, one of each kind. -/
inductive Twins : Mpsc.Channel α → Mpmc.Channel α → Prop where
  | bounded (cap : Nat) (positive : 0 < cap) :
      Twins (Mpsc.bounded cap positive) (Mpmc.bounded cap positive)
  | unbounded : Twins Mpsc.unbounded Mpmc.unbounded

/-- The mpsc channel of a pair of twins is new. -/
theorem Twins.mpsc {fresh : Mpsc.Channel α} {fresh' : Mpmc.Channel α} (twins : Twins fresh fresh') :
    Mpsc.New fresh := by
  cases twins with
  | bounded cap positive => exact .bounded cap positive
  | unbounded => exact .unbounded

/-- The mpmc channel of a pair of twins is new. -/
theorem Twins.mpmc {fresh : Mpsc.Channel α} {fresh' : Mpmc.Channel α} (twins : Twins fresh fresh') :
    Mpmc.New fresh' := by
  cases twins with
  | bounded cap positive => exact .bounded cap positive
  | unbounded => exact .unbounded

/-- What is kept between two channels that serve the same operations, with some to come. -/
structure Paired (fresh : Mpsc.Channel α) (fresh' : Mpmc.Channel α) (limit left : Nat)
    (channel : Mpsc.Channel α) (other : Mpmc.Channel α) : Prop where
  mpsc : Mpsc.Serving fresh limit left channel
  mpmc : Mpmc.Serving fresh' limit left other
  same : Mpsc.ideal channel = Mpmc.ideal other
  /-- The waker in the slot is registered. -/
  covered : ∀ waker ∈ channel.state.chan.recvWaker, waker ∈ Mpmc.waiters other
  answers : answers other.log = answers channel.log
  woken : (wokeReceivers channel.log).Sublist (wokeReceivers other.log)

/-- Twins are paired before their first operation. -/
theorem Twins.paired {fresh : Mpsc.Channel α} {fresh' : Mpmc.Channel α} (twins : Twins fresh fresh')
    {limit left : Nat} (granted : left ≤ limit) : Paired fresh fresh' limit left fresh fresh' := by
  refine ⟨.initial twins.mpsc granted, .initial twins.mpmc granted, ?_, ?_, ?_, ?_⟩
  · cases twins <;> rfl
  · cases twins <;> rintro _ ⟨⟩
  · cases twins <;> rfl
  · cases twins <;> exact List.Sublist.refl _

/-- The tasks that a single slot lets be woken are woken from the registry as well. -/
theorem Signal.woken_sublist (signal : Signal) {slot : Option Waker} {wakers : List Waker}
    (covered : ∀ waker ∈ slot, waker ∈ wakers) :
    (signal.woken slot.toList).Sublist (signal.woken wakers) := by
  cases signal with
  | wakes =>
      cases slot with
      | none => exact List.nil_sublist _
      | some waker => exact List.singleton_sublist.mpr (covered waker rfl)
  | _ => exact List.Sublist.refl _

/-- Both channels serve an operation. -/
theorem Paired.served {fresh : Mpsc.Channel α} {fresh' : Mpmc.Channel α}
    (twins : Twins fresh fresh') {limit : Nat} (left : Nat) (op : Op α)
    (before after : Mpsc.Channel α) (other : Mpmc.Channel α)
    (paired : Paired fresh fresh' limit (left + 1) before other)
    (served : System.Served (Mpsc.system α) Mpsc.fused limit op before after) :
    ∃ next, System.Served (Mpmc.system α) Mpmc.fused limit op other next ∧
      Paired fresh fresh' limit left after next := by
  obtain ⟨permitted, -, mpsc, performed⟩ := paired.mpsc.follows twins.mpsc served
  rw [paired.same] at permitted
  obtain ⟨next, served', mpmc, performed'⟩ := paired.mpmc.served twins.mpmc permitted
  refine ⟨next, served', mpsc, mpmc, ?_, ?_, ?_, ?_⟩
  · rw [performed.ideal, performed'.ideal, paired.same]
  · rw [performed.slot, paired.same]
    exact performed'.waits _ paired.covered
  · rw [performed.answers, performed'.answers, paired.same, paired.answers]
  · rw [performed.woken, performed'.woken, paired.same]
    exact paired.woken.append (Signal.woken_sublist _ paired.covered)

/-- With one receiver the two kinds of channels are the same: whatever operations an mpsc channel
serves, an mpmc channel serves with the same answers, waking the same senders and at least the
same tasks of the receiver, and its redelivery slot is empty after each of them. -/
theorem one_receiver_makes_them_equal {fresh channel : Mpsc.Channel α} {fresh' : Mpmc.Channel α}
    (twins : Twins fresh fresh') {count : Nat} {ops : List (Op α)} (granted : ops.length ≤ count)
    (serves : System.Serves (Mpsc.system α) Mpsc.fused count ops fresh channel) :
    ∃ other, System.Serves (Mpmc.system α) Mpmc.fused count ops fresh' other ∧
      answers other.log = answers channel.log ∧ wokeSenders other.log = wokeSenders channel.log ∧
      (wokeReceivers channel.log).Sublist (wokeReceivers other.log) ∧
      ∀ earlier middle, earlier <+: ops →
        System.Serves (Mpmc.system α) Mpmc.fused count earlier fresh' middle →
        middle.state.chan.redelivery = none := by
  obtain ⟨other, serves', paired⟩ :=
    serves.simulates (Paired fresh fresh' count) (Paired.served twins) (twins.paired granted)
  have woken : wokeSenders channel.log = wokeSenders other.log := congrArg Ideal.woken paired.same
  refine ⟨other, serves', paired.answers, woken.symm, paired.woken, ?_⟩
  rintro earlier middle ⟨later, rfl⟩ reached
  -- The operations served so far are served by the mpsc channel as well.
  obtain ⟨_, serves, -⟩ := serves.split
  have shorter : earlier.length ≤ count :=
    Nat.le_trans (List.prefix_append earlier later).length_le granted
  obtain ⟨middle', reached', paired'⟩ :=
    serves.simulates (Paired fresh fresh' count) (Paired.served twins) (twins.paired shorter)
  obtain rfl := reached.deterministic reached'
  exact paired'.mpmc.vacant

/-- The receiver waits for an item and is woken, and then it takes the item, and wakes the sender
that was parked meanwhile. -/
theorem one_receiver_makes_them_equal_woken :
    ∃ (channel : Mpsc.Channel Nat) (other : Mpmc.Channel Nat),
      System.Serves (Mpsc.system Nat) Mpsc.fused 5
        [.pollNext 1 5, .trySend 0 7, .send 0 8, .pollSend 2 3, .tryRecv 1]
        (Mpsc.bounded 1 Nat.one_pos) channel ∧
      System.Serves (Mpmc.system Nat) Mpmc.fused 5
        [.pollNext 1 5, .trySend 0 7, .send 0 8, .pollSend 2 3, .tryRecv 1]
        (Mpmc.bounded 1 Nat.one_pos) other ∧
      wokeReceivers channel.log = [5] ∧ 5 ∈ wokeReceivers other.log ∧
      wokeSenders other.log = [3] ∧ other.state.chan.redelivery = none := by
  have serves : ∃ channel : Mpsc.Channel Nat, System.Serves (Mpsc.system Nat) Mpsc.fused 5
      [.pollNext 1 5, .trySend 0 7, .send 0 8, .pollSend 2 3, .tryRecv 1]
      (Mpsc.bounded 1 Nat.one_pos) channel ∧
      wokeReceivers channel.log = [5] ∧ wokeSenders channel.log = [3] :=
    ⟨_, .cons ⟨by decide, by rintro _ _ ⟨⟩, rfl, rfl⟩ (.cons ⟨by decide, by rintro _ _ ⟨⟩, rfl, rfl⟩
      (.cons ⟨by decide, by rintro _ _ ⟨⟩, rfl, rfl⟩ (.cons ⟨by decide, by rintro _ _ ⟨⟩, rfl, rfl⟩
        (.cons ⟨by decide, by rintro _ _ ⟨⟩, rfl, rfl⟩ .nil)))), rfl, rfl⟩
  obtain ⟨channel, serves, woken, parked⟩ := serves
  obtain ⟨other, serves', -, wakes, covered, vacant⟩ :=
    one_receiver_makes_them_equal (.bounded 1 Nat.one_pos) (by decide) serves
  rw [woken] at covered
  exact ⟨channel, other, serves, serves', woken, List.singleton_sublist.mp covered,
    wakes.trans parked, vacant _ other List.prefix_rfl serves'⟩

end Lochan
