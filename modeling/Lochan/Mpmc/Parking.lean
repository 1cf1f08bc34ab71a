import Lochan.Mpmc.Delivery

/-!
# Who is parked on an mpmc channel

Between operations every registration belongs to one live task, no terminal channel keeps
a registration that it will not wake, and no wake-up is lost.
-/

namespace Lochan.Mpmc

open Reentrant

variable {α : Type} {fresh channel : Channel α}

/-- The task is alive, has not completed a send, and holds the registration id. -/
def State.Holds (state : State α) (id : UInt64) : Owner → Prop
  | .stream receiver => receiver ∈ state.receivers ∧ state.streamWakerId receiver = some id
  | .recv future => ∃ this, state.recvs future = some this ∧ this.wakerId = some id
  | .send future =>
    ∃ this, state.sends future = some this ∧ this.done = false ∧ this.wakerId = some id

/-- A task holds a registration when it keeps its id. -/
theorem Inv.holds_iff {manners : Manners} (inv : Inv manners channel) {side : Side} {owner : Owner}
    {id : UInt64} : owner.side = side ∧ channel.state.Holds id owner ↔
      channel.state.idOf side owner = some id := by
  cases owner with
  | stream receiver =>
      cases side with
      | senders => exact iff_of_false (fun holds => by cases holds.1) (by rintro ⟨⟩)
      | receivers =>
          exact ⟨fun holds => holds.2.2, fun holds =>
            ⟨rfl, inv.core.handles.stream receiver id holds, holds⟩⟩
  | recv future =>
      cases side with
      | senders => exact iff_of_false (fun holds => by cases holds.1) (by rintro ⟨⟩)
      | receivers =>
          simp only [State.Holds, State.idOf, Option.bind_eq_some_iff]
          exact and_iff_right rfl
  | send future =>
      cases side with
      | receivers => exact iff_of_false (fun holds => by cases holds.1) (by rintro ⟨⟩)
      | senders =>
          simp only [State.Holds, State.idOf, Option.bind_eq_some_iff]
          constructor
          · rintro ⟨_, this, found, _, holds⟩
            exact ⟨this, found, holds⟩
          · rintro ⟨this, found, holds⟩
            refine ⟨rfl, this, found, eq_false_of_ne_true fun done => ?_, holds⟩
            cases (inv.core.futures.sent future this found done).1.symm.trans holds

/-- The registrations of a channel belong to its tasks, one each. -/
structure Exact (channel : Channel α) : Prop where
  nodup : ∀ side, ((channel.state.wakers side).map Prod.fst).Nodup
  owned : ∀ side, ∀ entry ∈ channel.state.wakers side,
    ∃! owner : Owner, owner.side = side ∧ channel.state.Holds entry.1 owner
  disconnected : channel.state.chan.senders = 0 ∨ channel.state.chan.closed = true →
    channel.state.chan.recvWakers = []
  rejecting : channel.state.chan.closed = true ∨ channel.state.chan.receivers = 0 →
    channel.state.chan.recvWakers = [] ∧ channel.state.chan.sendWakers = []

/-- A new channel has no registrations. -/
theorem New.wakers (new : New fresh) (side : Side) : fresh.state.wakers side = [] := by
  cases new <;> cases side <;> rfl

/-- Sends to a new channel do not fail. -/
theorem New.rejecting (new : New fresh) : fresh.state.chan.rejecting = false := by
  cases new <;> rfl

/-- Nobody waits for a new channel. -/
theorem New.waiting (new : New fresh) (owner : Owner) : waiting owner fresh.log = none := by
  cases new <;> rfl

/-- No reference to a new channel is held. -/
theorem New.uses (new : New fresh) : fresh.state.uses = [] := by
  cases new <;> rfl

/-- Between operations every registration belongs to exactly one live task, and a terminal
channel keeps none, whatever the callbacks do. -/
theorem registries_are_exact (new : New fresh) (runs : Runs Policy.any fresh (.user channel []))
    (fits : Fits channel.log) : Exact channel := by
  have inv := runs.inv .none new
  have guarantee := runs.quiescent .none new
  have sound := inv.core.registries.tickets fits
  have owned : ∀ side, ∀ entry ∈ channel.state.wakers side,
      ∃! owner : Owner, owner.side = side ∧ channel.state.Holds entry.1 owner := by
    intro side entry member
    have held : ∃ owner, channel.state.idOf side owner = some entry.1 := by
      by_contra free
      have orphan := guarantee.orphans fits side entry nofun
        ⟨member, fun owner holds => free ⟨owner, holds⟩⟩
      have none : (ledger fresh side).entries = [] := new.wakers side
      exact absurd (none ▸ orphan.1) List.not_mem_nil
    obtain ⟨owner, holds⟩ := held
    refine ⟨owner, inv.holds_iff.mpr holds, fun other holds' => ?_⟩
    exact (sound side).sole other owner entry.1 (inv.holds_iff.mp holds') holds
  have disconnected : channel.state.chan.senders = 0 ∨ channel.state.chan.closed = true →
      channel.state.chan.recvWakers = [] :=
    fun isOver => inv.recvQuiet.disconnected (Chan.disconnected_iff.mpr isOver)
  refine ⟨fun side => (sound side).keys, owned, disconnected, fun isOver => ⟨?_, ?_⟩⟩
  · rcases isOver with closed | gone
    · exact disconnected (.inr closed)
    · -- A task on the receiver half belongs to a receiver.
      have none : channel.state.receivers = [] :=
        List.eq_nil_of_length_eq_zero (inv.core.handles.receivers.symm.trans gone)
      refine List.eq_nil_iff_forall_not_mem.mpr fun entry member => ?_
      obtain ⟨owner, ⟨receives, holds⟩, -⟩ := owned .receivers entry member
      cases owner with
      | stream receiver => exact absurd (none ▸ holds.1) List.not_mem_nil
      | recv future =>
          obtain ⟨this, found, -⟩ := holds
          exact absurd (none ▸ (inv.core.handles.recv future this found).1) List.not_mem_nil
      | send future => cases receives
  · refine List.eq_nil_iff_forall_not_mem.mpr fun entry member => ?_
    have before := guarantee.stuck fits (Chan.rejecting_iff.mpr isOver.symm) entry member nofun
    exact absurd (new.rejecting.symm.trans before.1) nofun

/-- A stream is parked on an empty channel. -/
theorem registries_are_exact_parked : ∃ channel : Channel Nat,
    Runs Policy.any (bounded 1 (by decide)) (.user channel []) ∧
      channel.state.chan.recvWakers = [(0, 5)] ∧ Exact channel := by
  have played : ∃ channel : Channel Nat, (system Nat).play 4
      [.call (.pollNext 1 5), .leave (.ok ())]
      (.user (bounded 1 (by decide)) []) = some (.user channel []) ∧
      channel.state.chan.recvWakers = [(0, 5)] ∧
      registrations .receivers channel.log = 1 ∧ registrations .senders channel.log = 0 :=
    ⟨_, rfl, rfl, rfl, rfl⟩
  obtain ⟨channel, played, parked, received, sent⟩ := played
  have runs := System.Reachable.played _ played
  refine ⟨channel, runs, parked, registries_are_exact (.bounded 1 (by decide)) runs fun side => ?_⟩
  cases side
  · exact sent ▸ by decide
  · exact received ▸ by decide

/-- Between operations every task that waits for its waker, and has not completed, is
registered with it, and the channel is not in a state that would have woken it. Panics must
be such that their payloads can be disposed of. -/
theorem no_wake_up_is_lost {policy : Policy (Channel α) (Callback α) Panic (Op α)}
    (calm : ∀ op, Calm (Admits policy op)) (new : New fresh)
    (runs : Runs policy fresh (.user channel [])) (fits : Fits channel.log) {owner : Owner}
    {waker : Waker} (waits : waiting owner channel.log = some waker)
    (unfinished : channel.state.Unfinished owner) :
    Parked channel owner waker ∧
      (owner.side = .receivers → channel.state.chan.redelivery = none ∧
        channel.state.chan.flavor.toList = [] ∧ channel.state.chan.disconnected = false) ∧
      (owner.side = .senders → channel.state.chan.flavor.isFull = true ∧
        channel.state.chan.rejecting = false) := by
  have polite : Polite .calmly policy := .calmly calm
  have inv := runs.inv polite new
  have guarantee := runs.quiescent polite new
  have free : owner.ref ∉ channel.state.uses := by
    rw [guarantee.evolves.uses, new.uses]
    exact List.not_mem_nil
  have parked : Parked channel owner waker := by
    by_contra unparked
    obtain ⟨waited, -⟩ := guarantee.evolves.missing trivial fits owner waker nofun
      ⟨waits, unfinished, unparked⟩
    exact absurd ((new.waiting owner).symm.trans waited) nofun
  refine ⟨parked, fun receives => ?_, fun sends => ?_⟩
  · have empty := inv.recvQuiet.empty fits owner waker receives free waits unfinished parked
    obtain ⟨vacant, queue⟩ := List.append_eq_nil_iff.mp empty
    refine ⟨Option.toList_eq_nil_iff.mp vacant, queue, eq_false_of_ne_true fun isOver => ?_⟩
    exact not_parked (receives ▸ inv.recvQuiet.disconnected isOver) parked
  · refine ⟨inv.sendQuiet fits owner waker sends free waits unfinished parked,
      eq_false_of_ne_true fun isOver => ?_⟩
    refine not_parked (sends ▸ List.eq_nil_iff_forall_not_mem.mpr fun entry member => ?_) parked
    have before := guarantee.stuck fits isOver entry member nofun
    exact absurd (new.rejecting.symm.trans before.1) nofun

/-- A stream waits for an item. -/
theorem no_wake_up_is_lost_parked : ∃ channel : Channel Nat,
    Runs Policy.panicFree (bounded 1 (by decide)) (.user channel []) ∧
      waiting (.stream 1) channel.log = some 5 ∧ Parked channel (.stream 1) 5 := by
  have played : ∃ channel : Channel Nat, (system Nat).play 4
      [.call (.pollNext 1 5), .leave (.ok ())]
      (.user (bounded 1 (by decide)) []) = some (.user channel []) ∧
      waiting (.stream 1) channel.log = some 5 ∧ 1 ∈ channel.state.receivers ∧
      registrations .receivers channel.log = 1 ∧ registrations .senders channel.log = 0 :=
    ⟨_, rfl, rfl, List.mem_cons_self, rfl, rfl⟩
  obtain ⟨channel, played, waits, alive, received, sent⟩ := played
  have runs : Runs Policy.panicFree (bounded 1 (by decide)) (.user channel []) :=
    .playedCalm played (by simp)
  have fits : Fits channel.log := by
    intro side
    cases side
    · exact sent ▸ by decide
    · exact received ▸ by decide
  have calm : ∀ op, Calm (Admits (Policy.panicFree : Policy (Channel Nat) _ _ _) op) :=
    fun op code payload world admitted => nomatch admitted
  exact ⟨channel, runs, waits,
    (no_wake_up_is_lost calm (.bounded 1 (by decide)) runs fits waits alive).1⟩

/-- A receive future that is polled again after it completed waits unregistered. Where the
payload of a panic cannot be disposed of, a wake leaves later tasks of the list alone. -/
theorem waits_unregistered :
    (∃ channel : Channel Nat, Runs Policy.any unbounded (.user channel []) ∧
      waiting (.recv 2) channel.log = some 0 ∧ (channel.state.recvs 2).isSome = true ∧
      ¬ Parked channel (.recv 2) 0) ∧
    ∃ channel : Channel Nat, Runs Policy.any unbounded (.user channel []) ∧
      waiting (.recv 4) channel.log = some 2 ∧ channel.state.Unfinished (.recv 4) ∧
      ¬ Parked channel (.recv 4) 2 := by
  have completed : ∃ channel : Channel Nat, (system Nat).play 4
      [.call (.trySend 0 7), .call (.recv 1), .call (.pollRecv 2 0), .call (.pollRecv 2 0)]
      (.user unbounded []) = some (.user channel []) ∧
      waiting (.recv 2) channel.log = some 0 ∧ (channel.state.recvs 2).isSome = true ∧
      channel.state.chan.recvWakers = [] := ⟨_, rfl, rfl, rfl, rfl⟩
  have toxic : ∃ channel : Channel Nat, (system Nat).play 4
      [.call (.recv 1), .call (.recv 1), .call (.recv 1),
        .call (.pollRecv 2 0), .leave (.ok ()), .call (.pollRecv 3 1), .leave (.ok ()),
        .call (.pollRecv 4 2), .leave (.ok ()), .call (.closeSender 0),
        .leave (.error (.message "first")), .leave (.error (.toxic (.toxic (.message "last")))),
        .leave (.error (.toxic (.message "last"))), .leave (.error (.message "last")),
        .leave (.ok ()), .leave (.ok ())]
      (.user unbounded []) = some (.user channel []) ∧
      waiting (.recv 4) channel.log = some 2 ∧
      channel.state.recvs 4 = some ⟨1, false, some 2⟩ ∧ channel.state.chan.recvWakers = [] :=
    ⟨_, rfl, rfl, rfl, rfl⟩
  obtain ⟨channel, played, waits, alive, none⟩ := completed
  obtain ⟨channel', played', waits', alive', none'⟩ := toxic
  exact ⟨⟨channel, .played _ played, waits, alive, not_parked none⟩,
    channel', .played _ played', waits', ⟨_, alive', rfl⟩, not_parked none'⟩

end Lochan.Mpmc
