import Lochan.Mpsc.Delivery

/-!
# Who is parked on an mpsc channel

Between operations a receiver that waits is registered, and a terminal channel keeps no waker,
as long as user code stays clear of three places: the drop of a receive future while the
receiver waits as a stream, a panic of a parked sender in the drop of the receiver, and the
drop of a send future's own waker, before the wake it owes the receiver, that panics or takes
the waker of the receiver away.
-/

namespace Lochan.Mpsc

open Reentrant

variable {α : Type} {policy : Policy (Channel α) (Callback α) Panic (Op α)}
  {fresh channel : Channel α}

/-- The receiver of a new channel expects no wake. -/
theorem New.expecting (new : New fresh) : expecting fresh.log = none := by
  cases new <;> rfl

/-- The slot of a new channel is empty. -/
theorem New.recvWaker (new : New fresh) : fresh.state.chan.recvWaker = none := by
  cases new <;> rfl

/-- No sender is parked on a new channel. -/
theorem New.sendWakers (new : New fresh) : fresh.state.chan.sendWakers = [] := by
  cases new <;> rfl

/-- Whoever can be polled has a receiver that is alive. -/
theorem Handles.awaited (handles : Handles channel) {owner : Owner}
    (awaits : channel.state.Awaits owner) : channel.state.chan.receiverAlive = true := by
  cases owner with
  | stream receiver => exact handles.alive awaits
  | recv future =>
      obtain ⟨this, found⟩ := Option.isSome_iff_exists.mp awaits
      exact handles.alive (handles.recv future this found).1
  | send future => exact awaits.elim

/-- The receiver will be woken by the next item, and by the end of the channel. -/
structure Listens (channel : Channel α) (waker : Waker) : Prop where
  registered : channel.state.chan.recvWaker = some waker
  empty : channel.state.chan.flavor.toList = []
  running : channel.state.chan.terminal = false

/-- Between operations a receiver that waits for its waker is registered with it, and there is
nothing to receive or to hear of, if nothing panics and no receive future is dropped before it
completes while the receiver waits as a stream. -/
theorem receiver_listens (orderly : Orderly policy) (new : New fresh)
    (runs : Runs policy fresh (.user channel [])) {owner : Owner} {waker : Waker}
    (expects : expecting channel.log = some (owner, waker)) (awaits : channel.state.Awaits owner) :
    Listens channel waker := by
  have inv := runs.inv new
  have guarantee := runs.quiescent new
  have silent : ∀ {waiting}, expecting fresh.log ≠ some waiting := by
    rintro waiting expects
    cases new.expecting.symm.trans expects
  have calm : ¬ channel.state.chan.urgent := by
    intro urgent
    rcases guarantee.exposed orderly owner waker ⟨expects, awaits, urgent⟩ with before | before
    · exact silent before.expects
    · exact silent before.expects
  refine ⟨not_not.mp fun unparked => ?_, not_not.mp fun some => calm (.inl some), ?_⟩
  · exact silent (guarantee.evolves.missing orderly owner waker ⟨expects, awaits, unparked⟩).expects
  · refine eq_false_of_ne_true fun terminal => calm ?_
    exact Chan.urgent_of_terminal (inv.handles.awaited awaits) terminal

/-- Nothing panics, and receive futures are not dropped before they complete. -/
def patientReceives : Policy (Channel α) (Callback α) Panic (Op α) where
  call channel op := ∀ future, op = .dropRecv future →
    ∀ this, channel.state.recvs future = some this → this.done = true
  resume _ _ _ outcome := outcome = .ok ()
  patience := 0

/-- Receives that are dropped only once resolved leave the stream's waker alone. -/
theorem patientReceives_orderly : Orderly (patientReceives (α := α)) := by
  constructor
  · intro op code payload after admitted
    cases admitted
  · intro channel future allowed this found running
    cases running.symm.trans (allowed future rfl this found)

/-- A stream waits for an item. -/
theorem receiver_listens_stream : ∃ channel : Channel Nat,
    Runs patientReceives unbounded (.user channel []) ∧
      expecting channel.log = some (.stream 1, 5) ∧ Listens channel 5 := by
  have played : ∃ channel : Channel Nat, (system Nat).play 4
      [.call (.pollNext 1 5), .leave (.ok ())]
      (.user unbounded []) = some (.user channel []) ∧
      expecting channel.log = some (.stream 1, 5) ∧ channel.state.Awaits (.stream 1) :=
    ⟨_, rfl, rfl, rfl⟩
  obtain ⟨channel, played, expects, awaits⟩ := played
  have runs : Runs patientReceives unbounded (.user channel []) := by
    refine System.Reachable.start.play played (fun state op member => ?_) (fun left member => ?_)
      (Nat.zero_le 4)
    · rintro future rfl
      simp at member
    · show left.2.2.2 = .ok ()
      simpa using System.departures_leave member
  exact ⟨channel, runs, expects,
    receiver_listens patientReceives_orderly .unbounded runs expects awaits⟩

/-- A receive future that was never polled is dropped, and the stream that waits is no longer
registered. Nothing panics. -/
theorem forgets_the_stream : ∃ channel : Channel Nat,
    Runs Policy.any unbounded (.user channel []) ∧ panics channel.log = [] ∧
      expecting channel.log = some (.stream 1, 5) ∧ channel.state.Awaits (.stream 1) ∧
      channel.state.chan.recvWaker = none := by
  have played : ∃ channel : Channel Nat, (system Nat).play 4
      [.call (.pollNext 1 5), .leave (.ok ()), .call (.recv 1), .call (.dropRecv 2),
        .leave (.ok ())]
      (.user unbounded []) = some (.user channel []) ∧ panics channel.log = [] ∧
      expecting channel.log = some (.stream 1, 5) ∧ channel.state.Awaits (.stream 1) ∧
      channel.state.chan.recvWaker = none := ⟨_, rfl, rfl, rfl, rfl, rfl⟩
  obtain ⟨channel, played, facts⟩ := played
  exact ⟨channel, .played _ played, facts⟩

/-! ### Wakers that a terminal channel keeps -/

/-- A terminal channel keeps no waker. -/
structure Vacates (channel : Channel α) : Prop where
  receiver : channel.state.receiver = none ∨ channel.state.senders = [] ∨
    channel.state.chan.closed = true → channel.state.chan.recvWaker = none
  senders : channel.state.receiver = none ∨ channel.state.chan.closed = true →
    channel.state.chan.sendWakers = []

/-- The registration belongs to a live send future that has not completed. -/
def State.Holds (state : State α) (id : UInt64) (future : Nat) : Prop :=
  ∃ this, state.sends future = some this ∧ this.done = false ∧ this.wakerId = some id

/-- Under the invariant, an id is held by the future that has it. -/
theorem Inv.holds_iff {manners : Manners} (inv : Inv manners channel) {id : UInt64} {future : Nat} :
    channel.state.Holds id future ↔ channel.state.idOf future = some id := by
  simp only [State.Holds, State.idOf, Option.bind_eq_some_iff]
  constructor
  · rintro ⟨this, found, -, holds⟩
    exact ⟨this, found, holds⟩
  · rintro ⟨this, found, holds⟩
    refine ⟨this, found, eq_false_of_ne_true fun done => ?_, holds⟩
    cases (inv.futures.sent future this found done).1.symm.trans holds

/-- Between operations a terminal channel keeps no waker, if no parked sender panics in the drop
of the receiver while a waker is registered for the receiver. At any time every registration of
a parked sender belongs to one live send future. -/
theorem terminal_channel_keeps_no_waker (tidy : Tidy policy) (new : New fresh) :
    (∀ channel, Runs policy fresh (.user channel []) → Fits channel.log → Vacates channel) ∧
      ∀ channel frames, Runs policy fresh (.user channel frames) → Fits channel.log →
        (channel.state.chan.sendWakers.map Prod.fst).Nodup ∧
          ∀ entry ∈ channel.state.chan.sendWakers, ∃! future,
            channel.state.Holds entry.1 future := by
  constructor
  · intro channel runs fits
    have handles := (runs.inv new).handles
    have guarantee := runs.quiescent new
    have gone : channel.state.receiver = none → channel.state.chan.receiverAlive = false := by
      intro none
      rw [handles.receiver, none]
      rfl
    refine ⟨fun isOver => not_not.mp fun some => ?_, fun isOver => ?_⟩
    · have terminal : channel.state.chan.terminal = true := by
        rw [Chan.terminal_iff, handles.senders, List.length_eq_zero_iff]
        exact isOver.imp_left gone
      exact (guarantee.retained tidy ⟨some, terminal⟩).waker new.recvWaker
    · refine List.eq_nil_iff_forall_not_mem.mpr fun entry member => ?_
      have before := guarantee.tally.stuck fits
        (Chan.rejecting_iff.mpr (isOver.imp_left gone)) entry member
      rw [new.sendWakers] at before
      cases before.2
  · intro channel frames runs fits
    have inv := runs.inv new
    have sound := inv.registry.tickets fits
    refine ⟨sound.keys, fun entry member => ?_⟩
    obtain ⟨future, holds⟩ := inv.registry.owned fits entry member
    refine ⟨future, inv.holds_iff.mpr holds, fun other holds' => ?_⟩
    exact sound.sole other future entry.1 (inv.holds_iff.mp holds') holds

/-- A stream is parked, and woken when the channel is closed. -/
theorem terminal_channel_keeps_no_waker_closed : ∃ channel : Channel Nat,
    Runs Policy.panicFree unbounded (.user channel []) ∧
      channel.state.chan.closed = true ∧ Vacates channel := by
  have played : ∃ channel : Channel Nat, (system Nat).play 4
      [.call (.pollNext 1 5), .leave (.ok ()), .call (.closeSender 0), .leave (.ok ())]
      (.user unbounded []) = some (.user channel []) ∧ channel.state.chan.closed = true ∧
      Fits channel.log := ⟨_, rfl, rfl, .intro (by decide) (by decide)⟩
  obtain ⟨channel, played, closed, fits⟩ := played
  have runs : Runs Policy.panicFree unbounded (.user channel []) := .playedCalm played (by simp)
  have tidy : Tidy (Policy.panicFree : Policy (Channel Nat) _ _ _) := by
    intro receiver waker payload after admitted
    cases admitted
  exact ⟨channel, runs, closed,
    (terminal_channel_keeps_no_waker tidy .unbounded).1 channel runs fits⟩

/-- The receiver of a full channel waits, and a sender is parked, as a send that had pushed the
item panicked before it woke the receiver. The parked sender panics in the drop of the receiver,
whose waker stays behind. -/
theorem keeps_the_waker : ∃ channel : Channel Nat,
    Runs Policy.any (bounded 1 (by decide)) (.user channel []) ∧
      panics channel.log = [.dropWaker 10, .wake .senders 11] ∧ Fits channel.log ∧
      channel.state.receiver = none ∧ channel.state.chan.recvWaker = some 5 := by
  have played : ∃ channel : Channel Nat, (system Nat).play 4
      [.call (.trySend 0 7), .call (.send 0 8), .call (.pollSend 2 10), .call (.tryRecv 1),
        .call (.pollNext 1 5), .leave (.ok ()), .leave (.ok ()),
        .leave (.error (.message "dropped")), .call (.send 0 9), .call (.pollSend 3 11),
        .leave (.ok ()), .call (.dropReceiver 1), .leave (.error (.message "woken")),
        .leave (.ok ())]
      (.user (bounded 1 (by decide)) []) = some (.user channel []) ∧
      panics channel.log = [.dropWaker 10, .wake .senders 11] ∧
      Fits channel.log ∧ channel.state.receiver = none ∧
      channel.state.chan.recvWaker = some 5 :=
    ⟨_, rfl, rfl, .intro (by decide) (by decide), rfl, rfl⟩
  obtain ⟨channel, played, facts⟩ := played
  exact ⟨channel, .played _ played, facts⟩

/-! ### The wake that a send owes -/

/-- What the log says of the polls of send futures: when one ends, the waker that was registered
for the receiver when the item was pushed has been invoked, or the receiver has begun to drop. -/
structure Pays (log : Log α) : Prop where
  returned : ∀ start future waker result older,
    .returned start (.pollSend future waker) result :: older <:+ log → owed future older = none
  unwound : ∀ start future waker older,
    .unwound start (.pollSend future waker) :: older <:+ log → owed future older = none

/-- Where every wake was paid at the end, it was so at any time before. -/
theorem Notified.of_suffix {older newer : Log α} (notified : Notified newer)
    (suffix : older <:+ newer) : Notified older := by
  obtain ⟨events, rfl⟩ := suffix
  induction events with
  | nil => exact notified
  | cons event rest ih =>
      refine ih ?_
      cases event with
      | returned start op result => cases op <;> first | exact notified | exact notified.2
      | unwound start op => cases op <;> first | exact notified | exact notified.2
      | _ => exact notified

/-- Every poll of a send future that pushed its item has woken the receiver when it ends, if
dropping the future's own waker before that neither panics nor removes or replaces the waker of the
receiver. -/
theorem committed_send_wakes_receiver (watch : KeepsWatch policy) (new : New fresh) {frames}
    (runs : Runs policy fresh (.user channel frames)) : Pays channel.log := by
  have notified := (runs.inv new).books.notified watch
  exact
    { returned := fun start future waker result older suffix => (notified.of_suffix suffix).1
      unwound := fun start future waker older suffix => (notified.of_suffix suffix).1 }

/-- While a send owes the receiver a wake, dropping its own waker neither panics nor takes the waker
of the receiver away. User code may do anything else. -/
def undisturbed : Policy (Channel α) (Callback α) Panic (Op α) where
  call _ _ := True
  resume after op code outcome := ∀ future waker own awaited, op = .pollSend future waker →
    code = .dropWaker own → owed future after.log = some awaited →
      outcome = .ok () ∧ after.state.chan.recvWaker = some awaited
  patience := 0

/-- Left undisturbed, a receiver is watched over. -/
theorem undisturbed_keepsWatch : KeepsWatch (undisturbed (α := α)) :=
  fun future waker own _ _ awaited allowed owes => allowed future waker own awaited rfl rfl owes

/-- A slot becomes free while a send future registers, and a stream begins to wait. The send pushes
its item, drops its own registration, and then wakes the stream. -/
theorem committed_send_wakes_receiver_parked : ∃ channel : Channel Nat,
    Runs undisturbed (bounded 1 (by decide)) (.user channel []) ∧ Pushed 2 channel.log ∧
      [.called (.wake .receivers 5), .called (.dropWaker 10)].Sublist channel.log ∧
      Pays channel.log := by
  let moves : List (Move Panic (Op Nat)) :=
    [.call (.trySend 0 7), .call (.send 0 8), .call (.pollSend 2 10), .call (.tryRecv 1),
      .call (.pollNext 1 5), .leave (.ok ()), .leave (.ok ()), .leave (.ok ()), .leave (.ok ())]
  have played : ∃ channel : Channel Nat, (system Nat).play 4 moves
      (.user (bounded 1 (by decide)) []) = some (.user channel []) ∧ Pushed 2 channel.log ∧
      [.called (.wake .receivers 5), .called (.dropWaker 10)].Sublist channel.log := by
    refine ⟨_, rfl, .inl rfl, ?_⟩
    exact .cons _ (.cons_cons _ (.cons_cons _ (List.nil_sublist _)))
  obtain ⟨channel, played, pushes, wakes⟩ := played
  have departures : ∃ parked cloned dropped woken : Channel Nat,
      (system Nat).departures 4 moves (.user (bounded 1 (by decide)) []) =
        [(parked, .pollNext 1 5, .clone 5, .ok ()), (cloned, .pollSend 2 10, .clone 10, .ok ()),
          (dropped, .pollSend 2 10, .dropWaker 10, .ok ()),
          (woken, .pollSend 2 10, .wake .receivers 5, .ok ())] ∧
      owed 2 dropped.log = some 5 ∧ dropped.state.chan.recvWaker = some 5 :=
    ⟨_, _, _, _, rfl, rfl, rfl⟩
  obtain ⟨parked, cloned, dropped, woken, departures, owes, stays⟩ := departures
  have runs : Runs undisturbed (bounded 1 (by decide)) (.user channel []) := by
    refine System.Reachable.start.play played (fun _ _ _ => trivial) (fun left member => ?_)
      (Nat.zero_le 4)
    rw [departures] at member
    simp only [List.mem_cons, List.not_mem_nil, or_false] at member
    rcases member with rfl | rfl | rfl | rfl
    · rintro _ _ _ _ ⟨⟩
    · rintro _ _ _ _ _ ⟨⟩
    · rintro _ _ _ awaited ⟨⟩ ⟨⟩ waits
      exact ⟨rfl, stays.trans (owes.symm.trans waits)⟩
    · rintro _ _ _ _ _ ⟨⟩
  exact ⟨channel, runs, pushes, wakes, committed_send_wakes_receiver undisturbed_keepsWatch
    (.bounded 1 (by decide)) runs⟩

/-- A slot becomes free while a send future registers. It pushes its item, and panics when it
drops its own registration: the waker of the stream that waits is not invoked. -/
theorem leaves_the_receiver_parked : ∃ channel : Channel Nat,
    Runs Policy.any (bounded 1 (by decide)) (.user channel []) ∧
      panics channel.log = [.dropWaker 10] ∧ ¬ Pays channel.log ∧
      expecting channel.log = some (.stream 1, 5) ∧ channel.state.chan.recvWaker = some 5 ∧
      channel.state.chan.flavor.toList = [8] := by
  have played : ∃ channel : Channel Nat, (system Nat).play 4
      [.call (.trySend 0 7), .call (.send 0 8), .call (.pollSend 2 10), .call (.tryRecv 1),
        .call (.pollNext 1 5), .leave (.ok ()), .leave (.ok ()),
        .leave (.error (.message "dropped"))]
      (.user (bounded 1 (by decide)) []) = some (.user channel []) ∧
      panics channel.log = [.dropWaker 10] ∧
      (∃ start older, .unwound start (.pollSend 2 10) :: older <:+ channel.log ∧
        owed 2 older = some 5) ∧
      expecting channel.log = some (.stream 1, 5) ∧ channel.state.chan.recvWaker = some 5 ∧
      channel.state.chan.flavor.toList = [8] :=
    ⟨_, rfl, rfl, ⟨_, _, List.suffix_refl _, rfl⟩, rfl, rfl, rfl⟩
  obtain ⟨channel, played, panicked, ⟨start, older, suffix, owes⟩, facts⟩ := played
  refine ⟨channel, .played _ played, panicked, fun pays => ?_, facts⟩
  cases owes.symm.trans (pays.unwound start 2 10 older suffix)

end Lochan.Mpsc
