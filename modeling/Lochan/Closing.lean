import Lochan.Teardown

/-!
# Closing and disconnecting

On both channels nothing is pushed once the channel was closed or its last receiver began to
drop, and what a receiver has observed of the end of the channel stays so.
-/

namespace Lochan

open Reentrant

variable {α : Type}

/-- The end of a channel, as the log shows it, for a channel that holds some items now. -/
structure Final (alive : Prop) (contents : List α) (log : Log α) : Prop where
  /-- Nothing is pushed into a channel that is shut. -/
  pushes : ∀ future item older, .pushed future item :: older <:+ log → ¬ Shut older
  /-- A send that begins when the channel is shut fails, and carries its item back. -/
  trySend : ∀ start sender item result older,
    .returned start (.trySend sender item) result :: older <:+ log → Shut (past start older) →
      result = .trySend (.error (.closed item))
  send : ∀ start future waker result older,
    .returned start (.pollSend future waker) result :: older <:+ log → Shut (past start older) →
      ¬ Committed future (past start older) → ∀ item, Created future item (past start older) →
        result = .send (.ready (.error ⟨item⟩))
  /-- A receive that begins after one has observed the end observes it as well. -/
  tryRecv : ∀ start receiver result older,
    .returned start (.tryRecv receiver) result :: older <:+ log → Observed (past start older) →
      result = .tryRecv (.error .disconnected)
  pollNext : ∀ start receiver waker result older,
    .returned start (.pollNext receiver waker) result :: older <:+ log →
      Observed (past start older) → result = .recv (.ready none)
  recv : ∀ start future waker result older,
    .returned start (.pollRecv future waker) result :: older <:+ log →
      Observed (past start older) → ¬ Polled future (past start older) →
        result = .recv (.ready none)
  /-- A stream that has ended, or was reported to have terminated, is reported to have. -/
  isTerminated : ∀ start receiver result older,
    .returned start (.streamIsTerminated receiver) result :: older <:+ log →
      Terminal receiver (past start older) → result = .bool true
  /-- While a receiver is alive, the items held when the channel was closed are those handed out
  since, and then those that are left. -/
  handsOut : alive → ∀ held older, .closed held :: older <:+ log →
    ∃ handed, delivered log = delivered older ++ handed ∧ held = handed ++ contents

/-- A lawful log shows the end of its channel. -/
theorem Lawful.final {isOver : Nat → Log α → Prop} {log : Log α} (lawful : Lawful isOver log)
    {alive : Prop} {contents : List α}
    (fifo : accepted log = delivered log ++ drained log ++ contents)
    (undrained : alive → drained log = []) : Final alive contents log where
  pushes future item older suffix := (lawful.of_suffix suffix).1.1
  trySend start sender item result older suffix := (lawful.of_suffix suffix).1.1
  send start future waker result older suffix := (lawful.of_suffix suffix).1.1.1
  tryRecv start receiver result older suffix := (lawful.of_suffix suffix).1.1
  pollNext start receiver waker result older suffix := (lawful.of_suffix suffix).1.1
  recv start future waker result older suffix := (lawful.of_suffix suffix).1.1
  isTerminated start receiver result older suffix := (lawful.of_suffix suffix).1.1
  handsOut living held older suffix := by
    have before : older <:+ log := (List.suffix_cons ..).trans suffix
    have kept : accepted older = delivered older ++ drained older ++ held :=
      (lawful.of_suffix suffix).1
    have accepts : accepted log = accepted older := by
      simpa [accepted, Event.pushed?] using lawful.accepts_nothing suffix trivial
    have undrained' : drained older = [] := by
      have grows := drained_grows before
      rw [undrained living] at grows
      exact List.prefix_nil.mp grows
    obtain ⟨handed, delivers⟩ := delivered_grows before
    refine ⟨handed, delivers.symm, ?_⟩
    rw [accepts, kept, undrained', undrained living, List.append_nil, List.append_nil, ← delivers,
      List.append_assoc] at fifo
    exact List.append_cancel_left fifo

/-- On both channels closing and disconnecting are final, whatever the callbacks do. -/
theorem closing_is_final :
    (∀ (fresh channel : Mpmc.Channel α) frames, Mpmc.New fresh →
      Mpmc.Runs .any fresh (.user channel frames) →
      Final (channel.state.chan.receivers ≠ 0) channel.state.chan.contents channel.log) ∧
    ∀ (fresh channel : Mpsc.Channel α) frames, Mpsc.New fresh →
      Mpsc.Runs .any fresh (.user channel frames) →
      Final (channel.state.chan.receiverAlive = true) channel.state.chan.contents channel.log := by
  constructor
  · intro fresh channel frames new runs
    have books := (runs.inv .none new).core.books
    exact books.lawful.final books.fifo books.undrained
  · intro fresh channel frames new runs
    have books := (runs.inv new).books
    exact books.lawful.final books.fifo books.undrained

/-- A channel is closed while it holds an item, which is received before the end is observed. -/
theorem closing_is_final_drained :
    (∃ channel : Mpmc.Channel Nat, Mpmc.Runs .any Mpmc.unbounded (.user channel []) ∧
      Observed channel.log ∧ Final True [] channel.log) ∧
    ∃ channel : Mpsc.Channel Nat, Mpsc.Runs .any Mpsc.unbounded (.user channel []) ∧
      Observed channel.log ∧ Final True [] channel.log := by
  let moves : List (Move Panic (Op Nat)) :=
    [.call (.trySend 0 7), .call (.closeSender 0), .call (.trySend 0 8), .call (.tryRecv 1),
      .call (.tryRecv 1), .call (.pollNext 1 5), .call (.streamIsTerminated 1)]
  have mpmc : ∃ channel : Mpmc.Channel Nat, (Mpmc.system Nat).play 4 moves
      (.user Mpmc.unbounded []) = some (.user channel []) ∧ Observed channel.log ∧
      channel.state.chan.receivers = 1 ∧ channel.state.chan.contents = [] :=
    ⟨_, rfl, trivial, rfl, rfl⟩
  have mpsc : ∃ channel : Mpsc.Channel Nat, (Mpsc.system Nat).play 4 moves
      (.user Mpsc.unbounded []) = some (.user channel []) ∧ Observed channel.log ∧
      channel.state.chan.receiverAlive = true ∧ channel.state.chan.contents = [] :=
    ⟨_, rfl, trivial, rfl, rfl⟩
  obtain ⟨channel, played, observed, alive, empty⟩ := mpmc
  obtain ⟨channel', played', observed', alive', empty'⟩ := mpsc
  have runs : Mpmc.Runs .any Mpmc.unbounded (.user channel []) := .played _ played
  have runs' : Mpsc.Runs .any Mpsc.unbounded (.user channel' []) := .played _ played'
  have final := closing_is_final.1 _ _ _ .unbounded runs
  have final' := closing_is_final.2 _ _ _ .unbounded runs'
  rw [empty] at final
  rw [empty'] at final'
  exact ⟨⟨channel, runs, observed,
    { final with handsOut := fun _ => final.handsOut (by simp [alive]) }⟩,
    channel', runs', observed', { final' with handsOut := fun _ => final'.handsOut alive' }⟩

end Lochan
