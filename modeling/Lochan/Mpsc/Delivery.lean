import Lochan.Mpsc.Soundness

/-!
# What an mpsc channel delivers

Every accepted item is returned by one receive, in the order in which the items were accepted,
unless a parked sender panics when a receive wakes it.
-/

namespace Lochan.Mpsc

open Reentrant

variable {α : Type} {policy : Policy (Channel α) (Callback α) Panic (Op α)}
  {fresh channel : Channel α}

instance (channel : Channel α) (op : Op α) : Decidable ((system α).legal channel op) :=
  inferInstanceAs (Decidable (channel.state.Legal op))

/-- Nobody uses a new channel. -/
theorem New.uses (new : New fresh) : fresh.state.uses = [] := by
  cases new <;> rfl

/-- Between operations no reference is held. -/
theorem Runs.unused (new : New fresh) (runs : Runs policy fresh (.user channel [])) :
    channel.state.uses = [] :=
  (runs.quiescent new).evolves.uses.trans new.uses

/-- While the receiver is alive, the items accepted are those that receives returned, then the
queue, if no parked sender panics when a receive wakes it. -/
theorem receives_in_order (quiet : Quiet policy) (new : New fresh)
    (runs : Runs policy fresh (.user channel []))
    (alive : channel.state.chan.receiverAlive = true) :
    accepted channel.log = received channel.log ++ channel.state.chan.flavor.toList := by
  have books := (runs.inv new).books
  have idle : ¬ channel.state.InUse := by
    rintro ⟨ref, used, -⟩
    rw [runs.unused new] at used
    cases used
  rw [books.received quiet idle, books.fifo, books.undrained alive, List.append_nil, Chan.contents]

/-- No parked sender panics when a receive wakes it. User code may do anything else. -/
def gentleWakes : Policy (Channel α) (Callback α) Panic (Op α) where
  call _ _ := True
  resume _ op code outcome := ∀ owner waker, Receiving op owner → code = .wake .senders waker →
    outcome = .ok ()
  patience := 0

/-- Under gentle wakes, the wakes of a receive return. -/
theorem gentleWakes_quiet : Quiet (gentleWakes (α := α)) := by
  intro op owner receiving waker payload after admitted
  cases admitted owner waker receiving rfl

/-- A receive wakes a parked sender, whose item is received next. The stream that waits panics when
the third item wakes it, and the item stays in the queue. -/
theorem receives_in_order_returned : ∃ channel : Channel Nat,
    Runs gentleWakes (bounded 1 (by decide)) (.user channel []) ∧
      panics channel.log = [.wake .receivers 5] ∧ received channel.log = [7, 8] ∧
      channel.state.chan.flavor.toList = [9] ∧
      accepted channel.log = received channel.log ++ channel.state.chan.flavor.toList := by
  let moves : List (Move Panic (Op Nat)) :=
    [.call (.trySend 0 7), .call (.send 0 8), .call (.pollSend 2 10), .leave (.ok ()),
      .call (.tryRecv 1), .leave (.ok ()), .call (.pollSend 2 10), .call (.pollNext 1 5),
      .call (.pollNext 1 5), .leave (.ok ()), .call (.trySend 0 9),
      .leave (.error (.message "woken"))]
  have played : ∃ channel : Channel Nat, (system Nat).play 4 moves
      (.user (bounded 1 (by decide)) []) = some (.user channel []) ∧
      panics channel.log = [.wake .receivers 5] ∧ received channel.log = [7, 8] ∧
      channel.state.chan.flavor.toList = [9] ∧ channel.state.chan.receiverAlive = true :=
    ⟨_, rfl, rfl, rfl, rfl, rfl⟩
  have departures : ∃ first second third fourth, (system Nat).departures 4 moves
      (.user (bounded 1 (by decide)) []) =
        [(first, .pollSend 2 10, .clone 10, .ok ()),
          (second, .tryRecv 1, .wake .senders 10, .ok ()), (third, .pollNext 1 5, .clone 5, .ok ()),
          (fourth, .trySend 0 9, .wake .receivers 5, .error (.message "woken"))] :=
    ⟨_, _, _, _, rfl⟩
  obtain ⟨channel, played, panicked, returned, queued, alive⟩ := played
  obtain ⟨first, second, third, fourth, departures⟩ := departures
  have runs : Runs gentleWakes (bounded 1 (by decide)) (.user channel []) := by
    refine System.Reachable.start.play played (fun _ _ _ => trivial) (fun left member => ?_)
      (Nat.zero_le 4)
    rw [departures] at member
    simp only [List.mem_cons, List.not_mem_nil, or_false] at member
    rcases member with rfl | rfl | rfl | rfl
    · exact fun _ _ _ _ => rfl
    · exact fun _ _ _ _ => rfl
    · exact fun _ _ _ _ => rfl
    · rintro _ _ _ ⟨⟩
  exact ⟨channel, runs, panicked, returned, queued,
    receives_in_order gentleWakes_quiet (.bounded 1 (by decide)) runs alive⟩

/-- A parked sender panics when a receive wakes it, and the item of the receive is lost: nothing
else panics. -/
theorem loses_an_item : ∃ channel : Channel Nat,
    Runs Policy.any (bounded 1 (by decide)) (.user channel []) ∧
      panics channel.log = [.wake .senders 0] ∧ channel.state.chan.receiverAlive = true ∧
      accepted channel.log ≠ received channel.log ++ channel.state.chan.flavor.toList := by
  have played : ∃ channel : Channel Nat, (system Nat).play 4
      [.call (.trySend 0 7), .call (.send 0 8), .call (.pollSend 2 0), .leave (.ok ()),
        .call (.tryRecv 1), .leave (.error (.message "woken")), .leave (.ok ())]
      (.user (bounded 1 (by decide)) []) = some (.user channel []) ∧
      panics channel.log = [.wake .senders 0] ∧ channel.state.chan.receiverAlive = true ∧
      accepted channel.log = [7] ∧ received channel.log = [] ∧
      channel.state.chan.flavor.toList = [] := ⟨_, rfl, rfl, rfl, rfl, rfl, rfl⟩
  obtain ⟨channel, played, panicked, alive, accepts, returned, empty⟩ := played
  refine ⟨channel, .played _ played, panicked, alive, ?_⟩
  rw [accepts, returned, empty]
  decide

end Lochan.Mpsc
