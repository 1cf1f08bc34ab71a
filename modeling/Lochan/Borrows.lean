import Lochan.Mpmc.Delivery
import Lochan.Mpsc.Delivery
import Lochan.Oneshot.Soundness

/-!
# No user code runs inside a borrow

The cells of a channel are borrowed for single accesses. User code is never in control while one
is borrowed, on any of the three channels, so no access finds its cell borrowed.
-/

namespace Lochan

open Reentrant

variable {α : Type}

/-- Whenever user code is in control no cell is borrowed, and nothing faults: no cell is accessed
while it is borrowed. -/
structure Unborrowed {χ ω ρ : Type}
    (runs : Config (World χ ω ρ α) (Callback α) Panic ω → Prop) : Prop where
  clear : ∀ world frames, runs (.user world frames) → world.held = []
  faultless : ∀ op world, ¬ runs (.faulted op world)

/-- No callback of an mpmc, mpsc or oneshot channel is entered or left while a cell is borrowed,
whatever user code does in it, and no access ever finds its cell borrowed. -/
theorem callbacks_run_outside_borrows :
    (∀ fresh : Mpmc.Channel α, Mpmc.New fresh → Unborrowed (Mpmc.Runs .any fresh)) ∧
    (∀ fresh : Mpsc.Channel α, Mpsc.New fresh → Unborrowed (Mpsc.Runs .any fresh)) ∧
    Unborrowed (Oneshot.Runs (α := α)) := by
  refine ⟨fun fresh new => ⟨?_, ?_⟩, fun fresh new => ⟨?_, ?_⟩, ⟨?_, ?_⟩⟩
  · exact fun channel frames runs => (runs.inv .none new).core.held
  · exact fun op channel runs => runs.sound .none new
  · exact fun channel frames runs => (runs.inv new).held
  · exact fun op channel runs => runs.sound new
  · exact fun channel frames runs => runs.inv.core.held
  · exact fun op channel runs => runs.sound

/-- A receive on an mpmc channel has parked its item and wakes a sender. -/
theorem callbacks_run_outside_borrows_wake : ∃ (channel : Mpmc.Channel Nat) (frame : Frame ..),
    Mpmc.Runs .any (Mpmc.bounded 1 (by decide)) (.user channel [frame]) ∧
      frame.callback = .wake .senders 0 ∧ channel.state.chan.redelivery = some 7 ∧
      channel.held = [] := by
  have played : ∃ (channel : Mpmc.Channel Nat) (frame : Frame ..), (Mpmc.system Nat).play 4
      [.call (.trySend 0 7), .call (.send 0 8), .call (.pollSend 2 0), .leave (.ok ()),
        .call (.tryRecv 1)]
      (.user (Mpmc.bounded 1 (by decide)) []) = some (.user channel [frame]) ∧
      frame.callback = .wake .senders 0 ∧ channel.state.chan.redelivery = some 7 :=
    ⟨_, _, rfl, rfl, rfl⟩
  obtain ⟨channel, frame, played, wakes, parked⟩ := played
  have runs : Mpmc.Runs .any (Mpmc.bounded 1 (by decide)) (.user channel [frame]) :=
    .played _ played
  exact ⟨channel, frame, runs, wakes, parked,
    (callbacks_run_outside_borrows.1 _ (.bounded 1 (by decide))).clear channel _ runs⟩

end Lochan
