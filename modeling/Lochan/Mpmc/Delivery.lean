import Lochan.Mpmc.Handover

/-!
# What an mpmc channel delivers

Every accepted item is handed out once, in the order in which the items were accepted,
and a receive that finds nothing finds nothing to receive.
-/

namespace Lochan.Mpmc

open Reentrant

variable {α : Type} {fresh channel : Channel α}

instance (channel : Channel α) (op : Op α) : Decidable ((system α).legal channel op) :=
  inferInstanceAs (Decidable (channel.state.Legal op))

/-- While a receiver is alive, the items accepted are those handed out, then the one in the
redelivery slot, then the queue, whatever the callbacks do; and those handed out are the items that
receives have returned. -/
theorem delivers_in_order (new : New fresh) {frames}
    (runs : Runs Policy.any fresh (.user channel frames))
    (alive : channel.state.chan.receivers ≠ 0) :
    received channel.log = delivered channel.log ∧
      accepted channel.log = delivered channel.log ++ channel.state.chan.redelivery.toList ++
        channel.state.chan.flavor.toList := by
  have handed := (runs.tallied new).inHand.received
  rw [Option.toList_none, List.append_nil] at handed
  have books := (runs.inv .none new).core.books
  refine ⟨handed, ?_⟩
  rw [books.fifo, books.undrained alive, List.append_nil, Chan.contents, List.append_assoc]

/-- Parked senders panic when the receiver wakes them: the first item was redelivered, the second
one waits to be. -/
theorem delivers_in_order_stranded : ∃ channel : Channel Nat,
    Runs Policy.any (bounded 1 (by decide)) (.user channel []) ∧
      channel.state.chan.redelivery = some 8 ∧ received channel.log = [7] ∧
      received channel.log = delivered channel.log ∧
      accepted channel.log = delivered channel.log ++ channel.state.chan.redelivery.toList ++
        channel.state.chan.flavor.toList := by
  have played : ∃ channel : Channel Nat, (system Nat).play 4
      [.call (.trySend 0 7), .call (.send 0 8), .call (.pollSend 2 0), .leave (.ok ()),
        .call (.tryRecv 1), .leave (.error (.message "woken")), .call (.tryRecv 1),
        .call (.pollSend 2 0), .call (.send 0 9), .call (.pollSend 3 1), .leave (.ok ()),
        .call (.tryRecv 1), .leave (.error (.message "woken"))]
      (.user (bounded 1 (by decide)) []) = some (.user channel []) ∧
      channel.state.chan.redelivery = some 8 ∧ received channel.log = [7] ∧
      channel.state.chan.receivers ≠ 0 :=
    ⟨_, rfl, rfl, rfl, by decide⟩
  obtain ⟨channel, played, parked, returned, alive⟩ := played
  have runs := System.Reachable.played _ played
  exact ⟨channel, runs, parked, returned, delivers_in_order (.bounded 1 (by decide)) runs alive⟩

/-- What the log says of the receives so far. -/
structure TakesOldest (log : Log α) : Prop where
  /-- Finding nothing, a receive found the redelivery slot and the queue empty. -/
  missed : ∀ held older, .missed held :: older <:+ log → held = []
  /-- An item that is taken is the oldest one. -/
  oldest : ∀ item older, .took item :: older <:+ log →
    ∃ rest, accepted older = delivered older ++ item :: rest
  /-- An item that is returned is the one that the receive took last, when it was the oldest. -/
  returned : ∀ start op result older, .returned start op result :: older <:+ log →
    ∀ item, item? result = some item → ∃ before rest, older = .took item :: before ∧
      accepted before = delivered before ++ item :: rest
  registered : ∀ older, .registered .receivers :: older <:+ log → Emptied older
  reports : ∀ start op result older, .returned start op result :: older <:+ log →
    Reports SendOver op result older

/-- Whatever the wakers of parked senders do, a receive that finds nothing finds the channel
empty, and only then registers a waker or reports that there is nothing; an item that it returns
was the oldest one when it was taken. A receive goes round forever only if items are pushed
forever: it uses up a budget of iterations only after that many were accepted. -/
theorem try_take_finds_what_there_is (new : New fresh) (patience : Nat) :
    (∀ channel frames, Runs (.patient patience) fresh (.user channel frames) →
      TakesOldest channel.log) ∧
    ∀ op channel, Runs (.patient patience) fresh (.hung op channel) →
      (∀ receiver, op ≠ .dropReceiver receiver) → patience ≤ (accepted channel.log).length := by
  refine ⟨fun channel frames runs => ?_, fun op channel runs _ => runs.sound .none new⟩
  have lawful := (runs.inv .none new).core.books.lawful
  have inHand := (runs.tallied new).inHand
  exact
    { missed := fun held older suffix => (lawful.of_suffix suffix).1.1
      oldest := fun item older suffix => (lawful.of_suffix suffix).1.2
      returned := fun start op result older suffix item hands => by
        obtain ⟨before, rfl⟩ := inHand.returned suffix hands
        have taken : .took item :: before <:+ channel.log := (List.suffix_cons ..).trans suffix
        obtain ⟨rest, oldest⟩ := (lawful.of_suffix taken).1.2
        exact ⟨before, rest, rfl, oldest⟩
      registered := fun older suffix => (lawful.of_suffix suffix).1
      reports := fun start op result older suffix => (lawful.of_suffix suffix).1.2 }

/-- A parked sender receives the item that the receive waking it has parked; granted a single
iteration, that receive goes round no more. -/
theorem try_take_finds_what_there_is_stolen :
    ∃ (stolen channel : Channel Nat) (frames : _),
      Runs (.patient 1) (bounded 1 (by decide)) (.user stolen frames) ∧
      received stolen.log = [7] ∧ TakesOldest stolen.log ∧
      Runs (.patient 1) (bounded 1 (by decide)) (.hung (.tryRecv 1) channel) ∧
      delivered channel.log = [7] ∧ 1 ≤ (accepted channel.log).length := by
  let moves : List (Move Panic (Op Nat)) :=
    [.call (.trySend 0 7), .call (.send 0 8), .call (.pollSend 2 0), .leave (.ok ()),
      .call (.tryRecv 1), .call (.tryRecv 1)]
  have played : ∃ (stolen channel : Channel Nat) (frames : _),
      (system Nat).play 1 moves (.user (bounded 1 (by decide)) []) = some (.user stolen frames) ∧
      received stolen.log = [7] ∧
      (system Nat).play 1 (moves ++ [.leave (.ok ())]) (.user (bounded 1 (by decide)) []) =
        some (.hung (.tryRecv 1) channel) ∧
      delivered channel.log = [7] := ⟨_, _, _, rfl, rfl, rfl, rfl⟩
  obtain ⟨stolen, channel, frames, robbed, returned, played, taken⟩ := played
  have runs : Runs (.patient 1) (bounded 1 (by decide)) (.user stolen frames) :=
    System.Reachable.start.play robbed (fun _ _ _ => trivial) (fun _ _ => trivial)
      (Nat.le_refl 1)
  have hangs : Runs (.patient 1) (bounded 1 (by decide)) (.hung (.tryRecv 1) channel) :=
    System.Reachable.start.play played (fun _ _ _ => trivial) (fun _ _ => trivial)
      (Nat.le_refl 1)
  obtain ⟨takes, tires⟩ := try_take_finds_what_there_is (.bounded 1 (by decide)) 1
  exact ⟨stolen, channel, frames, runs, returned, takes _ _ runs, hangs, taken,
    tires _ _ hangs nofun⟩

end Lochan.Mpmc
