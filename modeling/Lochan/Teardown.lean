import Lochan.Mpmc.Delivery
import Lochan.Mpsc.Delivery

/-!
# Dropping the last receiver

The drop of the last receiver wakes the parked senders and then drops the items that are left,
each once and in their order, also when one kind of user code panics on the way. The channel
stays empty.
-/

namespace Lochan

open Reentrant

variable {α : Type}

section Log

variable {isOver : Nat → Log α → Prop} {older newer : Log α}

/-- A channel that was shut stays shut. -/
theorem Shut.later (shut : Shut older) (suffix : older <:+ newer) : Shut newer := by
  obtain ⟨events, rfl⟩ := suffix
  induction events with
  | nil => exact shut
  | cons event rest ih => cases event <;> first | exact ih | trivial

/-- No item is accepted once the channel is shut. -/
theorem Lawful.accepts_nothing (lawful : Lawful isOver newer) (suffix : older <:+ newer)
    (shut : Shut older) : accepted newer = accepted older := by
  obtain ⟨events, rfl⟩ := suffix
  induction events with
  | nil => rfl
  | cons event rest ih =>
      have same := ih (lawful.of_suffix (List.suffix_cons ..))
      cases event with
      | pushed sent item => exact absurd (shut.later (List.suffix_append ..)) lawful.1.1
      | _ => simpa [accepted, Event.pushed?] using same

/-- No item is handed out once the last receiver has begun to drop. -/
theorem Lawful.delivers_nothing (lawful : Lawful isOver newer) (suffix : older <:+ newer)
    {receiver : Nat} (last : LastReceiver receiver older) : delivered newer = delivered older := by
  obtain ⟨events, rfl⟩ := suffix
  induction events with
  | nil => rfl
  | cons event rest ih =>
      have same := ih (lawful.of_suffix (List.suffix_cons ..))
      cases event with
      | took item => exact absurd (last.later (List.suffix_append ..)) (lawful.1.1 receiver)
      | _ => simpa [delivered, Event.took?] using same

/-- What becomes of the items that a channel holds when its last receiver begins to drop. -/
structure Empties (receiver : Nat) (contents : List α) (log : Log α) : Prop where
  /-- No item is dropped before the parked senders have been woken. -/
  prompt : Prompt log
  /-- The items dropped so far and those left are the items accepted but not handed out. -/
  fifo : ∀ parked held older, .lastReceiver receiver parked held :: older <:+ log →
    accepted older = delivered older ++ held ∧ drained log ++ contents = held
  /-- When the drop is over, the channel is empty for good. -/
  emptied : Released log → contents = []
  freed : ∀ held older, .freed held :: older <:+ log → held = []

/-- A lawful log shows what became of the items when the last receiver began to drop. -/
theorem Lawful.empties (lawful : Lawful isOver newer) {contents : List α}
    (fifo : accepted newer = delivered newer ++ drained newer ++ contents) {receiver : Nat}
    (prompt : Prompt newer) (emptied : Released newer → contents = []) :
    Empties receiver contents newer where
  prompt := prompt
  fifo := by
    intro parked held older suffix
    obtain ⟨⟨before, undrained⟩, -⟩ := lawful.of_suffix suffix
    refine ⟨before, ?_⟩
    have accepts := lawful.accepts_nothing suffix trivial
    have last : LastReceiver receiver (.lastReceiver receiver parked held :: older) := .inl rfl
    have delivers := lawful.delivers_nothing suffix last
    have accepts' : accepted newer = accepted older := by
      simpa [accepted, Event.pushed?] using accepts
    have delivers' : delivered newer = delivered older := by
      simpa [delivered, Event.took?] using delivers
    rw [accepts', delivers', before, List.append_assoc] at fifo
    exact (List.append_cancel_left fifo).symm
  emptied := emptied
  freed held older suffix := (lawful.of_suffix suffix).1

end Log

/-- User code that lets one kind of user code panic in the drop of a receiver. -/
def Mpmc.Manners.dropping (receiver : Nat) : Mpmc.Manners := ⟨False, False, (· = receiver)⟩

/-- A drop of an mpmc receiver in which one panic is raised at a time is polite. -/
theorem Mpmc.Polite.dropping {policy : Policy (Mpmc.Channel α) (Callback α) Panic (Op α)}
    {receiver : Nat}
    (single : SinglePanic Mpmc.Freed (Mpmc.Admits policy (.dropReceiver receiver))) :
    Mpmc.Polite (.dropping receiver) policy :=
  ⟨False.elim, False.elim, by rintro _ rfl; exact single⟩

/-- On both channels the drop of the last receiver empties the channel for good, where only parked
senders panic, or one queued item, or the wakers that are dropped. It does not abort, and uses up
the budget of a loop only if that is no more than the number of items accepted. -/
theorem last_receiver_empties_the_channel :
    (∀ policy receiver (fresh : Mpmc.Channel α),
      SinglePanic Mpmc.Freed (Mpmc.Admits policy (.dropReceiver receiver)) → Mpmc.New fresh →
      (∀ channel frames, Mpmc.Runs policy fresh (.user channel frames) →
        LastReceiver receiver channel.log →
        Empties receiver channel.state.chan.contents channel.log) ∧
      (∀ channel, ¬ Mpmc.Runs policy fresh (.aborted (.dropReceiver receiver) channel)) ∧
      ∀ channel, Mpmc.Runs policy fresh (.hung (.dropReceiver receiver) channel) →
        policy.patience ≤ (accepted channel.log).length) ∧
    ∀ policy receiver (fresh : Mpsc.Channel α),
      SinglePanic Mpsc.Freed (Mpsc.Admits policy (.dropReceiver receiver)) → Mpsc.New fresh →
      (∀ channel frames, Mpsc.Runs policy fresh (.user channel frames) →
        LastReceiver receiver channel.log →
        Empties receiver channel.state.chan.contents channel.log) ∧
      (∀ channel, ¬ Mpsc.Runs policy fresh (.aborted (.dropReceiver receiver) channel)) ∧
      ∀ channel, Mpsc.Runs policy fresh (.hung (.dropReceiver receiver) channel) →
        policy.patience ≤ (accepted channel.log).length := by
  constructor
  · intro policy receiver fresh single new
    have polite : Mpmc.Polite (.dropping receiver) policy := .dropping single
    refine ⟨fun channel frames runs last => ?_, fun channel runs => ?_, fun channel runs => ?_⟩
    · have books := (runs.inv polite new).core.books
      exact books.lawful.empties books.fifo (books.prompt receiver rfl last) books.released
    · exact runs.sound polite new receiver rfl rfl
    · exact runs.sound polite new
  · intro policy receiver fresh single new
    refine ⟨fun channel frames runs last => ?_, fun channel runs => ?_, fun channel runs => ?_⟩
    · have books := (runs.inv new).books
      exact books.lawful.empties books.fifo (books.drains receiver single last) books.released
    · exact runs.sound new receiver rfl single
    · exact runs.sound new

/-- User code in which only the wakers of parked senders panic. -/
def onlySendersPanic {χ : Type} : Policy (World χ (Op α) (Result α) α)
    (Callback α) Panic (Op α) where
  call _ _ := True
  resume _ _ code outcome := outcome = .ok () ∨ ∃ waker, code = .wake .senders waker
  patience := 0

/-- Where senders panic with one kind of panic, one is raised at a time. -/
theorem onlySendersPanic_single {χ : Type}
    {freed : World χ (Op α) (Result α) α → Prop} {op : Op α} :
    SinglePanic freed fun code payload after =>
      (onlySendersPanic (α := α)).resume after op code (.error payload) := by
  refine .wakes fun code payload after admitted => ?_
  rcases admitted with left | wakes
  · cases left
  · exact wakes

/-- A parked sender panics in the drop of the last receiver, and the queued item is dropped. -/
theorem last_receiver_empties_the_channel_woken :
    (∃ channel : Mpmc.Channel Nat,
      Mpmc.Runs onlySendersPanic (Mpmc.bounded 1 (by decide)) (.user channel []) ∧
        Released channel.log ∧ drained channel.log = [7] ∧
        Empties 1 channel.state.chan.contents channel.log) ∧
    ∃ channel : Mpsc.Channel Nat,
      Mpsc.Runs onlySendersPanic (Mpsc.bounded 1 (by decide)) (.user channel []) ∧
        Released channel.log ∧ drained channel.log = [7] ∧
        Empties 1 channel.state.chan.contents channel.log := by
  let moves : List (Move Panic (Op Nat)) :=
    [.call (.trySend 0 7), .call (.send 0 8), .call (.pollSend 2 3), .leave (.ok ()),
      .call (.dropReceiver 1), .leave (.error (.message "woken")), .leave (.ok ())]
  have allowed : ∀ {χ : Type} (parked woken dropped : World χ (Op Nat) (Result Nat) Nat),
      ∀ left ∈ [(parked, Op.pollSend 2 3, Callback.clone 3, Except.ok ()),
        (woken, .dropReceiver 1, .wake .senders 3, .error (Panic.message "woken")),
        (dropped, .dropReceiver 1, .dropQueued 7, .ok ())],
      (onlySendersPanic (α := Nat)).resume left.1 left.2.1 left.2.2.1 left.2.2.2 := by
    intro χ parked woken dropped left member
    simp only [List.mem_cons, List.not_mem_nil, or_false] at member
    rcases member with rfl | rfl | rfl
    · exact .inl rfl
    · exact .inr ⟨3, rfl⟩
    · exact .inl rfl
  have mpmc : ∃ channel : Mpmc.Channel Nat, (Mpmc.system Nat).play 4 moves
      (.user (Mpmc.bounded 1 (by decide)) []) = some (.user channel []) ∧
      LastReceiver 1 channel.log ∧ Released channel.log ∧ drained channel.log = [7] :=
    ⟨_, rfl, .inl rfl, .inl (.inl rfl), rfl⟩
  have mpsc : ∃ channel : Mpsc.Channel Nat, (Mpsc.system Nat).play 4 moves
      (.user (Mpsc.bounded 1 (by decide)) []) = some (.user channel []) ∧
      LastReceiver 1 channel.log ∧ Released channel.log ∧ drained channel.log = [7] :=
    ⟨_, rfl, .inl rfl, .inl (.inl rfl), rfl⟩
  obtain ⟨channel, played, last, isOver, drops⟩ := mpmc
  obtain ⟨channel', played', last', isOver', drops'⟩ := mpsc
  have runs : Mpmc.Runs onlySendersPanic (Mpmc.bounded 1 (by decide)) (.user channel []) := by
    refine System.Reachable.start.play played (fun _ _ _ => trivial) (fun left member => ?_)
      (Nat.zero_le 4)
    have departures : ∃ parked woken dropped, (Mpmc.system Nat).departures 4 moves
        (.user (Mpmc.bounded 1 (by decide)) []) =
          [(parked, .pollSend 2 3, .clone 3, .ok ()),
            (woken, .dropReceiver 1, .wake .senders 3, .error (.message "woken")),
            (dropped, .dropReceiver 1, .dropQueued 7, .ok ())] := ⟨_, _, _, rfl⟩
    obtain ⟨parked, woken, dropped, departures⟩ := departures
    exact allowed parked woken dropped left (departures ▸ member)
  have runs' : Mpsc.Runs onlySendersPanic (Mpsc.bounded 1 (by decide)) (.user channel' []) := by
    refine System.Reachable.start.play played' (fun _ _ _ => trivial) (fun left member => ?_)
      (Nat.zero_le 4)
    have departures : ∃ parked woken dropped, (Mpsc.system Nat).departures 4 moves
        (.user (Mpsc.bounded 1 (by decide)) []) =
          [(parked, .pollSend 2 3, .clone 3, .ok ()),
            (woken, .dropReceiver 1, .wake .senders 3, .error (.message "woken")),
            (dropped, .dropReceiver 1, .dropQueued 7, .ok ())] := ⟨_, _, _, rfl⟩
    obtain ⟨parked, woken, dropped, departures⟩ := departures
    exact allowed parked woken dropped left (departures ▸ member)
  exact ⟨⟨channel, runs, isOver, drops, (last_receiver_empties_the_channel.1 _ 1 _
      onlySendersPanic_single (.bounded 1 (by decide))).1 channel [] runs last⟩,
    channel', runs', isOver', drops', (last_receiver_empties_the_channel.2 _ 1 _
      onlySendersPanic_single (.bounded 1 (by decide))).1 channel' [] runs' last'⟩

end Lochan
