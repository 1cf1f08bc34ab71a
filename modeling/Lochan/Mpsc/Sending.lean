import Lochan.Mpsc.Wakes

/-!
# Sending on an mpsc channel

A push tells the receiver. A send future commits its outcome before anything else runs, and
removes its registration before it tells the receiver.
-/

namespace Lochan.Mpsc

open Reentrant Queue

variable {α : Type} {manners : Manners} {own : Option Owner} {base channel after : Channel α}

/-! ### Pushing an item -/

/-- The channel after an item was pushed. -/
abbrev pushed (channel : Channel α) (flavor : Flavor α) (future : Option Nat) (item : α) :
    Channel α :=
  ((restocked channel flavor).logged (.watched channel.state.chan.recvWaker)).logged
    (.pushed future item)

/-- The channel takes items: the receiver is alive, and so is a sender. -/
structure Open (chan : Chan α) : Prop where
  rejecting : chan.rejecting = false
  senders : chan.senders ≠ 0

/-- An open channel has its receiver. -/
theorem Open.alive (isOpen : Open channel.state.chan) :
    channel.state.chan.receiverAlive = true := by
  have rejecting := isOpen.rejecting
  simp only [Chan.rejecting, Bool.or_eq_false_iff, Bool.not_eq_false'] at rejecting
  exact rejecting.1

/-- An open channel has a sender. -/
theorem Open.connected (isOpen : Open channel.state.chan) :
    ¬ channel.state.chan.disconnected = true := by
  intro disconnected
  rcases Chan.disconnected_iff.mp disconnected with none | closed
  · exact isOpen.senders none
  · exact nomatch isOpen.rejecting.symm.trans (Chan.rejecting_iff.mpr (.inr closed))

/-- An open channel is not terminal. -/
theorem Open.unsealed (isOpen : Open channel.state.chan) :
    ¬ channel.state.chan.terminal = true := by
  intro terminal
  rcases Chan.terminal_iff.mp terminal with gone | none | closed
  · exact nomatch gone.symm.trans isOpen.alive
  · exact isOpen.senders none
  · exact nomatch isOpen.rejecting.symm.trans (Chan.rejecting_iff.mpr (.inr closed))

section Push

variable {flavor : Flavor α} {future : Option Nat} {item : α}
  (contents : flavor.toList = channel.state.chan.flavor.toList ++ [item])
include contents

/-- A push appends to what is queued. -/
theorem pushed_contents : (pushed channel flavor future item).state.chan.contents =
    channel.state.chan.contents ++ [item] := contents

/-- What goes out stays in step with what came in when an item is pushed. -/
theorem Books.push (books : Books manners channel) (isOpen : Open channel.state.chan)
    (first : ∀ sent ∈ future, ¬ Pushed sent channel.log ∧ ¬ Committed sent channel.log ∧
      ∀ made, Created sent made channel.log → item = made) :
    Books manners (pushed channel flavor future item) :=
  { books with
    fifo := by
      have accepts : accepted (pushed channel flavor future item).log =
          accepted channel.log ++ [item] := by simp [accepted, Event.pushed?]
      have rest : delivered (pushed channel flavor future item).log ++
          drained (pushed channel flavor future item).log =
            delivered channel.log ++ drained channel.log := by
        simp [delivered, drained, Event.took?, Event.drained?]
      rw [accepts, rest, pushed_contents contents, books.fifo, List.append_assoc]
    undrained := by
      intro alive
      have drained : drained (pushed channel flavor future item).log = drained channel.log := by
        simp [drained, Event.drained?]
      rw [drained]
      exact books.undrained alive
    released := fun released => by
      obtain ⟨receiver, last⟩ := Released.last released
      cases (books.last receiver last).symm.trans isOpen.alive
    observed := fun observed => absurd (books.observed observed).1 isOpen.connected
    lawful := by
      refine ⟨⟨fun shut => ?_, first⟩, books.lawful⟩
      cases isOpen.rejecting.symm.trans (books.shut.mp shut)
    received := by
      intro quiet free
      have same : Lochan.received (pushed channel flavor future item).log =
          Lochan.received channel.log := by simp [Lochan.received, Event.received?]
      have same' : delivered (pushed channel flavor future item).log = delivered channel.log := by
        simp [delivered, Event.took?]
      rw [same, same']
      exact books.received quiet free }

omit contents in
/-- A push keeps the handles in order. -/
theorem Handles.push (handles : Handles channel) (isOpen : Open channel.state.chan) :
    Handles (pushed channel flavor future item) :=
  { handles with
    settled := fun _ gone => by
      have alive := isOpen.alive
      rw [handles.receiver, show channel.state.receiver = none from gone] at alive
      cases alive }

omit contents in
/-- A push touches no registration. -/
theorem Registry.push (registry : Registry channel) :
    Registry (pushed channel flavor future item) := { registry with }

/-- A push to an open channel is a step that an operation may make. -/
theorem Evolves.push (isOpen : Open channel.state.chan)
    (mine : ∀ sent ∈ future, own = some (.send sent)) :
    Evolves manners own channel (pushed channel flavor future item) := by
  have same : Evolves manners own channel channel := .refl channel
  exact { same with
    log := (List.suffix_cons ..).trans (List.suffix_cons ..)
    empty := fun sealed => absurd sealed isOpen.unsealed
    reserved := fun _ _ =>
      { delivered := by simp [delivered, Event.took?]
        received := by simp [received, Event.received?]
        expects := fun _ => id
        contents := ⟨[item], (pushed_contents contents).symm⟩
        waker := .inl rfl }
    committed := fun _ _ _ => id
    owed := fun sent _ other waker owes => by
      cases future with
      | none => exact owes
      | some sent' =>
          have different : sent' ≠ sent := by
            rintro rfl
            exact other (mine sent' rfl)
          simpa [Mpsc.owed, different] using owes
    missing := fun _ _ _ missing => { missing with } }

omit contents in
/-- A push to an open channel is counted. -/
theorem Tally.push (isOpen : Open channel.state.chan) :
    Tally channel (pushed channel flavor future item) where
  balance := rfl
  emptied _ gone := nomatch (show channel.state.chan.receiverAlive = false from gone).symm.trans
    isOpen.alive
  stuck _ rejecting _ member := ⟨rejecting, member⟩

/-- A push to an open channel keeps the invariant. -/
theorem Inv.push (inv : Inv manners channel) (isOpen : Open channel.state.chan) :
    Inv manners (pushed channel flavor none item) :=
  ⟨inv.held, inv.books.push contents isOpen nofun, inv.handles.push isOpen,
    { inv.futures with }, inv.registry.push⟩

end Push

/-- A sender that is in use keeps the channel connected. -/
theorem Handles.connected (handles : Handles channel) {sender : Nat}
    (alive : sender ∈ channel.state.senders) : channel.state.chan.senders ≠ 0 := by
  rw [handles.senders]
  exact Nat.ne_of_gt (List.length_pos_of_mem alive)

section Functions

variable {contract : Prog.Contract (Channel α) (Callback α) Panic}
  {admits : Callback α → Panic → Channel α → Prop} (setting : Setting manners contract admits)
include setting

/-- Sending without waiting. -/
theorem trySend_spec {sender : Nat} {item : α} (inv : Inv manners channel)
    (alive : sender ∈ channel.state.senders) :
    (Sender.trySend item : M α (Except (TrySendError α) Unit)).wp contract
      (fun result after => Inv manners after ∧ Guarantee manners none channel after ∧
        (channel.state.chan.rejecting = true → result = .error (.closed item)))
      (fun _ after => Inv manners after ∧ Guarantee manners none channel after) channel := by
  simp only [Sender.trySend, Prog.wp_bind, wp_getChan, Prog.wp_ite]
  by_cases rejecting : channel.state.chan.rejecting = true
  · rw [if_pos rejecting]
    exact ⟨inv, .refl channel, fun _ => rfl⟩
  · rw [if_neg rejecting]
    refine wp_tryPush inv.held ?_ ?_
    · exact fun _ => ⟨inv, .refl channel, fun rejects => absurd rejects rejecting⟩
    · intro flavor _ contents _
      have isOpen : Open channel.state.chan :=
        ⟨eq_false_of_ne_true rejecting, inv.handles.connected alive⟩
      have pushes : Evolves manners none channel (pushed channel flavor none item) :=
        .push contents isOpen nofun
      have urgent : (pushed channel flavor none item).state.chan.urgent := by
        refine .inl ?_
        rw [pushed_contents contents]
        simp
      simp only [Prog.wp_bind]
      refine Prog.wp_mono
        (wakeReceiver_spec setting (inv.push contents isOpen) fun _ => urgent) ?_ ?_
      · rintro _ after ⟨inv', told⟩
        exact ⟨inv', told.guarantee pushes (.push isOpen), fun rejects => absurd rejects rejecting⟩
      · rintro _ after ⟨inv', told, -⟩
        exact ⟨inv', told.guarantee pushes (.push isOpen)⟩

end Functions


/-! ### Closing -/

/-- The channel after it was marked closed. -/
abbrev marked (channel : Channel α) : Channel α :=
  (channel.onState (·.onChan fun chan => { chan with closed := true })).logged
    (.closed channel.state.chan.contents)

/-- Marking the channel closed keeps the invariant. -/
theorem Inv.close (inv : Inv manners channel) : Inv manners (marked channel) := by
  obtain ⟨held, books, handles, futures, registry⟩ := inv
  have rejects : (marked channel).state.chan.rejecting = true := Chan.rejecting_iff.mpr (.inr rfl)
  have disconnects : (marked channel).state.chan.disconnected = true :=
    Chan.disconnected_iff.mpr (.inr rfl)
  refine ⟨held, ?_, { handles with }, { futures with }, { registry with }⟩
  exact { books with
    shut := iff_of_true trivial rejects
    observed := fun observed => ⟨disconnects, (books.observed observed).2⟩
    lawful := ⟨books.fifo, books.lawful⟩ }

/-- Marking the channel closed is a step that an operation may make. -/
theorem Evolves.close (isOpen : Open channel.state.chan) :
    Evolves manners own channel (marked channel) := by
  have same : Evolves manners own channel channel := .refl channel
  exact { same with
    log := List.suffix_cons ..
    closed := fun _ => rfl
    empty := fun sealed => absurd sealed isOpen.unsealed
    reserved := fun _ _ => { Reserved.refl channel with waker := .inl rfl }
    committed := fun _ _ _ => id
    missing := fun _ _ _ missing => { missing with } }

/-- Closing a channel, telling its receiver and waking its senders leaves nobody behind. -/
theorem Guarantee.close {woken : Channel α} (isOpen : Open channel.state.chan)
    (told : Told manners (marked channel) woken) (later : Guarantee manners none woken after)
    (unstuck : Unstuck after) : Guarantee manners none channel after where
  evolves := (Evolves.close isOpen).trans (told.evolves.trans later.evolves)
  tally :=
    { balance := (told.tally.trans later.tally later.evolves).balance
      emptied := (told.tally.trans later.tally later.evolves).emptied
      stuck := by
        intro fits rejecting entry member
        rw [unstuck fits rejecting] at member
        exact absurd member List.not_mem_nil }
  retained tidy retained := absurd (later.retained tidy retained) (told.retained tidy)
  exposed := by
    intro orderly owner waker exposed
    have closes : Evolves manners none channel (marked channel) := .close isOpen
    refine .inr (closes.missing orderly owner waker ?_)
    rcases later.exposed orderly owner waker exposed with still | missing
    · exact told.exposed orderly owner waker still
    · exact told.evolves.missing orderly owner waker missing

section Functions

variable {contract : Prog.Contract (Channel α) (Callback α) Panic}
  {admits : Callback α → Panic → Channel α → Prop} (setting : Setting manners contract admits)
include setting

/-- However closing woke the receiver, it wakes the senders next. -/
theorem closing_spec {woken : Channel α} (isOpen : Open channel.state.chan)
    (inv : Inv manners woken) (told : Told manners (marked channel) woken)
    (received : Except Panic Unit) :
    (do
      let sent ← wakeSenders.attempt
      match received, sent with
      | .error first, .error second =>
        (dropPanicPayload second).guarded (callback (.dropPanic first))
        Prog.unwind first
      | .error payload, .ok _ => Prog.unwind payload
      | .ok _, .error payload => Prog.unwind payload
      | .ok _, .ok _ => return : M α Unit).wp contract
      (fun _ after => Inv manners after ∧ Guarantee manners none channel after)
      (fun _ after => Inv manners after ∧ Guarantee manners none channel after) woken := by
  simp only [Prog.wp_bind, Prog.wp_attempt]
  refine Prog.wp_mono (wakeSenders_spec setting inv) ?_ ?_
  · rintro _ after ⟨kept, wakes, unstuck, -⟩
    cases received <;> exact ⟨kept, .close isOpen told wakes unstuck⟩
  · rintro second after ⟨kept, wakes, unstuck, -, calm⟩
    cases received with
    | ok _ => exact ⟨kept, .close isOpen told wakes unstuck⟩
    | error first =>
        simp only [Prog.wp_bind, Prog.wp_guarded, Prog.wp_unwind]
        refine Prog.wp_mono (setting.relies.dropPanicPayload carries kept) ?_ ?_
        · rintro _ disposed ⟨kept, disposes⟩
          exact ⟨kept, .close isOpen told (wakes.trans disposes)
            (unstuck.later disposes.tally disposes.evolves)⟩
        · rintro inner disposed ⟨kept, disposes, toxic⟩
          have aborts := setting.aborts.resolve_left fun calmly => toxic (calm calmly).1
          refine Prog.wp_mono (setting.relies.runs carries (.dropPanic first) trivial kept) ?_
            (fun _ after _ => aborts after)
          rintro _ after ⟨kept, drops⟩
          have disposes := disposes.trans drops
          exact ⟨kept, .close isOpen told (wakes.trans disposes)
            (unstuck.later disposes.tally disposes.evolves)⟩

/-- Closing a channel that is open. -/
theorem close_spec (inv : Inv manners channel) (isOpen : Open channel.state.chan) :
    (close : M α Unit).wp contract
      (fun _ after => Inv manners after ∧ Guarantee manners none channel after)
      (fun _ after => Inv manners after ∧ Guarantee manners none channel after) channel := by
  have unclosed : channel.state.chan.closed = false := by
    have rejecting := isOpen.rejecting
    simp only [Chan.rejecting, Bool.or_eq_false_iff] at rejecting
    exact rejecting.2
  simp only [close, Prog.wp_bind, wp_getChan, wp_modifyChan, Prog.wp_ite, unclosed,
    Bool.false_eq_true, ↓reduceIte, wp_emit]
  rw [Prog.wp_attempt]
  have urgent : (marked channel).state.chan.urgent := .inr (Chan.disconnected_iff.mpr (.inr rfl))
  refine Prog.wp_mono (wakeReceiver_spec setting inv.close fun _ => urgent) ?_ ?_
  · rintro _ woken ⟨kept, told⟩
    have next := closing_spec setting isOpen kept told (.ok ())
    rw [Prog.wp_bind] at next
    exact next
  · rintro payload woken ⟨kept, told, -⟩
    have next := closing_spec setting isOpen kept told (.error payload)
    rw [Prog.wp_bind] at next
    exact next

/-- Closing from a sender keeps the invariant, also when one of its wakes panics. -/
theorem closeSender_spec {sender : Nat} (inv : Inv manners channel)
    (alive : sender ∈ channel.state.senders) :
    (Sender.close : M α Bool).wp contract
      (fun _ after => Inv manners after ∧ Guarantee manners none channel after)
      (fun _ after => Inv manners after ∧ Guarantee manners none channel after) channel := by
  simp only [Sender.close, Sender.isClosed, Prog.wp_bind, wp_getChan, Prog.wp_pure, Prog.wp_ite]
  cases rejecting : channel.state.chan.rejecting with
  | true => exact ⟨inv, .refl channel⟩
  | false =>
      simp only [Bool.false_eq_true, ↓reduceIte]
      exact close_spec setting inv ⟨rejecting, inv.handles.connected alive⟩

/-- Closing from the receiver keeps the invariant, also when one of its wakes panics. -/
theorem closeReceiver_spec (inv : Inv manners channel)
    (alive : channel.state.chan.receiverAlive = true) :
    (Receiver.close : M α Bool).wp contract
      (fun _ after => Inv manners after ∧ Guarantee manners none channel after)
      (fun _ after => Inv manners after ∧ Guarantee manners none channel after) channel := by
  simp only [Receiver.close, Receiver.isClosed, Prog.wp_bind, wp_getChan, Prog.wp_pure,
    Prog.wp_ite]
  cases disconnected : channel.state.chan.disconnected with
  | true => exact ⟨inv, .refl channel⟩
  | false =>
      simp only [Bool.false_eq_true, ↓reduceIte]
      refine close_spec setting inv ?_
      simp only [Chan.disconnected, Bool.or_eq_false_iff, beq_eq_false_iff_ne] at disconnected
      exact ⟨by simp [Chan.rejecting, alive, disconnected.2], disconnected.1⟩

end Functions

end Lochan.Mpsc
