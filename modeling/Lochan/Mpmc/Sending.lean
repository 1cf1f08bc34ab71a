import Lochan.Mpmc.Receive

/-!
# Sending into an mpmc channel
-/

namespace Lochan.Mpmc

open Reentrant Queue

variable {α : Type} {manners : Manners} {own : Option Owner}
  {spare : Option (Side × UInt64)} {base channel after : Channel α}

/-! ### Pushing an item -/

/-- A channel with a sender that does not reject is not sealed. -/
theorem Handles.unsealed (handles : Handles channel) {sender : Nat}
    (member : sender ∈ channel.state.senders) (accepts : channel.state.chan.rejecting = false) :
    channel.state.chan.sealed = false := by
  have some : channel.state.chan.senders ≠ 0 := by
    rw [handles.senders]
    exact Nat.ne_of_gt (List.length_pos_of_mem member)
  simp only [Chan.rejecting, Bool.or_eq_false_iff, beq_eq_false_iff_ne] at accepts
  simp [Chan.sealed, accepts.1, accepts.2, some]

/-- The channel after an item was pushed, by a send future if one is named. -/
abbrev pushedTo (channel : Channel α) (flavor : Flavor α) (future : Option Nat) (item : α) :
    Channel α :=
  (restocked channel flavor channel.state.chan.redelivery).logged (.pushed future item)

section Push

variable {flavor : Flavor α} {item : α}

/-- What goes out stays in step with what came in when an item is pushed. -/
theorem Books.push (books : Books manners channel) (unsealed : channel.state.chan.sealed = false)
    (appends : flavor.toList = channel.state.chan.flavor.toList ++ [item]) {future : Option Nat}
    (named : ∀ sent ∈ future, ¬ Pushed sent channel.log ∧ ¬ Committed sent channel.log ∧
      ∀ made, Created sent made channel.log → item = made) :
    Books manners (pushedTo channel flavor future item) := by
  have alive : channel.state.chan.receivers ≠ 0 := fun none => by
    rw [Chan.sealed_iff.mpr (.inr (.inr none))] at unsealed
    cases unsealed
  have connected : channel.state.chan.disconnected ≠ true := fun disconnected => by
    rw [Chan.sealed_of_disconnected disconnected] at unsealed
    cases unsealed
  have accepts : channel.state.chan.rejecting ≠ true := fun rejecting => by
    have is_sealed : channel.state.chan.sealed = true := Chan.sealed_iff.mpr <|
      (Chan.rejecting_iff.mp rejecting).elim (.inr ∘ .inr) .inl
    rw [is_sealed] at unsealed
    cases unsealed
  exact { books with
    fifo := by
      have contents : (pushedTo channel flavor future item).state.chan.contents =
          channel.state.chan.contents ++ [item] := by
        simp [Chan.contents, appends]
      have fifo := books.fifo
      rw [contents]
      show accepted (.pushed future item :: channel.log) =
        delivered channel.log ++ drained channel.log ++ _
      simp [accepted, Event.pushed?] at fifo ⊢
      simp [fifo]
    released := fun released =>
      (Released.last released).elim fun receiver last => absurd (books.last receiver last) alive
    observed := fun observed => absurd (books.observed observed).1 connected
    lawful := ⟨⟨fun shut => accepts (books.shut.mp shut), named⟩, books.lawful⟩ }

/-- A push to an open channel keeps the core of the invariant. -/
theorem Core.push (core : Core manners channel) (unsealed : channel.state.chan.sealed = false)
    (appends : flavor.toList = channel.state.chan.flavor.toList ++ [item]) :
    Core manners (pushedTo channel flavor none item) := by
  obtain ⟨held, books, handles, futures, registries⟩ := core
  have alive : channel.state.chan.receivers ≠ 0 := fun none => by
    rw [Chan.sealed_iff.mpr (.inr (.inr none))] at unsealed
    cases unsealed
  refine ⟨held, books.push unsealed appends nofun, ?_, { futures with }, { registries with }⟩
  exact { handles with
    settled := fun _ none => absurd (handles.receivers.trans (congrArg _ none)) alive }

/-- A push to an open channel is a step that an operation may make. -/
theorem Guarantee.push (unsealed : channel.state.chan.sealed = false)
    (cap : flavor.cap = channel.state.chan.flavor.cap) {future : Option Nat} :
    Guarantee manners own spare channel (pushedTo channel flavor future item) := by
  have logged : Guarantee manners own spare channel (channel.logged (.pushed future item)) :=
    .logged channel (fun _ _ _ waits => waits) (fun _ last => last) (fun _ _ ended => ended)
      (fun _ _ resolved => resolved) (.inl rfl)
  exact { logged with
    evolves := { logged.evolves with
      empty := fun is_sealed => absurd (unsealed.symm.trans is_sealed) (by decide)
      cap := cap }
    emptied := fun some none => absurd none some }

/-- No sender is parked while there is room. -/
theorem SendQuiet.push (quiet : SendQuiet channel)
    (room : channel.state.chan.flavor.isFull = false) {future : Option Nat} :
    SendQuiet (pushedTo channel flavor future item) := by
  intro fits owner waker sends free waits unfinished parked
  have full := quiet fits owner waker sends free waits unfinished parked
  exact absurd (room.symm.trans full) (by decide)

end Push

/-! ### Closing -/

/-- No sender is parked on a channel that rejects. -/
def Unstuck (channel : Channel α) : Prop :=
  Fits channel.log → channel.state.chan.rejecting = true → channel.state.chan.sendWakers = []

/-- A channel that is not stuck does not get stuck in an operation. -/
theorem Unstuck.later (unstuck : Unstuck channel)
    (guarantee : Guarantee manners own none channel after) : Unstuck after := by
  intro fits rejecting
  refine List.eq_nil_iff_forall_not_mem.mpr fun entry member => ?_
  obtain ⟨rejecting', member'⟩ := guarantee.stuck fits rejecting entry member nofun
  rw [unstuck (fits.of_suffix guarantee.evolves.log) rejecting'] at member'
  exact List.not_mem_nil member'

/-- The channel after it was marked closed. -/
abbrev marked (channel : Channel α) : Channel α :=
  (channel.onState (·.onChan fun chan => { chan with closed := true })).logged
    (.closed channel.state.chan.contents)

/-- Marking the channel closed keeps the core of the invariant. -/
theorem Core.close (core : Core manners channel) : Core manners (marked channel) := by
  obtain ⟨held, books, handles, futures, registries⟩ := core
  have rejects : (marked channel).state.chan.rejecting = true := Chan.rejecting_iff.mpr (.inr rfl)
  have disconnects : (marked channel).state.chan.disconnected = true :=
    Chan.disconnected_iff.mpr (.inr rfl)
  refine ⟨held, ?_, { handles with }, { futures with }, { registries with }⟩
  exact { books with
    shut := iff_of_true trivial rejects
    observed := fun observed => ⟨disconnects, (books.observed observed).2⟩
    lawful := ⟨books.fifo, books.lawful⟩ }

/-- Marking the channel closed takes no wake from a parked sender. -/
theorem SendQuiet.close (quiet : SendQuiet channel) : SendQuiet (marked channel) := quiet

/-- Closing a channel and waking its parked senders leaves nobody stuck. -/
theorem Guarantee.close (guarantee : Guarantee manners own none (marked channel) after)
    (unsealed : channel.state.chan.sealed = false) (unstuck : Unstuck after) :
    Guarantee manners own none channel after := by
  have logged : Guarantee manners own none channel
      (channel.logged (.closed channel.state.chan.contents)) :=
    .logged channel (fun _ _ _ waits => waits) (fun _ last => last) (fun _ _ ended => ended)
      (fun _ _ resolved => resolved) (.inl rfl)
  have closes : Evolves manners own channel (marked channel) :=
    { logged.evolves with
      closed := fun _ => rfl
      empty := fun is_sealed => absurd (unsealed.symm.trans is_sealed) (by decide) }
  obtain ⟨evolves, balance, emptied, occupied, orphans, -⟩ := guarantee
  refine ⟨closes.trans evolves, balance, emptied, occupied, orphans, ?_⟩
  intro fits rejecting entry member _
  rw [unstuck fits rejecting] at member
  exact absurd member List.not_mem_nil

section Functions

variable {contract : Prog.Contract (Channel α) (Callback α) Panic}
  {admits : Callback α → Panic → Channel α → Prop} (setting : Setting manners contract admits)
include setting

/-- A send that does not wait keeps the invariant, and hands its item back where sends fail. -/
theorem trySend_spec (inv : Inv manners channel) {sender : Nat}
    (member : sender ∈ channel.state.senders) (item : α) :
    (Sender.trySend item : M α (Except (TrySendError α) Unit)).wp contract
      (fun result after => Inv manners after ∧ Guarantee manners none none channel after ∧
        (channel.state.chan.rejecting = true → result = .error (.closed item)))
      (fun _ after => Inv manners after ∧ Guarantee manners none none channel after) channel := by
  simp only [Sender.trySend, Prog.wp_bind, wp_getChan, Prog.wp_ite]
  cases rejecting : channel.state.chan.rejecting with
  | true => exact ⟨inv, .refl channel, fun _ => rfl⟩
  | false =>
      simp only [Bool.false_eq_true, ↓reduceIte]
      refine wp_tryPush inv.core.held (fun _ => ⟨inv, .refl channel, nofun⟩) ?_
      intro pushed room appends cap
      have unsealed := inv.core.handles.unsealed member rejecting
      have pushes : Guarantee manners none none channel (pushedTo channel pushed none item) :=
        .push unsealed cap
      simp only [Prog.wp_bind]
      refine Prog.wp_mono (wakeReceivers_spec setting (inv.core.push unsealed appends)
        (inv.sendQuiet.push room)) ?_ ?_
      · rintro _ after ⟨inv', wakes⟩
        exact ⟨inv', pushes.trans wakes, nofun⟩
      · rintro _ after ⟨inv', wakes, -⟩
        exact ⟨inv', pushes.trans wakes⟩

/-- However closing woke the receivers, it wakes the senders next. -/
theorem closing_spec {woken : Channel α} (unsealed : channel.state.chan.sealed = false)
    (inv : Inv manners woken) (closes : Guarantee manners none none (marked channel) woken)
    (received : Except Panic Unit) :
    (do
      let sent ← wakeSenders.attempt
      match received, sent with
      | .error first, .error second =>
        (dropPanicPayload second).guarded (callback (.dropPanic first))
        Prog.unwind first
      | .error payload, .ok _ => Prog.unwind payload
      | .ok _, .error payload => Prog.unwind payload
      | .ok _, .ok _ => return : M α Unit).wp contract
      (fun _ after => Inv manners after ∧ Guarantee manners none none channel after)
      (fun _ after => Inv manners after ∧ Guarantee manners none none channel after) woken := by
  simp only [Prog.wp_bind, Prog.wp_attempt]
  refine Prog.wp_mono (wakeSenders_spec setting inv.core inv.recvQuiet) ?_ ?_
  · rintro _ after ⟨kept, wakes, unstuck, -⟩
    cases received <;> exact ⟨kept, (closes.trans wakes).close unsealed unstuck⟩
  · rintro second after ⟨kept, wakes, unstuck, -, calm⟩
    have closes := closes.trans wakes
    cases received with
    | ok _ => exact ⟨kept, closes.close unsealed unstuck⟩
    | error first =>
        simp only [Prog.wp_bind, Prog.wp_guarded, Prog.wp_unwind]
        refine Prog.wp_mono (setting.relies.dropPanicPayload carries kept) ?_ ?_
        · rintro _ disposed ⟨kept, disposes⟩
          exact ⟨kept, (closes.trans disposes).close unsealed (Unstuck.later unstuck disposes)⟩
        · rintro inner disposed ⟨kept, disposes, toxic⟩
          have aborts := setting.aborts.resolve_left fun calmly => toxic (calm calmly).1
          refine Prog.wp_mono (setting.relies.runs carries (.dropPanic first) trivial kept) ?_
            (fun _ after _ => aborts after)
          rintro _ after ⟨kept, drops⟩
          have disposes := disposes.trans drops
          exact ⟨kept, (closes.trans disposes).close unsealed (Unstuck.later unstuck disposes)⟩

/-- Closing a channel that is not sealed wakes both halves. -/
theorem close_spec (inv : Inv manners channel) (unsealed : channel.state.chan.sealed = false) :
    (close : M α Unit).wp contract
      (fun _ after => Inv manners after ∧ Guarantee manners none none channel after)
      (fun _ after => Inv manners after ∧ Guarantee manners none none channel after) channel := by
  have unclosed : channel.state.chan.closed = false := by
    cases closed : channel.state.chan.closed with
    | false => rfl
    | true => exact absurd (unsealed.symm.trans (Chan.sealed_iff.mpr (.inl closed))) (by decide)
  simp only [close, Prog.wp_bind, wp_getChan, wp_modifyChan, Prog.wp_ite, unclosed,
    Bool.false_eq_true, ↓reduceIte, wp_emit]
  rw [Prog.wp_attempt]
  refine Prog.wp_mono (wakeReceivers_spec setting inv.core.close inv.sendQuiet.close) ?_ ?_
  · rintro _ woken ⟨kept, wakes⟩
    have next := closing_spec setting unsealed kept wakes (.ok ())
    rw [Prog.wp_bind] at next
    exact next
  · rintro payload woken ⟨kept, wakes, -⟩
    have next := closing_spec setting unsealed kept wakes (.error payload)
    rw [Prog.wp_bind] at next
    exact next

/-- Closing from a sender keeps the invariant, also when one of its wakes panics. -/
theorem closeSender_spec (inv : Inv manners channel) {sender : Nat}
    (member : sender ∈ channel.state.senders) :
    (Sender.close : M α Bool).wp contract
      (fun _ after => Inv manners after ∧ Guarantee manners none none channel after)
      (fun _ after => Inv manners after ∧ Guarantee manners none none channel after) channel := by
  simp only [Sender.close, Sender.isClosed, Prog.wp_bind, wp_getChan, Prog.wp_pure, Prog.wp_ite]
  cases rejecting : channel.state.chan.rejecting with
  | true => exact ⟨inv, .refl channel⟩
  | false =>
      simp only [Bool.false_eq_true, ↓reduceIte]
      exact close_spec setting inv (inv.core.handles.unsealed member rejecting)

/-- Closing from a receiver keeps the invariant, also when one of its wakes panics. -/
theorem closeReceiver_spec (inv : Inv manners channel) (receiving : channel.state.Receiving) :
    (Receiver.close : M α Bool).wp contract
      (fun _ after => Inv manners after ∧ Guarantee manners none none channel after)
      (fun _ after => Inv manners after ∧ Guarantee manners none none channel after) channel := by
  simp only [Receiver.close, Receiver.isClosed, Prog.wp_bind, wp_getChan, Prog.wp_pure,
    Prog.wp_ite]
  cases disconnected : channel.state.chan.disconnected with
  | true => exact ⟨inv, .refl channel⟩
  | false =>
      simp only [Bool.false_eq_true, ↓reduceIte]
      refine close_spec setting inv ?_
      have alive := inv.core.handles.receiving receiving
      simp only [Chan.disconnected, Bool.or_eq_false_iff, beq_eq_false_iff_ne] at disconnected
      simp [Chan.sealed, disconnected.1, disconnected.2, alive]

end Functions

/-! ### The outcome of a send -/

section Amend

namespace State

variable {state : State α} {future : Nat} {change : Send α → Send α}

/-- Two changes of one future are one change. -/
theorem updateSend_updateSend {later : Send α → Send α} :
    (state.updateSend future change).updateSend future later =
      state.updateSend future (later ∘ change) := by
  simp [updateSend, Function.comp_def]

/-- A change that changes nothing leaves the state as it is. -/
theorem updateSend_self {this : Send α} (found : state.sends future = some this)
    (same : change this = this) : state.updateSend future change = state := by
  have sends : Function.update state.sends future ((state.sends future).map change) =
      state.sends := by
    rw [found, Option.map_some, same, ← found, Function.update_eq_self]
  unfold updateSend
  rw [sends]

/-- The changed future is the one that is found. -/
theorem sends_updateSend {this : Send α} (found : state.sends future = some this) :
    (state.updateSend future change).sends future = some (change this) := by
  simp [updateSend, found]

/-- A change to a send future that leaves its registration id alone. -/
theorem idOf_updateSend (keeps : ∀ this, (change this).wakerId = this.wakerId) :
    (state.updateSend future change).idOf = state.idOf := by
  funext side owner
  cases side <;> cases owner <;> try rfl
  rename_i key
  by_cases same : key = future
  · subst same
    cases found : state.sends key <;> simp [idOf, updateSend, found, keeps]
  · simp [idOf, updateSend, Function.update_of_ne same]

/-- A change of a future makes no reference live, and none dead. -/
theorem refLive_updateSend {ref : Ref} :
    (state.updateSend future change).RefLive ref ↔ state.RefLive ref := by
  cases ref with
  | send key =>
      by_cases same : key = future
      · subst same
        simp [RefLive, updateSend]
      · simp [RefLive, updateSend, Function.update_of_ne same]
  | _ => rfl

/-- A task left unfinished by a change of a future that completes it is another task. -/
theorem unfinished_updateSend {owner : Owner} (completes : ∀ this, (change this).done = true)
    (unfinished : (state.updateSend future change).Unfinished owner) :
    state.Unfinished owner ∧ owner ≠ .send future := by
  cases owner with
  | send key =>
      obtain ⟨this, found, running⟩ := unfinished
      obtain ⟨before, present, ⟨-, rfl⟩ | ⟨other, rfl⟩⟩ := updateSend_some found
      · exact absurd (running.symm.trans (completes before)) (by decide)
      · exact ⟨⟨_, present, running⟩, fun same => other (Owner.send.inj same)⟩
  | stream _ | recv _ => exact ⟨unfinished, nofun⟩

end State

/-- What may change in a send future that completes or has completed. -/
structure Settles (change : Send α → Send α) : Prop where
  sender : ∀ this, (change this).sender = this.sender
  wakerId : ∀ this, (change this).wakerId = this.wakerId
  done : ∀ this, (change this).done = true

variable {future : Nat} {change : Send α → Send α}

/-- The channel after a send future changed. -/
abbrev amended (channel : Channel α) (future : Nat) (change : Send α → Send α) : Channel α :=
  channel.onState (·.updateSend future change)

/-- A change that settles keeps the handles in order. -/
theorem Handles.amend (handles : Handles channel) (settles : Settles change) :
    Handles (amended channel future change) := by
  refine { handles with send := ?_, uses := ?_ }
  · intro key this found
    obtain ⟨before, present, ⟨-, rfl⟩ | ⟨-, rfl⟩⟩ := State.updateSend_some found
    · rw [settles.sender]
      exact handles.send key before present
    · exact handles.send key _ present
  · exact fun ref used => State.refLive_updateSend.mpr (handles.uses ref used)

/-- A change that settles keeps the registries in order. -/
theorem Registries.amend (registries : Registries channel) (settles : Settles change) :
    Registries (amended channel future change) := by
  have ids : (amended channel future change).state.idOf = channel.state.idOf :=
    State.idOf_updateSend settles.wakerId
  refine ⟨registries.next, fun fits side => ?_⟩
  have sound := registries.tickets fits side
  show Ticket.Ledger.Sound ⟨_, (amended channel future change).state.idOf side, _⟩
  rw [ids]
  exact sound

/-- What the events that a send future in use causes leave alone. -/
structure Sends (future : Nat) (before after : Log α) : Prop where
  committed : ∀ key ≠ future, Committed key after ↔ Committed key before
  pushed : ∀ key ≠ future, Pushed key after ↔ Pushed key before
  resolved : ∀ owner, Resolved owner after ↔ Resolved owner before
  created : ∀ key item, Created key item after ↔ Created key item before
  polled : ∀ key, Polled key before → Polled key after

/-- A log has what it has. -/
theorem Sends.refl (log : Log α) : Sends future log log :=
  ⟨fun _ _ => .rfl, fun _ _ => .rfl, fun _ => .rfl, fun _ _ => .rfl, fun _ => id⟩

/-- A future in use that has committed accounts for its item. -/
theorem Futures.settle (futures : Futures channel)
    (used : .send future ∈ channel.state.uses) (this : Send α)
    (sends : after.state.sends = Function.update channel.state.sends future (some this))
    (frame : after.state.recvs = channel.state.recvs ∧ after.state.uses = channel.state.uses ∧
      after.state.fresh = channel.state.fresh)
    (done : this.done = true) (idle : this.wakerId = none)
    (logs : Sends future channel.log after.log) (committed : Committed future after.log)
    (below : future < channel.state.fresh)
    (accounts : ∀ result, this.outcome = some result → Accounts future result after.log) :
    Futures after := by
  obtain ⟨recvs, uses, fresh⟩ := frame
  -- Every other future is as it was.
  have others : ∀ {key other}, after.state.sends key = some other →
      (key = future ∧ other = this) ∨ (key ≠ future ∧ channel.state.sends key = some other) := by
    intro key other found
    rw [sends] at found
    by_cases same : key = future
    · subst same
      rw [Function.update_self] at found
      exact .inl ⟨rfl, (Option.some.inj found).symm⟩
    · exact .inr ⟨same, (Function.update_of_ne same ..).symm.trans found⟩
  constructor
  · intro key other found running
    rcases others found with ⟨-, rfl⟩ | ⟨different, present⟩
    · exact absurd (running.symm.trans done) (by decide)
    · obtain ⟨message, pending, uncommitted, created⟩ := futures.unsent key other present running
      exact ⟨message, pending, mt (logs.committed key different).mp uncommitted,
        fun item made => created item ((logs.created key item).mp made)⟩
  · intro key other found done
    rcases others found with ⟨rfl, rfl⟩ | ⟨different, present⟩
    · exact ⟨idle, committed⟩
    · obtain ⟨idle, committed⟩ := futures.sent key other present done
      exact ⟨idle, (logs.committed key different).mpr committed⟩
  · intro key other result found recorded
    rcases others found with ⟨rfl, rfl⟩ | ⟨different, present⟩
    · exact accounts result recorded
    · obtain ⟨pushed, unsent⟩ := futures.outcome key other result present recorded
      exact ⟨pushed.trans (logs.pushed key different).symm, fun error same item made =>
        unsent error same item ((logs.created key item).mp made)⟩
  · intro key pushed
    by_cases same : key = future
    · exact same ▸ committed
    · exact (logs.committed key same).mpr (futures.pushed key ((logs.pushed key same).mp pushed))
  · intro key resolved
    by_cases same : key = future
    · exact same ▸ committed
    · exact (logs.committed key same).mpr (futures.resolved key ((logs.resolved _).mp resolved))
  · intro key other found free done
    rcases others found with ⟨rfl, rfl⟩ | ⟨different, present⟩
    · exact absurd (uses ▸ used) free
    · exact (futures.answered key other present (uses ▸ free) done).trans (logs.resolved _).symm
  · exact fun key other found done =>
      logs.polled key (futures.polled key other (recvs ▸ found) done)
  · intro key other found free
    exact (futures.received key other (recvs ▸ found) (uses ▸ free)).trans (logs.resolved _).symm
  · exact fun key item made => fresh ▸ futures.created key item ((logs.created key item).mp made)
  · intro key committed'
    by_cases same : key = future
    · exact fresh ▸ same ▸ below
    · exact fresh ▸ futures.committed key ((logs.committed key same).mp committed')
  · exact fun key completed => fresh ▸ futures.completed key ((logs.resolved _).mp completed)

/-- A change of a future parks nobody, and takes nobody from where it is parked. -/
theorem parked_amended {owner : Owner} {waker : Waker} (settles : Settles change) :
    Parked (amended channel future change) owner waker ↔ Parked channel owner waker := by
  simp only [Parked, World.onState_state, State.idOf_updateSend settles.wakerId]
  rfl

/-- A change of a future silences no parked receiver. -/
theorem RecvQuiet.amend (quiet : RecvQuiet channel) (settles : Settles change) :
    RecvQuiet (amended channel future change) where
  disconnected := quiet.disconnected
  empty fits owner waker receives free waits unfinished parked :=
    quiet.empty fits owner waker receives free waits
      (State.unfinished_updateSend settles.done unfinished).1 ((parked_amended settles).mp parked)

/-- A change of a future silences no parked sender. -/
theorem SendQuiet.amend (quiet : SendQuiet channel) (settles : Settles change) :
    SendQuiet (amended channel future change) :=
  fun fits owner waker sends free waits unfinished parked =>
    quiet fits owner waker sends free waits
      (State.unfinished_updateSend settles.done unfinished).1 ((parked_amended settles).mp parked)

/-- A change of a future is a step its own poll may make. -/
theorem Guarantee.amend (settles : Settles change) :
    Guarantee manners (some (.send future)) spare channel (amended channel future change) := by
  have same : Guarantee manners (some (.send future)) spare channel channel := .refl channel
  have ids : (amended channel future change).state.idOf = channel.state.idOf :=
    State.idOf_updateSend settles.wakerId
  have ledgers : ∀ side, ledger (amended channel future change) side = ledger channel side := by
    intro side
    show Ticket.Ledger.mk _ ((amended channel future change).state.idOf side) _ = _
    rw [ids]
    rfl
  exact { same with
    evolves := { same.evolves with
      sends := fun key _ other => Function.update_of_ne (fun same => other (by rw [same])) ..
      tickets := fun _ side => ledgers side ▸ .refl _
      missing := fun _ _ owner waker _ missing => ⟨missing.1,
        (State.unfinished_updateSend settles.done missing.2.1).1,
        fun parked => missing.2.2 ((parked_amended settles).mpr parked)⟩ }
    orphans := fun _ side entry _ orphan => ledgers side ▸ orphan }

/-- A future that is done gives up its stored outcome. -/
theorem Inv.replay {this : Send α} (inv : Inv manners channel)
    (used : .send future ∈ channel.state.uses)
    (found : channel.state.sends future = some this) (done : this.done = true) :
    Inv manners (amended channel future fun this => { this with outcome := none }) ∧
      Guarantee manners (some (.send future)) spare channel
        (amended channel future fun this => { this with outcome := none }) := by
  obtain ⟨idle, committed⟩ := inv.core.futures.sent future this found done
  have clears : Settles fun this : Send α => { this with done := true, outcome := none } :=
    ⟨fun _ => rfl, fun _ => rfl, fun _ => rfl⟩
  have same : channel.state.updateSend future (fun this => { this with outcome := none }) =
      channel.state.updateSend future
        (fun this => { this with done := true, outcome := none }) := by
    simp only [State.updateSend, found, Option.map_some, done]
  have cleared : (amended channel future fun this => { this with outcome := none }) =
      amended channel future fun this => { this with done := true, outcome := none } := by
    simp only [World.onState, same]
  have futures : Futures (amended channel future fun this =>
      { this with done := true, outcome := none }) :=
    inv.core.futures.settle used { this with done := true, outcome := none }
      (by simp [State.updateSend, found]) ⟨rfl, rfl, rfl⟩ rfl idle (.refl _) committed
      (inv.core.handles.send future this found).2 (by rintro _ ⟨⟩)
  rw [cleared]
  exact ⟨⟨⟨inv.core.held, { inv.core.books with }, inv.core.handles.amend clears, futures,
    inv.core.registries.amend clears⟩, inv.recvQuiet.amend clears, inv.sendQuiet.amend clears⟩,
    .amend clears⟩

end Amend

/-! ### Committing -/

section Commit

variable {future : Nat} {result : Except (SendError α) Unit} {this : Send α}

/-- What committing an outcome changes in the future. -/
def Send.settle (result : Except (SendError α) Unit) (this : Send α) : Send α :=
  { this with item := none, done := true, outcome := some result }

/-- Settling a future keeps its sender and its id, and leaves it done. -/
theorem settles_settle : Settles (Send.settle result) := ⟨fun _ => rfl, fun _ => rfl, fun _ => rfl⟩

/-- The channel after a send future committed an outcome and gave up its id. -/
abbrev finished (channel : Channel α) (future : Nat) (result : Except (SendError α) Unit) :
    Channel α :=
  (amended (reassigned channel (.send future) none) future (Send.settle result)).logged
    (.committed future result.toBool)

/-- What goes out stays in step with what came in when a future settles. -/
theorem Books.finish (books : Books manners channel) (uncommitted : ¬ Committed future channel.log)
    (truthful : result.toBool = true ↔ Pushed future channel.log) :
    Books manners (finished channel future result) :=
  { books with lawful := ⟨⟨uncommitted, truthful⟩, books.lawful⟩ }

/-- A future in use whose send fails commits an error with its message. -/
theorem Core.reject (core : Core manners channel) (used : .send future ∈ channel.state.uses)
    (found : channel.state.sends future = some this) (running : this.done = false) {item : α}
    (message : this.item = some item) :
    Core manners (finished channel future (.error ⟨item⟩)) := by
  obtain ⟨-, -, uncommitted, created⟩ := core.futures.unsent future this found running
  have unpushed : ¬ Pushed future channel.log := mt (core.futures.pushed future) uncommitted
  have free : Core manners (reassigned channel (.send future) none) := core.reassign nofun
  have handles : Handles (amended (reassigned channel (.send future) none) future
      (Send.settle (.error ⟨item⟩))) := free.handles.amend settles_settle
  have registries : Registries (amended (reassigned channel (.send future) none) future
      (Send.settle (.error ⟨item⟩))) := free.registries.amend settles_settle
  refine ⟨core.held, core.books.finish uncommitted (iff_of_false nofun unpushed), { handles with },
    ?_, { registries with }⟩
  refine core.futures.settle used
    (Send.settle (.error ⟨item⟩) { this with wakerId := none }) ?_ ⟨rfl, rfl, rfl⟩ rfl rfl
    ⟨?_, fun _ _ => .rfl, fun _ => .rfl, fun _ _ => .rfl, fun _ => id⟩ (.inl rfl)
    (core.handles.send future this found).2 ?_
  · simp [State.setWakerId, State.updateSend, found]
  · exact fun key different => or_iff_right fun same => different same.symm
  · rintro _ ⟨⟩
    refine ⟨iff_of_false nofun unpushed, ?_⟩
    rintro _ ⟨⟩ made creates
    exact Option.some.inj (message.symm.trans (created made creates))

/-- A future in use that pushes its message commits the success. -/
theorem Core.accept (core : Core manners channel) (used : .send future ∈ channel.state.uses)
    (found : channel.state.sends future = some this) (running : this.done = false) {item : α}
    (message : this.item = some item) {flavor : Flavor α}
    (unsealed : channel.state.chan.sealed = false)
    (appends : flavor.toList = channel.state.chan.flavor.toList ++ [item]) :
    Core manners (finished (pushedTo channel flavor (some future) item) future (.ok ())) := by
  obtain ⟨-, -, uncommitted, created⟩ := core.futures.unsent future this found running
  have unpushed : ¬ Pushed future channel.log := mt (core.futures.pushed future) uncommitted
  have free : Core manners (reassigned (pushedTo channel flavor none item) (.send future) none) :=
    (core.push unsealed appends).reassign (by rintro _ ⟨⟩)
  have handles : Handles (amended (reassigned (pushedTo channel flavor none item) (.send future)
      none) future (Send.settle (.ok ()))) := free.handles.amend settles_settle
  have registries : Registries (amended (reassigned (pushedTo channel flavor none item)
      (.send future) none) future (Send.settle (.ok ()))) := free.registries.amend settles_settle
  have books : Books manners (pushedTo channel flavor (some future) item) := by
    refine core.books.push unsealed appends ?_
    rintro _ ⟨⟩
    exact ⟨unpushed, uncommitted, fun made creates =>
      Option.some.inj (message.symm.trans (created made creates))⟩
  refine ⟨core.held, books.finish uncommitted (iff_of_true rfl (.inl rfl)), { handles with }, ?_,
    { registries with }⟩
  refine core.futures.settle used (Send.settle (.ok ()) { this with wakerId := none }) ?_
    ⟨rfl, rfl, rfl⟩ rfl rfl ⟨?_, ?_, fun _ => .rfl, fun _ _ => .rfl, fun _ => id⟩ (.inl rfl)
    (core.handles.send future this found).2 ?_
  · simp [State.setWakerId, State.updateSend, State.onChan, found]
  · exact fun key different => or_iff_right fun same => different same.symm
  · exact fun key different => or_iff_right fun same => different same.symm
  · rintro _ ⟨⟩
    exact ⟨iff_of_true rfl (.inl rfl), by rintro _ ⟨⟩⟩

/-- Settling a send future silences no parked receiver. -/
theorem RecvQuiet.finish (quiet : RecvQuiet channel) : RecvQuiet (finished channel future result) :=
  { (quiet.reassign (.inl rfl)).amend settles_settle with }

/-- Settling a send future silences no parked sender. -/
theorem SendQuiet.finish (quiet : SendQuiet channel) : SendQuiet (finished channel future result) :=
  (quiet.reassign (.inl rfl)).amend settles_settle

/-- Settling a future is a step of its own poll, if the id it gives up is being withdrawn. -/
theorem Guarantee.finish
    (guarantee : Guarantee manners (some (.send future)) spare base channel)
    (left : ∀ held, channel.state.idOf .senders (.send future) = some held →
      spare = some (.senders, held)) :
    Guarantee manners (some (.send future)) spare base (finished channel future result) := by
  have gives : Guarantee manners (some (.send future)) spare base
      (reassigned channel (.send future) none) := guarantee.reassign nofun left
  exact (gives.trans (.amend settles_settle)).trans
    (.logged _ (fun _ _ _ waits => waits) (fun _ last => last) (fun _ _ ended => ended)
      (fun _ _ resolved => resolved) (.inl rfl))

/-- The settled future keeps its outcome, and no id. -/
theorem finished_sends (found : channel.state.sends future = some this) :
    (finished channel future result).state.sends future =
      some (Send.settle result { this with wakerId := none }) :=
  State.sends_updateSend (State.sends_updateSend found)

section Rules

variable {contract : Prog.Contract (Channel α) (Callback α) Panic}
  {post : Poll (Except (SendError α) Unit) → Channel α → Prop} {exc : Panic → Channel α → Prop}

/-- To commit is to settle the future and to run the effects of the outcome it keeps. -/
theorem wp_commit (result : Except (SendError α) Unit)
    (found : channel.state.sends future = some this)
    (effects : (SendFuture.effects future result.toBool this.wakerId).wp contract post exc
      (finished channel future result)) :
    (SendFuture.commit future result).wp contract post exc
      (channel.onState (·.updateSend future fun this => { this with item := none })) := by
  have id : (((channel.state.updateSend future fun this => { this with item := none }).updateSend
      future fun this => { this with done := true, outcome := some result }).wakerId
        (.send future)) = this.wakerId := by
    simp [State.wakerId, State.updateSend, found]
  simp only [SendFuture.commit, SendFuture.update, Prog.wp_bind, wp_modifyState, wp_emit,
    wp_takeWakerId, World.onState_state, World.logged_state, id]
  have same : ((((channel.state.updateSend future fun this => { this with item := none }).updateSend
      future fun this => { this with done := true, outcome := some result }).setWakerId none
        (.send future))) =
      (channel.state.setWakerId none (.send future)).updateSend future (Send.settle result) := by
    simp only [State.setWakerId, State.updateSend_updateSend]
    rfl
  exact cast (congrArg (fun state => (SendFuture.effects future result.toBool this.wakerId).wp
    contract post exc ⟨state, channel.held, .committed future result.toBool :: channel.log⟩)
      same.symm) effects

/-- Attempting to push runs no user code before the outcome is committed. -/
theorem wp_attemptPush {parked : M α (Poll (Except (SendError α) Unit))} {item : α}
    (clear : channel.held = []) (found : channel.state.sends future = some this)
    (message : this.item = some item)
    (rejects : channel.state.chan.rejecting = true →
      (SendFuture.effects future false this.wakerId).wp contract post exc
        (finished channel future (.error ⟨item⟩)))
    (room : ∀ pushed : Flavor α, channel.state.chan.rejecting = false →
      channel.state.chan.flavor.isFull = false →
      pushed.toList = channel.state.chan.flavor.toList ++ [item] →
      pushed.cap = channel.state.chan.flavor.cap →
      (SendFuture.effects future true this.wakerId).wp contract post exc
        (finished (pushedTo channel pushed (some future) item) future (.ok ())))
    (full : channel.state.chan.rejecting = false → channel.state.chan.flavor.isFull = true →
      parked.wp contract post exc channel) :
    (SendFuture.attemptPush future parked).wp contract post exc channel := by
  have taken : (channel.state.sends future).bind Send.item = some item := by simp [found, message]
  simp only [SendFuture.attemptPush, SendFuture.takeItem, Prog.wp_bind, wp_getChan, Prog.wp_ite]
  cases rejecting : channel.state.chan.rejecting with
  | true =>
      simp only [↓reduceIte, wp_getState, SendFuture.update, wp_modifyState, taken, wp_expect_some]
      exact wp_commit (.error ⟨item⟩) found (rejects rejecting)
  | false =>
      simp only [Bool.false_eq_true, ↓reduceIte, wp_getState, SendFuture.update, wp_modifyState,
        taken, wp_expect_some]
      refine wp_tryPush (show (channel.onState _).held = [] from clear) (fun stays => ?_)
        fun pushed space appends cap => ?_
      · have restored : ((channel.state.updateSend future fun this =>
            { this with item := none }).updateSend future fun this =>
              { this with item := some item }) = channel.state := by
          rw [State.updateSend_updateSend]
          refine State.updateSend_self found ?_
          obtain ⟨sender, message', done, wakerId, outcome⟩ := this
          obtain rfl : message' = some item := message
          rfl
        simp only [Prog.wp_bind, wp_modifyState]
        exact cast (congrArg (fun state => parked.wp contract post exc
          ⟨state, channel.held, channel.log⟩) restored.symm) (full rejecting stays)
      · have found' : (pushedTo channel pushed (some future) item).state.sends future = some this :=
          found
        have commits := wp_commit (.ok ()) found' (room pushed rejecting space appends cap)
        have same : ((channel.onState (·.updateSend future fun this =>
            { this with item := none })).onState (·.onChan fun chan =>
              { chan with flavor := pushed })).logged (.pushed (some future) item) =
            (pushedTo channel pushed (some future) item).onState (·.updateSend future fun this =>
              { this with item := none }) := rfl
        show (SendFuture.commit future (.ok ())).wp contract post exc _
        rw [same]
        exact commits

end Rules

end Commit

/-! ### Polling a send -/

/-- A send future has given out its outcome. -/
structure Told (future : Nat) (result : Except (SendError α) Unit)
    (channel : Channel α) : Prop where
  committed : Committed future channel.log
  accounts : Accounts future result channel.log
  given : ∀ this, channel.state.sends future = some this → this.done = true ∧ this.outcome = none

/-- A committed future whose outcome is taken has told what it was settled with. -/
theorem Core.told {future : Nat} {result : Except (SendError α) Unit} {this : Send α}
    (core : Core manners channel) (found : channel.state.sends future = some this)
    (done : this.done = true) (outcome : this.outcome = some result) :
    Told future result (amended channel future fun this => { this with outcome := none }) where
  committed := (core.futures.sent future this found done).2
  accounts := core.futures.outcome future this result found outcome
  given left present := by
    have given : (channel.state.updateSend future fun this =>
        { this with outcome := none }).sends future = some { this with outcome := none } :=
      State.sends_updateSend found
    obtain rfl := Option.some.inj (given.symm.trans present)
    exact ⟨done, rfl⟩

section Functions

variable {contract : Prog.Contract (Channel α) (Callback α) Panic}
  {admits : Callback α → Panic → Channel α → Prop} (setting : Setting manners contract admits)
  {future : Nat} {this : Send α}
include setting

/-- The effects of a committed outcome: the receivers hear of a pushed item, and the
registration of the future is removed. -/
theorem effects_spec (aborts : ∀ channel, contract.abort channel) (core : Core manners channel)
    (sendQuiet : SendQuiet channel) (pushed : Bool) (recvQuiet : pushed = false → RecvQuiet channel)
    (used : .send future ∈ channel.state.uses) (found : channel.state.sends future = some this)
    (done : this.done = true) {result : Except (SendError α) Unit}
    (outcome : this.outcome = some result) {id : Option UInt64}
    (unheld : ∀ held, id = some held → Unheld channel .senders held)
    (guarantee : Guarantee manners (some (.send future)) (id.map fun id => (.senders, id)) base
      channel) :
    (SendFuture.effects future pushed id).wp contract
      (fun polled after => Inv manners after ∧
        Guarantee manners (some (.send future)) none base after ∧ polled = .ready result ∧
        Told future result after)
      (fun _ after => Inv manners after ∧
        Guarantee manners (some (.send future)) none base after ∧
        after.state.sends future = some this) channel := by
  have wakes : (if pushed then wakeReceivers else return : M α Unit).wp contract
      (fun _ after => Inv manners after ∧ Guarantee manners none none channel after)
      (fun _ after => Inv manners after ∧ Guarantee manners none none channel after) channel := by
    cases pushed with
    | false => exact ⟨⟨core, recvQuiet rfl, sendQuiet⟩, .refl channel⟩
    | true =>
        exact Prog.wp_mono (wakeReceivers_spec setting core sendQuiet) (fun _ _ kept => kept)
          fun _ _ kept => ⟨kept.1, kept.2.1⟩
  have stays : ∀ {after}, Guarantee manners none none channel after →
      after.state.sends future = some this :=
    fun changes => (changes.evolves.sends future used nofun).trans found
  simp only [SendFuture.effects, Prog.wp_bind, Prog.wp_ensuring]
  refine Prog.wp_mono wakes ?_ ?_
  · rintro _ woken ⟨inv, wakes⟩
    have unheld' : ∀ held, id = some held → Unheld woken .senders held :=
      fun held same => (unheld held same).later wakes.evolves
    refine Prog.wp_mono (removeSend_spec setting inv unheld') ?_ ?_
    · rintro _ removed ⟨inv, removes, unfiled⟩
      have changes := wakes.trans removes
      have settled := (guarantee.trans changes.weaken).settleAll unfiled
      have found := stays changes
      simp only [wp_getState, SendFuture.update, wp_modifyState, found, Option.bind_some, outcome,
        wp_expect_some, Prog.wp_pure]
      have used' : .send future ∈ removed.state.uses := changes.evolves.uses.symm ▸ used
      obtain ⟨inv', replays⟩ := inv.replay used' found done
      exact ⟨inv', settled.trans replays, trivial, inv.core.told found done outcome⟩
    · rintro _ removed ⟨inv, removes, unfiled⟩
      have changes := wakes.trans removes
      exact ⟨inv, (guarantee.trans changes.weaken).settleAll unfiled, stays changes⟩
  · rintro _ woken ⟨inv, wakes⟩
    have unheld' : ∀ held, id = some held → Unheld woken .senders held :=
      fun held same => (unheld held same).later wakes.evolves
    refine Prog.wp_mono (removeSend_spec setting inv unheld') ?_ (fun _ after _ => aborts after)
    rintro _ removed ⟨inv, removes, unfiled⟩
    have changes := wakes.trans removes
    exact ⟨inv, (guarantee.trans changes.weaken).settleAll unfiled, stays changes⟩

/-- An attempt to push commits an outcome, or finds the queue full and changes nothing. -/
theorem attemptPush_spec (aborts : ∀ channel, contract.abort channel) (inv : Inv manners channel)
    (used : .send future ∈ channel.state.uses) (found : channel.state.sends future = some this)
    (running : this.done = false)
    (guarantee : Guarantee manners (some (.send future)) (this.wakerId.map fun id => (.senders, id))
      base channel)
    {parked : M α (Poll (Except (SendError α) Unit))}
    {post : Poll (Except (SendError α) Unit) → Channel α → Prop} {exc : Panic → Channel α → Prop}
    (returns : ∀ result after, Inv manners after →
      Guarantee manners (some (.send future)) none base after → Told future result after →
      (channel.state.chan.rejecting = true → ∃ item, this.item = some item ∧
        result = .error ⟨item⟩) → post (.ready result) after)
    (unwinds : ∀ payload after, Inv manners after →
      Guarantee manners (some (.send future)) none base after →
      (∀ left, after.state.sends future = some left → left.outcome ≠ none) → exc payload after)
    (full : channel.state.chan.rejecting = false → channel.state.chan.flavor.isFull = true →
      parked.wp contract post exc channel) :
    (SendFuture.attemptPush future parked).wp contract post exc channel := by
  obtain ⟨present, -⟩ := inv.core.futures.unsent future this found running
  obtain ⟨item, message⟩ := Option.isSome_iff_exists.mp present
  have holds : channel.state.idOf .senders (.send future) = this.wakerId := by
    simp [State.idOf, found]
  have left : ∀ held, channel.state.idOf .senders (.send future) = some held →
      (this.wakerId.map fun id => (Side.senders, id)) = some (.senders, held) := by
    intro held same
    rw [← holds, same]
    rfl
  have taken : ∀ held, this.wakerId = some held →
      Unheld (reassigned channel (.send future) none) .senders held := by
    intro held same
    exact inv.taken (holds.trans same)
  -- The events and changes of committing do not bear on the id given up.
  have unheld : ∀ (before : Channel α) (result : Except (SendError α) Unit),
      (∀ held, this.wakerId = some held →
        Unheld (reassigned before (.send future) none) .senders held) →
      ∀ held, this.wakerId = some held → Unheld (finished before future result) .senders held := by
    intro before result taken held same
    refine ⟨(taken held same).issued, fun fits owner => ?_⟩
    have ids : (finished before future result).state.idOf =
        (reassigned before (.send future) none).state.idOf :=
      State.idOf_updateSend settles_settle.wakerId
    rw [ids]
    exact (taken held same).free fits owner
  -- A future that unwinds after it committed keeps its outcome.
  have committed : ∀ {after : Channel α} {result : Except (SendError α) Unit},
      after.state.sends future = some (Send.settle result { this with wakerId := none }) →
      ∀ left, after.state.sends future = some left → left.outcome ≠ none := by
    intro after result found left same
    obtain rfl := Option.some.inj (found.symm.trans same)
    rintro ⟨⟩
  refine wp_attemptPush inv.core.held found message ?_ ?_ full
  · intro rejecting
    refine Prog.wp_mono (effects_spec setting aborts (inv.core.reject used found running message)
      inv.sendQuiet.finish false (fun _ => inv.recvQuiet.finish) used (finished_sends found) rfl rfl
      (unheld channel _ taken) (guarantee.finish left)) ?_ ?_
    · rintro _ after ⟨inv', settled, rfl, told⟩
      exact returns _ after inv' settled told fun _ => ⟨item, message, rfl⟩
    · rintro _ after ⟨inv', settled, keeps⟩
      exact unwinds _ after inv' settled (committed keeps)
  · intro pushed accepts space appends cap
    have unsealed := inv.core.handles.unsealed (inv.core.handles.send future this found).1 accepts
    have found' : (pushedTo channel pushed (some future) item).state.sends future =
        some this := found
    have pushes : Guarantee manners (some (.send future))
        (this.wakerId.map fun id => (.senders, id)) base
        (pushedTo channel pushed (some future) item) :=
      guarantee.trans (.push unsealed cap)
    refine Prog.wp_mono (effects_spec setting aborts
      (inv.core.accept used found running message unsealed appends)
      (inv.sendQuiet.push space).finish true (by rintro ⟨⟩) used (finished_sends found') rfl rfl
      (unheld _ _ fun held same => ⟨(taken held same).issued, (taken held same).free⟩)
      (pushes.finish left)) ?_ ?_
    · rintro _ after ⟨inv', settled, rfl, told⟩
      exact returns _ after inv' settled told fun rejecting =>
        absurd (accepts.symm.trans rejecting) (by decide)
    · rintro _ after ⟨inv', settled, keeps⟩
      exact unwinds _ after inv' settled (committed keeps)

end Functions

/-- A registration whose task holds the id is no exception, unless the channel rejects. -/
theorem Guarantee.keep {owner : Owner} {side : Side} {id : UInt64}
    (guarantee : Guarantee manners own (some (side, id)) base channel)
    (holds : channel.state.idOf side owner = some id)
    (accepts : channel.state.chan.rejecting = false) : Guarantee manners own none base channel :=
  { guarantee with
    orphans := fun fits other entry _ orphan => by
      refine guarantee.orphans fits other entry ?_ orphan
      rintro ⟨⟩
      exact orphan.2 owner holds
    stuck := fun _ rejecting => absurd (accepts.symm.trans rejecting) (by decide) }

/-- Without an exception there is none more. -/
theorem Guarantee.raise (guarantee : Guarantee manners own none base channel) :
    Guarantee manners own spare base channel :=
  { guarantee with
    orphans := fun fits side entry _ => guarantee.orphans fits side entry nofun
    stuck := fun fits rejecting entry member _ =>
      guarantee.stuck fits rejecting entry member nofun }

/-- What a poll of a send answers. -/
structure SendAnswer (manners : Manners) (future : Nat) (waker : Waker) (before after : Channel α)
    (polled : Poll (Except (SendError α) Unit)) : Prop where
  pending : polled = .pending → after.state.Unfinished (.send future) →
    after.state.chan.flavor.isFull = true ∧
      (manners.calm → Fits after.log → ¬ Missing after (.send future) waker)
  still : polled = .pending → ∀ this, after.state.sends future = some this → this.done = true →
    this.outcome = none ∧ ∃ old, before.state.sends future = some old ∧ old.done = true ∧
      old.outcome = none
  rejected : before.state.chan.rejecting = true → ∀ this, before.state.sends future = some this →
    this.done = false → ∃ item, this.item = some item ∧ polled = .ready (.error ⟨item⟩)
  replayed : polled = .pending → ∀ this, before.state.sends future = some this →
    this.outcome = none
  told : ∀ result, polled = .ready result → Told future result after ∧
    ∀ this, before.state.sends future = some this → this.done = true → this.outcome ≠ none

/-- What a poll of a send leaves behind when it unwinds. -/
def SendLeft (future : Nat) (before after : Channel α) : Prop :=
  ∀ this, after.state.sends future = some this → this.done = true → this.outcome ≠ none ∧
    ∃ old, before.state.sends future = some old ∧ old.done = false

section Functions

variable {contract : Prog.Contract (Channel α) (Callback α) Panic}
  {admits : Callback α → Panic → Channel α → Prop} (setting : Setting manners contract admits)
  {future : Nat} {this : Send α}
include setting

/-- Registering a send that is being polled parks it. -/
theorem addSendWaker_spec (inv : Inv manners channel) (used : .send future ∈ channel.state.uses)
    (found : channel.state.sends future = some this) (running : this.done = false)
    (idle : this.wakerId = none) (waker : Waker) :
    (do let id ← addSendWaker waker; setWakerId (.send future) id : M α Unit).wp contract
      (fun _ after => Inv manners after ∧ ∃ id,
        Guarantee manners (some (.send future)) (some (.senders, id)) channel after ∧
        after.state.sends future = some { this with wakerId := some id } ∧
        Parked after (.send future) waker)
      (fun _ after => Inv manners after ∧
        Guarantee manners (some (.send future)) none channel after ∧
        after.state.sends future = some this) channel := by
  rw [Prog.wp_bind]
  refine wp_addSendWaker (Prog.wp_mono
    (setting.relies.runs carries (.clone waker) trivial inv) ?_ ?_)
  · rintro _ cloned ⟨inv', evolves⟩
    refine ⟨inv'.core.held, ?_⟩
    have found' : cloned.state.sends future = some this :=
      (evolves.evolves.sends future used (by rintro ⟨⟩)).trans found
    have used' : (Owner.send future).ref ∈ (issued cloned .senders).state.uses :=
      evolves.evolves.uses.symm ▸ used
    have issues : Guarantee manners (some (.send future))
        (some (.senders, cloned.state.chan.nextSendId)) channel (issued cloned .senders) :=
      evolves.weaken.trans (.issue ..)
    have number : Fits cloned.log →
        registrations .senders channel.log ≤ cloned.state.chan.nextSendId.toNat := by
      intro fits
      have counts := inv'.core.registries.nextId_toNat fits .senders
      exact Nat.le_trans (registrations_mono .senders evolves.evolves.log)
        (Nat.le_of_eq counts.symm)
    have vacant := inv'.core.vacant .senders
    have may : MayHold (issued cloned .senders) (.send future) cloned.state.chan.nextSendId := by
      refine ⟨Option.isSome_iff_exists.mpr ⟨this, found'⟩, by rintro _ ⟨⟩, ?_,
        vacant.issued, vacant.free⟩
      rintro key other ⟨⟩ present
      obtain rfl : this = other := Option.some.inj (found'.symm.trans present)
      exact running
    have earlier : Fits (issued cloned .senders).log → Fits cloned.log :=
      fun fits => fits.of_suffix (List.suffix_cons ..)
    have recorded : Guarantee manners (some (.send future))
        (some (.senders, cloned.state.chan.nextSendId)) channel
        (reassigned (issued cloned .senders) (.send future)
          (some cloned.state.chan.nextSendId)) := by
      refine issues.reassign ?_ ?_
      · rintro held ⟨⟩ fits
        exact number (earlier fits)
      · intro held same
        have none : cloned.state.idOf .senders (.send future) = none := by
          simp [State.idOf, found', idle]
        exact absurd (none.symm.trans same) (by rintro ⟨⟩)
    have same : (filed (issued cloned .senders) .senders cloned.state.chan.nextSendId
          waker).onState (·.setWakerId (some cloned.state.chan.nextSendId) (.send future)) =
        filed (reassigned (issued cloned .senders) (.send future)
          (some cloned.state.chan.nextSendId)) .senders cloned.state.chan.nextSendId waker :=
      reassigned_filed
    simp only [wp_setWakerId]
    rw [same]
    refine ⟨(inv'.issue .senders (by rintro ⟨⟩)).enroll used' may vacant
      (by rintro ⟨⟩) waker, _, ?_, State.sends_updateSend found', .enrolled may.live waker⟩
    refine recorded.file ?_ (State.idOf_setWakerId may.live) waker fun _ _ => rfl
    exact fun fits => number (earlier fits)
  · rintro _ cloned ⟨inv', evolves, -⟩
    exact ⟨inv', evolves.weaken, (evolves.evolves.sends future used (by rintro ⟨⟩)).trans found⟩

/-- Polling a send pushes its message, fails it, or parks it while the queue is full. -/
theorem pollSend_spec (aborts : ∀ channel, contract.abort channel) (inv : Inv manners channel)
    (used : .send future ∈ channel.state.uses) (waker : Waker) :
    (SendFuture.poll future waker).wp contract
      (fun polled after => Inv manners after ∧
        Guarantee manners (some (.send future)) none channel after ∧
        SendAnswer manners future waker channel after polled)
      (fun _ after => Inv manners after ∧
        Guarantee manners (some (.send future)) none channel after ∧
        SendLeft future channel after) channel := by
  obtain ⟨this, found⟩ := Option.isSome_iff_exists.mp (inv.core.handles.uses _ used)
  have only : ∀ {other}, channel.state.sends future = some other → this = other :=
    fun present => Option.some.inj (found.symm.trans present)
  simp only [SendFuture.poll, Prog.wp_bind, wp_getState, found]
  cases committed : this.outcome with
  | some outcome =>
      -- A committed outcome is replayed.
      have done : this.done = true := by
        cases running : this.done with
        | true => rfl
        | false =>
            have none := (inv.core.futures.unsent future this found running).2.1
            exact absurd (committed.symm.trans none) (by rintro ⟨⟩)
      obtain ⟨inv', replays⟩ := inv.replay used found done
      refine ⟨inv', replays, by rintro ⟨⟩, by rintro ⟨⟩, ?_, by rintro ⟨⟩, ?_⟩
      · intro _ other present running
        obtain rfl := only present
        exact absurd (running.symm.trans done) (by decide)
      · rintro _ ⟨⟩
        refine ⟨inv.core.told found done committed, fun other present _ none => ?_⟩
        obtain rfl := only present
        exact absurd (committed.symm.trans none) (by rintro ⟨⟩)
  | none =>
      simp only [Prog.wp_ite]
      by_cases done : this.done = true
      · simp only [done, ↓reduceIte]
        refine ⟨inv, .refl channel, ?_, ?_, ?_, ?_, by rintro _ ⟨⟩⟩
        · rintro - ⟨other, present, running⟩
          obtain rfl := only present
          exact absurd (running.symm.trans done) (by decide)
        · intro _ other present done
          obtain rfl := only present
          exact ⟨committed, this, found, done, committed⟩
        · intro _ other present running
          obtain rfl := only present
          exact absurd (running.symm.trans done) (by decide)
        · intro _ other present
          obtain rfl := only present
          exact committed
      · have running : this.done = false := by simpa using done
        simp only [running, Bool.false_eq_true, ↓reduceIte]
        have holds : channel.state.idOf .senders (.send future) = this.wakerId := by
          simp [State.idOf, found]
        -- Whatever a future that is not done answers, it had not answered before.
        have fresh : ∀ other, channel.state.sends future = some other → other.done = true →
            other.outcome ≠ none := by
          intro other present done
          obtain rfl := only present
          exact absurd (running.symm.trans done) (by decide)
        have leaves : ∀ {after : Channel α},
            (∀ left, after.state.sends future = some left → left.outcome ≠ none) →
            SendLeft future channel after :=
          fun keeps left present _ => ⟨keeps left present, this, found, running⟩
        have pauses : ∀ {after : Channel α} {other : Send α},
            after.state.sends future = some other → other.done = false →
            SendLeft future channel after := by
          intro after other present running left same done
          obtain rfl := Option.some.inj (present.symm.trans same)
          exact absurd (running.symm.trans done) (by decide)
        refine attemptPush_spec setting aborts inv used found running (.refl channel) ?_ ?_ ?_
        · intro result after inv' settled told rejected
          refine ⟨inv', settled, by rintro ⟨⟩, by rintro ⟨⟩,
            fun rejecting other present _ => ?_, by rintro ⟨⟩, ?_⟩
          · obtain rfl := only present
            obtain ⟨item, message, rfl⟩ := rejected rejecting
            exact ⟨item, message, rfl⟩
          · rintro _ ⟨⟩
            exact ⟨told, fresh⟩
        · exact fun _ after inv' settled keeps => ⟨inv', settled, leaves keeps⟩
        · intro accepts _
          have rejected : ∀ polled : Poll (Except (SendError α) Unit),
              channel.state.chan.rejecting = true → ∀ this, channel.state.sends future = some this →
              this.done = false → ∃ item, this.item = some item ∧ polled = .ready (.error ⟨item⟩) :=
            fun _ rejecting => absurd (accepts.symm.trans rejecting) (by decide)
          -- The old registration goes first.
          have left : Guarantee manners (some (.send future)) _ channel _ :=
            .take (.send future) channel
          have unheld : ∀ id, channel.state.idOf .senders (.send future) = some id →
              Unheld (reassigned channel (.send future) none) .senders id :=
            fun _ same => inv.taken same
          have idled : ∀ {after},
              Guarantee manners none none (reassigned channel (.send future) none) after →
              after.state.sends future = some { this with wakerId := none } := fun removes =>
            (removes.evolves.sends future (reassigned_uses.symm ▸ used) (by rintro ⟨⟩)).trans
              (State.sends_updateSend found)
          simp only [Prog.wp_bind, wp_takeWakerId, State.wakerId_eq]
          refine Prog.wp_mono (removeSend_spec setting (inv.take _) unheld) ?_ ?_
          swap
          · rintro _ after ⟨inv', removes, unfiled⟩
            exact ⟨inv', (left.trans removes.weaken).settleAll unfiled,
              pauses (idled removes) running⟩
          rintro _ removed ⟨inv₁, removes, unfiled⟩
          have removes' := (left.trans removes.weaken).settleAll unfiled
          have used₁ : .send future ∈ removed.state.uses := removes'.evolves.uses.symm ▸ used
          have found₁ := idled removes
          have registers := addSendWaker_spec setting inv₁ used₁ found₁ running rfl waker
          rw [Prog.wp_bind] at registers
          refine Prog.wp_mono registers (fun id _ sets => Prog.wp_mono sets ?_ ?_) ?_
          · rintro _ registered ⟨inv₂, id, registers, found₂, parked⟩
            have used₂ : .send future ∈ registered.state.uses :=
              registers.evolves.uses.symm ▸ used₁
            have registers := (removes'.raise).trans registers
            refine attemptPush_spec setting aborts inv₂ used₂ found₂ running registers ?_ ?_ ?_
            · intro result after inv' settled told _
              refine ⟨inv', settled, by rintro ⟨⟩, by rintro ⟨⟩, rejected _, by rintro ⟨⟩, ?_⟩
              rintro _ ⟨⟩
              exact ⟨told, fresh⟩
            · exact fun _ after inv' settled keeps => ⟨inv', settled, leaves keeps⟩
            · intro accepts full
              have holds : registered.state.idOf .senders (.send future) = some id := by
                simp [State.idOf, found₂]
              refine ⟨inv₂, registers.keep holds accepts,
                fun _ _ => ⟨full, fun _ _ missing => missing.2.2 parked⟩, ?_, rejected _,
                  ?_, by rintro _ ⟨⟩⟩
              · intro _ other present done
                obtain rfl := Option.some.inj (found₂.symm.trans present)
                exact absurd (running.symm.trans done) (by decide)
              · intro _ other present
                obtain rfl := only present
                exact committed
          · rintro _ registered ⟨inv₂, registers, found₂⟩
            exact ⟨inv₂, removes'.trans registers, pauses found₂ running⟩
          · rintro _ registered ⟨inv₂, registers, found₂⟩
            exact ⟨inv₂, removes'.trans registers, pauses found₂ running⟩

end Functions

end Lochan.Mpmc
