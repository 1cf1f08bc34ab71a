import Lochan.Mpsc.Committing
import Lochan.Mpsc.Drain
import Lochan.Mpsc.Receive

/-!
# Dropping the handles and the futures of an mpsc channel
-/

namespace Lochan.Mpsc

open Reentrant Queue

variable {α : Type} {manners : Manners} {own : Option Owner} {base channel after : Channel α}

/-! ### Senders -/

/-- The channel after a sender began to drop. -/
abbrev withoutSender (channel : Channel α) (sender : Nat) : Channel α :=
  channel.onState fun state =>
    { state with
      chan := { state.chan with senders := state.chan.senders - 1 }
      senders := state.senders.erase sender }

section Sender

variable {sender : Nat}

/-- A sender that goes gives its handle back. -/
theorem withoutSender_handles (member : sender ∈ channel.state.senders) :
    (withoutSender channel sender).state.handles + 1 = channel.state.handles := by
  have some := List.length_pos_of_mem member
  show (channel.state.senders.erase sender).length + channel.state.receiver.toList.length + 1 =
    channel.state.senders.length + channel.state.receiver.toList.length
  rw [List.length_erase_of_mem member]
  omega

/-- A sender that goes does not reconnect a channel. -/
theorem withoutSender_disconnected (disconnected : channel.state.chan.disconnected = true) :
    (withoutSender channel sender).state.chan.disconnected = true := by
  refine Chan.disconnected_iff.mpr ((Chan.disconnected_iff.mp disconnected).imp_left fun none => ?_)
  show channel.state.chan.senders - 1 = 0
  rw [none]

/-- A sender that goes keeps the invariant. -/
theorem Inv.withoutSender (inv : Inv manners channel) (owned : channel.state.SenderOwned sender) :
    Inv manners (withoutSender channel sender) := by
  obtain ⟨member, free, unborrowed⟩ := owned
  have fewer := withoutSender_handles member
  obtain ⟨held, books, handles, futures, registry⟩ := inv
  refine ⟨held, ?_, ?_, { futures with }, { registry with }⟩
  · exact { books with
      observed := fun observed =>
        ⟨withoutSender_disconnected (books.observed observed).1, (books.observed observed).2⟩ }
  · exact { handles with
      senders := by
        show channel.state.chan.senders - 1 = (channel.state.senders.erase sender).length
        rw [handles.senders, List.length_erase_of_mem member]
      send := fun future this found => by
        obtain ⟨alive, below⟩ := handles.send future this found
        refine ⟨(List.mem_erase_of_ne ?_).mpr alive, below⟩
        rintro rfl
        have borrowed := List.any_eq_false.mp unborrowed future (List.mem_range.mpr below)
        have found : channel.state.sends future = some this := found
        simp [found] at borrowed
      uses := fun ref used => by
        have live := handles.uses ref used
        cases ref with
        | sender other =>
            refine (List.mem_erase_of_ne ?_).mpr live
            rintro rfl
            exact free used
        | _ => exact live
      strong := Nat.le_trans (Nat.le_of_succ_le (Nat.le_of_eq fewer)) handles.strong
      settled := fun balance => by
        have counts := handles.strong
        have balance : channel.state.strong = (Mpsc.withoutSender channel sender).state.handles :=
          balance
        omega }

/-- A sender that goes is a step that an operation may make. -/
theorem Evolves.withoutSender : Evolves manners own channel (withoutSender channel sender) := by
  have same : Evolves manners own channel channel := .refl channel
  exact { same with
    senders := fun none => by
      show channel.state.chan.senders - 1 = 0
      rw [none]
    reserved := fun _ _ => { Reserved.refl channel with waker := .inl rfl }
    missing := fun _ _ _ missing => { missing with } }

/-- Dropping a sender and releasing its share is no change, as long as the receiver hears of
the last one. -/
theorem Guarantee.withoutSender (inv : Inv manners channel)
    (member : sender ∈ channel.state.senders)
    (evolves : Evolves manners none (Mpsc.withoutSender channel sender) after)
    (tally : Tally (Mpsc.withoutSender channel sender) after)
    (retained : manners.tidy → Retained after.state.chan → Retained channel.state.chan)
    (exposed : manners.orderly → ∀ owner waker, Exposed after owner waker →
      Exposed channel owner waker ∨ Missing channel owner waker) :
    after.state.handles < after.state.strong ∧
      Guarantee manners none channel (unshared after) := by
  have fewer := withoutSender_handles member
  have counts := inv.handles.strong
  have balance := tally.balance
  have same : (Mpsc.withoutSender channel sender).state.strong = channel.state.strong := rfl
  have evolves := Evolves.withoutSender.trans evolves
  refine ⟨by omega, ?_, ?_, retained, fun orderly owner waker missed => ?_⟩
  · exact { evolves with
      reserved := fun inUse other => { evolves.reserved inUse other with }
      missing := fun orderly owner waker missing =>
        evolves.missing orderly owner waker { missing with } }
  · refine { tally with balance := ?_ }
    show after.state.strong - 1 + channel.state.handles = channel.state.strong + after.state.handles
    omega
  · exact exposed orderly owner waker { missed with }

end Sender

section Functions

variable {contract : Prog.Contract (Channel α) (Callback α) Panic}
  {admits : Callback α → Panic → Channel α → Prop}
  (setting : DropSetting manners contract admits)
include setting

/-- Dropping a sender; the last one wakes the receiver. -/
theorem dropSender_spec {sender : Nat} (inv : Inv manners channel)
    (owned : channel.state.SenderOwned sender) :
    (do
      modifyState fun state => { state with senders := state.senders.erase sender }
      Sender.drop.ensuring releaseChan : M α Unit).wp contract
      (fun _ after => Inv manners after ∧ Guarantee manners none channel after)
      (fun _ after => Inv manners after ∧ Guarantee manners none channel after) channel := by
  have member := owned.1
  have gone := inv.withoutSender owned
  rw [Prog.wp_bind, wp_modifyState]
  refine releasing_spec setting inv ?_
  simp only [Sender.drop, Prog.wp_bind, wp_getChan, wp_modifyChan, Prog.wp_ite, beq_iff_eq]
  split
  · rename_i one
    have one : channel.state.chan.senders = 1 := one
    have disconnected : (withoutSender channel sender).state.chan.disconnected = true := by
      refine Chan.disconnected_iff.mpr (.inl ?_)
      show channel.state.chan.senders - 1 = 0
      rw [one]
    have total : ∀ {after}, Inv manners after → Told manners (withoutSender channel sender) after →
        Inv manners after ∧ after.state.handles < after.state.strong ∧
          Guarantee manners none channel (unshared after) := by
      intro after inv' told
      refine ⟨inv', Guarantee.withoutSender inv member told.evolves told.tally ?_ ?_⟩
      · exact fun tidy retained => absurd retained (told.retained tidy)
      · intro orderly owner waker exposed
        exact .inr { told.exposed orderly owner waker exposed with }
    refine Prog.wp_mono (wakeReceiver_spec setting.toSetting gone fun _ => .inr disconnected) ?_ ?_
    · rintro _ after ⟨inv', told⟩
      exact total inv' told
    · rintro _ after ⟨inv', told, -⟩
      exact total inv' told
  · rename_i more
    have more : channel.state.chan.senders ≠ 1 := more
    -- The receiver still has another sender to wait for.
    have others : channel.state.chan.senders - 1 = 0 → channel.state.chan.senders = 0 := by omega
    refine ⟨gone, Guarantee.withoutSender inv member (.refl _) (.refl _) ?_ ?_⟩
    · intro _ retained
      refine ⟨retained.waker, Chan.terminal_iff.mpr ?_⟩
      exact (Chan.terminal_iff.mp retained.terminal).imp_right (Or.imp_left others)
    · intro _ owner waker exposed
      refine .inl ⟨exposed.expects, exposed.awaits, ?_⟩
      refine exposed.urgent.imp_right fun ended => Chan.disconnected_iff.mpr ?_
      exact (Chan.disconnected_iff.mp ended).imp_left others

end Functions

/-! ### The receiver -/

/-- The receiver can be dropped: no operation in progress and no future uses it. -/
structure Departing (channel : Channel α) (receiver : Nat) : Prop where
  alive : channel.state.receiver = some receiver
  free : .receiver receiver ∉ channel.state.uses
  still : .receiverMut receiver ∉ channel.state.uses
  unborrowed : ∀ future, channel.state.recvs future = none

/-- The channel after the receiver began to drop. -/
abbrev departed (channel : Channel α) (receiver : Nat) : Channel α :=
  (channel.onState fun state =>
    { state with
      chan := { state.chan with receiverAlive := false }
      receiver := none }).logged
    (.lastReceiver receiver (channel.state.chan.sendWakers.map Prod.snd)
      channel.state.chan.contents)

section Receiver

variable {receiver : Nat}

/-- A receiver that owns itself may depart. -/
theorem State.ReceiverOwned.departing (owned : channel.state.ReceiverOwned receiver)
    (handles : Handles channel) : Departing channel receiver := by
  obtain ⟨alive, free, still, unborrowed⟩ := owned
  refine ⟨alive, free, still, fun future => ?_⟩
  cases found : channel.state.recvs future with
  | none => rfl
  | some this =>
      obtain ⟨lives, below⟩ := handles.recv future this found
      obtain rfl : receiver = this.receiver := Option.some.inj (alive.symm.trans lives)
      have borrowed := List.any_eq_false.mp unborrowed future (List.mem_range.mpr below)
      simp [found] at borrowed

/-- A receiver that departs leaves nobody using it. -/
theorem Departing.idle (departing : Departing channel receiver) (handles : Handles channel) :
    ¬ channel.state.InUse := by
  rintro ⟨ref, used, uses⟩
  have live := handles.uses ref used
  cases ref with
  | receiverMut other =>
      obtain rfl : receiver = other := Option.some.inj (departing.alive.symm.trans live)
      exact departing.still used
  | recv future =>
      have live : (channel.state.recvs future).isSome := live
      rw [departing.unborrowed future] at live
      cases live
  | _ => exact uses.elim

/-- The receiver that goes gives its handle back. -/
theorem departed_handles (alive : channel.state.receiver = some receiver) :
    (departed channel receiver).state.handles + 1 = channel.state.handles := by
  show channel.state.senders.length + 0 + 1 =
    channel.state.senders.length + channel.state.receiver.toList.length
  rw [alive]
  rfl

/-- A receiver that departs keeps the invariant. -/
theorem Inv.depart (inv : Inv manners channel) (departing : Departing channel receiver) :
    Inv manners (departed channel receiver) := by
  have idle := departing.idle inv.handles
  have alive := inv.handles.alive departing.alive
  have fewer := departed_handles departing.alive
  obtain ⟨held, books, handles, futures, registry⟩ := inv
  have undrained := books.undrained alive
  have first : ∀ other, ¬ LastReceiver other channel.log :=
    fun other last => by cases (books.last other last).symm.trans alive
  have alone : ∀ other, LastReceiver other (departed channel receiver).log → receiver = other :=
    fun other last => last.resolve_right (first other)
  have owes : ∀ future, owed future (departed channel receiver).log = none := fun _ => rfl
  refine ⟨held, ?_, ?_, ?_, { registry with }⟩
  · exact { books with
      fifo := by
        have same : delivered (departed channel receiver).log = delivered channel.log := by
          simp [delivered, Event.took?]
        have same' : drained (departed channel receiver).log = drained channel.log := by
          simp [drained, Event.drained?]
        have same'' : accepted (departed channel receiver).log = accepted channel.log := by
          simp [accepted, Event.pushed?]
        rw [same, same', same'']
        exact books.fifo
      undrained := by rintro ⟨⟩
      shut := iff_of_true trivial (Chan.rejecting_iff.mpr (.inl rfl))
      last := fun _ _ => rfl
      sole := fun one other last last' => (alone one last).symm.trans (alone other last')
      lawful := by
        refine ⟨⟨?_, undrained⟩, books.lawful⟩
        have fifo := books.fifo
        rwa [undrained, List.append_nil] at fifo
      drains := fun _ _ _ => .of_undrained undrained
      received := fun quiet _ => by
        have same : received (departed channel receiver).log = received channel.log := by
          simp [Lochan.received, Event.received?]
        have same' : delivered (departed channel receiver).log = delivered channel.log := by
          simp [delivered, Event.took?]
        rw [same, same']
        exact books.received quiet idle }
  · exact { handles with
      receiver := rfl
      below := by rintro _ ⟨⟩
      recv := fun future this found => by cases (departing.unborrowed future).symm.trans found
      uses := fun ref used => by
        have live := handles.uses ref used
        cases ref with
        | receiver other =>
            obtain rfl : receiver = other := Option.some.inj (departing.alive.symm.trans live)
            exact absurd used departing.free
        | receiverMut other => exact absurd ⟨_, used, trivial⟩ idle
        | _ => exact live
      strong := Nat.le_trans (Nat.le_of_succ_le (Nat.le_of_eq fewer)) handles.strong
      settled := fun balance => by
        have counts := handles.strong
        have balance : channel.state.strong = (departed channel receiver).state.handles := balance
        omega }
  · exact { futures with notified := fun _ future _ => owes future }

/-- Nobody waits as the receiver once it is gone. -/
theorem Inv.unawaited (inv : Inv manners channel) (gone : channel.state.chan.receiverAlive = false)
    {owner : Owner} : ¬ channel.state.Awaits owner := by
  have absent : channel.state.receiver = none := by
    have count := inv.handles.receiver
    rw [gone] at count
    exact Option.isNone_iff_eq_none.mp (by simpa using count.symm)
  intro awaits
  cases owner with
  | stream receiver => exact nomatch absent.symm.trans awaits
  | recv future =>
      obtain ⟨this, found⟩ := Option.isSome_iff_exists.mp awaits
      exact nomatch absent.symm.trans (inv.handles.recv future this found).1
  | send future => exact awaits

/-- What the receiver has done when it has left and emptied the channel. -/
theorem Guarantee.depart (inv : Inv manners channel) (departing : Departing channel receiver)
    (inv' : Inv manners after) (evolves : Evolves manners none (departed channel receiver) after)
    (tally : Tally (departed channel receiver) after)
    (retained : manners.tidy → ¬ Retained after.state.chan)
    (empty : after.state.chan.contents = []) (unstuck : Unstuck after) :
    after.state.handles < after.state.strong ∧
      Guarantee manners none channel (unshared after) := by
  have fewer := departed_handles departing.alive
  have counts := inv.handles.strong
  have balance := tally.balance
  have same : (departed channel receiver).state.strong = channel.state.strong := rfl
  have idle := departing.idle inv.handles
  have gone : after.state.chan.receiverAlive = false := evolves.receiver rfl
  refine ⟨by omega, ⟨?_, ?_, fun tidy kept => absurd kept (retained tidy), ?_⟩⟩
  · exact { evolves with
      log := (List.suffix_cons ..).trans evolves.log
      receiver := fun _ => gone
      empty := fun _ _ => empty
      reserved := fun inUse => absurd inUse idle
      owed := fun future used other waker owes =>
        nomatch evolves.owed future used other waker owes
      missing := fun _ owner waker missing =>
        absurd missing.awaits (inv'.unawaited gone) }
  · refine ⟨?_, fun _ _ => empty, fun fits rejecting entry member => ?_⟩
    · show after.state.strong - 1 + channel.state.handles =
        channel.state.strong + after.state.handles
      omega
    · rw [show (unshared after).state.chan.sendWakers = [] from unstuck fits rejecting] at member
      exact absurd member List.not_mem_nil
  · exact fun _ owner waker exposed => absurd exposed.awaits (inv'.unawaited gone)

end Receiver

section Functions

variable {contract : Prog.Contract (Channel α) (Callback α) Panic}
  {admits : Callback α → Panic → Channel α → Prop}
  (setting : DropSetting manners contract admits) {receiver : Nat}
include setting

/-- The receiver wakes the parked senders and clears its slot, and then empties the channel. -/
theorem dropReceiver_spec (calm : manners.calmDrop receiver → Calm admits)
    (tidy : manners.tidy → ∀ waker payload channel,
      admits (.wake .senders waker) payload channel → channel.state.chan.recvWaker = none)
    (inv : Inv manners channel) (owned : channel.state.ReceiverOwned receiver) :
    (do
      modifyState fun state => { state with receiver := none }
      (Receiver.drop receiver).ensuring releaseChan : M α Unit).wp contract
      (fun _ after => Inv manners after ∧ Guarantee manners none channel after)
      (fun _ after => Inv manners after ∧ Guarantee manners none channel after) channel := by
  have departing := owned.departing inv.handles
  have left := inv.depart departing
  -- The senders are woken before anything is dropped.
  have draining : ∀ {woken}, Guarantee manners none (departed channel receiver) woken →
      (manners.calmDrop receiver → Woken (Guarantee manners none) .senders
        channel.state.chan.sendWakers (queued (departed channel receiver) []) woken) →
      Draining manners receiver woken := by
    intro woken wakes woke
    have last : LastReceiver receiver (departed channel receiver).log := .inl rfl
    refine ⟨wakes.evolves.receiver rfl, last.later wakes.evolves.log, fun calmly => ?_⟩
    obtain ⟨newer, logged, woke⟩ :=
      (woke calmly).wokeSenders fun _ _ guaranteed => guaranteed.evolves.log
    exact ⟨newer, receiver, _, channel.state.chan.contents, channel.log, logged, woke⟩
  have total : ∀ {woken after}, Guarantee manners none (departed channel receiver) woken →
      Unstuck woken → Evolves manners none woken after → Tally woken after →
      (manners.tidy → ¬ Retained after.state.chan) → Inv manners after →
      after.state.chan.contents = [] →
      Inv manners after ∧ after.state.handles < after.state.strong ∧
        Guarantee manners none channel (unshared after) := by
    intro woken after wakes unstuck evolves tally retained inv' empty
    exact ⟨inv', Guarantee.depart inv departing inv' (wakes.evolves.trans evolves)
      (wakes.tally.trans tally evolves) retained empty (unstuck.later tally evolves)⟩
  rw [Prog.wp_bind, wp_modifyState]
  refine releasing_spec setting inv ?_
  simp only [Receiver.drop, Prog.wp_bind, wp_getChan, wp_modifyChan, wp_emit, Prog.wp_ensuring]
  refine Prog.wp_mono (wakeSenders_spec setting.toSetting left) ?_ ?_
  · rintro _ woken ⟨inv₁, wakes, unstuck, woke⟩
    have drains := draining wakes fun _ => woke
    have clears : Evolves manners none woken (slotted woken none) := by
      have same : Evolves manners none woken woken := .refl woken
      have idle : ¬ woken.state.InUse := fun inUse =>
        nomatch drains.gone.symm.trans (inv₁.handles.inUse inUse)
      exact { same with
        reserved := fun inUse => absurd inUse idle
        missing := fun _ _ _ missing => absurd missing.awaits (inv₁.unawaited drains.gone) }
    have cleared : Tally woken (slotted woken none) := by
      have same : Tally woken woken := .refl woken
      exact { same with stuck := fun _ rejecting _ member => ⟨rejecting, member⟩ }
    have vacated : ∀ {after}, Guarantee manners none (slotted woken none) after →
        manners.tidy → ¬ Retained after.state.chan :=
      fun guarantee tidy retained => (guarantee.retained tidy retained).waker rfl
    refine Prog.wp_mono (clearRecvWaker_spec setting.toSetting inv₁) ?_ ?_
    · rintro _ cleared' ⟨inv₂, drops⟩
      have later := clears.trans drops.evolves
      have drains := drains.later later
      have finish : ∀ {after}, Inv manners after → Guarantee manners none cleared' after →
          after.state.chan.contents = [] →
          Inv manners after ∧ after.state.handles < after.state.strong ∧
            Guarantee manners none channel (unshared after) := by
        intro after inv₃ empties empty
        have drops := drops.trans empties
        exact total wakes unstuck (clears.trans drops.evolves)
          (cleared.trans drops.tally drops.evolves) (vacated drops) inv₃ empty
      refine Prog.wp_mono (drain_spec setting inv₂ drains) ?_ ?_
      · rintro _ after ⟨inv₃, empties, empty⟩
        exact finish inv₃ empties empty
      · rintro _ after ⟨inv₃, empties, empty, -⟩
        exact finish inv₃ empties empty
    · rintro _ cleared' ⟨inv₂, drops, code, left', ⟨waker, rfl⟩, admitted, rfl⟩
      have later := clears.trans drops.evolves
      refine Prog.wp_mono (drain_spec setting inv₂ (drains.later later)) ?_ ?_
      · rintro _ after ⟨inv₃, empties, empty⟩
        have drops := drops.trans empties
        exact total wakes unstuck (clears.trans drops.evolves)
          (cleared.trans drops.tally drops.evolves) (vacated drops) inv₃ empty
      · rintro _ after ⟨-, -, -, item, payload', left'', admitted', -⟩
        refine setting.single.elim (fun single => ?_) fun all => all after
        exact (single.apart admitted' admitted (.inr (.inr ⟨⟨item, rfl⟩, waker, rfl⟩))).elim
  · rintro payload woken
      ⟨inv₁, wakes, unstuck, ⟨_, payload', left', ⟨waker, rfl⟩, admitted, unwinds⟩, calmly⟩
    have drains := draining wakes fun drops => (calmly (calm drops)).2
    refine Prog.wp_mono (drain_spec setting inv₁ drains) ?_ ?_
    · rintro _ after ⟨inv₂, empties, empty⟩
      -- The slot is not cleared, but it was empty when the parked sender panicked.
      refine total wakes unstuck empties.evolves empties.tally
        (fun tidily retained => ?_) inv₂ empty
      exact ((unwinds.trans empties).retained tidily retained).waker
        (tidy tidily waker payload' left' admitted)
    · rintro _ after ⟨-, -, -, item, payload'', left'', admitted', -⟩
      refine setting.single.elim (fun single => ?_) fun all => all after
      exact (single.apart admitted admitted' (.inl ⟨⟨waker, rfl⟩, item, rfl⟩)).elim

end Functions

end Lochan.Mpsc
