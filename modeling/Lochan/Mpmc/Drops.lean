import Lochan.Mpmc.Drain

/-!
# Dropping the handles of an mpmc channel
-/

namespace Lochan.Mpmc

open Reentrant Queue

variable {α : Type} {manners : Manners} {own : Option Owner}
  {spare : Option (Side × UInt64)} {base channel after : Channel α}

/-! ### Senders -/

/-- The channel after a sender began to drop. -/
abbrev withoutSender (channel : Channel α) (sender : Nat) : Channel α :=
  channel.onState fun state =>
    { state with
      chan := { state.chan with senders := state.chan.senders - 1 }
      senders := state.senders.erase sender }

section Sender

variable {sender : Nat}

/-- A sender that goes gives its handle back. -/
theorem withoutSender_handles (member : sender ∈ channel.state.senders) :
    (withoutSender channel sender).state.handles + 1 = channel.state.handles := by
  have some := List.length_pos_of_mem member
  show (channel.state.senders.erase sender).length + channel.state.receivers.length + 1 =
    channel.state.senders.length + channel.state.receivers.length
  rw [List.length_erase_of_mem member]
  omega

/-- A sender that goes keeps the core of the invariant. -/
theorem Core.withoutSender (core : Core manners channel)
    (owned : channel.state.SenderOwned sender) : Core manners (withoutSender channel sender) := by
  obtain ⟨member, free, unborrowed⟩ := owned
  have fewer := withoutSender_handles member
  obtain ⟨held, books, handles, futures, registries⟩ := core
  refine ⟨held, ?_, ?_, { futures with }, { registries with }⟩
  · exact { books with
      observed := fun observed => by
        obtain ⟨disconnected, empty⟩ := books.observed observed
        refine ⟨Chan.disconnected_iff.mpr ?_, empty⟩
        exact (Chan.disconnected_iff.mp disconnected).imp_left fun none => by
          show channel.state.chan.senders - 1 = 0
          rw [none] }
  · exact { handles with
      senders := by
        show channel.state.chan.senders - 1 = (channel.state.senders.erase sender).length
        rw [handles.senders, List.length_erase_of_mem member]
      send := fun future this found => by
        obtain ⟨alive, below⟩ := handles.send future this found
        refine ⟨(List.mem_erase_of_ne ?_).mpr alive, below⟩
        rintro rfl
        have borrowed := List.any_eq_false.mp unborrowed future (List.mem_range.mpr below)
        have found : channel.state.sends future = some this := found
        simp [found] at borrowed
      uses := fun ref used => by
        have live := handles.uses ref used
        cases ref with
        | sender other =>
            refine (List.mem_erase_of_ne ?_).mpr live
            rintro rfl
            exact free used
        | _ => exact live
      strong := Nat.le_trans (Nat.le_of_succ_le (Nat.le_of_eq fewer)) handles.strong
      settled := fun balance => by
        have counts := handles.strong
        have balance : channel.state.strong = (Mpmc.withoutSender channel sender).state.handles :=
          balance
        omega }

/-- A sender that is not the last one silences no parked receiver. -/
theorem RecvQuiet.withoutSender (quiet : RecvQuiet channel)
    (others : channel.state.chan.senders ≠ 1) : RecvQuiet (withoutSender channel sender) where
  disconnected disconnected := by
    refine quiet.disconnected (Chan.disconnected_iff.mpr ?_)
    refine (Chan.disconnected_iff.mp disconnected).imp_left fun none => ?_
    have none : channel.state.chan.senders - 1 = 0 := none
    omega
  empty := quiet.empty

/-- Dropping a sender and releasing its share is no change. -/
theorem Guarantee.withoutSender (core : Core manners channel)
    (member : sender ∈ channel.state.senders) :
    Guarantee manners own spare channel (unshared (withoutSender channel sender)) := by
  have same : Guarantee manners own spare channel channel := .refl channel
  have fewer := withoutSender_handles member
  have counts := core.handles.strong
  exact { same with
    evolves := { same.evolves with
      senders := fun none => by
        show channel.state.chan.senders - 1 = 0
        rw [none]
      missing := fun _ _ _ _ _ missing => missing }
    balance := by
      show channel.state.strong - 1 + channel.state.handles =
        channel.state.strong + (Mpmc.withoutSender channel sender).state.handles
      omega }

end Sender

section Functions

variable {contract : Prog.Contract (Channel α) (Callback α) Panic}
  {admits : Callback α → Panic → Channel α → Prop} (setting : Setting manners contract admits)
  (aborts : SinglePanic Freed admits ∨ ∀ channel, contract.abort channel)
include setting aborts

/-- Dropping a sender; the last one wakes the receivers. -/
theorem dropSender_spec {sender : Nat} (inv : Inv manners channel)
    (owned : channel.state.SenderOwned sender) :
    (do
      modifyState fun state => { state with senders := state.senders.erase sender }
      Sender.drop.ensuring releaseChan : M α Unit).wp contract
      (fun _ after => Inv manners after ∧ Guarantee manners none none channel after)
      (fun _ after => Inv manners after ∧ Guarantee manners none none channel after) channel := by
  have member := owned.1
  have fewer := withoutSender_handles member
  have counts := inv.core.handles.strong
  have core := inv.core.withoutSender owned
  have leaves : Guarantee manners none none channel (unshared (withoutSender channel sender)) :=
    .withoutSender inv.core member
  -- What happens once the sender is gone, seen from before it went.
  have total : ∀ {after}, Guarantee manners none none (withoutSender channel sender) after →
      after.state.handles < after.state.strong ∧
        Guarantee manners none none channel (unshared after) := by
    intro after evolves
    have balance := evolves.balance
    have same : (withoutSender channel sender).state.strong = channel.state.strong := rfl
    refine ⟨by omega, leaves.trans (evolves.unshare ?_ (by omega))⟩
    show 0 < channel.state.strong
    omega
  rw [Prog.wp_bind, wp_modifyState]
  refine releasing_spec setting aborts inv.core ?_
  simp only [Sender.drop, Prog.wp_bind, wp_getChan, wp_modifyChan, Prog.wp_ite, beq_iff_eq]
  split
  · refine Prog.wp_mono (wakeReceivers_spec setting core inv.sendQuiet) ?_ ?_
    · rintro _ after ⟨inv', wakes⟩
      exact ⟨inv', total wakes⟩
    · rintro _ after ⟨inv', wakes, -⟩
      exact ⟨inv', total wakes⟩
  · rename_i others
    exact ⟨⟨core, inv.recvQuiet.withoutSender others, inv.sendQuiet⟩, total (.refl _)⟩

end Functions

/-! ### Receivers -/

/-- The receiver can be dropped: no operation in progress and no future uses it. -/
structure Departing (channel : Channel α) (receiver : Nat) : Prop where
  member : receiver ∈ channel.state.receivers
  free : .receiver receiver ∉ channel.state.uses
  still : .receiverMut receiver ∉ channel.state.uses
  unborrowed : ∀ future this, channel.state.recvs future = some this → this.receiver ≠ receiver

/-- What the log records of a receiver that begins to drop: the last one leaves the parked
senders and the items behind. -/
inductive Farewell (channel : Channel α) (receiver : Nat) : Log α → Prop where
  | others (more : channel.state.chan.receivers ≠ 1) : Farewell channel receiver []
  | last (one : channel.state.chan.receivers = 1) : Farewell channel receiver
      [.lastReceiver receiver (channel.state.chan.sendWakers.map Prod.snd)
        channel.state.chan.contents]

/-- The channel after a receiver began to drop. -/
abbrev withoutReceiver (channel : Channel α) (receiver : Nat) (events : Log α) : Channel α where
  state :=
    { channel.state with
      chan := { channel.state.chan with receivers := channel.state.chan.receivers - 1 }
      receivers := channel.state.receivers.erase receiver }
  held := channel.held
  log := events ++ channel.log

section Receiver

variable {receiver : Nat} {events : Log α}

/-- A receiver that owns itself may depart. -/
theorem State.ReceiverOwned.departing (owned : channel.state.ReceiverOwned receiver)
    (handles : Handles channel) : Departing channel receiver := by
  obtain ⟨member, free, still, unborrowed⟩ := owned
  refine ⟨member, free, still, ?_⟩
  rintro future this found rfl
  have below := (handles.recv future this found).2
  have borrowed := List.any_eq_false.mp unborrowed future (List.mem_range.mpr below)
  simp [found] at borrowed

/-- A receiver that goes gives its handle back. -/
theorem withoutReceiver_handles (member : receiver ∈ channel.state.receivers) :
    (withoutReceiver channel receiver events).state.handles + 1 = channel.state.handles := by
  have some := List.length_pos_of_mem member
  show channel.state.senders.length + (channel.state.receivers.erase receiver).length + 1 =
    channel.state.senders.length + channel.state.receivers.length
  rw [List.length_erase_of_mem member]
  omega

/-- A receiver that departs without a registration keeps the handles in order. -/
theorem Handles.withoutReceiver (handles : Handles channel) (departing : Departing channel receiver)
    (idle : channel.state.streamWakerId receiver = none)
    (waits : ∀ owner, Lochan.waiting owner (events ++ channel.log) =
      Lochan.waiting owner channel.log) :
    Handles (withoutReceiver channel receiver events) := by
  obtain ⟨member, free, still, unborrowed⟩ := departing
  have fewer : (Mpmc.withoutReceiver channel receiver events).state.handles + 1 =
      channel.state.handles := withoutReceiver_handles member
  have others : ∀ other ∈ channel.state.receivers, other ≠ receiver →
      other ∈ channel.state.receivers.erase receiver :=
    fun other alive different => (List.mem_erase_of_ne different).mpr alive
  exact { handles with
    receivers := by
      show channel.state.chan.receivers - 1 = (channel.state.receivers.erase receiver).length
      rw [handles.receivers, List.length_erase_of_mem member]
    nodup := handles.nodup.erase receiver
    below := fun other alive => handles.below other (List.mem_of_mem_erase alive)
    recv := fun future this found => by
      obtain ⟨alive, below⟩ := handles.recv future this found
      exact ⟨others _ alive (unborrowed future this found), below⟩
    stream := fun other id holds => by
      refine others other (handles.stream other id holds) ?_
      rintro rfl
      exact absurd (idle.symm.trans holds) nofun
    uses := fun ref used => by
      have live := handles.uses ref used
      cases ref with
      | receiver other => exact others other live (by rintro rfl; exact free used)
      | receiverMut other => exact others other live (by rintro rfl; exact still used)
      | _ => exact live
    strong := Nat.le_trans (Nat.le_of_succ_le (Nat.le_of_eq fewer)) handles.strong
    settled := fun balance => by
      have counts := handles.strong
      have balance : channel.state.strong =
        (Mpmc.withoutReceiver channel receiver events).state.handles := balance
      omega
    waiting := fun owner waker waiting => handles.waiting owner waker (waits owner ▸ waiting) }

/-- A receiver that departs without a registration keeps the core of the invariant. -/
theorem Core.withoutReceiver (core : Core manners channel) (departing : Departing channel receiver)
    (idle : channel.state.streamWakerId receiver = none)
    (farewell : Farewell channel receiver events) :
    Core manners (withoutReceiver channel receiver events) := by
  have waits : ∀ owner, waiting owner (events ++ channel.log) = waiting owner channel.log := by
    cases farewell <;> exact fun _ => rfl
  have handles := core.handles.withoutReceiver departing idle waits
  have some : channel.state.chan.receivers ≠ 0 := by
    rw [core.handles.receivers]
    exact Nat.ne_of_gt (List.length_pos_of_mem departing.member)
  obtain ⟨held, books, -, futures, registries⟩ := core
  have first : ∀ other, ¬ LastReceiver other channel.log :=
    fun other last => some (books.last other last)
  cases farewell with
  | others more =>
      have left : channel.state.chan.receivers - 1 ≠ 0 := by omega
      refine ⟨held, ?_, handles, { futures with }, { registries with }⟩
      exact { books with
        undrained := fun _ => books.undrained some
        shut := by
          have same : (Mpmc.withoutReceiver channel receiver []).state.chan.rejecting =
              channel.state.chan.rejecting := by
            simp only [Chan.rejecting, beq_false_of_ne left, beq_false_of_ne some]
          rw [same]
          exact books.shut
        last := fun other last => absurd last (first other) }
  | last one =>
      have none : (Mpmc.withoutReceiver channel receiver
          [.lastReceiver receiver (channel.state.chan.sendWakers.map Prod.snd)
            channel.state.chan.contents]).state.chan.receivers = 0 := by
        show channel.state.chan.receivers - 1 = 0
        rw [one]
      have undrained := books.undrained some
      have alone : ∀ other, LastReceiver other (.lastReceiver receiver
          (channel.state.chan.sendWakers.map Prod.snd) channel.state.chan.contents ::
            channel.log) → receiver = other :=
        fun other last => last.resolve_right (first other)
      refine ⟨held, ?_, handles, { futures with }, { registries with }⟩
      exact { books with
        undrained := fun some => absurd none some
        shut := iff_of_true trivial (Chan.rejecting_iff.mpr (.inl none))
        last := fun _ _ => none
        sole := fun one other last last' => (alone one last).symm.trans (alone other last')
        lawful := by
          refine ⟨⟨?_, undrained⟩, books.lawful⟩
          have fifo := books.fifo
          rwa [undrained, List.append_nil] at fifo
        prompt := fun _ _ _ => .of_undrained undrained }

/-- A receiver that departs as told silences no parked receiver. -/
theorem RecvQuiet.withoutReceiver (quiet : RecvQuiet channel)
    (farewell : Farewell channel receiver events) :
    RecvQuiet (withoutReceiver channel receiver events) where
  disconnected := quiet.disconnected
  empty fits owner waker receives free waits unfinished parked := by
    refine quiet.empty (by cases farewell <;> exact fits) owner waker receives free
      (by cases farewell <;> exact waits) ?_ parked
    cases owner with
    | stream other => exact List.mem_of_mem_erase unfinished
    | _ => exact unfinished

/-- A receiver that departs as told silences no parked sender. -/
theorem SendQuiet.withoutReceiver (quiet : SendQuiet channel)
    (farewell : Farewell channel receiver events) :
    SendQuiet (withoutReceiver channel receiver events) := by
  intro fits owner waker sends free waits unfinished parked
  refine quiet (by cases farewell <;> exact fits) owner waker sends free
    (by cases farewell <;> exact waits) ?_ parked
  cases owner with
  | stream other => exact List.mem_of_mem_erase unfinished
  | _ => exact unfinished

/-- A receiver that departs is a step that an operation may make. -/
theorem Evolves.withoutReceiver (member : receiver ∈ channel.state.receivers)
    (farewell : Farewell channel receiver events) :
    Evolves manners own channel (withoutReceiver channel receiver events) := by
  have same : Evolves manners own channel channel := .refl channel
  have missing : ∀ owner waker, Missing (Mpmc.withoutReceiver channel receiver events) owner waker →
      Missing channel owner waker := by
    rintro owner waker ⟨waits, unfinished, unparked⟩
    refine ⟨by cases farewell <;> exact waits, ?_, unparked⟩
    cases owner with
    | stream other => exact List.mem_of_mem_erase unfinished
    | _ => exact unfinished
  exact { same with
    log := List.suffix_append ..
    receivers := fun none => by
      show channel.state.chan.receivers - 1 = 0
      rw [none]
    slot := fun _ none => none
    parked := fun _ => .inl
    gone := fun other _ absent => by
      refine ⟨fun alive => absent (List.mem_of_mem_erase alive), fun last => ?_⟩
      cases farewell with
      | others _ => exact last
      | last _ =>
          refine last.resolve_left ?_
          rintro rfl
          exact absent member
    waiting := fun owner _ waker waits => by cases farewell <;> exact waits
    terminal := fun other _ ended => by cases farewell <;> exact ended
    resolved := fun owner _ resolved => by cases farewell <;> exact resolved
    tickets := fun _ side => by cases farewell <;> exact .refl _
    missing := fun _ _ owner waker _ => missing owner waker }

/-- A task that is gone, and that no operation in progress used, is no exception. -/
theorem Evolves.disown {owner : Owner} (evolves : Evolves manners (some owner) channel after)
    (free : owner.ref ∉ channel.state.uses)
    (missing : manners.calm → Fits after.log → ∀ waker, ¬ Missing after owner waker) :
    Evolves manners none channel after :=
  { evolves with
    sends := fun future used _ => evolves.sends future used (by rintro ⟨⟩; exact free used)
    recvs := fun future used _ => evolves.recvs future used (by rintro ⟨⟩; exact free used)
    streams := fun receiver used _ => evolves.streams receiver used (by rintro ⟨⟩; exact free used)
    missing := fun calm fits other waker _ missed => by
      by_cases same : other = owner
      · subst same
        exact absurd missed (missing calm fits waker)
      · exact evolves.missing calm fits other waker (fun same' => same (Option.some.inj same').symm)
          missed }

end Receiver

/-- The channel after a receiver began to drop and gave up the id of its stream. -/
abbrev departed (channel : Channel α) (receiver : Nat) (events : Log α) : Channel α :=
  withoutReceiver (reassigned channel (.stream receiver) none) receiver events

section Departed

variable {receiver : Nat} {events : Log α}

/-- A registration of its own given up, a receiver departs as told all the same. -/
theorem Farewell.reassign (farewell : Farewell channel receiver events) :
    Farewell (reassigned channel (.stream receiver) none) receiver events := by
  cases farewell with
  | others more => exact .others more
  | last one => exact .last one

/-- A receiver that departs keeps the invariant. -/
theorem Inv.depart (inv : Inv manners channel) (departing : Departing channel receiver)
    (farewell : Farewell channel receiver events) :
    Inv manners (departed channel receiver events) := by
  have taken := inv.take (.stream receiver)
  have idle : (reassigned channel (.stream receiver) none).state.streamWakerId receiver = none :=
    Function.update_self ..
  exact ⟨taken.core.withoutReceiver { departing with } idle farewell.reassign,
    taken.recvQuiet.withoutReceiver farewell.reassign,
    taken.sendQuiet.withoutReceiver farewell.reassign⟩

/-- The id the departed receiver gave up is held by nobody. -/
theorem Inv.departed_unheld (inv : Inv manners channel)
    (farewell : Farewell channel receiver events)
    {id : UInt64} (same : channel.state.streamWakerId receiver = some id) :
    Unheld (departed channel receiver events) .receivers id := by
  have holds : channel.state.idOf (Owner.stream receiver).side (.stream receiver) = some id := same
  obtain ⟨issued, free⟩ := inv.taken holds
  cases farewell <;> exact ⟨issued, free⟩

/-- What a receiver has done when it has left and its registration is gone. -/
theorem Guarantee.depart (core : Core manners channel)
    (departing : Departing channel receiver) (farewell : Farewell channel receiver events)
    (later : Guarantee manners none none (departed channel receiver events) after)
    (unfiled : ∀ held, channel.state.streamWakerId receiver = some held →
      Unfiled after .receivers held)
    (emptied : after.state.chan.receivers = 0 → after.state.chan.contents = [])
    (stuck : Fits after.log → after.state.chan.rejecting = true →
      ∀ entry ∈ after.state.chan.sendWakers,
        channel.state.chan.rejecting = true ∧ entry ∈ channel.state.chan.sendWakers) :
    after.state.handles < after.state.strong ∧
      Guarantee manners none none channel (unshared after) := by
  have fewer : (departed channel receiver events).state.handles + 1 = channel.state.handles :=
    withoutReceiver_handles departing.member
  have same : (departed channel receiver events).state.strong = channel.state.strong := rfl
  have counts := core.handles.strong
  have balance := later.balance
  have gives : Guarantee manners (some (.stream receiver)) _ channel _ :=
    .take (.stream receiver) channel
  have evolves : Evolves manners (some (.stream receiver)) channel after :=
    (gives.evolves.trans (.withoutReceiver departing.member farewell.reassign)).trans
      later.evolves.weaken
  -- The receiver does not come back.
  have absent : receiver ∉ after.state.receivers :=
    (later.evolves.gone receiver (core.handles.below receiver departing.member)
      core.handles.nodup.not_mem_erase).1
  have evolves : Evolves manners none channel after :=
    evolves.disown departing.still fun _ _ _ missing => absent missing.2.1
  refine ⟨by omega, ?_⟩
  refine ⟨{ evolves with }, ?_, fun _ => emptied, fun occupied => ?_,
    fun fits side entry _ orphan => ?_,
    fun fits rejecting entry member _ => stuck fits rejecting entry member⟩
  · show after.state.strong - 1 + channel.state.handles = channel.state.strong + after.state.handles
    omega
  · refine (later.occupied occupied).imp_right fun ⟨before, idle⟩ => ⟨before, idle.trans ?_⟩
    cases farewell <;> rfl
  · obtain ⟨member, free⟩ := later.orphans fits side entry nofun orphan
    refine ⟨by cases side <;> exact member, fun owner holds => ?_⟩
    by_cases own : owner = .stream receiver
    · subst own
      have side_eq := State.side_of_idOf holds
      subst side_eq
      exact unfiled entry.1 holds fits entry orphan.1 rfl
    · refine free owner ?_
      have kept : (channel.state.setWakerId none (.stream receiver)).idOf side owner =
        some entry.1 := (State.idOf_setWakerId_other own).trans holds
      cases side <;> exact kept

end Departed

section Functions

variable {contract : Prog.Contract (Channel α) (Callback α) Panic}
  {admits : Callback α → Panic → Channel α → Prop} (setting : Setting manners contract admits)
  (aborts : SinglePanic Freed admits ∨ ∀ channel, contract.abort channel) {receiver : Nat}
include setting aborts

/-- The last receiver empties the channel and removes its registration, also when the
destructor of an item panics. -/
theorem cleanup_spec {id : Option UInt64} (inv : Inv manners channel)
    (draining : Draining manners receiver channel)
    (unheld : ∀ held, id = some held → Unheld channel .receivers held) :
    (Receiver.cleanup id : M α Unit).wp contract
      (fun _ after => Inv manners after ∧ Guarantee manners none none channel after ∧
        after.state.chan.contents = [] ∧ ∀ held, id = some held → Unfiled after .receivers held)
      (fun _ after => Inv manners after ∧ Guarantee manners none none channel after ∧
        after.state.chan.contents = [] ∧ (∀ held, id = some held → Unfiled after .receivers held) ∧
        Raised admits fun code => (∃ item, code = .dropQueued item) ∨
          ∃ waker, code = .dropWaker waker) channel := by
  simp only [Receiver.cleanup, Prog.wp_ensuring]
  have later : ∀ {before}, Guarantee manners none none channel before →
      ∀ held, id = some held → Unheld before .receivers held :=
    fun evolves held same => (unheld held same).later evolves.evolves
  have stays : ∀ {before after}, Guarantee manners none none channel before →
      before.state.chan.contents = [] → Guarantee manners none none before after →
      after.state.chan.contents = [] := fun drains empty evolves =>
    evolves.evolves.empty (Chan.sealed_iff.mpr (.inr (.inr (draining.later drains).gone))) empty
  refine Prog.wp_mono (drain_spec setting aborts inv draining) ?_ ?_
  · rintro _ drained ⟨inv', drains, empty⟩
    refine Prog.wp_mono (removeRecv_spec setting inv' (later drains)) ?_ ?_
    · rintro _ after ⟨inv'', removes, unfiled⟩
      exact ⟨inv'', drains.trans removes, stays drains empty removes, unfiled⟩
    · rintro _ after ⟨inv'', removes, unfiled, code, payload, left, drops, admitted⟩
      exact ⟨inv'', drains.trans removes, stays drains empty removes, unfiled,
        code, payload, left, .inr drops, admitted⟩
  · rintro _ drained ⟨inv', drains, empty, item, payload, left, admitted, -⟩
    refine Prog.wp_mono (removeRecv_spec setting inv' (later drains)) ?_ ?_
    · rintro _ after ⟨inv'', removes, unfiled⟩
      exact ⟨inv'', drains.trans removes, stays drains empty removes, unfiled,
        _, payload, left, .inl ⟨item, rfl⟩, admitted⟩
    · rintro _ after ⟨-, -, -, code, payload', left', drops, admitted'⟩
      exact aborts.elim (fun single => (single.apart admitted admitted'
        (.inr (.inr ⟨⟨item, rfl⟩, drops⟩))).elim) fun all => all after

omit aborts in
/-- A receiver that is not the last one only removes its own registration. -/
theorem dropOther_spec (inv : Inv manners channel) (departing : Departing channel receiver)
    (more : channel.state.chan.receivers ≠ 1) :
    (removeRecv (channel.state.streamWakerId receiver) : M α Unit).wp contract
      (fun _ after => Inv manners after ∧ after.state.handles < after.state.strong ∧
        Guarantee manners none none channel (unshared after))
      (fun _ after => Inv manners after ∧ after.state.handles < after.state.strong ∧
        Guarantee manners none none channel (unshared after)) (departed channel receiver []) := by
  have farewell : Farewell channel receiver [] := .others more
  have alive : (departed channel receiver []).state.chan.receivers ≠ 0 := by
    have some := List.length_pos_of_mem departing.member
    have count := inv.core.handles.receivers
    show channel.state.chan.receivers - 1 ≠ 0
    omega
  have rejects : (departed channel receiver []).state.chan.rejecting = true →
      channel.state.chan.rejecting = true := fun rejecting =>
    Chan.rejecting_iff.mpr <| .inr <| (Chan.rejecting_iff.mp rejecting).resolve_left alive
  have total : ∀ {after}, Guarantee manners none none (departed channel receiver []) after →
      (∀ held, channel.state.streamWakerId receiver = some held → Unfiled after .receivers held) →
      after.state.handles < after.state.strong ∧
        Guarantee manners none none channel (unshared after) := by
    intro after evolves unfiled
    refine Guarantee.depart inv.core departing farewell evolves unfiled (evolves.emptied alive) ?_
    intro fits rejecting entry member
    obtain ⟨rejecting', member'⟩ := evolves.stuck fits rejecting entry member nofun
    exact ⟨rejects rejecting', member'⟩
  refine Prog.wp_mono (removeRecv_spec setting (inv.depart departing farewell)
    fun _ same => inv.departed_unheld farewell same) ?_ ?_
  · rintro _ after ⟨inv', removes, unfiled⟩
    exact ⟨inv', total removes unfiled⟩
  · rintro _ after ⟨inv', removes, unfiled, -⟩
    exact ⟨inv', total removes unfiled⟩

/-- The last receiver wakes the parked senders and then empties the channel. -/
theorem dropLast_spec (calm : manners.calmDrop receiver → Calm admits)
    (inv : Inv manners channel) (departing : Departing channel receiver)
    (one : channel.state.chan.receivers = 1) :
    (wakeSenders.ensuring (Receiver.cleanup (channel.state.streamWakerId receiver)) :
        M α Unit).wp contract
      (fun _ after => Inv manners after ∧ after.state.handles < after.state.strong ∧
        Guarantee manners none none channel (unshared after))
      (fun _ after => Inv manners after ∧ after.state.handles < after.state.strong ∧
        Guarantee manners none none channel (unshared after))
      (departed channel receiver [.lastReceiver receiver
        (channel.state.chan.sendWakers.map Prod.snd) channel.state.chan.contents]) := by
  have farewell : Farewell channel receiver _ := .last one
  generalize same : [Event.lastReceiver receiver (channel.state.chan.sendWakers.map Prod.snd)
    channel.state.chan.contents] = events at farewell ⊢
  have gone := inv.depart departing farewell
  have none : (departed channel receiver events).state.chan.receivers = 0 := by
    show channel.state.chan.receivers - 1 = 0
    rw [one]
  have last : LastReceiver receiver (departed channel receiver events).log := by
    rw [← same]
    exact .inl rfl
  -- The senders are woken before anything is dropped.
  have draining : ∀ {woken},
      Guarantee manners .none .none (departed channel receiver events) woken →
      Unstuck woken → (manners.calmDrop receiver →
        Woken (Guarantee manners .none .none) .senders channel.state.chan.sendWakers
          (listed (departed channel receiver events) .senders []) woken) →
      Draining manners receiver woken := by
    intro woken wakes unstuck woke
    refine ⟨wakes.evolves.receivers none, last.later wakes.evolves.log, fun calm => ?_, unstuck⟩
    obtain ⟨newer, logged, woke⟩ :=
      (woke calm).wokeSenders fun _ _ guaranteed => guaranteed.evolves.log
    refine ⟨newer, receiver, _, channel.state.chan.contents, channel.log, ?_, woke⟩
    rw [logged, ← same]
    rfl
  have total : ∀ {woken after},
      Guarantee manners .none .none (departed channel receiver events) woken → Unstuck woken →
      Guarantee manners .none .none woken after → after.state.chan.contents = [] →
      (∀ held, channel.state.streamWakerId receiver = some held → Unfiled after .receivers held) →
      after.state.handles < after.state.strong ∧
        Guarantee manners .none .none channel (unshared after) := by
    intro woken after wakes unstuck cleans empty unfiled
    refine Guarantee.depart inv.core departing farewell (wakes.trans cleans) unfiled
      (fun _ => empty) ?_
    intro fits rejecting entry member
    rw [unstuck.later cleans fits rejecting] at member
    exact absurd member List.not_mem_nil
  have unheld : ∀ {woken}, Guarantee manners .none .none (departed channel receiver events) woken →
      ∀ held, channel.state.streamWakerId receiver = some held →
        Unheld woken .receivers held :=
    fun wakes _ same => (inv.departed_unheld farewell same).later wakes.evolves
  rw [Prog.wp_ensuring]
  refine Prog.wp_mono (wakeSenders_spec setting gone.core gone.recvQuiet) ?_ ?_
  · rintro _ woken ⟨inv', wakes, unstuck, woke⟩
    refine Prog.wp_mono (cleanup_spec setting aborts inv'
      (draining wakes unstuck fun _ => woke) (unheld wakes)) ?_ ?_
    · rintro _ after ⟨inv'', cleans, empty, unfiled⟩
      exact ⟨inv'', total wakes unstuck cleans empty unfiled⟩
    · rintro _ after ⟨inv'', cleans, empty, unfiled, -⟩
      exact ⟨inv'', total wakes unstuck cleans empty unfiled⟩
  · rintro _ woken ⟨inv', wakes, unstuck, raised, calmly⟩
    refine Prog.wp_mono (cleanup_spec setting aborts inv'
      (draining wakes unstuck fun drops => (calmly (calm drops)).2) (unheld wakes)) ?_ ?_
    · rintro _ after ⟨inv'', cleans, empty, unfiled⟩
      exact ⟨inv'', total wakes unstuck cleans empty unfiled⟩
    · rintro _ after ⟨-, -, -, -, other, payload', left', kind', admitted'⟩
      refine aborts.elim (fun single => ?_) fun all => all after
      obtain ⟨code, payload, left, kind, admitted⟩ := raised
      exact (single.apart admitted admitted' (kind'.imp (.intro kind) (.inl <| .intro kind ·))).elim

/-- Dropping a receiver. -/
theorem dropReceiver_spec (calm : manners.calmDrop receiver → Calm admits)
    (inv : Inv manners channel) (owned : channel.state.ReceiverOwned receiver) :
    (do
      modifyState fun state => { state with receivers := state.receivers.erase receiver }
      (Receiver.drop receiver).ensuring releaseChan : M α Unit).wp contract
      (fun _ after => Inv manners after ∧ Guarantee manners none none channel after)
      (fun _ after => Inv manners after ∧ Guarantee manners none none channel after) channel := by
  have departing := owned.departing inv.core.handles
  rw [Prog.wp_bind, wp_modifyState]
  refine releasing_spec setting aborts inv.core ?_
  simp only [Receiver.drop, Prog.wp_bind, wp_getChan, wp_modifyChan, Prog.wp_ite, beq_iff_eq]
  split
  · rename_i one
    simp only [wp_emit, wp_takeWakerId]
    exact dropLast_spec setting aborts calm inv departing one
  · rename_i more
    simp only [Receiver.removeOwn, Prog.wp_bind, wp_takeWakerId]
    exact dropOther_spec setting inv departing more

end Functions

end Lochan.Mpmc
