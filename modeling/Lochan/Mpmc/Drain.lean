import Lochan.Mpmc.Sending
import Lochan.SinglePanic

/-!
# Emptying and freeing an mpmc channel

The last receiver drains the queue, going on when the destructor of an item panics. The
last handle frees what is left.
-/

namespace Lochan.Mpmc

open Reentrant Queue

variable {α : Type} {manners : Manners} {own : Option Owner}
  {spare : Option (Side × UInt64)} {base channel after : Channel α}

/-! ### Draining -/

/-- The last receiver is being dropped, and the parked senders have been woken. -/
structure Draining (manners : Manners) (receiver : Nat) (channel : Channel α) : Prop where
  gone : channel.state.chan.receivers = 0
  last : LastReceiver receiver channel.log
  alerted : manners.calmDrop receiver → Alerted channel.log
  unstuck : Unstuck channel

/-- The last receiver goes on draining after whatever a callback does. -/
theorem Draining.later {receiver : Nat} (draining : Draining manners receiver channel)
    (guarantee : Guarantee manners own none channel after) : Draining manners receiver after where
  gone := guarantee.evolves.receivers draining.gone
  last := draining.last.later guarantee.evolves.log
  alerted calm := (draining.alerted calm).later guarantee.evolves.log
  unstuck := draining.unstuck.later guarantee

/-- The channel in which the destructor of an item taken out by draining runs. -/
abbrev discarding (channel : Channel α) (flavor : Flavor α) (redelivery : Option α) (item : α) :
    Channel α :=
  (restocked channel flavor redelivery).logged (.called (.dropQueued item))

section Discard

variable {flavor : Flavor α} {redelivery : Option α} {item : α} {receiver : Nat}

/-- Dropping the head keeps the invariant while the last receiver drains. -/
theorem Inv.discard (inv : Inv manners channel) (draining : Draining manners receiver channel)
    (first : channel.state.chan.contents = item :: (redelivery.toList ++ flavor.toList)) :
    Inv manners (discarding channel flavor redelivery item) := by
  obtain ⟨⟨held, books, handles, futures, registries⟩, recvQuiet, sendQuiet⟩ := inv
  have nonempty : channel.state.chan.contents ≠ [] := by simp [first]
  have books : Books manners (discarding channel flavor redelivery item) := { books with
    fifo := by
      have fifo := books.fifo
      have contents : (discarding channel flavor redelivery item).state.chan.contents =
        redelivery.toList ++ flavor.toList := rfl
      rw [contents]
      rw [first] at fifo
      show accepted channel.log = delivered channel.log ++
        drained (.called (.dropQueued item) :: channel.log) ++ (redelivery.toList ++ flavor.toList)
      simpa [drained, Event.drained?] using fifo
    undrained := fun some => absurd draining.gone some
    released := fun released => absurd (books.released released) nonempty
    observed := fun observed => absurd (books.observed observed).2 nonempty
    prompt := fun last calm lastly =>
      ⟨draining.alerted (books.sole last receiver lastly draining.last ▸ calm),
        books.prompt last calm lastly⟩ }
  have handles : Handles (discarding channel flavor redelivery item) := { handles with
    settled := fun balance none => absurd (handles.settled balance none) nonempty
    waiting := fun owner waker waits => handles.waiting owner waker (waiting_called.mp waits).1 }
  refine ⟨⟨held, books, handles, { futures with }, { registries with }⟩,
    ⟨recvQuiet.disconnected, ?_⟩, ?_⟩
  · intro fits owner waker receives free waits unfinished parked
    exact absurd (recvQuiet.empty fits owner waker receives free (waiting_called.mp waits).1
      unfinished parked) nonempty
  · intro fits owner waker sends free waits unfinished parked
    have none := draining.unstuck fits (Chan.rejecting_iff.mpr (.inl draining.gone))
    exact absurd parked (not_parked (sends ▸ none))

/-- Dropping the head is a step that an operation may make while the last receiver drains. -/
theorem Guarantee.discard (vacated : redelivery = none)
    (cap : flavor.cap = channel.state.chan.flavor.cap)
    (first : channel.state.chan.contents = item :: (redelivery.toList ++ flavor.toList)) :
    Guarantee manners own spare channel (discarding channel flavor redelivery item) := by
  have called : Guarantee manners own spare channel
      (channel.logged (.called (.dropQueued item))) := .called channel (.dropQueued item)
  have nonempty : channel.state.chan.contents ≠ [] := by simp [first]
  have removes : removals channel.log < removals (.called (.dropQueued item) :: channel.log) := by
    simp [removals, delivered, drained, Event.took?, Event.drained?]
  exact { called with
    evolves := { called.evolves with
      empty := fun _ empty => absurd empty nonempty
      slot := fun _ _ => vacated
      cap := cap
      parked := fun _ _ => .inr removes }
    emptied := fun some none => absurd none some
    occupied := fun parked => absurd vacated parked }

end Discard

/-- No handle keeps the channel alive. -/
abbrev Freed (channel : Channel α) : Prop := channel.state.strong = 0

/-- What was drained was accepted. -/
theorem Inv.drained_le (inv : Inv manners channel) :
    (drained channel.log).length ≤ (accepted channel.log).length := by
  rw [inv.core.books.fifo, List.length_append, List.length_append]
  omega

section Functions

variable {contract : Prog.Contract (Channel α) (Callback α) Panic}
  {admits : Callback α → Panic → Channel α → Prop} (setting : Setting manners contract admits)
  {receiver : Nat}
include setting

/-- Dropping one item taken out of the channel. -/
theorem discard_spec {flavor : Flavor α} {redelivery : Option α} {item : α}
    (inv : Inv manners channel) (draining : Draining manners receiver channel)
    (vacated : redelivery = none) (cap : flavor.cap = channel.state.chan.flavor.cap)
    (first : channel.state.chan.contents = item :: (redelivery.toList ++ flavor.toList)) :
    (callback (.dropQueued item) : M α Unit).wp contract
      (fun _ after => Inv manners after ∧ Guarantee manners none none channel after ∧
        after.state.chan.redelivery = none ∧
        (drained channel.log).length < (drained after.log).length)
      (fun _ after => Inv manners after ∧ Guarantee manners none none channel after ∧
        Struck admits channel after) (restocked channel flavor redelivery) := by
  have entered := inv.discard draining first
  have discards : Guarantee manners none none channel (discarding channel flavor redelivery item) :=
    .discard vacated cap first
  have more : (drained channel.log).length <
      (drained (discarding channel flavor redelivery item).log).length := by
    show _ < (drained (.called (.dropQueued item) :: channel.log)).length
    simp [drained, Event.drained?]
  refine setting.relies.enters (.dropQueued item) entered ?_ ?_
  · intro after kept guaranteed
    exact ⟨kept, discards.trans guaranteed, guaranteed.evolves.slot draining.gone vacated,
      Nat.lt_of_lt_of_le more (drained_mono guaranteed.evolves.log)⟩
  · intro payload after kept guaranteed admitted
    obtain ⟨kept', logs⟩ := carries.logged after (.panicked (.dropQueued item)) trivial kept
    exact ⟨kept', discards.trans (guaranteed.trans logs), item, payload, after, admitted,
      Nat.lt_of_lt_of_le more (drained_mono guaranteed.evolves.log), drained_mono logs.evolves.log⟩

variable (aborts : SinglePanic Freed admits ∨ ∀ channel, contract.abort channel)
include aborts

/-- With the redelivery slot empty, draining drops every item of the queue. A panic is followed
by a nested drain; a panic in that one would be the second. -/
theorem drainQueue_spec {depth total : Nat} (draining : Draining manners receiver base)
    (bound : total ≤ depth + 1 + (drained base.log).length)
    (nested : ∀ before, Inv manners before → Draining manners receiver before →
      total ≤ depth + (drained before.log).length →
      (drainWithin depth : M α Unit).wp contract
        (fun _ after => Inv manners after ∧ Guarantee manners none none before after ∧
          after.state.chan.contents = [])
        (fun _ after => Inv manners after ∧ Guarantee manners none none before after ∧
          after.state.chan.contents = [] ∧ Struck admits before after) before)
    (inv : Inv manners channel) (reached : Guarantee manners none none base channel)
    (vacant : channel.state.chan.redelivery = none) :
    (Prog.loop do
      match ← pop with
      | none => return some ()
      | some item =>
        callback (.dropQueued item)
        return none : M α Unit).wp contract
      (fun _ after => Inv manners after ∧ Guarantee manners none none base after ∧
        after.state.chan.contents = [])
      (fun _ => (drainWithin depth : M α Unit).wp contract
        (fun _ after => Inv manners after ∧ Guarantee manners none none base after ∧
          after.state.chan.contents = [] ∧ Struck admits base after)
        (fun _ => contract.abort)) channel := by
  intro count granted
  refine Prog.wp_iterate (fun left before => Inv manners before ∧
    Guarantee manners none none base before ∧ before.state.chan.redelivery = none ∧
      count ≤ left + (drained before.log).length)
    ⟨inv, reached, vacant, Nat.le_add_right _ _⟩ ?_ ?_
  · rintro before ⟨inv', -, -, enough⟩
    have drops := inv'.drained_le
    exact setting.hangs count granted before (by omega)
  rintro left before ⟨inv, reached, vacant, enough⟩
  have draining := draining.later reached
  rw [Prog.wp_bind]
  refine wp_pop inv.core.held fun popped rest capacity => ?_
  cases queued : before.state.chan.flavor.toList with
  | nil =>
      have same : before.state.chan.redelivery.toList ++ popped.toList =
          before.state.chan.contents := by simp [Chan.contents, queued, rest]
      have none : before.state.chan.redelivery.toList ++ popped.toList = [] := by
        simp [vacant, rest, queued]
      refine ⟨⟨inv.core.restock same, inv.recvQuiet.restock fun _ => none, ?_⟩,
        reached.trans (.of_restocked ⟨capacity, vacant, fun _ => vacant, fun _ => none⟩
          (.refl _) fun some => absurd vacant some), none⟩
      intro fits owner waker sends free waits unfinished parked
      have none := draining.unstuck fits (Chan.rejecting_iff.mpr (.inl draining.gone))
      exact absurd parked (not_parked (sends ▸ none))
  | cons item tail =>
      have first : before.state.chan.contents =
          item :: (before.state.chan.redelivery.toList ++ popped.toList) := by
        simp [Chan.contents, vacant, queued, rest]
      simp only [List.head?_cons, Prog.wp_bind]
      refine Prog.wp_mono (discard_spec setting inv draining vacant capacity first) ?_ ?_
      · rintro _ after ⟨inv', drops, vacant, more⟩
        exact ⟨inv', reached.trans drops, vacant, by omega⟩
      · rintro payload after ⟨inv', drops, struck⟩
        have struck := struck.before reached.evolves.log
        have more : (drained base.log).length < (drained after.log).length := by
          obtain ⟨_, _, left, -, beyond, until_⟩ := struck
          exact Nat.lt_of_lt_of_le beyond until_
        refine Prog.wp_mono (nested after inv' (draining.later drops) (by omega)) ?_ ?_
        · rintro _ last ⟨inv'', drains, empty⟩
          exact ⟨inv'', (reached.trans drops).trans drains, empty,
            struck.until drains.evolves.log⟩
        · rintro _ last ⟨-, -, -, struck'⟩
          exact aborts.elim (fun single => (single.once struck struck').elim) fun all => all last

/-- Draining drops every item, also when the destructor of one panics. -/
theorem drainWithin_spec (depth : Nat) {total : Nat} (granted : contract.grants total)
    (bound : total ≤ depth + (drained channel.log).length) (inv : Inv manners channel)
    (draining : Draining manners receiver channel) :
    (drainWithin depth : M α Unit).wp contract
      (fun _ after => Inv manners after ∧ Guarantee manners none none channel after ∧
        after.state.chan.contents = [])
      (fun _ after => Inv manners after ∧ Guarantee manners none none channel after ∧
        after.state.chan.contents = [] ∧ Struck admits channel after) channel := by
  induction depth generalizing channel with
  | zero =>
      have drops := inv.drained_le
      exact setting.hangs total granted channel (by omega)
  | succ depth ih =>
      have nested : ∀ before, Inv manners before → Draining manners receiver before →
          total ≤ depth + (drained before.log).length →
          (drainWithin depth : M α Unit).wp contract
            (fun _ after => Inv manners after ∧ Guarantee manners none none before after ∧
              after.state.chan.contents = [])
            (fun _ after => Inv manners after ∧ Guarantee manners none none before after ∧
              after.state.chan.contents = [] ∧ Struck admits before after) before :=
        fun before inv draining bound => ih bound inv draining
      simp only [drainWithin, Prog.wp_guarded, Prog.wp_bind]
      refine wp_takeRedelivery inv.core.held (fun vacant => ?_) fun item parked => ?_
      · exact drainQueue_spec setting aborts draining bound nested inv (.refl channel) vacant
      · have first : channel.state.chan.contents =
            item :: ((none : Option α).toList ++ channel.state.chan.flavor.toList) := by
          simp [Chan.contents, parked]
        simp only [Prog.wp_bind]
        refine Prog.wp_mono (discard_spec setting inv draining rfl rfl first) ?_ ?_
        · rintro _ after ⟨inv', drops, vacant, -⟩
          exact drainQueue_spec setting aborts draining bound nested inv' drops vacant
        · rintro payload after ⟨inv', drops, struck⟩
          have more : (drained channel.log).length < (drained after.log).length := by
            obtain ⟨_, _, left, -, beyond, until_⟩ := struck
            exact Nat.lt_of_lt_of_le beyond until_
          refine Prog.wp_mono (nested after inv' (draining.later drops) (by omega)) ?_ ?_
          · rintro _ last ⟨inv'', drains, empty⟩
            exact ⟨inv'', drops.trans drains, empty, struck.until drains.evolves.log⟩
          · rintro _ last ⟨-, -, -, struck'⟩
            exact aborts.elim (fun single => (single.once struck struck').elim) fun all => all last

/-- Draining empties the channel, unless the drop of an item panics. -/
theorem drain_spec (inv : Inv manners channel) (draining : Draining manners receiver channel) :
    (drain : M α Unit).wp contract
      (fun _ after => Inv manners after ∧ Guarantee manners none none channel after ∧
        after.state.chan.contents = [])
      (fun _ after => Inv manners after ∧ Guarantee manners none none channel after ∧
        after.state.chan.contents = [] ∧ Struck admits channel after) channel :=
  fun depth granted =>
    drainWithin_spec setting aborts depth granted (Nat.le_add_right _ _) inv draining

end Functions

/-! ### Releasing a share -/

/-- The channel after a share in it was released. -/
abbrev unshared (channel : Channel α) : Channel α :=
  channel.onState fun state => { state with strong := state.strong - 1 }

/-- Giving up a count of the core keeps the invariant, if the last one leaves no items. -/
theorem Inv.unshare (inv : Inv manners channel)
    (shared : channel.state.handles < channel.state.strong)
    (settled : (unshared channel).state.strong = channel.state.handles →
      channel.state.receivers = [] → channel.state.chan.contents = []) :
    Inv manners (unshared channel) := by
  obtain ⟨⟨held, books, handles, futures, registries⟩, recvQuiet, sendQuiet⟩ := inv
  refine ⟨⟨held, { books with }, ?_, { futures with }, { registries with }⟩,
    { recvQuiet with }, sendQuiet⟩
  exact { handles with
    strong := Nat.le_sub_one_of_lt shared
    settled := settled }

/-- What happens while a share is held happens after it is released as well. -/
theorem Guarantee.unshare (guarantee : Guarantee manners own spare channel after)
    (before : 0 < channel.state.strong) (later : 0 < after.state.strong) :
    Guarantee manners own spare (unshared channel) (unshared after) := by
  obtain ⟨evolves, balance, emptied, occupied, orphans, stuck⟩ := guarantee
  refine ⟨{ evolves with }, ?_, emptied, occupied, orphans, stuck⟩
  show after.state.strong - 1 + channel.state.handles =
    channel.state.strong - 1 + after.state.handles
  omega

/-- With the counts in step, a channel without receivers stays empty. -/
theorem Guarantee.settled (guarantee : Guarantee manners own spare channel after)
    (core : Core manners channel)
    (count : after.state.chan.receivers = after.state.receivers.length)
    (balance : after.state.strong = after.state.handles) (none : after.state.receivers = []) :
    after.state.chan.contents = [] := by
  have gone : after.state.chan.receivers = 0 := count.trans (congrArg List.length none)
  by_cases alive : channel.state.chan.receivers = 0
  · have counts := guarantee.balance
    have before : channel.state.receivers = [] :=
      List.length_eq_zero_iff.mp (core.handles.receivers.symm.trans alive)
    exact guarantee.evolves.empty (Chan.sealed_iff.mpr (.inr (.inr alive)))
      (core.handles.settled (by omega) before)
  · exact guarantee.emptied alive gone

/-- A channel that no handle keeps alive has no handles, and holds nothing. -/
theorem Handles.freed (handles : Handles channel) (last : channel.state.strong = 0) :
    channel.state.senders = [] ∧ channel.state.receivers = [] ∧
      channel.state.chan.contents = [] := by
  have counts := handles.strong
  have none : channel.state.senders.length + channel.state.receivers.length = 0 :=
    Nat.eq_zero_of_le_zero (last ▸ counts)
  have receivers := List.length_eq_zero_iff.mp (Nat.eq_zero_of_add_eq_zero_left none)
  exact ⟨List.length_eq_zero_iff.mp (Nat.eq_zero_of_add_eq_zero_right none), receivers,
    handles.settled (last.trans none.symm) receivers⟩

/-- A channel that no handle keeps alive stays so. -/
theorem Guarantee.freed (guarantee : Guarantee manners own spare channel after)
    (handles : Handles channel) (handles' : Handles after) (last : channel.state.strong = 0) :
    after.state.strong = 0 := by
  obtain ⟨senders, receivers, -⟩ := handles.freed last
  have senders' := guarantee.evolves.senders (handles.senders.trans (congrArg List.length senders))
  have receivers' :=
    guarantee.evolves.receivers (handles.receivers.trans (congrArg List.length receivers))
  have counts := guarantee.balance
  rw [handles'.senders] at senders'
  rw [handles'.receivers] at receivers'
  simp only [State.handles, senders, receivers, senders', receivers', List.length_nil] at counts
  omega

section Functions

variable {contract : Prog.Contract (Channel α) (Callback α) Panic}
  {admits : Callback α → Panic → Channel α → Prop} (setting : Setting manners contract admits)
  (aborts : SinglePanic Freed admits ∨ ∀ channel, contract.abort channel)
include setting aborts

/-- Freeing the channel drops the wakers left. -/
theorem freeChan_spec (inv : Inv manners channel) (last : channel.state.strong = 0) :
    (freeChan : M α Unit).wp contract
      (fun _ after => Inv manners after ∧ Guarantee manners none none channel after)
      (fun _ after => Inv manners after ∧ Guarantee manners none none channel after ∧
        ¬ SinglePanic Freed admits) channel := by
  obtain ⟨-, -, empty⟩ := inv.core.handles.freed last
  obtain ⟨vacant, drained⟩ := List.append_eq_nil_iff.mp empty
  have frees : Guarantee manners none none channel
      (channel.logged (.freed channel.state.chan.contents)) :=
    .logged channel (fun _ _ _ waits => waits) (fun _ last => last) (fun _ _ ended => ended)
      (fun _ _ resolved => resolved) (.inl rfl)
  have kept : Inv manners (channel.logged (.freed channel.state.chan.contents)) := by
    obtain ⟨⟨held, books, handles, futures, registries⟩, recvQuiet, sendQuiet⟩ := inv
    exact ⟨⟨held, { books with lawful := ⟨empty, books.lawful⟩ }, { handles with },
      { futures with }, { registries with }⟩, { recvQuiet with }, sendQuiet⟩
  have several : ∀ {before}, Guarantee manners none none channel before →
      Threw (Inv manners) (Guarantee manners none none) admits (∃ waker, · = .dropWaker waker)
        before → ¬ SinglePanic Freed admits := by
    rintro before drops ⟨code, payload, left, ⟨waker, rfl⟩, inv', drops', admitted⟩ single
    have free := (drops.trans drops').freed inv.core.handles inv'.core.handles last
    cases single with
    | wakes only =>
        obtain ⟨_, same⟩ := only _ _ _ admitted
        cases same
    | item count only =>
        obtain ⟨⟨_, same⟩, -⟩ := only _ _ _ admitted
        cases same
    | ownWaker only => exact (only _ _ _ admitted).2 free
  have allowed : ∀ {before}, Guarantee manners none none channel before →
      Threw (Inv manners) (Guarantee manners none none) admits (∃ waker, · = .dropWaker waker)
        before → ∀ after, Guarantee manners none none before after → contract.abort after :=
    fun drops threw after _ => aborts.resolve_left (several drops threw) after
  simp only [freeChan, dropGlue, Prog.wp_bind, wp_getChan, wp_emit, Prog.wp_ensuring, vacant,
    drained, dropItems, Prog.wp_pure]
  refine Prog.wp_mono (setting.relies.dropWakers carries _ (allowed frees) kept) ?_ ?_
  · rintro _ middle ⟨kept, drops⟩
    have drops := frees.trans drops
    refine Prog.wp_mono (setting.relies.dropWakers carries _ (allowed drops) kept) ?_ ?_
    · rintro _ after ⟨kept, drops'⟩
      exact ⟨kept, drops.trans drops'⟩
    · rintro _ after ⟨kept, drops', threw⟩
      exact ⟨kept, drops.trans drops', several drops threw⟩
  · rintro _ middle ⟨kept, drops, threw⟩
    have drops := frees.trans drops
    refine Prog.wp_mono (setting.relies.dropWakers carries _ (allowed drops) kept) ?_ ?_
    · rintro _ after ⟨kept, drops'⟩
      exact ⟨kept, drops.trans drops', several frees threw⟩
    · rintro _ after ⟨-, -, threw⟩
      exact aborts.resolve_left (several drops threw) after

/-- Releasing a share frees the channel if it was the last one. -/
theorem releaseChan_spec (inv : Inv manners (unshared channel)) :
    (releaseChan : M α Unit).wp contract
      (fun _ after => Inv manners after ∧ Guarantee manners none none (unshared channel) after)
      (fun _ after => Inv manners after ∧ Guarantee manners none none (unshared channel) after ∧
        ¬ SinglePanic Freed admits) channel := by
  simp only [releaseChan, Prog.wp_bind, wp_modifyState, wp_getState, Prog.wp_ite]
  by_cases last : (unshared channel).state.strong = 0
  · rw [if_pos last]
    exact freeChan_spec setting aborts inv last
  · rw [if_neg last]
    exact ⟨inv, .refl _⟩

/-- A destructor that gives up its share when it is over, however it is left. -/
theorem releasing_spec {act : M α Unit} (core : Core manners base)
    (acts : act.wp contract
      (fun _ after => Inv manners after ∧ after.state.handles < after.state.strong ∧
        Guarantee manners none none base (unshared after))
      (fun _ after => Inv manners after ∧ after.state.handles < after.state.strong ∧
        Guarantee manners none none base (unshared after)) channel) :
    (act.ensuring releaseChan).wp contract
      (fun _ after => Inv manners after ∧ Guarantee manners none none base after)
      (fun _ after => Inv manners after ∧ Guarantee manners none none base after) channel := by
  have released : ∀ before, Inv manners before → before.state.handles < before.state.strong →
      Guarantee manners none none base (unshared before) → Inv manners (unshared before) :=
    fun before inv shared changes => inv.unshare shared fun balance none =>
      changes.settled core inv.core.handles.receivers balance none
  rw [Prog.wp_ensuring]
  refine Prog.wp_mono acts ?_ ?_
  · rintro _ before ⟨inv, shared, changes⟩
    refine Prog.wp_mono (releaseChan_spec setting aborts (released before inv shared changes)) ?_ ?_
    · rintro _ after ⟨inv', frees⟩
      exact ⟨inv', changes.trans frees⟩
    · rintro _ after ⟨inv', frees, -⟩
      exact ⟨inv', changes.trans frees⟩
  · rintro _ before ⟨inv, shared, changes⟩
    refine Prog.wp_mono (releaseChan_spec setting aborts (released before inv shared changes)) ?_ ?_
    · rintro _ after ⟨inv', frees⟩
      exact ⟨inv', changes.trans frees⟩
    · rintro _ after ⟨-, -, several⟩
      exact aborts.resolve_left several after

end Functions

end Lochan.Mpmc
