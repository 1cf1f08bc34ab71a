import Lochan.SinglePanic
import Lochan.Mpsc.Wakes

/-!
# Emptying and freeing an mpsc channel

The receiver drains the queue, going on when the destructor of an item panics. The last handle
frees what is left.
-/

namespace Lochan.Mpsc

open Reentrant Queue

variable {α : Type} {manners : Manners} {own : Option Owner} {base channel after : Channel α}

/-! ### Draining -/

/-- The receiver is being dropped, and the parked senders have been woken. -/
structure Draining (manners : Manners) (receiver : Nat) (channel : Channel α) : Prop where
  gone : channel.state.chan.receiverAlive = false
  last : LastReceiver receiver channel.log
  alerted : manners.calmDrop receiver → Alerted channel.log

/-- The receiver goes on draining after whatever a callback does. -/
theorem Draining.later {receiver : Nat} (draining : Draining manners receiver channel)
    (evolves : Evolves manners own channel after) : Draining manners receiver after where
  gone := evolves.receiver draining.gone
  last := draining.last.later evolves.log
  alerted calm := (draining.alerted calm).later evolves.log

/-- The channel in which the destructor of an item taken out by draining runs. -/
abbrev discarding (channel : Channel α) (flavor : Flavor α) (item : α) : Channel α :=
  (restocked channel flavor).logged (.called (.dropQueued item))

section Discard

variable {flavor : Flavor α} {item : α} {receiver : Nat}
  (first : channel.state.chan.contents = item :: flavor.toList)
include first

/-- Dropping the head keeps the invariant while the receiver drains. -/
theorem Inv.discard (inv : Inv manners channel) (draining : Draining manners receiver channel) :
    Inv manners (discarding channel flavor item) := by
  obtain ⟨held, books, handles, futures, registry⟩ := inv
  have silent : Silent channel (.called (.dropQueued item)) := .called channel _
  have filled : channel.state.chan.contents ≠ [] := by simp [first]
  refine ⟨held, ?_, ?_, ?_, { registry with }⟩
  · exact { books with
      fifo := by
        have drops : drained (discarding channel flavor item).log = drained channel.log ++ [item] :=
          by simp [drained, Event.drained?]
        have accepts : accepted (discarding channel flavor item).log = accepted channel.log := by
          simp [accepted, Event.pushed?]
        have fifo := books.fifo
        rw [first] at fifo
        rw [accepts, show delivered (discarding channel flavor item).log = _ from silent.delivers,
          drops, fifo]
        simp [Chan.contents]
      undrained := fun alive => nomatch draining.gone.symm.trans alive
      released := fun released => absurd (books.released released) filled
      observed := fun observed => absurd (books.observed observed).2 filled
      drains := fun other calm last =>
        ⟨draining.alerted (books.sole other receiver last draining.last ▸ calm),
          books.drains other calm last⟩
      received := fun quiet free =>
        silent.receives.trans ((books.received quiet free).trans silent.delivers.symm) }
  · exact { handles with
      settled := fun balance gone => absurd (handles.settled balance gone) filled
      expecting := fun owner waker expects =>
        handles.expecting owner waker (silent.expects _ expects) }
  · exact { futures with
      notified := fun prompt future free => owed_called_none (futures.notified prompt future free) }

/-- Dropping the head is a step that an operation may make while no receiver is in use. -/
theorem Guarantee.discard (idle : ¬ channel.state.InUse) :
    Guarantee manners own channel (discarding channel flavor item) := by
  have called : Guarantee manners own channel (channel.logged (.called (.dropQueued item))) :=
    .logged (.called channel _)
  have filled : channel.state.chan.contents ≠ [] := by simp [first]
  exact { called with
    evolves := { called.evolves with
      empty := fun _ empty => absurd empty filled
      reserved := fun inUse => absurd inUse idle
      missing := fun orderly owner waker missing =>
        called.evolves.missing orderly owner waker { missing with } }
    tally := { called.tally with
      emptied := fun alive gone => nomatch alive.symm.trans gone }
    retained := fun _ retained => { retained with }
    exposed := fun orderly owner waker exposed =>
      called.exposed orderly owner waker { exposed with urgent := .inl filled } }

end Discard

section Restock

variable {flavor : Flavor α} (empty : channel.state.chan.contents = []) (none : flavor.toList = [])
include empty none

/-- A pop that finds nothing changes nothing. -/
theorem Inv.restock (inv : Inv manners channel) : Inv manners (restocked channel flavor) := by
  obtain ⟨held, books, handles, futures, registry⟩ := inv
  have contents : (restocked channel flavor).state.chan.contents = channel.state.chan.contents :=
    none.trans empty.symm
  refine ⟨held, ?_, { handles with settled := fun _ _ => none }, { futures with },
    { registry with }⟩
  exact { books with
    fifo := by
      rw [contents]
      exact books.fifo
    released := fun _ => none
    observed := fun observed => ⟨(books.observed observed).1, none⟩ }

/-- A drained block that is freed shows nowhere. -/
theorem Guarantee.restock : Guarantee manners own channel (restocked channel flavor) := by
  have same : Guarantee manners own channel channel := .refl channel
  have contents : (restocked channel flavor).state.chan.contents = channel.state.chan.contents :=
    none.trans empty.symm
  exact { same with
    evolves := { same.evolves with
      empty := fun _ _ => none
      reserved := fun _ _ => { Reserved.refl channel with
        contents := contents ▸ List.prefix_refl _
        waker := .inl rfl }
      missing := fun _ _ _ missing => { missing with } }
    tally := { same.tally with
      emptied := fun _ _ => none
      stuck := fun _ rejecting _ member => ⟨rejecting, member⟩ }
    retained := fun _ retained => { retained with }
    exposed := fun _ _ _ exposed => .inl { exposed with
      urgent := exposed.urgent.imp_left fun some => absurd none some } }

end Restock

/-- No handle keeps the channel alive. -/
abbrev Freed (channel : Channel α) : Prop := channel.state.strong = 0

/-- What the drops of handles rely on besides. A loop that uses up its budget has dropped as
many items. -/
structure DropSetting (manners : Manners)
    (contract : Prog.Contract (Channel α) (Callback α) Panic)
    (admits : Callback α → Panic → Channel α → Prop) : Prop
    extends Setting manners contract admits where
  single : SinglePanic Freed admits ∨ ∀ channel, contract.abort channel
  hangs : ∀ count channel, contract.grants count → count ≤ (accepted channel.log).length →
    contract.hang channel

/-- What was drained was accepted. -/
theorem Inv.drained_le (inv : Inv manners channel) :
    (drained channel.log).length ≤ (accepted channel.log).length := by
  rw [inv.books.fifo, List.length_append, List.length_append]
  omega

section Functions

variable {contract : Prog.Contract (Channel α) (Callback α) Panic}
  {admits : Callback α → Panic → Channel α → Prop}
  (setting : DropSetting manners contract admits) {receiver : Nat}
include setting

/-- Dropping one item taken out of the channel. -/
theorem discard_spec {flavor : Flavor α} {item : α} (inv : Inv manners channel)
    (draining : Draining manners receiver channel)
    (first : channel.state.chan.contents = item :: flavor.toList) :
    (callback (.dropQueued item) : M α Unit).wp contract
      (fun _ after => Inv manners after ∧ Guarantee manners none channel after ∧
        (drained channel.log).length < (drained after.log).length)
      (fun _ after => Inv manners after ∧ Guarantee manners none channel after ∧
        Struck admits channel after) (restocked channel flavor) := by
  have idle : ¬ channel.state.InUse := fun inUse =>
    nomatch draining.gone.symm.trans (inv.handles.inUse inUse)
  have entered := inv.discard first draining
  have discards : Guarantee manners none channel (discarding channel flavor item) :=
    .discard first idle
  have more : (drained channel.log).length <
      (drained (discarding channel flavor item).log).length := by
    simp [drained, Event.drained?]
  refine setting.relies.enters (.dropQueued item) entered ?_ ?_
  · intro after kept guaranteed
    exact ⟨kept, discards.trans guaranteed,
      Nat.lt_of_lt_of_le more (drained_mono guaranteed.evolves.log)⟩
  · intro payload after kept guaranteed admitted
    obtain ⟨kept', logs⟩ := carries.logged after (.panicked (.dropQueued item)) trivial kept
    exact ⟨kept', discards.trans (guaranteed.trans logs), item, payload, after, admitted,
      Nat.lt_of_lt_of_le more (drained_mono guaranteed.evolves.log), drained_mono logs.evolves.log⟩

/-- Draining drops every item, also when the destructor of one panics. -/
theorem drainWithin_spec (depth : Nat) {total : Nat} (granted : contract.grants total)
    (bound : total ≤ depth + (drained channel.log).length) (inv : Inv manners channel)
    (draining : Draining manners receiver channel) :
    (drainWithin depth : M α Unit).wp contract
      (fun _ after => Inv manners after ∧ Guarantee manners none channel after ∧
        after.state.chan.contents = [])
      (fun _ after => Inv manners after ∧ Guarantee manners none channel after ∧
        after.state.chan.contents = [] ∧ Struck admits channel after) channel := by
  induction depth generalizing channel with
  | zero =>
      have drops := inv.drained_le
      exact setting.hangs total channel granted (by omega)
  | succ depth ih =>
      simp only [drainWithin, Prog.wp_guarded]
      intro count granted'
      refine Prog.wp_iterate (fun left before => Inv manners before ∧
        Guarantee manners none channel before ∧ count ≤ left + (drained before.log).length)
        ⟨inv, .refl channel, Nat.le_add_right _ _⟩ ?_ ?_
      · rintro before ⟨inv', -, enough⟩
        have drops := inv'.drained_le
        exact setting.hangs count before granted' (by omega)
      rintro left before ⟨inv, reached, enough⟩
      have draining := draining.later reached.evolves
      rw [Prog.wp_bind]
      refine wp_pop inv.held fun flavor contents _ => ?_
      cases found : before.state.chan.flavor.toList with
      | nil =>
          have none : flavor.toList = [] := by rw [contents, found, List.tail_nil]
          exact ⟨inv.restock found none, reached.trans (.restock found none), none⟩
      | cons item rest =>
          have first : before.state.chan.contents = item :: flavor.toList := by
            rw [contents]
            exact found.trans (by rw [found, List.tail_cons])
          simp only [List.head?_cons, Prog.wp_bind]
          refine Prog.wp_mono (discard_spec setting inv draining first) ?_ ?_
          · rintro _ after ⟨inv', drops, more⟩
            exact ⟨inv', reached.trans drops, by omega⟩
          · -- A panic is followed by a nested drain; a panic in that one would be the second.
            rintro payload after ⟨inv', drops, struck⟩
            have struck := struck.before reached.evolves.log
            have reached := reached.trans drops
            have more : (drained channel.log).length < (drained after.log).length := by
              obtain ⟨_, _, left, -, beyond, until_⟩ := struck
              exact Nat.lt_of_lt_of_le beyond until_
            refine Prog.wp_mono (ih (by omega) inv' (draining.later drops.evolves)) ?_ ?_
            · rintro _ last ⟨inv'', drains, empty⟩
              exact ⟨inv'', reached.trans drains, empty, struck.until drains.evolves.log⟩
            · rintro _ last ⟨-, -, -, struck'⟩
              exact setting.single.elim (fun single => (single.once struck struck').elim)
                fun all => all last

/-- Draining empties the channel, unless the drop of an item panics. -/
theorem drain_spec (inv : Inv manners channel) (draining : Draining manners receiver channel) :
    (drain : M α Unit).wp contract
      (fun _ after => Inv manners after ∧ Guarantee manners none channel after ∧
        after.state.chan.contents = [])
      (fun _ after => Inv manners after ∧ Guarantee manners none channel after ∧
        after.state.chan.contents = [] ∧ Struck admits channel after) channel :=
  fun depth granted =>
    drainWithin_spec setting depth granted (Nat.le_add_right _ _) inv draining

end Functions

/-! ### Releasing a share -/

/-- The channel after a share in it was released. -/
abbrev unshared (channel : Channel α) : Channel α :=
  channel.onState fun state => { state with strong := state.strong - 1 }

/-- Giving up a count of the core keeps the invariant, if the last one leaves no items. -/
theorem Inv.unshare (inv : Inv manners channel)
    (shared : channel.state.handles < channel.state.strong)
    (settled : (unshared channel).state.strong = channel.state.handles →
      channel.state.receiver = none → channel.state.chan.contents = []) :
    Inv manners (unshared channel) := by
  obtain ⟨held, books, handles, futures, registry⟩ := inv
  refine ⟨held, { books with }, ?_, { futures with }, { registry with }⟩
  exact { handles with
    strong := Nat.le_sub_one_of_lt shared
    settled := settled }

/-- With the counts in step, a channel without its receiver stays empty. -/
theorem Guarantee.settled (guarantee : Guarantee manners own channel after)
    (handles : Handles channel)
    (count : after.state.chan.receiverAlive = after.state.receiver.isSome)
    (balance : after.state.strong = after.state.handles) (none : after.state.receiver = none) :
    after.state.chan.contents = [] := by
  have gone : after.state.chan.receiverAlive = false := by
    rw [count, none]
    rfl
  cases alive : channel.state.chan.receiverAlive with
  | true => exact guarantee.tally.emptied alive gone
  | false =>
      have counts := guarantee.tally.balance
      have before : channel.state.receiver = Option.none := by
        have count := handles.receiver
        rw [alive] at count
        exact Option.isNone_iff_eq_none.mp (by simpa using count.symm)
      exact guarantee.evolves.empty (Chan.terminal_iff.mpr (.inl alive))
        (handles.settled (by omega) before)

/-- A channel that no handle keeps alive has no handles, and holds nothing. -/
theorem Handles.freed (handles : Handles channel) (last : Freed channel) :
    channel.state.senders = [] ∧ channel.state.receiver = none ∧
      channel.state.chan.contents = [] := by
  have counts := handles.strong
  have none : channel.state.senders.length + channel.state.receiver.toList.length = 0 :=
    Nat.eq_zero_of_le_zero (last ▸ counts)
  have receiver : channel.state.receiver = Option.none :=
    Option.toList_eq_nil_iff.mp (List.length_eq_zero_iff.mp (Nat.eq_zero_of_add_eq_zero_left none))
  exact ⟨List.length_eq_zero_iff.mp (Nat.eq_zero_of_add_eq_zero_right none), receiver,
    handles.settled (last.trans none.symm) receiver⟩

/-- A channel that no handle keeps alive stays so. -/
theorem Guarantee.freed (guarantee : Guarantee manners own channel after)
    (handles : Handles channel) (handles' : Handles after) (last : Freed channel) :
    Freed after := by
  obtain ⟨senders, receiver, -⟩ := handles.freed last
  have senders' := guarantee.evolves.senders (handles.senders.trans (congrArg List.length senders))
  have receiver' := guarantee.evolves.receiver
    (handles.receiver.trans (congrArg Option.isSome receiver))
  have counts := guarantee.tally.balance
  rw [handles'.senders] at senders'
  have none : after.state.receiver = Option.none := by
    rw [handles'.receiver] at receiver'
    simpa using receiver'
  have zero : channel.state.strong = 0 := last
  simp only [State.handles, senders, receiver, none, senders', Option.toList_none,
    List.length_nil] at counts
  show after.state.strong = 0
  omega

section Functions

variable {contract : Prog.Contract (Channel α) (Callback α) Panic}
  {admits : Callback α → Panic → Channel α → Prop}
  (setting : DropSetting manners contract admits)
include setting

/-- Freeing the channel drops the wakers left. -/
theorem freeChan_spec (inv : Inv manners channel) (last : Freed channel) :
    (freeChan : M α Unit).wp contract
      (fun _ after => Inv manners after ∧ Guarantee manners none channel after)
      (fun _ after => Inv manners after ∧ Guarantee manners none channel after ∧
        ¬ SinglePanic Freed admits) channel := by
  obtain ⟨-, -, empty⟩ := inv.handles.freed last
  have vacant : channel.state.chan.flavor.toList = [] := empty
  have silent : Silent channel (.freed channel.state.chan.contents) :=
    { expects := fun _ => id
      delivers := by simp [delivered, Event.took?]
      receives := by simp [received, Event.received?]
      resolves := fun _ _ => id
      commits := fun _ => id
      owes := fun _ _ => id }
  have frees : Guarantee manners none channel
      (channel.logged (.freed channel.state.chan.contents)) := .logged silent
  have kept : Inv manners (channel.logged (.freed channel.state.chan.contents)) := by
    obtain ⟨held, books, handles, futures, registry⟩ := inv
    exact ⟨held, { books with lawful := ⟨empty, books.lawful⟩ }, { handles with },
      { futures with }, { registry with }⟩
  have several : ∀ {before}, Guarantee manners none channel before →
      Threw (Inv manners) (Guarantee manners none) admits (∃ waker, · = .dropWaker waker)
        before → ¬ SinglePanic Freed admits := by
    rintro before drops ⟨code, payload, left, ⟨waker, rfl⟩, inv', drops', admitted⟩ single
    have free := (drops.trans drops').freed inv.handles inv'.handles last
    cases single with
    | wakes only =>
        obtain ⟨_, same⟩ := only _ _ _ admitted
        cases same
    | item count only =>
        obtain ⟨⟨_, same⟩, -⟩ := only _ _ _ admitted
        cases same
    | ownWaker only => exact (only _ _ _ admitted).2 free
  have allowed : ∀ {before}, Guarantee manners none channel before →
      Threw (Inv manners) (Guarantee manners none) admits (∃ waker, · = .dropWaker waker)
        before → ∀ after, Guarantee manners none before after → contract.abort after :=
    fun drops threw after _ => setting.single.resolve_left (several drops threw) after
  simp only [freeChan, dropGlue, Prog.wp_bind, wp_getChan, wp_emit, Prog.wp_ensuring, vacant,
    dropItems, Prog.wp_pure]
  refine Prog.wp_mono (setting.relies.dropWakers carries _ (allowed frees) kept) ?_ ?_
  · rintro _ middle ⟨kept, drops⟩
    have drops := frees.trans drops
    refine Prog.wp_mono (setting.relies.dropWakers carries _ (allowed drops) kept) ?_ ?_
    · rintro _ after ⟨kept, drops'⟩
      exact ⟨kept, drops.trans drops'⟩
    · rintro _ after ⟨kept, drops', threw⟩
      exact ⟨kept, drops.trans drops', several drops threw⟩
  · rintro _ middle ⟨kept, drops, threw⟩
    have drops := frees.trans drops
    refine Prog.wp_mono (setting.relies.dropWakers carries _ (allowed drops) kept) ?_ ?_
    · rintro _ after ⟨kept, drops'⟩
      exact ⟨kept, drops.trans drops', several frees threw⟩
    · rintro _ after ⟨-, -, threw⟩
      exact setting.single.resolve_left (several drops threw) after

/-- Releasing a share frees the channel if it was the last one. -/
theorem releaseChan_spec (inv : Inv manners (unshared channel)) :
    (releaseChan : M α Unit).wp contract
      (fun _ after => Inv manners after ∧ Guarantee manners none (unshared channel) after)
      (fun _ after => Inv manners after ∧ Guarantee manners none (unshared channel) after ∧
        ¬ SinglePanic Freed admits) channel := by
  simp only [releaseChan, Prog.wp_bind, wp_modifyState, wp_getState, Prog.wp_ite]
  by_cases last : (unshared channel).state.strong = 0
  · rw [if_pos last]
    exact freeChan_spec setting inv last
  · rw [if_neg last]
    exact ⟨inv, .refl _⟩

/-- A destructor that gives up its share when it is over, however it is left. -/
theorem releasing_spec {act : M α Unit} (inv : Inv manners base)
    (acts : act.wp contract
      (fun _ after => Inv manners after ∧ after.state.handles < after.state.strong ∧
        Guarantee manners none base (unshared after))
      (fun _ after => Inv manners after ∧ after.state.handles < after.state.strong ∧
        Guarantee manners none base (unshared after)) channel) :
    (act.ensuring releaseChan).wp contract
      (fun _ after => Inv manners after ∧ Guarantee manners none base after)
      (fun _ after => Inv manners after ∧ Guarantee manners none base after) channel := by
  have released : ∀ before, Inv manners before → before.state.handles < before.state.strong →
      Guarantee manners none base (unshared before) → Inv manners (unshared before) :=
    fun before inv' shared changes => inv'.unshare shared fun balance none =>
      changes.settled inv.handles inv'.handles.receiver balance none
  rw [Prog.wp_ensuring]
  refine Prog.wp_mono acts ?_ ?_
  · rintro _ before ⟨inv', shared, changes⟩
    refine Prog.wp_mono (releaseChan_spec setting (released before inv' shared changes)) ?_ ?_
    · rintro _ after ⟨inv', frees⟩
      exact ⟨inv', changes.trans frees⟩
    · rintro _ after ⟨inv', frees, -⟩
      exact ⟨inv', changes.trans frees⟩
  · rintro _ before ⟨inv', shared, changes⟩
    refine Prog.wp_mono (releaseChan_spec setting (released before inv' shared changes)) ?_ ?_
    · rintro _ after ⟨inv', frees⟩
      exact ⟨inv', changes.trans frees⟩
    · rintro _ after ⟨-, -, several⟩
      exact setting.single.resolve_left several after

end Functions

end Lochan.Mpsc
