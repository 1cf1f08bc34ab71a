import Lochan.Mpmc.Wakes

/-!
# Taking items out of an mpmc channel
-/

namespace Lochan.Mpmc

open Reentrant Queue

variable {α : Type} {manners : Manners} {own : Option Owner}
  {spare : Option (Side × UInt64)} {channel after : Channel α}

/-- An operation that uses a receiver keeps one alive. -/
theorem Handles.receiving (handles : Handles channel) (receiving : channel.state.Receiving) :
    channel.state.chan.receivers ≠ 0 := by
  obtain ⟨ref, used, receives⟩ := receiving
  have live := handles.uses ref used
  have alive : ∃ receiver, receiver ∈ channel.state.receivers := by
    cases ref with
    | sender _ | send _ => exact receives.elim
    | receiver receiver | receiverMut receiver => exact ⟨receiver, live⟩
    | recv future =>
        obtain ⟨this, found⟩ := Option.isSome_iff_exists.mp live
        exact ⟨_, (handles.recv future this found).1⟩
  obtain ⟨receiver, member⟩ := alive
  rw [handles.receivers]
  exact Nat.ne_of_gt (List.length_pos_of_mem member)

/-- An operation that receives goes on receiving. -/
theorem Evolves.receiving (evolves : Evolves manners own channel after)
    (receiving : channel.state.Receiving) : after.state.Receiving := by
  obtain ⟨ref, used, receives⟩ := receiving
  exact ⟨ref, evolves.uses ▸ used, receives⟩

/-- The channel with other contents. -/
abbrev restocked (channel : Channel α) (flavor : Flavor α) (redelivery : Option α) : Channel α :=
  channel.onState (·.onChan fun chan => { chan with flavor, redelivery })

section Restock

variable {flavor : Flavor α} {redelivery : Option α} {item : α}

/-- Moving items between the queue and the redelivery slot changes nothing. -/
theorem Core.restock (core : Core manners channel)
    (same : redelivery.toList ++ flavor.toList = channel.state.chan.contents) :
    Core manners (restocked channel flavor redelivery) := by
  obtain ⟨held, books, handles, futures, registries⟩ := core
  have contents : (restocked channel flavor redelivery).state.chan.contents =
      channel.state.chan.contents := same
  refine ⟨held, ?_, ?_, { futures with }, { registries with }⟩
  · exact { books with
      fifo := contents ▸ books.fifo
      released := fun released => contents ▸ books.released released
      observed := fun observed => contents ▸ books.observed observed }
  · exact { handles with
      settled := fun balance none => contents ▸ handles.settled balance none }

/-- Handing out the oldest item while a receiver is alive. -/
theorem Core.take (core : Core manners channel) (receiving : channel.state.Receiving)
    (first : channel.state.chan.contents = item :: (redelivery.toList ++ flavor.toList)) :
    Core manners ((restocked channel flavor redelivery).logged (.took item)) := by
  have alive := core.handles.receiving receiving
  obtain ⟨held, books, handles, futures, registries⟩ := core
  have nonempty : channel.state.chan.contents ≠ [] := by simp [first]
  have older : accepted channel.log =
      delivered channel.log ++ item :: (redelivery.toList ++ flavor.toList) := by
    rw [books.fifo, first, books.undrained alive, List.append_nil]
  refine ⟨held, ?_, ?_, { futures with }, { registries with }⟩
  · exact { books with
      fifo := by
        have fifo := books.fifo
        rw [first, books.undrained alive] at fifo
        have undrained : drained (.took item :: channel.log) = [] := books.undrained alive
        have contents : (restocked channel flavor redelivery).state.chan.contents =
          redelivery.toList ++ flavor.toList := rfl
        simp only [World.logged_log, World.onState_log, World.logged_state, contents, undrained]
        show accepted channel.log = delivered (.took item :: channel.log) ++ [] ++ _
        simp [fifo, delivered, Event.took?]
      released := fun released => absurd (books.released released) nonempty
      observed := fun observed => absurd (books.observed observed).2 nonempty
      lawful := ⟨⟨fun receiver last => alive (books.last receiver last), _, older⟩, books.lawful⟩ }
  · exact { handles with
      settled := fun balance none => absurd (handles.settled balance none) nonempty }

/-- Items are only taken out of the channel, or moved within it. -/
structure Restocks (channel : Channel α) (flavor : Flavor α) (redelivery : Option α) : Prop where
  cap : flavor.cap = channel.state.chan.flavor.cap
  vacant : channel.state.chan.redelivery = none
  slot : channel.state.chan.receivers = 0 → redelivery = none
  fewer : channel.state.chan.contents = [] → redelivery.toList ++ flavor.toList = []

/-- What follows on a change of the contents, where the redelivery slot is accounted for. -/
theorem Guarantee.of_restocked (restocks : Restocks channel flavor redelivery)
    (guarantee : Guarantee manners own spare (restocked channel flavor redelivery) after)
    (occupied : after.state.chan.redelivery ≠ none → Stranded after.log) :
    Guarantee manners own spare channel after := by
  have same : Evolves manners own channel channel := .refl channel
  have changes : Evolves manners own channel (restocked channel flavor redelivery) :=
    { same with
      empty := fun _ => restocks.fewer
      slot := fun none _ => restocks.slot none
      cap := restocks.cap
      parked := fun item held => absurd (restocks.vacant.symm.trans held) nofun }
  obtain ⟨evolves, balance, emptied, -, orphans, stuck⟩ := guarantee
  exact ⟨changes.trans evolves, balance, emptied, fun parked => .inl (occupied parked), orphans,
    stuck⟩

/-- Receivers stay quiet while items are only taken out. -/
theorem RecvQuiet.restock (quiet : RecvQuiet channel)
    (fewer : channel.state.chan.contents = [] → redelivery.toList ++ flavor.toList = []) :
    RecvQuiet (restocked channel flavor redelivery) where
  disconnected := quiet.disconnected
  empty fits owner waker receives free waits unfinished parked :=
    fewer (quiet.empty fits owner waker receives free waits unfinished parked)

/-- Receivers stay quiet when an item is handed out. -/
theorem RecvQuiet.took (quiet : RecvQuiet channel) (item : α) :
    RecvQuiet (channel.logged (.took item)) :=
  { quiet with }

/-- Handing out an item changes nothing else. -/
theorem Guarantee.took (channel : Channel α) (item : α) :
    Guarantee manners own spare channel (channel.logged (.took item)) :=
  .logged channel (fun _ _ _ waits => waits) (fun _ last => last) (fun _ _ ended => ended)
    (fun _ _ resolved => resolved) (.inl rfl)

/-- Handing out the item in the redelivery slot. -/
theorem Inv.reclaim (inv : Inv manners channel) (receiving : channel.state.Receiving)
    (parked : channel.state.chan.redelivery = some item) :
    Inv manners ((restocked channel channel.state.chan.flavor none).logged (.took item)) ∧
      Guarantee manners own spare channel
        ((restocked channel channel.state.chan.flavor none).logged (.took item)) := by
  have first : channel.state.chan.contents =
      item :: ((none : Option α).toList ++ channel.state.chan.flavor.toList) := by
    simp [Chan.contents, parked]
  have fewer : channel.state.chan.contents = [] →
      (none : Option α).toList ++ channel.state.chan.flavor.toList = [] := by simp [first]
  have alive := inv.core.handles.receiving receiving
  have taken : Guarantee manners own spare channel (channel.logged (.took item)) :=
    .took channel item
  have removes : removals channel.log < removals (.took item :: channel.log) := by
    simp [removals, delivered, drained, Event.took?, Event.drained?]
  exact ⟨⟨inv.core.take receiving first, (inv.recvQuiet.restock fewer).took item, inv.sendQuiet⟩,
    { taken with
      evolves := { taken.evolves with
        empty := fun _ => fewer
        slot := fun _ _ => rfl
        parked := fun _ _ => .inr removes }
      emptied := fun _ none => absurd none alive
      occupied := fun parked => absurd rfl parked }⟩

/-- A receive that finds the channel empty says so. -/
theorem Inv.miss (inv : Inv manners channel) (empty : channel.state.chan.contents = []) :
    Inv manners (channel.logged (.missed channel.state.chan.contents)) ∧
      Guarantee manners own spare channel
        (channel.logged (.missed channel.state.chan.contents)) := by
  obtain ⟨⟨held, books, handles, futures, registries⟩, recvQuiet, sendQuiet⟩ := inv
  have emptied : Emptied channel.log := by rw [Emptied, books.fifo, empty, List.append_nil]
  refine ⟨⟨⟨held, { books with lawful := ⟨⟨empty, emptied⟩, books.lawful⟩ }, { handles with },
    { futures with }, { registries with }⟩, { recvQuiet with }, sendQuiet⟩, ?_⟩
  exact .logged channel (fun _ _ _ waits => waits) (fun _ last => last) (fun _ _ ended => ended)
    (fun _ _ resolved => resolved) (.inl rfl)

/-- A receive that unwinds out of a wake leaves its item where it is. -/
theorem Inv.strand (inv : Inv manners channel) (noisy : ¬ manners.quiet) :
    Inv manners (channel.logged .stranded) := by
  obtain ⟨⟨held, books, handles, futures, registries⟩, recvQuiet, sendQuiet⟩ := inv
  exact ⟨⟨held, { books with quiet := fun quiet => absurd quiet noisy }, { handles with },
    { futures with }, { registries with }⟩, { recvQuiet with }, sendQuiet⟩

/-- A wake that unwinds changes nothing else. -/
theorem Guarantee.strand (channel : Channel α) :
    Guarantee manners own spare channel (channel.logged .stranded) :=
  .logged channel (fun _ _ _ waits => waits) (fun _ last => last) (fun _ _ ended => ended)
    (fun _ _ resolved => resolved) (.inl rfl)

end Restock

section Functions

variable {contract : Prog.Contract (Channel α) (Callback α) Panic}
  {admits : Callback α → Panic → Channel α → Prop} (setting : Setting manners contract admits)
include setting

/-- One turn of the loop: it hands out the oldest item, finds the channel empty, or goes
round again after others took an item out. -/
theorem tryTakeTurn_spec (inv : Inv manners channel) (receiving : channel.state.Receiving) :
    (tryTakeTurn : M α (Option (Option α))).wp contract
      (fun yielded after => Inv manners after ∧ Guarantee manners none none channel after ∧
        match yielded with
        | none => removals channel.log < removals after.log
        | some none => after.state.chan.contents = []
        | some (some _) => channel.state.chan.contents ≠ [] ∧ after.state.chan.redelivery = none)
      (fun _ after => Inv manners after ∧ Guarantee manners none none channel after) channel := by
  obtain ⟨core, recvQuiet, sendQuiet⟩ := inv
  have alive := core.handles.receiving receiving
  have slot : ∀ {redelivery : Option α}, channel.state.chan.receivers = 0 → redelivery = none :=
    fun none => absurd none alive
  simp only [tryTakeTurn, Prog.wp_bind]
  refine wp_takeRedelivery core.held (fun vacant => ?_) fun item parked => ?_
  · simp only [Prog.wp_bind]
    refine wp_pop core.held fun popped rest capacity => ?_
    have gone : ∀ {after : Channel α}, after.state.chan.redelivery = none →
        after.state.chan.redelivery ≠ none → Stranded after.log := fun none some => absurd none some
    cases queued : channel.state.chan.flavor.toList with
    | nil =>
        have none : channel.state.chan.redelivery.toList ++ popped.toList = [] := by
          simp [vacant, rest, queued]
        have same : channel.state.chan.redelivery.toList ++ popped.toList =
            channel.state.chan.contents := by
          simp [Chan.contents, vacant, queued, rest]
        have popped_quiet :
            SendQuiet (restocked channel popped channel.state.chan.redelivery) := by
          intro fits owner waker sends free waits unfinished registered
          have full := sendQuiet fits owner waker sends free waits unfinished registered
          rw [Flavor.isFull_iff] at full ⊢
          have length : popped.toList.length = channel.state.chan.flavor.toList.length := by
            simp [rest, queued]
          exact capacity.trans (full.trans (congrArg some length.symm))
        have inv : Inv manners (restocked channel popped channel.state.chan.redelivery) :=
          ⟨core.restock same, recvQuiet.restock fun _ => none, popped_quiet⟩
        obtain ⟨inv', misses⟩ := inv.miss none
        exact ⟨inv', .of_restocked ⟨capacity, vacant, slot, fun _ => none⟩ misses (gone vacant),
          none⟩
    | cons item tail =>
        have first : channel.state.chan.contents =
            item :: (channel.state.chan.redelivery.toList ++ popped.toList) := by
          simp [Chan.contents, vacant, queued, rest]
        have nonempty : channel.state.chan.contents ≠ [] := by simp [first]
        simp only [List.head?_cons, Prog.wp_bind]
        rw [wp_hasParkedSenders (show (channel.onState _).held = [] from core.held)]
        by_cases quiet : channel.state.chan.sendWakers = []
        · simp only [World.onState_state, State.onChan_chan, quiet, List.isEmpty_nil, Bool.not_true,
            Bool.not_false, ↓reduceIte, Prog.wp_bind, wp_emit]
          have fewer : channel.state.chan.contents = [] →
              channel.state.chan.redelivery.toList ++ popped.toList = [] := by simp [first]
          exact ⟨⟨core.take receiving first, (recvQuiet.restock fewer).took item, .of_nil quiet⟩,
            .of_restocked ⟨capacity, vacant, slot, fewer⟩ (.took _ item) (gone vacant),
            nonempty, vacant⟩
        · have busy : (!(!channel.state.chan.sendWakers.isEmpty)) = false := by
            simpa using quiet
          simp only [World.onState_state, State.onChan_chan, busy, Bool.false_eq_true, ↓reduceIte,
            Prog.wp_bind, Prog.wp_guarded, wp_emit]
          refine wp_setRedelivery (show (channel.onState _).held = [] from core.held) vacant ?_
          have same : (some item).toList ++ popped.toList = channel.state.chan.contents := by
            simp [first, vacant]
          have some : channel.state.chan.contents = [] →
              (some item).toList ++ popped.toList = [] := by simp [first]
          have restocks : Restocks channel popped (.some item) := ⟨capacity, vacant, slot, some⟩
          refine Prog.wp_mono (wakeSenders_spec setting (core.restock same)
            (recvQuiet.restock some)) ?_ ?_
          · rintro _ woken ⟨inv, guaranteed, -, -⟩
            refine wp_takeRedelivery inv.core.held (fun vacated => ?_) fun reclaimed found => ?_
            · -- Someone else took the parked item.
              have removed := (guaranteed.evolves.parked item rfl).resolve_left
                fun kept => absurd (vacated.symm.trans kept) (by rintro ⟨⟩)
              exact ⟨inv, .of_restocked restocks guaranteed (gone vacated), removed⟩
            · obtain ⟨inv', took⟩ := inv.reclaim (guaranteed.evolves.receiving receiving) found
              exact ⟨inv', .of_restocked restocks (guaranteed.trans took) (gone rfl), nonempty, rfl⟩
          · rintro _ woken ⟨inv, guaranteed, -, raised, -⟩
            exact ⟨inv.strand fun quiet => setting.quiet quiet raised,
              .of_restocked restocks (guaranteed.trans (.strand woken)) fun _ => trivial⟩
  · obtain ⟨inv, took⟩ := (Inv.mk core recvQuiet sendQuiet).reclaim receiving parked
    exact ⟨inv, took, by simp [Chan.contents, parked], rfl⟩

omit setting in
/-- No more items leave the channel than were accepted. -/
theorem Books.removals_le (books : Books manners channel) :
    removals channel.log ≤ (accepted channel.log).length := by
  have := congrArg List.length books.fifo
  simp only [List.length_append] at this
  simp only [removals]
  omega

/-- Taking an item: the oldest item is handed out, or the channel is found empty. -/
theorem tryTake_spec (inv : Inv manners channel) (receiving : channel.state.Receiving) :
    (tryTake : M α (Option α)).wp contract
      (fun taken after => Inv manners after ∧ Guarantee manners none none channel after ∧
        (taken = none → after.state.chan.contents = []) ∧
        (taken ≠ none →
          (channel.state.chan.sealed = true → channel.state.chan.contents ≠ []) ∧
          after.state.chan.redelivery = none))
      (fun _ after => Inv manners after ∧ Guarantee manners none none channel after) channel := by
  -- A turn that goes round again follows on the removal of an item.
  intro count granted
  refine Prog.wp_iterate (fun left after => Inv manners after ∧
    Guarantee manners none none channel after ∧ count ≤ removals after.log + left)
    ⟨inv, .refl channel, Nat.le_add_left ..⟩ ?_ ?_
  · rintro after ⟨inv, -, enough⟩
    exact setting.hangs count granted after (Nat.le_trans enough inv.core.books.removals_le)
  rintro left before ⟨inv, guaranteed, enough⟩
  refine Prog.wp_mono (tryTakeTurn_spec setting inv (guaranteed.evolves.receiving receiving)) ?_ ?_
  · rintro yielded after ⟨inv', guaranteed', yields⟩
    cases yielded with
    | none => exact ⟨inv', guaranteed.trans guaranteed', by omega⟩
    | some taken =>
        cases taken with
        | none =>
            exact ⟨inv', guaranteed.trans guaranteed', fun _ => yields, fun some => absurd rfl some⟩
        | some item =>
            obtain ⟨nonempty, vacant⟩ := yields
            exact ⟨inv', guaranteed.trans guaranteed', nofun, fun _ =>
              ⟨fun is_sealed none => nonempty (guaranteed.evolves.empty is_sealed none), vacant⟩⟩
  · rintro _ after ⟨inv', guaranteed'⟩
    exact ⟨inv', guaranteed.trans guaranteed'⟩

end Functions

end Lochan.Mpmc
