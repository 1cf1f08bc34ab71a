import Lochan.Mpsc.Wakes

/-!
# Receiving from an mpsc channel

An item that was popped belongs to the receive while it wakes the parked senders. The slot of
the receiver is only written by the receive in progress, unless a waker is taken out of it
because there is something to hear of.
-/

namespace Lochan.Mpsc

open Reentrant Queue

variable {α : Type} {manners : Manners} {own : Option Owner} {base channel after : Channel α}

/-- What a receive did to the items and to the task that waits. -/
structure Receives (item : Option α) (before after : Channel α) : Prop where
  delivered : delivered after.log = delivered before.log ++ item.toList
  received : received after.log = received before.log
  expects : ∀ polled, expecting after.log = some polled → expecting before.log = some polled

namespace Receives

/-- Nothing need be received. -/
theorem refl (channel : Channel α) : Receives none channel channel :=
  ⟨(List.append_nil _).symm, rfl, fun _ => id⟩

/-- A receive may follow what received nothing. -/
theorem trans {first second third : Channel α} {item : Option α}
    (earlier : Receives none first second) (later : Receives item second third) :
    Receives item first third where
  delivered := by rw [later.delivered, earlier.delivered, Option.toList_none, List.append_nil]
  received := later.received.trans earlier.received
  expects polled expects := earlier.expects polled (later.expects polled expects)

/-- User code does not receive while the receiver is in use. -/
theorem later {item : Option α} (receives : Receives item base channel)
    (inUse : channel.state.InUse) (guarantee : Guarantee manners none channel after) :
    Receives item base after where
  delivered := (guarantee.evolves.reserved inUse nofun).delivered.trans receives.delivered
  received := (guarantee.evolves.reserved inUse nofun).received.trans receives.received
  expects polled expects :=
    receives.expects polled ((guarantee.evolves.reserved inUse nofun).expects polled expects)

end Receives

/-! ### Taking an item -/

/-- The channel after a receive found nothing. -/
abbrev missed (channel : Channel α) (flavor : Flavor α) : Channel α :=
  (restocked channel flavor).logged (.missed [])

/-- The channel after an item was popped for a receive. -/
abbrev took (channel : Channel α) (flavor : Flavor α) (item : α) : Channel α :=
  (restocked channel flavor).logged (.took item)

section Take

variable {flavor : Flavor α} {item : α}

/-- Asking an empty queue keeps the invariant, and may free a drained block. -/
theorem Inv.missed (inv : Inv manners channel) (empty : channel.state.chan.contents = [])
    (none : flavor.toList = []) : Inv manners (missed channel flavor) := by
  obtain ⟨held, books, handles, futures, registry⟩ := inv
  have contents : (Mpsc.missed channel flavor).state.chan.contents = channel.state.chan.contents :=
    none.trans empty.symm
  have emptied : Emptied channel.log := by
    rw [Emptied, books.fifo, empty, List.append_nil]
  refine ⟨held, ?_, ?_, { futures with }, { registry with }⟩
  · exact { books with
      fifo := by
        rw [contents]
        exact books.fifo
      released := fun _ => none
      observed := fun observed => ⟨(books.observed observed).1, none⟩
      lawful := ⟨⟨rfl, emptied⟩, books.lawful⟩ }
  · exact { handles with settled := fun _ _ => none }

/-- Asking an empty queue is a step that an operation may make. -/
theorem Guarantee.missed (empty : channel.state.chan.contents = []) (none : flavor.toList = []) :
    Guarantee manners own channel (missed channel flavor) := by
  have same : Guarantee manners own channel channel := .refl channel
  have contents : (Mpsc.missed channel flavor).state.chan.contents = channel.state.chan.contents :=
    none.trans empty.symm
  exact { same with
    evolves := { same.evolves with
      log := List.suffix_cons ..
      empty := fun _ _ => none
      reserved := fun _ _ =>
        { delivered := by simp [delivered, Event.took?]
          received := by simp [received, Event.received?]
          expects := fun _ => id
          contents := contents ▸ List.prefix_refl _
          waker := .inl rfl }
      committed := fun _ _ _ => id
      missing := fun _ _ _ missing => { missing with } }
    tally := { same.tally with
      emptied := fun _ _ => none
      stuck := fun _ rejecting _ member => ⟨rejecting, member⟩ }
    retained := fun _ retained => { retained with }
    exposed := fun _ _ _ exposed => .inl { exposed with
      urgent := exposed.urgent.imp_left fun some => absurd none some } }

/-- Asking an empty queue receives nothing. -/
theorem Receives.missed : Receives none channel (missed channel flavor) where
  delivered := by simp [Lochan.delivered, Event.took?]
  received := by simp [Lochan.received, Event.received?]
  expects _ := id

/-- Taking the head of the queue keeps the invariant. -/
theorem Inv.took (inv : Inv manners channel) (inUse : channel.state.InUse)
    (contents : channel.state.chan.contents = item :: flavor.toList) :
    Inv manners (took channel flavor item) := by
  obtain ⟨held, books, handles, futures, registry⟩ := inv
  have alive := handles.inUse inUse
  have undrained := books.undrained alive
  refine ⟨held, ?_, ?_, { futures with }, { registry with }⟩
  · exact { books with
      fifo := by
        have takes : delivered (Mpsc.took channel flavor item).log =
            delivered channel.log ++ [item] := by simp [delivered, Event.took?]
        have drains : drained (Mpsc.took channel flavor item).log = drained channel.log := by
          simp [drained, Event.drained?]
        have accepts : accepted (Mpsc.took channel flavor item).log = accepted channel.log := by
          simp [accepted, Event.pushed?]
        have fifo := books.fifo
        rw [contents, undrained] at fifo
        rw [takes, drains, accepts, fifo, undrained]
        simp [Chan.contents]
      undrained := fun _ => undrained
      released := fun released => by
        obtain ⟨receiver, last⟩ := Released.last released
        cases (books.last receiver last).symm.trans alive
      observed := fun observed => by
        have empty := (books.observed observed).2
        rw [contents] at empty
        cases empty
      lawful := by
        refine ⟨⟨fun receiver last => ?_, flavor.toList, ?_⟩, books.lawful⟩
        · cases (books.last receiver last).symm.trans alive
        · have fifo := books.fifo
          rw [undrained, contents, List.append_nil] at fifo
          exact fifo
      received := fun _ free => absurd inUse free }
  · exact { handles with
      settled := fun _ gone => by
        rw [handles.receiver, show channel.state.receiver = none from gone] at alive
        cases alive }

/-- Taking the head of the queue is a step that a receiver may make. -/
theorem Guarantee.took {owner : Owner} (side : owner.side = .receivers)
    (contents : channel.state.chan.contents = item :: flavor.toList) :
    Guarantee manners (some owner) channel (took channel flavor item) := by
  have same : Guarantee manners (some owner) channel channel := .refl channel
  exact { same with
    evolves := { same.evolves with
      log := List.suffix_cons ..
      empty := fun _ empty => by
        rw [contents] at empty
        cases empty
      reserved := fun _ other => nomatch side.symm.trans (other owner rfl)
      committed := fun _ _ _ => id
      missing := fun _ _ _ missing => { missing with } }
    tally := { same.tally with
      emptied := fun alive gone => nomatch alive.symm.trans gone
      stuck := fun _ rejecting _ member => ⟨rejecting, member⟩ }
    retained := fun _ retained => { retained with }
    exposed := fun _ _ _ exposed => .inl { exposed with
      urgent := exposed.urgent.imp_left fun _ => by
        rw [contents]
        exact List.cons_ne_nil _ _ } }

/-- Taking the head of the queue receives it. -/
theorem Receives.took : Receives (some item) channel (took channel flavor item) where
  delivered := by simp [Lochan.delivered, Event.took?]
  received := by simp [Lochan.received, Event.received?]
  expects _ := id

end Take

/-- What a receive that pops finds. -/
def Finds (channel after : Channel α) : Option α → Prop
  | none => channel.state.chan.contents = [] ∧
      ∃ flavor : Flavor α, flavor.toList = [] ∧ after = missed channel flavor
  | some _ => channel.state.chan.contents ≠ []

/-- What receiving relies on besides. -/
structure RecvSetting (manners : Manners)
    (contract : Prog.Contract (Channel α) (Callback α) Panic)
    (admits : Callback α → Panic → Channel α → Prop) : Prop
    extends Setting manners contract admits where
  quiet : manners.quiet → ∀ waker payload channel, ¬ admits (.wake .senders waker) payload channel
  noisy : ∀ channel, contract.abort channel

section Functions

variable {contract : Prog.Contract (Channel α) (Callback α) Panic}
  {admits : Callback α → Panic → Channel α → Prop} (setting : RecvSetting manners contract admits)
  {owner : Owner} (side : owner.side = .receivers)
include setting side

/-- A `take` keeps the invariant and receives what it returns; on an unwind the item it took is
lost. -/
theorem take_spec (inv : Inv manners channel) (inUse : channel.state.InUse) :
    (Receiver.take : M α (Option α)).wp contract
      (fun taken after => Inv manners after ∧ Guarantee manners (some owner) channel after ∧
        Receives taken channel after ∧ Finds channel after taken)
      (fun _ after => Inv manners after ∧ Guarantee manners (some owner) channel after ∧
        ¬ manners.quiet) channel := by
  simp only [Receiver.take, Prog.wp_bind]
  refine wp_pop inv.held fun flavor contents _ => ?_
  cases found : channel.state.chan.flavor.toList with
  | nil =>
      have none : flavor.toList = [] := by rw [contents, found, List.tail_nil]
      have held : (restocked channel flavor).state.chan.contents = [] := none
      simp only [List.head?_nil, Prog.wp_bind, wp_getChan, wp_emit, held]
      exact ⟨inv.missed found none, .missed found none, .missed, found, flavor, none, rfl⟩
  | cons item rest =>
      have held : channel.state.chan.contents = item :: flavor.toList := by
        rw [contents]
        exact found.trans (by rw [found, List.tail_cons])
      have takes : Guarantee manners (some owner) channel (took channel flavor item) :=
        .took side held
      have inUse' : (took channel flavor item).state.InUse := inUse
      simp only [List.head?_cons, Prog.wp_bind, wp_emit, Prog.wp_guarded]
      refine Prog.wp_mono (wakeSenders_spec setting.toSetting (inv.took inUse held)) ?_ ?_
      · rintro _ woken ⟨inv', wakes, -⟩
        refine ⟨inv', takes.trans wakes.weaken, Receives.took.later inUse' wakes, ?_⟩
        show channel.state.chan.contents ≠ []
        rw [held]
        exact List.cons_ne_nil _ _
      · rintro _ woken ⟨inv', wakes, -, ⟨_, payload, left, ⟨waker, rfl⟩, admitted, -⟩, -⟩
        refine Prog.wp_mono (setting.relies.runs carries (.dropItem item) trivial inv') ?_
          (fun _ after _ => setting.noisy after)
        rintro _ dropped ⟨inv'', drops⟩
        exact ⟨inv'', takes.trans (wakes.trans drops).weaken,
          fun quiet => setting.quiet quiet waker payload left admitted⟩

/-- What a receive without waiting answers. -/
structure TryAnswer (before after : Channel α) (result : Except TryRecvError α) : Prop where
  receives : Receives result.toOption before after
  none : ∀ error, result = .error error → after.state.chan.contents = []
  disconnected : result = .error .disconnected → after.state.chan.disconnected = true
  ended : before.state.chan.contents = [] → before.state.chan.disconnected = true →
    result = .error .disconnected

/-- A receive that does not wait keeps the invariant, and its answer tells what it received. -/
theorem tryRecv_spec (inv : Inv manners channel) (inUse : channel.state.InUse) :
    (Receiver.tryRecv : M α (Except TryRecvError α)).wp contract
      (fun result after => Inv manners after ∧ Guarantee manners (some owner) channel after ∧
        TryAnswer channel after result)
      (fun _ after => Inv manners after ∧ Guarantee manners (some owner) channel after ∧
        ¬ manners.quiet) channel := by
  simp only [Receiver.tryRecv, Prog.wp_bind]
  refine Prog.wp_mono (take_spec setting side inv inUse) ?_ (fun _ _ unwound => unwound)
  rintro taken after ⟨inv', guarantee, receives, finds⟩
  cases taken with
  | some item => exact ⟨inv', guarantee, receives, nofun, nofun, fun empty => absurd empty finds⟩
  | none =>
      obtain ⟨-, flavor, none, rfl⟩ := finds
      simp only [Prog.wp_bind, wp_getChan, Prog.wp_ite]
      cases disconnected : (missed channel flavor).state.chan.disconnected with
      | true =>
          exact ⟨inv', guarantee, receives, fun _ _ => none, fun _ => disconnected, fun _ _ => rfl⟩
      | false =>
          refine ⟨inv', guarantee, receives, fun _ _ => none, nofun, fun _ ended => ?_⟩
          exact nomatch disconnected.symm.trans ended

/-- An iterator that does not wait keeps the invariant, and returns what it received. -/
theorem tryIterNext_spec (inv : Inv manners channel) (inUse : channel.state.InUse) :
    (Receiver.tryIterNext : M α (Option α)).wp contract
      (fun item after => Inv manners after ∧ Guarantee manners (some owner) channel after ∧
        Receives item channel after ∧ (item = none → after.state.chan.contents = []))
      (fun _ after => Inv manners after ∧ Guarantee manners (some owner) channel after ∧
        ¬ manners.quiet) channel := by
  simp only [Receiver.tryIterNext, Prog.wp_bind]
  refine Prog.wp_mono (tryRecv_spec setting side inv inUse) ?_ (fun _ _ unwound => unwound)
  rintro result after ⟨inv', guarantee, answer⟩
  cases result with
  | ok item => exact ⟨inv', guarantee, answer.receives, nofun⟩
  | error error => exact ⟨inv', guarantee, answer.receives, fun _ => answer.none error rfl⟩

end Functions

/-! ### The slot of the receiver -/

/-- Writing the slot of a receiver that waits for nothing. -/
theorem Guarantee.slot {owner : Owner} (side : owner.side = .receivers) {waker : Option Waker}
    (idle : expecting channel.log = none)
    (keeps : waker = none ∨ channel.state.chan.terminal = false) :
    Guarantee manners (some owner) channel (slotted channel waker) := by
  have same : Guarantee manners (some owner) channel channel := .refl channel
  exact { same with
    evolves := { same.evolves with
      reserved := fun _ other => nomatch side.symm.trans (other owner rfl)
      missing := fun _ _ _ missing => nomatch idle.symm.trans missing.expects }
    tally := { same.tally with stuck := fun _ rejecting _ member => ⟨rejecting, member⟩ }
    retained := fun _ retained => by
      rcases keeps with rfl | going
      · exact absurd rfl retained.waker
      · exact nomatch going.symm.trans retained.terminal
    exposed := fun _ _ _ exposed => .inl { exposed with } }

/-- Setting the slot receives nothing. -/
theorem Receives.slot {waker : Option Waker} : Receives none channel (slotted channel waker) :=
  ⟨(List.append_nil _).symm, rfl, fun _ => id⟩

/-- A poll that saw nothing expects nothing. -/
theorem Receives.idle {item : Option α} (receives : Receives item channel after)
    (idle : expecting channel.log = none) : expecting after.log = none := by
  refine Option.eq_none_iff_forall_ne_some.mpr fun polled expects => ?_
  exact nomatch idle.symm.trans (receives.expects polled expects)

/-- A terminal channel with a receiver is one to hear of. -/
theorem Chan.urgent_of_terminal {chan : Chan α} (alive : chan.receiverAlive = true)
    (terminal : chan.terminal = true) : chan.urgent := by
  rcases Chan.terminal_iff.mp terminal with gone | ended
  · exact nomatch alive.symm.trans gone
  · exact .inr (Chan.disconnected_iff.mpr ended)

/-- What a poll of the receiver hands out. -/
def Poll.item? : Poll (Option α) → Option α
  | .ready item => item
  | .pending => none

/-- What a poll of the receiver answers. -/
structure RecvAnswer (waker : Waker) (before after : Channel α)
    (polled : Poll (Option α)) : Prop where
  receives : Receives (Poll.item? polled) before after
  ended : polled = .ready none →
    after.state.chan.contents = [] ∧ after.state.chan.disconnected = true
  pending : polled = .pending → after.state.chan.recvWaker = some waker ∧ ¬ after.state.chan.urgent
  drained : before.state.chan.contents = [] → before.state.chan.disconnected = true →
    polled = .ready none

section Functions

variable {contract : Prog.Contract (Channel α) (Callback α) Panic}
  {admits : Callback α → Panic → Channel α → Prop} (setting : RecvSetting manners contract admits)
  {owner : Owner} (side : owner.side = .receivers)
include setting side

/-- Registering parks the receiver, unless there is something to hear of. -/
theorem registerRecvWaker_spec (inv : Inv manners channel) (inUse : channel.state.InUse)
    (idle : expecting channel.log = none) (waker : Waker) :
    (registerRecvWaker waker : M α Unit).wp contract
      (fun _ after => Inv manners after ∧ Guarantee manners (some owner) channel after ∧
        Receives none channel after ∧
        (after.state.chan.recvWaker = some waker ∨ after.state.chan.urgent))
      (fun _ after => Inv manners after ∧ Guarantee manners (some owner) channel after ∧
        Receives none channel after) channel := by
  have alive := inv.handles.inUse inUse
  simp only [registerRecvWaker, Prog.wp_bind, wp_getChan, Prog.wp_ite]
  by_cases terminal : channel.state.chan.terminal = true
  · rw [if_pos terminal]
    exact ⟨inv, .refl channel, .refl channel, .inr (Chan.urgent_of_terminal alive terminal)⟩
  rw [if_neg terminal]
  refine Prog.wp_mono (setting.relies.runs carries (.clone waker) trivial inv) ?_ ?_
  swap
  · rintro _ cloned ⟨inv₁, clones, -⟩
    exact ⟨inv₁, clones.weaken, (Receives.refl channel).later inUse clones⟩
  rintro _ cloned ⟨inv₁, clones⟩
  have inUse₁ := clones.evolves.inUse inUse
  have alive₁ := inv₁.handles.inUse inUse₁
  have receives₁ := (Receives.refl channel).later inUse clones
  by_cases terminal₁ : cloned.state.chan.terminal = true
  · rw [if_pos terminal₁]
    -- The channel became terminal while the waker was cloned.
    refine Prog.wp_mono (setting.relies.runs carries (.dropWaker waker) trivial inv₁) ?_ ?_
    · rintro _ dropped ⟨inv₂, drops⟩
      have alive₂ := inv₂.handles.inUse (drops.evolves.inUse inUse₁)
      exact ⟨inv₂, (clones.trans drops).weaken, receives₁.later inUse₁ drops,
        .inr (Chan.urgent_of_terminal alive₂ (drops.evolves.terminal terminal₁))⟩
    · rintro _ dropped ⟨inv₂, drops, -⟩
      exact ⟨inv₂, (clones.trans drops).weaken, receives₁.later inUse₁ drops⟩
  rw [if_neg terminal₁]
  have stores : Guarantee manners (some owner) channel (slotted cloned (some waker)) :=
    clones.weaken.trans (.slot side (receives₁.idle idle) (.inr (eq_false_of_ne_true terminal₁)))
  have receives₂ : Receives none channel (slotted cloned (some waker)) := receives₁.trans .slot
  rw [wp_storeRecvWaker inv₁.held]
  cases cloned.state.chan.recvWaker with
  | none => exact ⟨inv₁.slotted _, stores, receives₂, .inl rfl⟩
  | some old =>
      refine Prog.wp_mono
        (setting.relies.runs carries (.dropWaker old) trivial (inv₁.slotted (some waker))) ?_ ?_
      · rintro _ dropped ⟨inv₂, drops⟩
        refine ⟨inv₂, stores.trans drops.weaken, receives₂.later inUse₁ drops, ?_⟩
        exact (drops.evolves.reserved inUse₁ nofun).waker.imp id And.right
      · rintro _ dropped ⟨inv₂, drops, -⟩
        exact ⟨inv₂, stores.trans drops.weaken, receives₂.later inUse₁ drops⟩

/-- The end of a channel, as the receiver observes it. -/
theorem end_spec (inv : Inv manners channel) (inUse : channel.state.InUse)
    (idle : expecting channel.log = none) (empty : channel.state.chan.contents = [])
    (disconnected : channel.state.chan.disconnected = true) :
    (clearRecvWaker : M α Unit).wp contract
      (fun _ after => Inv manners after ∧ Guarantee manners (some owner) channel after ∧
        Receives none channel after ∧ after.state.chan.contents = [] ∧
        after.state.chan.disconnected = true)
      (fun _ after => Inv manners after ∧ Guarantee manners (some owner) channel after ∧
        Receives none channel after) channel := by
  have clears : Guarantee manners (some owner) channel (slotted channel none) :=
    .slot side idle (.inl rfl)
  have receives : Receives none channel (slotted channel none) := .slot
  refine Prog.wp_mono (clearRecvWaker_spec setting.toSetting inv) ?_ ?_
  · rintro _ after ⟨inv', drops⟩
    have sealed : (slotted channel none).state.chan.terminal = true :=
      Chan.terminal_iff.mpr (.inr (Chan.disconnected_iff.mp disconnected))
    exact ⟨inv', clears.trans drops.weaken, receives.later inUse drops,
      drops.evolves.empty sealed empty, drops.evolves.disconnected disconnected⟩
  · rintro _ after ⟨inv', drops, -⟩
    exact ⟨inv', clears.trans drops.weaken, receives.later inUse drops⟩

/-- The receive state machine. -/
theorem pollRecv_spec (inv : Inv manners channel) (inUse : channel.state.InUse)
    (idle : expecting channel.log = none) (waker : Waker) :
    (Receiver.pollRecv waker : M α (Poll (Option α))).wp contract
      (fun polled after => Inv manners after ∧ Guarantee manners (some owner) channel after ∧
        RecvAnswer waker channel after polled)
      (fun _ after => Inv manners after ∧ Guarantee manners (some owner) channel after ∧
        (manners.quiet → Receives none channel after)) channel := by
  simp only [Receiver.pollRecv, Prog.wp_bind]
  refine Prog.wp_mono (take_spec setting side inv inUse) ?_ ?_
  swap
  · rintro _ after ⟨inv', guarantee, noisy⟩
    exact ⟨inv', guarantee, fun quiet => absurd quiet noisy⟩
  rintro taken first ⟨inv₁, takes, receives₁, finds⟩
  cases taken with
  | some item =>
      exact ⟨inv₁, takes, receives₁, nofun, nofun, fun empty => absurd empty finds⟩
  | none =>
      obtain ⟨-, flavor, none, rfl⟩ := finds
      have idle₁ := receives₁.idle idle
      have inUse₁ : (missed channel flavor).state.InUse := inUse
      simp only [Prog.wp_bind, wp_getChan, Prog.wp_ite]
      by_cases disconnected : (missed channel flavor).state.chan.disconnected = true
      · rw [if_pos disconnected]
        refine Prog.wp_mono (end_spec setting side inv₁ inUse₁ idle₁ none disconnected) ?_ ?_
        · rintro _ after ⟨inv₂, ends, receives₂, empty, ended⟩
          exact ⟨inv₂, takes.trans ends, receives₁.trans receives₂, fun _ => ⟨empty, ended⟩, nofun,
            fun _ _ => rfl⟩
        · rintro _ after ⟨inv₂, ends, receives₂⟩
          exact ⟨inv₂, takes.trans ends, fun _ => receives₁.trans receives₂⟩
      rw [if_neg disconnected]
      have going : channel.state.chan.disconnected = true → False := disconnected
      refine Prog.wp_mono (registerRecvWaker_spec setting side inv₁ inUse₁ idle₁ waker) ?_ ?_
      swap
      · rintro _ after ⟨inv₂, registers, receives₂⟩
        exact ⟨inv₂, takes.trans registers, fun _ => receives₁.trans receives₂⟩
      rintro _ registered ⟨inv₂, registers, receives₂, parked⟩
      have inUse₂ := registers.evolves.inUse inUse₁
      have receives₂ := receives₁.trans receives₂
      have registers := takes.trans registers
      refine Prog.wp_mono (take_spec setting side inv₂ inUse₂) ?_ ?_
      swap
      · rintro _ after ⟨inv₃, guarantee, noisy⟩
        exact ⟨inv₃, registers.trans guarantee, fun quiet => absurd quiet noisy⟩
      rintro taken second ⟨inv₃, takes, receives₃, finds⟩
      cases taken with
      | some item =>
          exact ⟨inv₃, registers.trans takes, receives₂.trans receives₃, nofun, nofun,
            fun _ ended => (going ended).elim⟩
      | none =>
          obtain ⟨empty, flavor', none', rfl⟩ := finds
          have receives₃ := receives₂.trans receives₃
          simp only [Prog.wp_bind, wp_getChan, Prog.wp_ite]
          by_cases ended : (missed registered flavor').state.chan.disconnected = true
          · rw [if_pos ended]
            refine Prog.wp_mono
              (end_spec setting side inv₃ inUse₂ (receives₃.idle idle) none' ended) ?_ ?_
            · rintro _ after ⟨inv₄, ends, receives₄, empty, ended⟩
              exact ⟨inv₄, (registers.trans takes).trans ends, receives₃.trans receives₄,
                fun _ => ⟨empty, ended⟩, nofun, fun _ ended => (going ended).elim⟩
            · rintro _ after ⟨inv₄, ends, receives₄⟩
              exact ⟨inv₄, (registers.trans takes).trans ends, fun _ => receives₃.trans receives₄⟩
          · rw [if_neg ended]
            refine ⟨inv₃, registers.trans takes, receives₃, nofun, fun _ => ⟨?_, ?_⟩,
              fun _ ended => (going ended).elim⟩
            · rcases parked with parked | some | gone
              · exact parked
              · exact absurd empty some
              · exact absurd gone ended
            · rintro (some | gone)
              · exact absurd none' some
              · exact ended gone

end Functions

end Lochan.Mpsc
