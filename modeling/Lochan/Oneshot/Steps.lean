import Lochan.Oneshot.Invariant

/-!
# What the functions of a oneshot channel do

Each function that runs user code keeps the invariant and the guarantee from the state in which
it starts; the panics that it lets out are in the log.
-/

namespace Lochan.Oneshot

open Reentrant

variable {α : Type} {channel after : Channel α}

/-! ### The log -/

/-- The past of a later log at the length of an older one is the older one. -/
theorem past_suffix {older newer : Log α} (suffix : older <:+ newer) :
    past older.length newer = older := by
  obtain ⟨events, rfl⟩ := suffix
  simp [past]

/-- Panics are not taken back. -/
theorem panics_mono {older newer : Log α} (suffix : older <:+ newer) :
    panics older ≤ panics newer := by
  obtain ⟨events, rfl⟩ := suffix
  induction events with
  | nil => exact Nat.le_refl _
  | cons event rest ih => cases event <;> simp only [panics, List.cons_append] <;> omega

/-- A task waits after a callback if it has waited before, and was not woken. -/
theorem waiting_called {code : Callback α} {waker : Waker} {log : Log α} :
    waiting (.called code :: log) = some waker ↔
      waiting log = some waker ∧ code.invokes ≠ some waker := by
  simp [waiting, Option.filter_eq_some_iff]

/-- A task that waits after an event that does not concern its polls has waited before. -/
theorem waiting_cons {event : Event (Op α) (Result α) α} (silent : ¬ Polls event)
    {waker : Waker} {log : Log α} (waits : waiting (event :: log) = some waker) :
    waiting log = some waker := by
  cases event with
  | began op => cases op <;> first | exact (silent trivial).elim | exact waits
  | returned start op result => cases op <;> first | exact (silent trivial).elim | exact waits
  | unwound start op => cases op <;> first | exact (silent trivial).elim | exact waits
  | called code => exact (waiting_called.mp waits).1
  | _ => exact waits

/-- A value is received if and only if it is yielded. -/
theorem mem_received {value : α} {log : Log α} :
    value ∈ received log ↔ .ok value ∈ yielded log := by
  simp only [received, List.mem_filterMap]
  constructor
  · rintro ⟨result, member, same⟩
    cases result with
    | ok yields => cases same; exact member
    | error _ => cases same
  · exact fun member => ⟨_, member, rfl⟩

/-! ### The guarantee -/

namespace Guarantee

variable {first second third : Channel α}

/-- Nothing has happened yet. -/
theorem refl (channel : Channel α) : Guarantee channel channel where
  log := List.suffix_refl _
  polling := rfl
  done _ := rfl
  sender := id
  receiver := id
  senderDropped := id
  balance := rfl
  value _ _ := rfl
  waker _ := .inl rfl

/-- What happens later happens on top of what happened earlier. -/
theorem trans (earlier : Guarantee first second) (later : Guarantee second third) :
    Guarantee first third where
  log := earlier.log.trans later.log
  polling := later.polling.trans earlier.polling
  done polling := (later.done (earlier.polling.trans polling)).trans (earlier.done polling)
  sender gone := later.sender (earlier.sender gone)
  receiver gone := later.receiver (earlier.receiver gone)
  senderDropped dropped := later.senderDropped (earlier.senderDropped dropped)
  balance := by
    have := earlier.balance
    have := later.balance
    omega
  value polling some := by
    have same := earlier.value polling some
    exact (later.value (earlier.polling.trans polling) (same ▸ some)).trans same
  waker polling := by
    have polling' := earlier.polling.trans polling
    rcases later.waker polling' with kept | ⟨none, heard⟩
    · rcases earlier.waker polling with kept' | ⟨none, dropped | some⟩
      · exact .inl (kept.trans kept')
      · exact .inr ⟨kept.trans none, .inl (later.senderDropped dropped)⟩
      · exact .inr ⟨kept.trans none, .inr (later.value polling' some ▸ some)⟩
    · exact .inr ⟨none, heard⟩

/-- What is kept while an operation uses the receiver itself. -/
structure Within (before after : Channel α) : Prop where
  log : before.log <:+ after.log
  sender : before.state.sender = false → after.state.sender = false
  receiver : before.state.receiver = false → after.state.receiver = false
  senderDropped : before.state.inner.senderDropped = true →
    after.state.inner.senderDropped = true
  balance : after.state.strong + before.state.handles =
    before.state.strong + after.state.handles
  polling : after.state.polling = true
  done : after.state.done = before.state.done

/-- Nothing has happened yet within a poll. -/
theorem Within.refl (polling : channel.state.polling = true) : Within channel channel :=
  ⟨List.suffix_refl _, id, id, id, rfl, polling, rfl⟩

/-- What happens within a poll happens after it began. -/
theorem Within.trans (within : Within first second) (later : Guarantee second third) :
    Within first third where
  polling := later.polling.trans within.polling
  done := (later.done within.polling).trans within.done
  log := within.log.trans later.log
  sender gone := later.sender (within.sender gone)
  receiver gone := later.receiver (within.receiver gone)
  senderDropped dropped := later.senderDropped (within.senderDropped dropped)
  balance := by
    have := within.balance
    have := later.balance
    omega

/-- An event changes nothing but the log. -/
theorem logged (channel : Channel α) (event : Event (Op α) (Result α) α) :
    Guarantee channel (channel.logged event) :=
  { refl channel with log := List.suffix_cons .. }

end Guarantee

/-- An event of a callback, but for the destruction of a value taken out of the slot. -/
theorem Core.idle (core : Core channel) {event : Event (Op α) (Result α) α} (idle : event.Idle) :
    Core (channel.logged event) := by
  have member : ∀ op, .began op ∈ (channel.logged event).log ↔ .began op ∈ channel.log := by
    intro op
    refine List.mem_cons.trans (or_iff_right ?_)
    rintro rfl
    exact idle
  cases event with
  | called code =>
      cases code <;> first
        | exact idle.elim
        | exact { core with
            unsent := fun alive => ⟨(core.unsent alive).1, (core.unsent alive).2.1,
              fun abandoned => (core.unsent alive).2.2 ((member _).mp abandoned)⟩
            abandoned := fun abandoned => core.abandoned ((member _).mp abandoned)
            closed := (member _).trans core.closed }
  | panicked code =>
      exact { core with
        unsent := fun alive => ⟨(core.unsent alive).1, (core.unsent alive).2.1,
          fun abandoned => (core.unsent alive).2.2 ((member _).mp abandoned)⟩
        abandoned := fun abandoned => core.abandoned ((member _).mp abandoned)
        closed := (member _).trans core.closed }
  | _ => exact idle.elim

/-- The invariant does not concern itself with callbacks. -/
theorem Inv.idle (inv : Inv channel) {event : Event (Op α) (Result α) α} (idle : event.Idle) :
    Inv (channel.logged event) := by
  refine ⟨inv.core.idle idle, inv.freed, ?_⟩
  intro waker waits
  cases event with
  | called code => exact inv.parked waker (waiting_called.mp waits).1
  | panicked code => exact inv.parked waker waits
  | _ => exact idle.elim

/-- Where no receiver is left, none waits. -/
theorem Core.inv (core : Core channel) (gone : channel.state.receiver = false)
    (freed : channel.state.strong = 0 → channel.state.inner.value = none) : Inv channel :=
  ⟨core, freed, fun _ _ expecting => (nomatch gone.symm.trans expecting.2.1)⟩

/-- The channel without the share of a handle. -/
abbrev unshared (channel : Channel α) : Channel α :=
  channel.onState fun state => { state with strong := state.strong - 1 }

/-! ### The functions -/

section Functions

variable {contract : Prog.Contract (Channel α) (Callback α) Panic}
  {admits : Callback α → Panic → Channel α → Prop}

/-- The rule for reading the shared state. -/
@[simp] theorem wp_getInner {post : Inner α → Channel α → Prop} {exc : Panic → Channel α → Prop} :
    (getInner : M α (Inner α)).wp contract post exc =
      fun channel => post channel.state.inner channel := rfl

/-- The rule for writing the shared state. -/
@[simp] theorem wp_modifyInner {post : Unit → Channel α → Prop} {exc : Panic → Channel α → Prop}
    (update : Inner α → Inner α) :
    (modifyInner update : M α Unit).wp contract post exc =
      fun channel => post () (channel.onState (·.onInner update)) := rfl

/-- Taking the waker leaves none behind. -/
theorem wp_takeRecvWaker {post : Option Waker → Channel α → Prop}
    {exc : Panic → Channel α → Prop} (clear : channel.held = []) :
    (takeRecvWaker : M α (Option Waker)).wp contract post exc channel =
      post channel.state.inner.recvWaker
        (channel.onState (·.onInner fun inner => { inner with recvWaker := none })) := by
  obtain ⟨state, held, log⟩ := channel
  subst clear
  simp [takeRecvWaker, wp_borrowing, World.onState]

/-- A program leaves the invariant and the guarantee intact, and logs the panic it lets out. -/
abbrev Sound (contract : Prog.Contract (Channel α) (Callback α) Panic) {β : Type} (prog : M α β)
    (channel : Channel α) : Prop :=
  prog.wp contract (fun _ after => Inv after ∧ Guarantee channel after)
    (fun _ after => Inv after ∧ Guarantee channel after ∧ panics channel.log < panics after.log)
    channel

variable (relies : Relies contract (Inv (α := α)) Guarantee admits)
include relies

/-- User code that is entered with the invariant keeps it. -/
theorem callback_sound {before : Channel α} (code : Callback α)
    (entered : Inv (channel.logged (.called code))) (guaranteed : Guarantee before channel) :
    (callback code : M α Unit).wp contract (fun _ after => Inv after ∧ Guarantee before after)
      (fun _ after => Inv after ∧ Guarantee before after ∧ panics before.log < panics after.log)
      channel := by
  have reached : Guarantee before (channel.logged (.called code)) :=
    guaranteed.trans (.logged channel _)
  refine relies.enters code entered ?_ ?_
  · exact fun after kept later => ⟨kept, reached.trans later⟩
  · intro payload after kept later _
    have mono := panics_mono (reached.trans later).log
    refine ⟨kept.idle trivial, (reached.trans later).trans (.logged after _), ?_⟩
    show panics before.log < panics after.log + 1
    omega

/-- Once the receiver has heard of a change, nothing is missing. -/
theorem wakeReceiver_sound (unheard : Unheard channel) : Sound contract wakeReceiver channel := by
  obtain ⟨core, freed, parked, urgent⟩ := unheard
  simp only [Sound, wakeReceiver, Prog.wp_bind]
  rw [wp_takeRecvWaker core.held]
  cases registered : channel.state.inner.recvWaker with
  | none =>
      have same : channel.onState (·.onInner fun inner => { inner with recvWaker := none }) =
          channel := by
        obtain ⟨⟨inner, strong, sender, receiver, done, polling⟩, held, log⟩ := channel
        simp [World.onState, State.onInner, ← registered]
      rw [same]
      refine ⟨⟨core, freed, ?_⟩, .refl channel⟩
      intro waker waits expecting
      cases registered.symm.trans (parked waker waits expecting)
  | some waker =>
      have taken : Core (channel.onState
          (·.onInner fun inner => { inner with recvWaker := none })) :=
        { core with vacated := fun _ => rfl }
      refine callback_sound relies (.wake .receivers waker) ⟨taken.idle trivial, freed, ?_⟩ ?_
      · intro other waits expecting
        obtain ⟨waits, uninvoked⟩ := waiting_called.mp waits
        have same := parked other waits expecting
        exact absurd (Option.some.inj (registered.symm.trans same) ▸ rfl) uninvoked
      · exact { Guarantee.refl channel with waker := fun _ => .inr ⟨rfl, urgent⟩ }

/-- A value that is there when no receiver is left is dropped, exactly once. -/
theorem dropValue_sound (core : Core channel) (gone : channel.state.receiver = false) :
    Sound contract dropValue channel := by
  simp only [Sound, dropValue, readValue, Prog.wp_bind, wp_getInner, wp_modifyInner, Prog.wp_ite]
  have unused : channel.state.polling = true → False :=
    fun polling => by cases gone.symm.trans (core.polling polling)
  cases held : channel.state.inner.value with
  | none =>
      have absent : channel.state.inner.valuePresent = false := by rw [core.present, held]; rfl
      have same : channel.onState (·.onInner fun inner => { inner with valuePresent := false }) =
          channel := by
        obtain ⟨⟨inner, strong, sender, receiver, done, polling⟩, held, log⟩ := channel
        simp [World.onState, State.onInner, ← absent]
      rw [if_neg (by simp [absent]), same]
      exact ⟨core.inv gone fun _ => held, .refl channel⟩
  | some value =>
      have present : channel.state.inner.valuePresent = true := by rw [core.present, held]; rfl
      rw [if_pos present]
      simp only [World.onState_state, State.onInner_inner, held]
      have books : sent channel.log = rejected channel.log ++ received channel.log ++
          drained (.called (.dropQueued value) :: channel.log) := by
        rw [core.books, held]
        simp [drained, Event.drained?]
      have member : ∀ op, .began op ∈ (.called (.dropQueued value) :: channel.log) ↔
          .began op ∈ channel.log := fun op => List.mem_cons.trans (or_iff_right (by rintro ⟨⟩))
      refine callback_sound relies (.dropQueued value) (Core.inv ?_ gone fun _ => rfl) ?_
      · exact { core with
          present := rfl
          books := books.trans (List.append_nil _).symm
          unsent := fun alive => ⟨(core.unsent alive).1, (core.unsent alive).2.1,
            fun abandoned => (core.unsent alive).2.2 ((member _).mp abandoned)⟩
          abandoned := fun abandoned => core.abandoned ((member _).mp abandoned)
          closed := (member _).trans core.closed
          alive := fun alive => by cases gone.symm.trans alive }
      · exact { Guarantee.refl channel with
          value := fun polling => (unused polling).elim
          waker := fun _ => .inl rfl }

/-- The share of a handle that is dropped, and what the last one frees. -/
theorem release_sound (inv : Inv channel)
    (share : channel.state.handles < channel.state.strong) :
    release.wp contract
      (fun _ after => Inv after ∧ Guarantee (unshared channel) after)
      (fun _ after => Inv after ∧ Guarantee (unshared channel) after ∧
        panics channel.log < panics after.log) channel := by
  obtain ⟨core, freed, parked⟩ := inv
  have kept : Core (unshared channel) :=
    { core with strong := Nat.le_sub_one_of_lt share }
  simp only [release, Prog.wp_bind, wp_modifyState, wp_getState, Prog.wp_ite]
  by_cases last : (unshared channel).state.strong = 0
  · rw [if_pos last]
    have none : channel.state.handles = 0 := by
      have : channel.state.strong - 1 = 0 := last
      omega
    have gone : channel.state.receiver = false := by
      cases alive : channel.state.receiver with
      | false => rfl
      | true => simp [State.handles, alive] at none
    simp only [dropGlue, Prog.wp_ensuring]
    have unregistered : ∀ {after : Channel α}, Inv after →
        Guarantee (unshared channel) after →
        after.state.inner.recvWaker = .none := by
      intro after inv guaranteed
      have gone' := guaranteed.receiver gone
      rw [inv.core.receiver] at gone'
      exact inv.core.vacated (by simpa using gone')
    refine Prog.wp_mono (dropValue_sound relies kept gone) ?_ ?_
    · rintro _ after ⟨inv, guaranteed⟩
      simp only [Prog.wp_bind, wp_getInner, unregistered inv guaranteed]
      exact ⟨inv, guaranteed⟩
    · rintro _ after ⟨inv, guaranteed, panicked⟩
      simp only [Prog.wp_bind, wp_getInner, unregistered inv guaranteed]
      exact ⟨inv, guaranteed, panicked⟩
  · rw [if_neg last]
    exact ⟨⟨kept, fun freed => absurd freed last, parked⟩, .refl _⟩

/-- The destructor of the sender tells a waiting receiver. -/
theorem senderDrop_sound
    (dropped : Core (channel.onState (·.onInner fun inner => { inner with senderDropped := true })))
    (freed : channel.state.strong = 0 → channel.state.inner.value = none)
    (parked : ∀ waker, waiting channel.log = some waker → channel.state.Expecting →
      channel.state.inner.value = none ∧ channel.state.inner.recvWaker = some waker) :
    Sound contract Sender.drop channel := by
  have changed : Guarantee channel
      (channel.onState (·.onInner fun inner => { inner with senderDropped := true })) :=
    { Guarantee.refl channel with
      senderDropped := fun _ => rfl
      waker := fun _ => .inl rfl }
  simp only [Sound, Sender.drop, Prog.wp_bind, wp_modifyInner, wp_getInner, Prog.wp_ite]
  cases present : channel.state.inner.valuePresent with
  | true =>
      rw [if_neg (by simp [present])]
      have some : channel.state.inner.value.isSome := dropped.present.symm.trans present
      refine ⟨⟨dropped, freed, ?_⟩, changed⟩
      intro waker waits expecting
      rw [(parked waker waits expecting).1] at some
      cases some
  | false =>
      rw [if_pos (by simp [present])]
      have unheard : Unheard
          (channel.onState (·.onInner fun inner => { inner with senderDropped := true })) :=
        ⟨dropped, freed, fun waker waits expecting => (parked waker waits expecting).2, .inl rfl⟩
      refine Prog.wp_mono (wakeReceiver_sound relies unheard) ?_ ?_
      · exact fun _ after kept => ⟨kept.1, changed.trans kept.2⟩
      · exact fun _ after kept => ⟨kept.1, changed.trans kept.2.1, kept.2.2⟩

/-- The receiver registers its waker, which is kept until something comes. -/
theorem registerRecvWaker_sound {waker : Waker} (inv : Inv channel)
    (polling : channel.state.polling = true) :
    (registerRecvWaker waker).wp contract
      (fun _ after => Inv after ∧ Guarantee.Within channel after ∧
        (after.state.inner.recvWaker = some waker ∨ after.state.inner.senderDropped = true ∨
          after.state.inner.value ≠ none))
      (fun _ after => Inv after ∧ Guarantee.Within channel after ∧
        panics channel.log < panics after.log) channel := by
  have alive : channel.state.inner.receiverDropped = false := by
    have := inv.core.receiver
    rw [inv.core.polling polling] at this
    simpa using this.symm
  simp only [registerRecvWaker, Prog.wp_bind, wp_getInner, Prog.wp_ite, alive, Bool.false_eq_true,
    ↓reduceIte]
  have same : Guarantee.Within channel channel := .refl polling
  refine Prog.wp_mono
    (callback_sound relies (.clone waker) (inv.idle trivial) (.refl channel)) ?_ ?_
  · rintro _ cloned ⟨inv', guaranteed⟩
    have within := same.trans guaranteed
    have registered : Inv
        (cloned.onState (·.onInner fun inner => { inner with recvWaker := some waker })) := by
      refine ⟨{ inv'.core with vacated := fun dropped => ?_ }, inv'.freed, ?_⟩
      · have gone : cloned.state.receiver = false :=
          inv'.core.receiver.trans (congrArg not dropped)
        exact nomatch gone.symm.trans (inv'.core.polling within.polling)
      · exact fun _ _ expecting => (nomatch expecting.1.symm.trans within.polling)
    have within' : Guarantee.Within channel
        (cloned.onState (·.onInner fun inner => { inner with recvWaker := some waker })) :=
      { within with }
    obtain ⟨state, held, log⟩ := cloned
    obtain rfl : held = [] := inv'.core.held
    rw [wp_borrowing _ _ rfl]
    simp only [Prog.wp_bind, wp_getInner, wp_modifyInner, Prog.wp_pure]
    cases state.inner.recvWaker with
    | none => exact ⟨registered, within', .inl rfl⟩
    | some old =>
        refine Prog.wp_mono
          (callback_sound relies (.dropWaker old) (registered.idle trivial) (.refl _)) ?_ ?_
        · rintro _ dropped ⟨inv'', later⟩
          exact ⟨inv'', within'.trans later, (later.waker within.polling).imp_right And.right⟩
        · rintro _ dropped ⟨inv'', later, panicked⟩
          exact ⟨inv'', within'.trans later,
            Nat.lt_of_le_of_lt (panics_mono within.log) panicked⟩
  · rintro _ cloned ⟨inv', guaranteed, panicked⟩
    exact ⟨inv', same.trans guaranteed, panicked⟩

end Functions

end Lochan.Oneshot
