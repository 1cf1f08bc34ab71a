import Lochan.Fixes
import Lochan.Reentrant.Layers
import Lochan.Oneshot.Handoff

/-!
# The operations of a oneshot channel happen at once

Whatever user code does in the callbacks, every operation of a oneshot channel answers as if it
happened at one moment between its beginning and its end. `Mirrors` is a second invariant, on top of
`Inv`.
-/

namespace Lochan.Oneshot

open Reentrant

variable {α : Type} {channel base first second third : Channel α}

/-- The channel is as what has happened leaves the hand-off, whenever user code is in control. -/
structure Mirrors (channel : Channel α) : Prop where
  explained : Explained channel.log
  sender : (handoff channel.log).sender = channel.state.sender
  receiver : (handoff channel.log).receiver = channel.state.receiver
  done : (handoff channel.log).done = channel.state.done
  value : channel.state.receiver = true →
    (handoff channel.log).value = channel.state.inner.value
  dropped : channel.state.inner.senderDropped = true → channel.state.sender = false
  /-- A sender that is gone has left a value, or it has told so. -/
  heard : channel.state.receiver = true → channel.state.sender = false →
    channel.state.inner.senderDropped = true ∨ channel.state.inner.value ≠ none ∨
      channel.state.done = true
  sending : channel.state.sender = false →
    channel.state.inner.senderDropped = true ∨ Sending channel.log

/-- What is left behind stays behind. -/
structure Follows (before after : Channel α) : Prop where
  log : before.log <:+ after.log
  sender : before.state.sender = false → after.state.sender = false
  receiver : before.state.receiver = false → after.state.receiver = false
  senderDropped : before.state.inner.senderDropped = true →
    after.state.inner.senderDropped = true
  balance : after.state.strong + before.state.handles =
    before.state.strong + after.state.handles

namespace Follows

/-- Nothing is left behind yet. -/
theorem refl (channel : Channel α) : Follows channel channel :=
  ⟨List.suffix_refl _, id, id, id, rfl⟩

/-- What was left behind earlier is still behind later. -/
theorem trans (earlier : Follows first second) (later : Follows second third) :
    Follows first third where
  log := earlier.log.trans later.log
  sender gone := later.sender (earlier.sender gone)
  receiver gone := later.receiver (earlier.receiver gone)
  senderDropped dropped := later.senderDropped (earlier.senderDropped dropped)
  balance := by
    have := earlier.balance
    have := later.balance
    omega

end Follows

/-- What operations do leaves behind what is behind. -/
theorem Guarantee.follows (guarantee : Guarantee first second) : Follows first second :=
  ⟨guarantee.log, guarantee.sender, guarantee.receiver, guarantee.senderDropped,
    guarantee.balance⟩

/-- The invariant holds, and what was left behind at `base` is still behind. -/
structure Along (base channel : Channel α) : Prop where
  mirrors : Mirrors channel
  follows : Follows base channel

/-- Nothing happens with an event that is no part of the hand-off. -/
theorem Mirrors.idle (mirrors : Mirrors channel) {event : Event (Op α) (Result α) α}
    (idle : Event.happens? event = none)
    (explained : Explained channel.log → Explained (event :: channel.log))
    (sending : Sending channel.log → Sending (event :: channel.log)) :
    Mirrors (channel.logged event) := by
  have same : handoff (event :: channel.log) = handoff channel.log := handoff_idle idle _
  exact
    { explained := explained mirrors.explained
      sender := same ▸ mirrors.sender
      receiver := same ▸ mirrors.receiver
      done := same ▸ mirrors.done
      value := same ▸ mirrors.value
      dropped := mirrors.dropped
      heard := mirrors.heard
      sending := fun gone => (mirrors.sending gone).imp_right sending }

/-! ### Writes that keep the invariant -/

namespace Along

/-- A channel that mirrors the hand-off is along itself. -/
theorem refl (mirrors : Mirrors channel) : Along channel channel := ⟨mirrors, .refl channel⟩

/-- An event that is no part of the hand-off happens along the way. -/
theorem idle (along : Along base channel) {event : Event (Op α) (Result α) α}
    (idle : Event.happens? event = none)
    (explained : Explained channel.log → Explained (event :: channel.log))
    (sending : Sending channel.log → Sending (event :: channel.log)) :
    Along base (channel.logged event) :=
  ⟨along.mirrors.idle idle explained sending,
    { along.follows with log := along.follows.log.trans (List.suffix_cons ..) }⟩

/-- The waker of the receiver and the borrows do not concern the hand-off. -/
theorem aside (along : Along base channel) (waker : Option Waker) (held : List Cell) :
    Along base { channel with
      state := { channel.state with inner := { channel.state.inner with recvWaker := waker } }
      held := held } :=
  ⟨{ along.mirrors with }, { along.follows with }⟩

/-- Nor does the value once the receiver is gone. -/
theorem vacates (along : Along base channel) (gone : base.state.receiver = false) (value : Option α)
    (present : Bool) :
    Along base (channel.onState (·.onInner fun inner =>
      { inner with value := value, valuePresent := present })) :=
  have gone' := along.follows.receiver gone
  ⟨{ along.mirrors with
      value := fun alive => (Bool.noConfusion (gone'.symm.trans alive))
      heard := fun alive => (Bool.noConfusion (gone'.symm.trans alive)) },
    { along.follows with }⟩

end Along

section Preserves

instance : Indifferent (Along base) where
  called _ _ along := along.idle rfl id id
  panicked _ _ along := along.idle rfl id id
  expectFailed _ _ along := along.idle rfl id id
  held channel held along := along.aside channel.state.inner.recvWaker held

/-- A write of the receiver's waker. -/
theorem modifyWaker_preserves (waker : Option Waker) :
    (modifyInner fun inner => { inner with recvWaker := waker } : M α Unit).Preserves
      (Along base) := fun _ along => ⟨along.aside waker _, trivial⟩

/-- Taking the waker keeps what is along. -/
theorem takeRecvWaker_preserves : (takeRecvWaker : M α (Option Waker)).Preserves (Along base) :=
  .borrowing .recvWaker (.bind (.read _) fun _ =>
    .bind (modifyWaker_preserves none) fun _ => trivial)

/-- Waking the receiver keeps what is along. -/
theorem wakeReceiver_preserves : (wakeReceiver : M α Unit).Preserves (Along base) := by
  refine .bind takeRecvWaker_preserves fun waker => ?_
  cases waker with
  | none => trivial
  | some waker => exact .callback _

/-- Clearing the registration keeps what is along. -/
theorem clearRecvWaker_preserves : (clearRecvWaker : M α Unit).Preserves (Along base) := by
  refine .bind takeRecvWaker_preserves fun waker => ?_
  cases waker with
  | none => trivial
  | some waker => exact .callback _

/-- Registering a waker keeps what is along. -/
theorem registerRecvWaker_preserves (waker : Waker) :
    (registerRecvWaker waker : M α Unit).Preserves (Along base) := by
  refine .bind (.read _) fun inner => .ite trivial (.bind (.callback _) fun _ => ?_)
  refine .bind (.borrowing _ (.bind (.read _) fun _ =>
    .bind (modifyWaker_preserves (some waker)) fun _ => trivial)) fun replaced => ?_
  cases replaced with
  | none => trivial
  | some old => exact .callback _

/-- Once the receiver is gone, its value may be dropped. -/
theorem dropValue_preserves (gone : base.state.receiver = false) :
    (dropValue : M α Unit).Preserves (Along base) := by
  refine .bind (.read _) fun inner => .bind (fun channel along => ?_) fun _ =>
    .ite (.bind (.bind (.read _) fun inner => .bind (fun channel along => ?_) fun _ => ?_)
      fun _ => .callback _) trivial
  · exact ⟨along.vacates gone channel.state.inner.value false, trivial⟩
  · exact ⟨along.vacates gone none channel.state.inner.valuePresent, trivial⟩
  · cases inner.value <;> trivial

end Preserves

/-! ### The functions -/

/-- What an operation may rely on, and what it owes user code. -/
abbrev upper (op : Op α) : Prog.Contract (Channel α) (Callback α) Panic :=
  System.above .any Inv Guarantee Mirrors (fun _ _ => True) op

/-- The same, where user code is owed nothing. -/
abbrev lower (op : Op α) : Prog.Contract (Channel α) (Callback α) Panic :=
  { upper op with enter := fun _ _ => True }

/-- User code may be relied on, whatever it is owed. -/
theorem lower_relies (op : Op α) :
    Relies (lower op) (Inv (α := α)) Guarantee (fun _ _ _ => True) where
  enter _ _ _ := trivial
  resume _ _ _ _ left := left.2.1
  panics _ _ _ _ _ := trivial

section Functions

variable {op : Op α} {β : Type} {prog : M α β} {post : β → Channel α → Prop}
  {exc : Panic → Channel α → Prop}

/-- What a program does where user code is owed nothing, it does along `base`. -/
theorem wp_along (preserves : prog.Preserves (Along base))
    (below : prog.wp (lower op) post exc channel) (along : Along base channel) :
    prog.wp (upper op) (fun value after => post value after ∧ Along base after)
      (fun payload after => exc payload after ∧ Along base after) channel := by
  have enters : ∀ callback state, (lower op).enter callback state → Along base state →
      (upper op).enter callback state := fun _ _ _ along => along.mirrors
  refine Prog.wp_preserving enters ?_ (fun _ => id) (fun _ => id) (fun _ => id)
    preserves below along
  intro callback before outcome after along left
  exact ⟨left, left.2.2.1, along.follows.trans left.2.1.2.follows⟩

/-- The share of a handle is released. -/
theorem release_along {post : Unit → Channel α → Prop} (mirrors : Mirrors channel)
    (share : channel.state.handles < channel.state.strong)
    (below : (release : M α Unit).wp (lower op) post exc channel) :
    (release : M α Unit).wp (upper op)
      (fun value after => post value after ∧ Along (unshared channel) after)
      (fun payload after => exc payload after ∧ Along (unshared channel) after) channel := by
  have along : Along (unshared channel) (unshared channel) := .refl { mirrors with }
  simp only [release, Prog.wp_bind, wp_modifyState, wp_getState, Prog.wp_ite] at below ⊢
  by_cases last : (unshared channel).state.strong = 0
  · rw [if_pos last] at below ⊢
    have none : channel.state.handles = 0 := by
      have : channel.state.strong - 1 = 0 := last
      omega
    have gone : channel.state.receiver = false := by
      cases alive : channel.state.receiver with
      | false => rfl
      | true => simp [State.handles, alive] at none
    have drops : (do dropWakers (← getInner).recvWaker.toList : M α Unit).Preserves
        (Along (unshared channel)) :=
      .bind (.read _) fun inner => .dropWakers _
    exact wp_along (.dropGlue (dropValue_preserves gone) drops) below along
  · rw [if_neg last] at below ⊢
    exact ⟨below, along⟩

/-- The invariant holds once a handle is gone. -/
structure Settles (before after : Channel α) : Prop where
  mirrors : Mirrors after
  log : before.log <:+ after.log
  senderDropped : before.state.inner.senderDropped = true →
    after.state.inner.senderDropped = true

/-- A handle drops: its destructor runs, and then its share is released. -/
theorem dropHandle_along {destructor : M α Unit} {post : Unit → Channel α → Prop}
    (preserves : destructor.Preserves (Along channel)) (mirrors : Mirrors channel)
    (share : channel.state.handles < channel.state.strong)
    (below : (destructor.ensuring release).wp (lower op) post exc channel) :
    (destructor.ensuring release).wp (upper op)
      (fun value after => post value after ∧ Settles channel after)
      (fun payload after => exc payload after ∧ Settles channel after) channel := by
  have releases : ∀ {post : Unit → Channel α → Prop} {exc : Panic → Channel α → Prop} {after},
      (release : M α Unit).wp (lower op) post exc after → Along channel after →
      (release : M α Unit).wp (upper op)
        (fun value final => post value final ∧ Settles channel final)
        (fun payload final => exc payload final ∧ Settles channel final) after := by
    intro post exc after below along
    have share' : after.state.handles < after.state.strong := by
      have balance := along.follows.balance
      omega
    have settles : ∀ {final}, Along (unshared after) final → Settles channel final := fun along' =>
      ⟨along'.mirrors, along.follows.log.trans along'.follows.log,
        fun dropped => along'.follows.senderDropped (along.follows.senderDropped dropped)⟩
    exact Prog.wp_mono (release_along along.mirrors share' below)
      (fun _ _ kept => ⟨kept.1, settles kept.2⟩) (fun _ _ kept => ⟨kept.1, settles kept.2⟩)
  rw [Prog.wp_ensuring] at below ⊢
  refine Prog.wp_mono (wp_along preserves below (.refl mirrors)) ?_ ?_
  · rintro _ after ⟨below', along⟩
    exact releases below' along
  · rintro payload after ⟨below', along⟩
    exact Prog.wp_mono (releases below' along) (fun _ _ kept => kept) (fun _ _ _ => trivial)

/-- The channel whose sender has told that it is gone. -/
abbrev toldGone (channel : Channel α) : Channel α :=
  channel.onState (·.onInner fun inner => { inner with senderDropped := true })

/-- The sender drops. -/
theorem dropSender_along {post : Unit → Channel α → Prop} (mirrors : Mirrors (toldGone channel))
    (share : channel.state.handles < channel.state.strong)
    (below : (Sender.drop.ensuring release).wp (lower op) post exc channel) :
    (Sender.drop.ensuring release).wp (upper op)
      (fun value after => post value after ∧ Settles (toldGone channel) after)
      (fun payload after => exc payload after ∧ Settles (toldGone channel) after) channel := by
  have tells : ∀ present : Bool, (if !present then wakeReceiver else return : M α Unit).Preserves
      (Along (toldGone channel)) := by
    intro present
    cases present with
    | true => trivial
    | false => exact wakeReceiver_preserves
  exact dropHandle_along (tells channel.state.inner.valuePresent) mirrors share below

/-- The receiver drops. -/
theorem dropReceiver_along {post : Unit → Channel α → Prop} (mirrors : Mirrors channel)
    (gone : channel.state.receiver = false)
    (share : channel.state.handles < channel.state.strong)
    (below : (Receiver.drop.ensuring release).wp (lower op) post exc channel) :
    (Receiver.drop.ensuring release).wp (upper op)
      (fun value after => post value after ∧ Settles channel after)
      (fun payload after => exc payload after ∧ Settles channel after) channel := by
  refine dropHandle_along (.bind (fun _ along => ⟨?_, trivial⟩) fun _ => ?_) mirrors share below
  · exact ⟨{ along.mirrors with }, { along.follows with }⟩
  · exact .bind clearRecvWaker_preserves fun _ => dropValue_preserves gone

end Functions

/-! ### What the receiver finds -/

namespace Mirrors

/-- Nothing happens with an event. -/
theorem logged (mirrors : Mirrors channel) {event : Event (Op α) (Result α) α}
    (idle : Event.happens? event = none) (explained : Explained (event :: channel.log))
    (sending : channel.state.inner.senderDropped = true ∨
      (Sending channel.log → Sending (event :: channel.log))) :
    Mirrors (channel.logged event) := by
  have same : handoff (event :: channel.log) = handoff channel.log := handoff_idle idle _
  refine ⟨explained, same ▸ mirrors.sender, same ▸ mirrors.receiver, same ▸ mirrors.done,
    same ▸ mirrors.value, mirrors.dropped, mirrors.heard, fun gone => ?_⟩
  rcases sending with dropped | still
  · exact .inl dropped
  · exact (mirrors.sending gone).imp_right still

/-- Nothing is found, and nothing changes but that the receiver may be in use. -/
theorem kept (mirrors : Mirrors channel) {log : Log α} (explained : Explained log)
    (same : handoff log = handoff channel.log) (sending : Sending channel.log → Sending log)
    (polling : Bool) :
    Mirrors ⟨{ channel.state with polling := polling }, channel.held, log⟩ :=
  ⟨explained, same ▸ mirrors.sender, same ▸ mirrors.receiver, same ▸ mirrors.done,
    same ▸ mirrors.value, mirrors.dropped, mirrors.heard,
    fun gone => (mirrors.sending gone).imp_right sending⟩

/-- The receiver has found the value, or that there will be none. -/
theorem found (mirrors : Mirrors channel) {log : Log α} (explained : Explained log)
    (left : handoff log = { handoff channel.log with value := none, done := true })
    (sending : Sending channel.log → Sending log) :
    Mirrors ⟨{ channel.state with
      inner := { channel.state.inner with value := none, valuePresent := false }
      done := true
      polling := false }, channel.held, log⟩ where
  explained := explained
  sender := by rw [left]; exact mirrors.sender
  receiver := by rw [left]; exact mirrors.receiver
  done := by rw [left]
  value _ := by rw [left]
  dropped := mirrors.dropped
  heard _ _ := .inr (.inr rfl)
  sending gone := (mirrors.sending gone).imp_right sending

/-- The receiver finds in the hand-off what the channel yields. -/
theorem look_found (mirrors : Mirrors channel) (alive : channel.state.receiver = true)
    (expecting : channel.state.done = false) {outcome : Except Canceled α}
    (fits : channel.state.inner.Yields outcome) :
    (handoff channel.log).look =
      (some outcome, { handoff channel.log with value := none, done := true }) := by
  have unfinished := mirrors.done.trans expecting
  have value := mirrors.value alive
  cases outcome with
  | ok item =>
      rw [fits] at value
      simp [Handoff.look, unfinished, value]
  | error canceled =>
      obtain ⟨none, dropped⟩ := fits
      have gone := mirrors.sender.trans (mirrors.dropped dropped)
      rw [none] at value
      simp only [Handoff.look, unfinished, value, gone, Bool.false_eq_true, ↓reduceIte]

/-- The receiver finds nothing in the hand-off where the channel yields nothing. -/
theorem look_nothing (mirrors : Mirrors channel) (alive : channel.state.receiver = true)
    (nothing : channel.state.done = true ∨
      channel.state.inner.value = none ∧ channel.state.inner.senderDropped = false) :
    (handoff channel.log).look = (none, handoff channel.log) := by
  rcases nothing with done | ⟨none, still⟩
  · simp [Handoff.look, mirrors.done.trans done]
  · cases done : channel.state.done with
    | true => simp [Handoff.look, mirrors.done.trans done]
    | false =>
        have waits : (handoff channel.log).sender = true := by
          rw [mirrors.sender]
          by_contra gone
          rcases mirrors.heard alive (eq_false_of_ne_true gone) with dropped | some | done'
          · exact Bool.noConfusion (still.symm.trans dropped)
          · exact some none
          · exact Bool.noConfusion (done.symm.trans done')
        simp [Handoff.look, mirrors.done.trans done, (mirrors.value alive).trans none, waits]

/-- The iterator finds in the hand-off the value of the channel. -/
theorem peek_found (mirrors : Mirrors channel) (alive : channel.state.receiver = true)
    (expecting : channel.state.done = false) {item : α}
    (some : channel.state.inner.value = some item) :
    (handoff channel.log).peek =
      (.some item, { handoff channel.log with value := none, done := true }) := by
  simp [Handoff.peek, mirrors.done.trans expecting, (mirrors.value alive).trans some]

/-- The iterator finds nothing in the hand-off where the channel has no value. -/
theorem peek_nothing (mirrors : Mirrors channel) (alive : channel.state.receiver = true)
    (nothing : channel.state.done = true ∨ channel.state.inner.value = none) :
    (handoff channel.log).peek = (none, handoff channel.log) := by
  rcases nothing with done | none
  · simp [Handoff.peek, mirrors.done.trans done]
  · cases done : (handoff channel.log).done with
    | true => simp [Handoff.peek, done]
    | false => simp [Handoff.peek, done, (mirrors.value alive).trans none]

end Mirrors

/-! ### The operations -/

/-- An operation that happened when it began is over at once. -/
theorem explained_over {op : Op α} {result : Result α} {log : Log α} (explained : Explained log)
    (moment : ∀ start older, op.moment start older = past start older)
    (agrees : Agrees op result log) :
    Explained (.returned log.length op result :: .began op :: log) := by
  have before : past log.length (.began op :: log) = log := past_suffix (List.suffix_cons ..)
  refine ⟨⟨⟨[], congrArg (List.cons (Event.began op)) before⟩, ?_⟩, explained⟩
  rw [moment, before]
  exact agrees

section Operations

variable (inv : Inv channel) (mirrors : Mirrors channel)
include inv mirrors

/-- Receiving without waiting happens at once. -/
theorem tryRecv_mirrors (legal : channel.state.Legal (.tryRecv : Op α)) :
    (perform .tryRecv).leaves (upper .tryRecv) Mirrors channel := by
  have entered : Inv (occupied channel .tryRecv) :=
    inv.enters legal.1 ⟨by rintro ⟨⟩, by rintro ⟨⟩⟩ (by rintro _ ⟨⟩)
  have began : handoff (.began .tryRecv :: channel.log) = ((handoff channel.log).step .tryRecv).2 :=
    handoff_happens rfl _
  have left : ∀ result, handoff (.returned channel.log.length .tryRecv result ::
      .began .tryRecv :: channel.log) = (handoff channel.log).look.2 :=
    fun result => (handoff_idle rfl _).trans began
  have closes : ∀ result, result = ((handoff channel.log).step .tryRecv).1 →
      Explained (.returned channel.log.length .tryRecv result :: .began .tryRecv :: channel.log) :=
    fun result answers => explained_over mirrors.explained (fun _ _ => rfl) (.inl answers)
  have found : ∀ {outcome result}, channel.state.done = false →
      channel.state.inner.Yields outcome →
      result = ((handoff channel.log).step .tryRecv).1 →
      Mirrors (yielding (occupied channel .tryRecv) channel.log.length .tryRecv result) := by
    intro outcome result expecting fits answers
    refine mirrors.found (closes _ answers) ?_ id
    exact (left _).trans (congrArg Prod.snd (mirrors.look_found legal.1 expecting fits))
  have nothing : channel.state.done = true ∨ channel.state.inner.value = none ∧
      channel.state.inner.senderDropped = false →
      Mirrors (released (occupied channel .tryRecv) channel.state.inner channel.state.done
        (.returned channel.log.length .tryRecv (.tryRecv (.ok none)))) := by
    intro nothing
    have look := mirrors.look_nothing legal.1 nothing
    refine mirrors.kept (closes _ ?_) ?_ id false
    · simp only [Handoff.step, look]
    · exact (left _).trans (congrArg Prod.snd look)
  rw [wp_perform]
  simp only [body, Prog.wp_bind, Prog.wp_pure]
  refine wp_holding ?_
  simp only [Receiver.tryRecv, Receiver.takeValue, Prog.wp_bind, wp_getState, Prog.wp_ite]
  by_cases done : (occupied channel .tryRecv).state.done = true
  · rw [if_pos done]
    simp only [Prog.wp_pure, Prog.wp_bind, wp_getState, wp_getInner, Prog.wp_ite]
    rw [if_neg (by simp only [done]; exact Bool.false_ne_true)]
    exact nothing (.inl done)
  · rw [if_neg done]
    have expecting := eq_false_of_ne_true done
    refine wp_receive entered.core ?_ ?_
    · intro value some
      have fits : channel.state.inner.Yields (.ok value) := some
      refine found expecting fits ?_
      simp only [Handoff.step, mirrors.look_found legal.1 expecting fits]
    · intro none
      simp only [Prog.wp_bind, wp_getState, wp_getInner, Prog.wp_ite]
      by_cases dropped : (occupied channel .tryRecv).state.inner.senderDropped = true
      · rw [if_pos (by simp only [expecting, dropped]; rfl)]
        have fits : channel.state.inner.Yields (.error .mk) := ⟨none, dropped⟩
        have canceled : Mirrors (yielding (occupied channel .tryRecv) channel.log.length .tryRecv
            (.tryRecv (.error .mk))) :=
          found expecting fits
            (by simp only [Handoff.step, mirrors.look_found legal.1 expecting fits])
        rw [released_vacant entered.core none] at canceled
        exact canceled
      · rw [if_neg (by simp only [dropped, Bool.and_false]; exact Bool.false_ne_true)]
        exact nothing (.inr ⟨none, eq_false_of_ne_true dropped⟩)

/-- Taking the value through the iterator happens at once. -/
theorem tryIterNext_mirrors (legal : channel.state.Legal (.tryIterNext : Op α)) :
    (perform .tryIterNext).leaves (upper .tryIterNext) Mirrors channel := by
  have entered : Inv (occupied channel .tryIterNext) :=
    inv.enters legal.1 ⟨by rintro ⟨⟩, by rintro ⟨⟩⟩ (by rintro _ ⟨⟩)
  have began : handoff (.began .tryIterNext :: channel.log) =
      ((handoff channel.log).step .tryIterNext).2 :=
    handoff_happens rfl _
  have left : ∀ result, handoff (.returned channel.log.length .tryIterNext result ::
      .began .tryIterNext :: channel.log) = (handoff channel.log).peek.2 :=
    fun result => (handoff_idle rfl _).trans began
  have closes : ∀ item, item = (handoff channel.log).peek.1 →
      Explained (.returned channel.log.length .tryIterNext (.next item) ::
        .began .tryIterNext :: channel.log) :=
    fun item answers => explained_over mirrors.explained (fun _ _ => rfl)
      (.inl (congrArg Result.next answers))
  have nothing : channel.state.done = true ∨ channel.state.inner.value = none →
      Mirrors (released (occupied channel .tryIterNext) channel.state.inner channel.state.done
        (.returned channel.log.length .tryIterNext (.next none))) := by
    intro nothing
    have peek := mirrors.peek_nothing legal.1 nothing
    refine mirrors.kept (closes _ ?_) ?_ id false
    · rw [peek]
    · exact (left _).trans (congrArg Prod.snd peek)
  rw [wp_perform]
  simp only [body, Prog.wp_bind, Prog.wp_pure]
  refine wp_holding ?_
  simp only [Receiver.takeValue, Prog.wp_bind, wp_getState, Prog.wp_ite]
  by_cases done : (occupied channel .tryIterNext).state.done = true
  · rw [if_pos done]
    exact nothing (.inl done)
  · rw [if_neg done]
    refine wp_receive entered.core ?_ (fun none => nothing (.inr none))
    intro value some
    have peek := mirrors.peek_found legal.1 (eq_false_of_ne_true done) some
    refine mirrors.found (closes _ ?_) ?_ id
    · rw [peek]
    · exact (left _).trans (congrArg Prod.snd peek)

/-- A poll happens when it returns. -/
theorem poll_mirrors {waker : Waker} (legal : channel.state.Legal (.poll waker)) :
    (perform (.poll waker)).leaves (upper (.poll waker)) Mirrors channel := by
  have entered : Inv (occupied channel (.poll waker)) :=
    inv.enters legal.1 ⟨by rintro ⟨⟩, by rintro ⟨⟩⟩ (by rintro _ ⟨⟩)
  have same : Guarantee.Within (occupied channel (.poll waker)) (occupied channel (.poll waker)) :=
    .refl rfl
  have began : Explained (.began (.poll waker) :: channel.log) := mirrors.explained
  have mirrors' : Mirrors (occupied channel (.poll waker)) :=
    mirrors.kept began (handoff_idle rfl _) id true
  have left : ∀ {before : Channel α} {result}, handoff (.returned channel.log.length (.poll waker)
      result :: before.log) = ((handoff before.log).step (.poll waker)).2 := handoff_happens rfl _
  have closes : ∀ {before : Channel α} {result},
      Guarantee.Within (occupied channel (.poll waker)) before → Mirrors before →
      result = ((handoff before.log).step (.poll waker)).1 →
      Explained (.returned channel.log.length (.poll waker) result :: before.log) := by
    intro before result within mirrors answers
    refine ⟨⟨?_, .inl answers⟩, mirrors.explained⟩
    rw [within.past]
    exact within.log
  have found : ∀ {before : Channel α} {outcome}, Inv before →
      Guarantee.Within (occupied channel (.poll waker)) before → Mirrors before →
      channel.state.done = false → before.state.inner.Yields outcome →
      Mirrors (yielding before channel.log.length (.poll waker) (.poll (.ready outcome))) := by
    intro before outcome inv within mirrors expecting fits
    have look := mirrors.look_found (inv.core.polling within.polling)
      (within.done.trans expecting) fits
    have explained : Explained (.returned channel.log.length (.poll waker)
        (.poll (.ready outcome)) :: before.log) :=
      closes within mirrors (by simp only [Handoff.step, look])
    exact mirrors.found explained (left.trans (congrArg Prod.snd look)) id
  have nothing : ∀ {before : Channel α}, Inv before →
      Guarantee.Within (occupied channel (.poll waker)) before → Mirrors before →
      before.state.done = true ∨ before.state.inner.value = none ∧
        before.state.inner.senderDropped = false →
      Mirrors (released before before.state.inner before.state.done
        (.returned channel.log.length (.poll waker) (.poll .pending))) := by
    intro before inv within mirrors nothing
    have look := mirrors.look_nothing (inv.core.polling within.polling) nothing
    refine mirrors.kept (closes within mirrors ?_) ?_ id false
    · simp only [Handoff.step, look]
    · exact left.trans (congrArg Prod.snd look)
  rw [wp_perform]
  simp only [body, Prog.wp_bind, Prog.wp_pure]
  refine wp_holding ?_
  simp only [Receiver.poll, Prog.wp_bind, wp_getState, Prog.wp_ite]
  by_cases done : (occupied channel (.poll waker)).state.done = true
  · rw [if_pos done]
    exact nothing entered same mirrors' (.inl done)
  · rw [if_neg done]
    have expecting := eq_false_of_ne_true done
    refine wp_check entered.core ?_ ?_
    · exact fun outcome fits => found entered same mirrors' expecting fits
    · intro none still
      rw [Prog.wp_bind]
      refine Prog.wp_mono (wp_along (registerRecvWaker_preserves waker)
        (registerRecvWaker_sound (lower_relies _) entered rfl) (.refl mirrors')) ?_ ?_
      · rintro _ after ⟨⟨inv', within, -⟩, along⟩
        refine wp_check inv'.core ?_ ?_
        · exact fun outcome fits => found inv' within along.mirrors expecting fits
        · exact fun none still => nothing inv' within along.mirrors (.inr ⟨none, still⟩)
      · rintro _ after ⟨-, along⟩
        have unwound : Explained (.unwound channel.log.length (.poll waker) :: after.log) :=
          along.mirrors.explained
        exact along.mirrors.kept unwound (handoff_idle rfl _) id false

omit inv in
/-- An operation that only looks at the channel. -/
theorem observes_mirrors {op : Op α} (value : State α → Bool)
    (looks : body op = (do return .bool (value (← getState)) : M α (Result α)))
    (begins : Event.happens? (.began op) = some op)
    (ends : Event.happens? (.returned channel.log.length op (.bool (value channel.state))) = none)
    (moment : ∀ start older, op.moment start older = past start older)
    (leaves : ((handoff channel.log).step op).2 = handoff channel.log)
    (agrees : Agrees op (.bool (value channel.state)) channel.log)
    (sending : Sending channel.log → Sending
      (.returned channel.log.length op (.bool (value channel.state)) :: .began op :: channel.log)) :
    (perform op).leaves (upper op) Mirrors channel := by
  have explained := explained_over mirrors.explained moment agrees
  rw [wp_perform, looks]
  refine mirrors.kept explained ?_ sending channel.state.polling
  rw [handoff_idle ends, handoff_happens begins, leaves]

/-- Asking whether the receiver is gone happens at once. -/
theorem senderIsClosed_mirrors : (perform .senderIsClosed).leaves (upper .senderIsClosed) Mirrors
    channel := by
  refine observes_mirrors mirrors (fun state => state.inner.receiverDropped) rfl rfl rfl
    (fun _ _ => rfl) rfl (.inl ?_) id
  have receiver := mirrors.receiver.trans inv.core.receiver
  simp only [Handoff.step, receiver, Bool.not_not]

omit inv in
/-- Asking whether the sender is gone happens at once, or the sender is being told so. -/
theorem receiverIsClosed_mirrors : (perform .receiverIsClosed).leaves (upper .receiverIsClosed)
    Mirrors channel := by
  refine observes_mirrors mirrors (fun state => state.inner.senderDropped) rfl rfl rfl
    (fun _ _ => rfl) rfl ?_ id
  cases dropped : channel.state.inner.senderDropped with
  | true =>
      have gone := mirrors.sender.trans (mirrors.dropped dropped)
      exact .inl (by simp only [Handoff.step, gone, Bool.not_false])
  | false =>
      cases sender : channel.state.sender with
      | true =>
          have there := mirrors.sender.trans sender
          exact .inl (by simp only [Handoff.step, there, Bool.not_true])
      | false =>
          rcases mirrors.sending sender with told | sending
          · exact Bool.noConfusion (dropped.symm.trans told)
          · exact .inr ⟨rfl, rfl, sending⟩

omit inv in
/-- Asking whether the receiver is done happens at once. -/
theorem isTerminated_mirrors : (perform .isTerminated).leaves (upper .isTerminated) Mirrors
    channel := by
  refine observes_mirrors mirrors (fun state => state.done) rfl rfl rfl (fun _ _ => rfl) rfl
    (.inl ?_) id
  simp only [Handoff.step, mirrors.done]

omit inv mirrors in
/-- An operation on a handle returns, once the handle is gone. -/
theorem Settles.returned {op : Op α} {before after : Channel α} {result : Result α}
    (settles : Settles before after) (begun : .began op :: channel.log <:+ before.log)
    (ends : Event.happens? (.returned channel.log.length op result) = none)
    (moment : ∀ start older, op.moment start older = past start older)
    (agrees : Agrees op result channel.log)
    (sending : after.state.inner.senderDropped = true ∨ (Sending after.log →
      Sending (.returned channel.log.length op result :: after.log))) :
    Mirrors (after.logged (.returned channel.log.length op result)) := by
  have suffix := begun.trans settles.log
  have earlier : past channel.log.length after.log = channel.log :=
    past_suffix ((List.suffix_cons ..).trans suffix)
  refine settles.mirrors.logged ends ⟨⟨?_, ?_⟩, settles.mirrors.explained⟩ sending
  · rw [earlier]
    exact suffix
  · rw [moment, earlier]
    exact agrees

/-- Dropping the sender happens at once. -/
theorem dropSender_mirrors (legal : channel.state.Legal (.dropSender : Op α)) :
    (perform .dropSender).leaves (upper .dropSender) Mirrors channel := by
  have below := dropSender_keeps (lower_relies .dropSender) (fun _ _ => trivial) inv legal
  have left : handoff (.began .dropSender :: channel.log) =
      ((handoff channel.log).step .dropSender).2 := handoff_happens rfl _
  have told : Mirrors (toldGone (senderless channel .dropSender)) :=
    { explained := mirrors.explained
      sender := congrArg Handoff.sender left
      receiver := (congrArg Handoff.receiver left).trans mirrors.receiver
      done := (congrArg Handoff.done left).trans mirrors.done
      value := fun alive => (congrArg Handoff.value left).trans (mirrors.value alive)
      dropped := fun _ => rfl
      heard := fun _ _ => .inl rfl
      sending := fun _ => .inl rfl }
  rw [wp_perform] at below ⊢
  simp only [body, Prog.wp_bind, Prog.wp_pure, wp_modifyState] at below ⊢
  refine Prog.wp_mono (dropSender_along told (inv.senderless_share legal) below) ?_ ?_
  · rintro _ after ⟨-, settles⟩
    exact settles.returned (List.suffix_refl _) rfl (fun _ _ => rfl) (.inl rfl) (.inr id)
  · rintro _ after ⟨-, settles⟩
    exact settles.mirrors.logged rfl settles.mirrors.explained (.inr id)

/-- Dropping the receiver happens at once. -/
theorem dropReceiver_mirrors (legal : channel.state.Legal (.dropReceiver : Op α)) :
    (perform .dropReceiver).leaves (upper .dropReceiver) Mirrors channel := by
  have below := dropReceiver_keeps (lower_relies .dropReceiver) (fun _ _ => trivial) inv legal
  have left : handoff (.began .dropReceiver :: channel.log) =
      ((handoff channel.log).step .dropReceiver).2 := handoff_happens rfl _
  have leaves : Mirrors ((channel.logged (.began .dropReceiver)).onState fun state =>
      { state with receiver := false }) :=
    { explained := mirrors.explained
      sender := (congrArg Handoff.sender left).trans mirrors.sender
      receiver := congrArg Handoff.receiver left
      done := (congrArg Handoff.done left).trans mirrors.done
      value := by rintro ⟨⟩
      dropped := mirrors.dropped
      heard := by rintro ⟨⟩
      sending := mirrors.sending }
  have share : channel.state.sender.toNat + 0 < channel.state.strong := by
    have strong := inv.core.strong
    simp only [State.handles, legal.1, Bool.toNat_true] at strong
    omega
  rw [wp_perform] at below ⊢
  simp only [body, Prog.wp_bind, Prog.wp_pure, wp_modifyState] at below ⊢
  refine Prog.wp_mono (dropReceiver_along leaves rfl share below) ?_ ?_
  · rintro _ after ⟨-, settles⟩
    exact settles.returned (List.suffix_refl _) rfl (fun _ _ => rfl) (.inl rfl) (.inr id)
  · rintro _ after ⟨-, settles⟩
    exact settles.mirrors.logged rfl settles.mirrors.explained (.inr id)

/-- The value is in the slot. -/
theorem fills_mirrors (value : α) (alive : channel.state.inner.receiverDropped = false) :
    Mirrors (filled channel value) := by
  have receiver : (handoff channel.log).receiver = true :=
    (mirrors.receiver.trans inv.core.receiver).trans (congrArg not alive)
  have left := handoff_happens (show Event.happens? (.began (.send value)) = _ from rfl) channel.log
  rw [Handoff.step_send _ value receiver] at left
  exact
    { explained := mirrors.explained
      sender := congrArg Handoff.sender left
      receiver := (congrArg Handoff.receiver left).trans mirrors.receiver
      done := (congrArg Handoff.done left).trans mirrors.done
      value := fun _ => congrArg Handoff.value left
      dropped := fun _ => rfl
      heard := fun _ _ => .inr (.inl (by rintro ⟨⟩))
      sending := fun _ => .inr trivial }

/-- The sender gets its value back. -/
theorem refuses_mirrors (value : α) (closed : channel.state.inner.receiverDropped = true) :
    Mirrors (refused channel value) := by
  have gone : channel.state.receiver = false := inv.core.receiver.trans (congrArg not closed)
  have step := Handoff.step_send_refused (handoff channel.log) value (mirrors.receiver.trans gone)
  have answers : (.send (.error value)) = ((handoff channel.log).step (.send value)).1 := by
    rw [step]
  have began :=
    handoff_happens (show Event.happens? (.began (.send value)) = _ from rfl) channel.log
  rw [step] at began
  have left : handoff (refused channel value).log = { handoff channel.log with sender := false } :=
    (handoff_idle rfl _).trans began
  have explained := explained_over mirrors.explained (fun _ _ => rfl) (.inl answers)
  exact
    { explained := explained
      sender := congrArg Handoff.sender left
      receiver := (congrArg Handoff.receiver left).trans mirrors.receiver
      done := (congrArg Handoff.done left).trans mirrors.done
      value := fun alive => Bool.noConfusion (gone.symm.trans alive)
      dropped := fun _ => rfl
      heard := fun alive => Bool.noConfusion (gone.symm.trans alive)
      sending := fun _ => .inl rfl }

/-- Sending happens at once. -/
theorem send_mirrors {value : α} (legal : channel.state.Legal (.send value)) :
    (perform (.send value)).leaves (upper (.send value)) Mirrors channel := by
  have below := send_keeps (lower_relies (.send value)) (fun _ _ => trivial) inv legal
  rw [wp_perform] at below ⊢
  simp only [body, Prog.wp_bind, Prog.wp_pure, wp_modifyState] at below ⊢
  rw [Prog.wp_ensuring] at below ⊢
  by_cases closed : (senderless channel (.send value)).state.inner.receiverDropped = true
  · have waker : channel.state.inner.recvWaker = none := inv.core.vacated closed
    have absent : channel.state.inner.valuePresent = false := by
      rw [inv.core.present, (inv.core.sends legal value).2.2]
      rfl
    simp only [Sender.send, Prog.wp_bind, wp_getInner, Prog.wp_ite]
    rw [if_pos closed]
    exact wp_drop_idle inv.core.held waker absent (refuses_mirrors inv mirrors value closed)
  · have alive := eq_false_of_ne_true closed
    have receiver : (handoff channel.log).receiver = true :=
      (mirrors.receiver.trans inv.core.receiver).trans (congrArg not alive)
    simp only [Sender.send, Prog.wp_bind, wp_getInner, Prog.wp_ite] at below ⊢
    rw [if_neg closed] at below ⊢
    simp only [wp_modifyInner, Prog.wp_pure] at below ⊢
    have fills : Along (filled channel value) (filled channel value) :=
      .refl (fills_mirrors inv mirrors value alive)
    have drops : ∀ {post : Unit → Channel α → Prop} {exc : Panic → Channel α → Prop} {after},
        (Sender.drop.ensuring release).wp (lower (.send value)) post exc after →
        Along (filled channel value) after →
        (Sender.drop.ensuring release).wp (upper (.send value))
          (fun _ final => Settles (toldGone after) final)
          (fun _ final => Settles (toldGone after) final) after := by
      intro post exc after below along
      have gone : after.state.sender = false := along.follows.sender rfl
      have share : after.state.handles < after.state.strong := by
        have share : (filled channel value).state.handles < (filled channel value).state.strong :=
          inv.senderless_share legal
        have balance := along.follows.balance
        omega
      have told : Mirrors (toldGone after) :=
        { along.mirrors with
          dropped := fun _ => gone
          heard := fun _ _ => .inl rfl
          sending := fun _ => .inl rfl }
      exact Prog.wp_mono (dropSender_along told share below) (fun _ _ kept => kept.2)
        (fun _ _ kept => kept.2)
    refine Prog.wp_mono (wp_along wakeReceiver_preserves below fills) ?_ ?_
    · rintro _ after ⟨below', along⟩
      refine Prog.wp_mono (drops below' along) ?_ ?_
      · intro _ final settles
        exact settles.returned along.follows.log rfl (fun _ _ => rfl)
          (.inl (by rw [Handoff.step_send _ value receiver])) (.inl (settles.senderDropped rfl))
      · intro _ final settles
        exact settles.mirrors.logged rfl settles.mirrors.explained
          (.inl (settles.senderDropped rfl))
    · rintro _ after ⟨below', along⟩
      refine Prog.wp_mono (drops below' along) ?_ (fun _ _ _ => trivial)
      intro _ final settles
      exact settles.mirrors.logged rfl settles.mirrors.explained (.inl (settles.senderDropped rfl))

end Operations

/-! ### Every run -/

/-- Every operation happens at once. -/
theorem perform_mirrors {op : Op α} (legal : channel.state.Legal op) (inv : Inv channel)
    (mirrors : Mirrors channel) : (perform op).leaves (upper op) Mirrors channel := by
  cases op with
  | send value => exact send_mirrors inv mirrors legal
  | dropSender => exact dropSender_mirrors inv mirrors legal
  | senderIsClosed => exact senderIsClosed_mirrors inv mirrors
  | poll waker => exact poll_mirrors inv mirrors legal
  | tryRecv => exact tryRecv_mirrors inv mirrors legal
  | tryIterNext => exact tryIterNext_mirrors inv mirrors legal
  | receiverIsClosed => exact receiverIsClosed_mirrors mirrors
  | isTerminated => exact isTerminated_mirrors mirrors
  | dropReceiver => exact dropReceiver_mirrors inv mirrors legal

/-- A new channel mirrors a new hand-off. -/
theorem Mirrors.initial : Mirrors (Oneshot.channel : Channel α) where
  explained := trivial
  sender := rfl
  receiver := rfl
  done := rfl
  value _ := rfl
  dropped := by rintro ⟨⟩
  heard := by rintro _ ⟨⟩
  sending := by rintro ⟨⟩

/-- At every point of a run the channel mirrors the hand-off. -/
theorem Runs.mirrors {frames} (runs : Runs (.user channel frames)) : Mirrors channel := by
  have keeps : ∀ (op : Op α) (channel : Channel α), channel.state.Legal op → True →
      Inv channel → System.Keeps .any (exits α) Inv Guarantee op channel (perform op) channel := by
    intro op channel legal _ inv
    have relies : Relies (System.contract .any (exits α) Inv Guarantee op)
        (Inv (α := α)) Guarantee (fun _ _ _ => True) :=
      { enter := fun _ _ inv => inv
        resume := fun _ _ _ _ left => left.2
        panics := fun _ _ _ _ _ => trivial }
    exact perform_keeps relies (fun _ twice => twice) legal inv
  have mirror : ∀ (op : Op α) (channel : Channel α), channel.state.Legal op → True →
      Inv channel → Mirrors channel →
      (perform op).leaves (upper op) (fun after => Mirrors after ∧ True) channel := by
    intro op channel legal _ inv mirrors
    exact Prog.wp_mono (perform_mirrors legal inv mirrors) (fun _ _ kept => ⟨kept, trivial⟩)
      (fun _ _ kept => ⟨kept, trivial⟩)
  have sound : System.ConfigSound .any (exits α) (fun channel => Inv channel ∧ Mirrors channel)
      (fun before after => Guarantee before after ∧ True) Oneshot.channel (.user channel frames) :=
    System.Reachable.sound_above Guarantee.refl (fun _ _ _ => Guarantee.trans)
      (fun _ => trivial) (fun _ _ _ _ _ => trivial) keeps mirror .initial .initial runs
  exact sound.1.2

/-- Every operation that is over has happened at one moment while it was in progress, and answered
as it does then; and the handles, the completion and, while the receiver is alive, the value are as
the operations leave them that have happened. -/
structure AtOnce (channel : Channel α) : Prop where
  answers : ∀ start op result older, .returned start op result :: older <:+ channel.log →
    .began op :: past start older <:+ older ∧ Agrees op result (op.moment start older)
  sender : channel.state.sender = (handoff channel.log).sender
  receiver : channel.state.receiver = (handoff channel.log).receiver
  done : channel.state.done = (handoff channel.log).done
  value : channel.state.receiver = true →
    channel.state.inner.value = (handoff channel.log).value

/-- The operations of a oneshot channel happen one after the other, whatever user code does in the
callbacks that they run. -/
theorem operations_happen_at_once {frames} (runs : Runs (.user channel frames)) :
    AtOnce channel := by
  have mirrors := runs.mirrors
  exact
    { answers := fun _ _ _ _ suffix => mirrors.explained.answers suffix
      sender := mirrors.sender.symm
      receiver := mirrors.receiver.symm
      done := mirrors.done.symm
      value := fun alive => (mirrors.value alive).symm }

/-- The value is sent while a poll registers its waker, and the poll happens after that. -/
theorem operations_happen_at_once_nested : ∃ channel : Channel Nat, Runs (.user channel []) ∧
    happened channel.log = [.send 7, .poll 5] ∧ AtOnce channel := by
  have played : ∃ channel : Channel Nat, (system Nat).play 0
      [.call (.poll 5), .call (.send 7), .leave (.ok ())] (.user Oneshot.channel []) =
        some (.user channel []) ∧ happened channel.log = [.send 7, .poll 5] := ⟨_, rfl, rfl⟩
  obtain ⟨channel, played, order⟩ := played
  have runs : Runs (.user channel []) := .played _ played
  exact ⟨channel, runs, order, operations_happen_at_once runs⟩

end Lochan.Oneshot
