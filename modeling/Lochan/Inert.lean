import Lochan.Reentrant.Outcome
import Lochan.Mpmc.Delivery
import Lochan.Mpsc.Delivery
import Lochan.Oneshot.Soundness

/-!
# Completed futures

A future that is polled after a poll of it has returned its result returns `Pending` and leaves
the channel alone. The receive future of an mpsc channel does so in one state only: its polls do
not ask whether it has completed.
-/

namespace Lochan

open Reentrant

variable {χ ω ρ α : Type}

/-! ### Polls that leave the channel alone -/

section Idles

variable (items : χ → List α) (parked : χ → Side → List Waker)

/-- No item comes or goes, and nobody is registered anew. -/
structure Still (before after : World χ ω ρ α) : Prop where
  accepted : accepted after.log = accepted before.log
  delivered : delivered after.log = delivered before.log
  items : items after.state = items before.state
  parked : ∀ side, (parked after.state side).Subperm (parked before.state side)

/-- The callbacks that wake nobody but the caller, who polls with a waker. -/
def Calling (waker : Waker) (code : Callback α) : Prop :=
  code.invokes = none ∨ code = .wakeByRef waker

/-- No callback panics. -/
def Tame (leaves : Callback α → World χ ω ρ α → Except Panic Unit) : Prop :=
  ∀ code world, leaves code world = .ok ()

/-- What a poll of a completed future comes to, where user code leaves the callbacks in a given
way. -/
structure Idles (leaves : Callback α → World χ ω ρ α → Except Panic Unit)
    (pending : Event ω ρ α) (waker : Waker) (before : World χ ω ρ α)
    (outcome : Outcome (World χ ω ρ α) (Callback α) Panic Unit) : Prop where
  returned : Tame leaves →
    outcome.ending = .returned () ∧ outcome.state.log.head? = some pending
  still : Still items parked before outcome.state
  calls : ∀ call ∈ outcome.calls, Calling waker call.1

/-- A poll with wakers that do not use the channel returns `Pending` unless one of them panics. It
leaves the items and the registrations alone, and wakes nobody but its caller. -/
def Inert (perform : ω → Act χ ω ρ α Unit) (poll : ω) (pending : ρ) (waker : Waker)
    (world : World χ ω ρ α) : Prop :=
  ∀ leaves count, Idles items parked leaves (.returned world.log.length poll pending) waker world
    ((perform poll).run (Prog.aloof leaves) count world)

variable {items parked} {perform : ω → Act χ ω ρ α Unit} {poll : ω} {pending : ρ} {waker : Waker}
  {world : World χ ω ρ α}

/-- A poll is inert if it does nothing where the callbacks do nothing, and comes to `Pending`. -/
theorem Inert.intro (holds : ∀ leaves : Callback α → World χ ω ρ α → Except Panic Unit,
    (perform poll).wp (.aloof (Calling waker) leaves)
      (fun _ after => Still items parked world after ∧
        after.log.head? = some (.returned world.log.length poll pending))
      (fun _ after => Still items parked world after ∧ ¬ Tame leaves) world) :
    Inert items parked perform poll pending waker world := by
  intro leaves count
  have meets := (holds leaves).run_aloof count
  have calls := (holds leaves).calls_aloof count
  generalize (perform poll).run (Prog.aloof leaves) count world = outcome at meets calls
  obtain ⟨callbacks, ending, after⟩ := outcome
  cases ending with
  | returned value => exact ⟨fun _ => ⟨rfl, meets.2⟩, meets.1, calls⟩
  | unwound payload => exact ⟨fun tame => absurd tame meets.2, meets.1, calls⟩
  | aborted => exact meets.elim
  | faulted => exact meets.elim
  | hung => exact meets.elim

/-- A poll that does nothing but answer. -/
theorem Inert.answered (holds : ∀ leaves : Callback α → World χ ω ρ α → Except Panic Unit,
    (perform poll).wp (.aloof (Calling waker) leaves)
      (fun _ after => after = world.answered poll pending) (fun _ _ => False) world) :
    Inert items parked perform poll pending waker world := by
  refine .intro fun leaves => Prog.wp_mono (holds leaves) ?_ (fun _ _ => False.elim)
  rintro _ after rfl
  refine ⟨⟨?_, ?_, rfl, fun _ => List.Subperm.refl _⟩, rfl⟩
  · simp [World.answered, accepted, Event.pushed?]
  · simp [World.answered, delivered, Event.took?]

/-- A callback of user code that does not use the channel. -/
theorem wp_callback_aloof {enters : Callback α → Prop}
    {leaves : Callback α → World χ ω ρ α → Except Panic Unit} {post : Unit → World χ ω ρ α → Prop}
    {exc : Panic → World χ ω ρ α → Prop} {code : Callback α} (entered : enters code)
    (returns : post () (world.logged (.called code)))
    (unwinds : ¬ Tame leaves → ∀ payload,
      exc payload ((world.logged (.called code)).logged (.panicked code))) :
    (callback code).wp (.aloof enters leaves) post exc world := by
  simp only [callback, Prog.wp_bind, wp_emit, Prog.wp_user]
  refine ⟨entered, ?_⟩
  rintro outcome after ⟨leave, rfl⟩
  cases outcome with
  | ok _ => exact returns
  | error payload =>
      refine unwinds (fun tame => ?_) payload
      cases leave.trans (tame _ _)

end Idles

/-! ### What the channels hold -/

/-- The wakers of the parked tasks. -/
def Mpmc.State.parked (state : Mpmc.State α) (side : Side) : List Waker :=
  (state.wakers side).map Prod.snd

/-- The items in an mpmc channel, oldest first. -/
def Mpmc.State.items (state : Mpmc.State α) : List α := state.chan.contents

/-- The wakers parked on a side of an mpsc channel, in the order of registration. -/
def Mpsc.State.parked (state : Mpsc.State α) : Side → List Waker
  | .receivers => state.chan.recvWaker.toList
  | .senders => state.chan.sendWakers.map Prod.snd

/-- The items in an mpsc channel, oldest first. -/
def Mpsc.State.items (state : Mpsc.State α) : List α := state.chan.contents

/-- The wakers parked on a side of a oneshot channel. -/
def Oneshot.State.parked (state : Oneshot.State α) : Side → List Waker
  | .receivers => state.inner.recvWaker.toList
  | .senders => []

/-- The item in a oneshot channel, if there is one. -/
def Oneshot.State.items (state : Oneshot.State α) : List α := state.inner.value.toList

/-! ### The futures that ask whether they have completed -/

/-- A poll of a send future that has returned its result does nothing. -/
theorem Mpmc.pollSend_completed {channel : Mpmc.Channel α} {future : Nat} {this : Send α}
    (found : channel.state.sends future = some this) (done : this.done = true)
    (returned : this.outcome = none) (waker : Waker) :
    Inert State.items State.parked perform (.pollSend future waker) (.send .pending) waker
      channel := by
  refine .answered fun leaves => ?_
  have found' : (inUse (channel.logged (.began (.pollSend future waker)))
      (.send future)).state.sends
      future = some this := found
  rw [wp_perform, body]
  simp only [Prog.wp_bind, wp_holding, SendFuture.poll, wp_getState, found', returned, done]
  simp [World.answered, World.onState, World.logged]

/-- A completed mpsc send future is pending for good, and registers nowhere. -/
theorem Mpsc.pollSend_completed {channel : Mpsc.Channel α} {future : Nat} {this : Send α}
    (found : channel.state.sends future = some this) (done : this.done = true)
    (returned : this.outcome = none) (waker : Waker) :
    Inert State.items State.parked perform (.pollSend future waker) (.send .pending) waker
      channel := by
  refine .answered fun leaves => ?_
  have found' : (inUse (channel.logged (.began (.pollSend future waker)))
      (.send future)).state.sends
      future = some this := found
  rw [wp_perform, body]
  simp only [Prog.wp_bind, wp_holding, SendFuture.poll, wp_getState, found', returned, done]
  simp [World.answered, World.onState, World.logged]

/-- A completed oneshot receiver is pending for good, and registers nowhere. -/
theorem Oneshot.poll_completed {channel : Oneshot.Channel α} (done : channel.state.done = true)
    (free : channel.state.polling = false) (waker : Waker) :
    Inert State.items State.parked perform (.poll waker) (.poll .pending) waker channel := by
  refine .answered fun leaves => ?_
  obtain ⟨⟨inner, strong, sender, receiver, isDone, polling⟩, held, log⟩ := channel
  obtain rfl : isDone = true := done
  obtain rfl : polling = false := free
  simp [perform, body, holding, Receiver.poll, World.answered, World.onState, World.logged]

/-- The entry registered under an id, if there is one, was taken out, if it was there. -/
def Withdrawn : Option UInt64 → List (UInt64 × Waker) → List (UInt64 × Waker) → Prop
  | none, before, after => after = before
  | some id, before, after =>
    (∃ own, before.Perm ((id, own) :: after)) ∨ id ∉ before.map Prod.fst ∧ after = before

/-- Withdrawing an entry registers nobody. -/
theorem Withdrawn.subperm {id : Option UInt64} {before after : List (UInt64 × Waker)}
    (withdrawn : Withdrawn id before after) :
    (after.map Prod.snd).Subperm (before.map Prod.snd) := by
  cases id with
  | none => exact withdrawn ▸ List.Subperm.refl _
  | some id =>
      rcases withdrawn with ⟨own, perm⟩ | ⟨-, rfl⟩
      · have fewer := ((List.sublist_cons_self (id, own) after).map Prod.snd).subperm
        exact fewer.trans (perm.symm.map Prod.snd).subperm
      · exact List.Subperm.refl _

/-- What the first poll of a completed receive future does besides, if its completion has left a
registration behind: it takes that out, and wakes its caller to ask again whether the future has
terminated. -/
structure Mpmc.Clears (leaves : Callback α → Mpmc.Channel α → Except Panic Unit) (future : Nat)
    (waker : Waker) (id : UInt64) (before after : Mpmc.Channel α) : Prop where
  withdrawn : Withdrawn (some id) before.state.chan.recvWakers after.state.chan.recvWakers
  wakes : Tame leaves → ∃ older,
    after.log = .returned before.log.length (.pollRecv future waker) (.recv .pending) ::
      .called (.wakeByRef waker) :: older

/-- The future is reported to have terminated. -/
def Mpmc.Terminated (future : Nat) (channel : Mpmc.Channel α) : Prop :=
  ∀ count, (Mpmc.perform (.recvIsTerminated future)).exec count channel =
    .returned () (channel.answered (.recvIsTerminated future) (.bool true))

/-- A completed mpmc receive without an id is reported to have terminated. -/
theorem Mpmc.terminated {channel : Mpmc.Channel α} {future : Nat} {this : Recv}
    (found : channel.state.recvs future = some this) (done : this.done = true)
    (cleared : this.wakerId = none) : Terminated future channel := by
  intro count
  apply Prog.exec_quiet
  rw [wp_perform, body]
  simp only [Prog.wp_bind, RecvFuture.isTerminated, wp_getState, World.logged_state, found, done,
    cleared]
  exact ⟨trivial, rfl⟩

/-- What a poll of a completed receive future comes to. -/
structure Mpmc.Rests (leaves : Callback α → Mpmc.Channel α → Except Panic Unit) (future : Nat)
    (waker : Waker) (before after : Mpmc.Channel α) : Prop where
  still : Still State.items State.parked before after
  clears : ∀ id, before.state.wakerId (.recv future) = some id →
    Clears leaves future waker id before after
  terminated : Terminated future after

section Recv

variable {leaves : Callback α → Mpmc.Channel α → Except Panic Unit} {future : Nat} {waker : Waker}
  {channel middle : Mpmc.Channel α} {this : Mpmc.Recv} {wakers : List (UInt64 × Waker)}

/-- The channel during a poll of a completed receive future that leaves these receivers parked. -/
structure Mpmc.Resting (wakers : List (UInt64 × Waker)) (future : Nat)
    (before middle : Mpmc.Channel α) : Prop where
  state : middle.state = ((inUse before (.recv future)).state.setWakerId none (.recv future)).onChan
    fun chan => { chan with recvWakers := wakers }
  held : middle.held = []
  accepted : accepted middle.log = accepted before.log
  delivered : delivered middle.log = delivered before.log

/-- The record of a callback disturbs no parked receiver. -/
theorem Mpmc.Resting.called (resting : Resting wakers future channel middle)
    (code : Callback α) : Resting wakers future channel (middle.logged (.called code)) := by
  refine ⟨resting.state, resting.held, ?_, ?_⟩
  · rw [← resting.accepted]
    simp [Lochan.accepted, Event.pushed?]
  · rw [← resting.delivered]
    simp [Lochan.delivered, Event.took?]

/-- The record of a panic disturbs no parked receiver. -/
theorem Mpmc.Resting.panicked (resting : Resting wakers future channel middle)
    (code : Callback α) : Resting wakers future channel (middle.logged (.panicked code)) := by
  refine ⟨resting.state, resting.held, ?_, ?_⟩
  · rw [← resting.accepted]
    simp [Lochan.accepted, Event.pushed?]
  · rw [← resting.delivered]
    simp [Lochan.delivered, Event.took?]

/-- The poll is over. -/
theorem Mpmc.Resting.rests (resting : Resting wakers future channel middle)
    (found : channel.state.recvs future = some this) (done : this.done = true)
    (withdrawn : Withdrawn this.wakerId channel.state.chan.recvWakers wakers)
    {event : Event (Op α) (Result α) α} (ends : event.Ends)
    (wakes : this.wakerId ≠ none → Tame leaves → ∃ older, event :: middle.log =
      .returned channel.log.length (.pollRecv future waker) (.recv .pending) ::
        .called (.wakeByRef waker) :: older) :
    Rests leaves future waker channel ((released middle (.recv future)).logged event) := by
  have registered : channel.state.wakerId (.recv future) = this.wakerId := by
    simp [State.wakerId, found]
  have left : middle.state.recvs future = some { this with wakerId := none } := by
    rw [resting.state]
    simp [State.setWakerId, State.updateRecv, State.onChan, found]
  have parked : middle.state.chan.recvWakers = wakers := by rw [resting.state]; rfl
  refine ⟨⟨?_, ?_, ?_, fun side => ?_⟩, fun id holds => ⟨?_, ?_⟩, terminated left done rfl⟩
  · rw [← resting.accepted]
    cases ends <;> simp [Lochan.accepted, Event.pushed?]
  · rw [← resting.delivered]
    cases ends <;> simp [Lochan.delivered, Event.took?]
  · show middle.state.chan.contents = channel.state.chan.contents
    rw [resting.state]
    rfl
  · cases side with
    | receivers =>
        show (middle.state.chan.recvWakers.map Prod.snd).Subperm _
        rw [parked]
        exact withdrawn.subperm
    | senders =>
        show (middle.state.chan.sendWakers.map Prod.snd).Subperm _
        rw [resting.state]
        exact List.Subperm.refl _
  · show Withdrawn (some id) channel.state.chan.recvWakers middle.state.chan.recvWakers
    rw [parked, ← holds, registered]
    exact withdrawn
  · refine wakes fun none => ?_
    cases (registered.symm.trans holds).symm.trans none

/-- A poll of a receive future that has completed. -/
theorem Mpmc.pollRecv_rests (clear : channel.held = [])
    (found : channel.state.recvs future = some this) (done : this.done = true) :
    (perform (.pollRecv future waker)).wp (.aloof (Calling waker) leaves)
      (fun _ after => Rests leaves future waker channel after ∧
        after.log.head? = some
          (.returned channel.log.length (.pollRecv future waker) (.recv .pending)))
      (fun _ after => Rests leaves future waker channel after ∧ ¬ Tame leaves) channel := by
  have found' : (inUse (channel.logged (.began (.pollRecv future waker)))
      (.recv future)).state.recvs
      future = some this := found
  have registered : (inUse (channel.logged (.began (.pollRecv future waker)))
      (.recv future)).state.wakerId (.recv future) = this.wakerId := by
    simp [State.wakerId, found]
  have begins : ∀ wakers, Resting wakers future channel
      (((inUse (channel.logged (.began (.pollRecv future waker))) (.recv future)).onState
        (·.setWakerId none (.recv future))).onState
          (·.onChan fun chan => { chan with recvWakers := wakers })) := by
    intro wakers
    refine ⟨rfl, clear, ?_, ?_⟩
    · simp [accepted, Event.pushed?]
    · simp [delivered, Event.took?]
  rw [wp_perform, body]
  simp only [Prog.wp_bind, wp_holding, RecvFuture.poll, wp_getState, found', done, if_true,
    wp_takeWakerId, registered]
  cases held : this.wakerId with
  | none =>
      refine ⟨(begins channel.state.chan.recvWakers).rests found done (held ▸ rfl) (.returned ..)
        (fun some => absurd held some), rfl⟩
  | some id =>
      simp only [Prog.wp_bind]
      let pending : Event (Op α) (Result α) α :=
        .returned channel.log.length (.pollRecv future waker) (.recv .pending)
      -- The caller is woken once the registration is gone.
      have wakes : ∀ wakers middle, Resting wakers future channel middle →
          Withdrawn this.wakerId channel.state.chan.recvWakers wakers →
          (callback (.wakeByRef waker) : M α Unit).wp (.aloof (Calling waker) leaves)
            (fun _ after =>
              Rests leaves future waker channel ((released after (.recv future)).logged pending) ∧
                ((released after (.recv future)).logged pending).log.head? = some pending)
            (fun _ after => Rests leaves future waker channel
              ((released after (.recv future)).logged
              (.unwound channel.log.length (.pollRecv future waker))) ∧ ¬ Tame leaves) middle := by
        intro wakers middle resting withdrawn
        have woken := resting.called (.wakeByRef waker)
        refine wp_callback_aloof (.inr rfl) ⟨?_, rfl⟩ fun wild payload => ⟨?_, wild⟩
        · exact woken.rests found done withdrawn (.returned ..) fun _ _ => ⟨_, rfl⟩
        · exact (woken.panicked _).rests found done withdrawn (.unwound ..)
            fun _ tame => absurd tame wild
      refine wp_removeRecvWaker (begins channel.state.chan.recvWakers).held (fun absent => ?_)
        fun own rest perm => ?_
      · exact wakes _ _ (begins channel.state.chan.recvWakers) (held ▸ .inr ⟨absent, rfl⟩)
      · have withdrawn : Withdrawn this.wakerId channel.state.chan.recvWakers rest :=
          held ▸ .inl ⟨own, perm⟩
        refine wp_callback_aloof (.inl rfl) ?_ fun wild payload => ⟨?_, wild⟩
        · exact wakes rest _ ((begins rest).called (.dropWaker own)) withdrawn
        · exact (((begins rest).called _).panicked _).rests found done withdrawn (.unwound ..)
            fun _ tame => absurd tame wild

end Recv

/-! ### The receive future that does not ask -/

/-- The receiver already waits for this waker, and for good reason. -/
structure Mpsc.Listening (waker : Waker) (channel : Mpsc.Channel α) : Prop where
  empty : channel.state.chan.contents = []
  connected : channel.state.chan.disconnected = false
  registered : channel.state.chan.recvWaker = some waker

section Recv

variable {leaves : Callback α → Mpsc.Channel α → Except Panic Unit} {future : Nat} {waker : Waker}
  {channel middle : Mpsc.Channel α}

/-- A take from an empty queue. -/
theorem Mpsc.wp_take_empty {contract : Prog.Contract (Channel α) (Callback α) Panic}
    {post : Option α → Channel α → Prop} {exc : Panic → Channel α → Prop}
    (clear : channel.held = []) (empty : channel.state.chan.contents = [])
    (misses : ∀ flavor : Queue.Flavor α, flavor.toList = [] → post none (missed channel flavor)) :
    (Receiver.take : M α (Option α)).wp contract post exc channel := by
  simp only [Receiver.take, Prog.wp_bind]
  refine wp_pop clear fun flavor left _ => ?_
  have none : flavor.toList = [] := by
    rw [left, show channel.state.chan.flavor.toList = [] from empty]; rfl
  have found : channel.state.chan.flavor.toList.head? = .none := by
    rw [show channel.state.chan.flavor.toList = [] from empty]; rfl
  rw [found]
  simp only [Prog.wp_bind, wp_getChan, wp_emit]
  have held : (restocked channel flavor).state.chan.contents = [] := none
  rw [held]
  exact misses flavor none

/-- The channel during such a poll: nothing but storage has changed. -/
structure Mpsc.Hearing (before middle : Channel α) : Prop where
  chan : ∃ flavor : Queue.Flavor α, flavor.toList = [] ∧
    middle.state.chan = { before.state.chan with flavor := flavor }
  held : middle.held = []
  accepted : accepted middle.log = accepted before.log
  delivered : delivered middle.log = delivered before.log

/-- The record of a callback does not stop the receiver from hearing. -/
theorem Mpsc.Hearing.logged (hearing : Hearing channel middle) {event : Event (Op α) (Result α) α}
    (moves : event.pushed? = none ∧ event.took? = none) :
    Hearing channel (middle.logged event) := by
  refine ⟨hearing.chan, hearing.held, ?_, ?_⟩
  · rw [← hearing.accepted]
    simp [Lochan.accepted, moves]
  · rw [← hearing.delivered]
    simp [Lochan.delivered, moves]

/-- A drained block that is freed does not stop the receiver from hearing. -/
theorem Mpsc.Hearing.missed (hearing : Hearing channel middle) {flavor : Queue.Flavor α}
    (empty : flavor.toList = []) : Hearing channel (missed middle flavor) := by
  obtain ⟨other, -, same⟩ := hearing.chan
  have stocked : Hearing channel (restocked middle flavor) :=
    { hearing with chan := ⟨flavor, empty, by simp [same]⟩ }
  exact stocked.logged ⟨rfl, rfl⟩

/-- Who listens before such a poll listens during it. -/
theorem Mpsc.Hearing.listening (hearing : Hearing channel middle)
    (listening : Listening waker channel) : Listening waker middle := by
  obtain ⟨flavor, empty, same⟩ := hearing.chan
  refine ⟨?_, ?_, ?_⟩
  · rw [Chan.contents, same]
    exact empty
  · rw [same]
    exact listening.connected
  · rw [same]
    exact listening.registered

/-- The poll is over. -/
theorem Mpsc.Hearing.still (hearing : Hearing channel middle)
    (listening : Listening waker channel) :
    Still State.items State.parked channel (released middle (.recv future)) := by
  obtain ⟨flavor, empty, same⟩ := hearing.chan
  have same' : ∀ side, middle.state.parked side = channel.state.parked side := by
    intro side
    cases side <;> simp [State.parked, same]
  refine ⟨hearing.accepted, hearing.delivered, ?_, fun side => ?_⟩
  · exact (hearing.listening listening).empty.trans listening.empty.symm
  · exact (same' side).symm ▸ List.Subperm.refl _

/-- Registering the waker that is registered already. -/
theorem Mpsc.registerRecvWaker_hearing (hearing : Hearing channel middle)
    (alive : channel.state.chan.receiverAlive = true) (listening : Listening waker channel) :
    (registerRecvWaker waker : M α Unit).wp (.aloof (Calling waker) leaves)
      (fun _ after => Hearing channel after)
      (fun _ after => Hearing channel after ∧ ¬ Tame leaves) middle := by
  have running : middle.state.chan.terminal = false := by
    obtain ⟨flavor, -, same⟩ := hearing.chan
    have connected := listening.connected
    simp only [Chan.disconnected] at connected
    simp [same, Chan.terminal, alive, connected]
  have cloned : Hearing channel (middle.logged (.called (.clone waker))) :=
    hearing.logged ⟨rfl, rfl⟩
  have registered := (cloned.listening listening).registered
  simp only [registerRecvWaker, Prog.wp_bind, wp_getChan, Prog.wp_ite, running]
  refine wp_callback_aloof (.inl rfl) ?_ fun wild payload => ⟨cloned.logged ⟨rfl, rfl⟩, wild⟩
  simp only [World.logged_state, running, Bool.false_eq_true, if_false]
  rw [wp_storeRecvWaker cloned.held, slotted_self registered, registered]
  refine wp_callback_aloof (.inl rfl) (cloned.logged ⟨rfl, rfl⟩) fun wild payload => ?_
  exact ⟨(cloned.logged ⟨rfl, rfl⟩).logged ⟨rfl, rfl⟩, wild⟩

/-- A poll of the receiver that finds nothing, and is registered already. -/
theorem Mpsc.pollRecv_hearing (hearing : Hearing channel middle)
    (alive : channel.state.chan.receiverAlive = true) (listening : Listening waker channel) :
    (Receiver.pollRecv waker : M α (Poll (Option α))).wp (.aloof (Calling waker) leaves)
      (fun polled after => Hearing channel after ∧ polled = .pending)
      (fun _ after => Hearing channel after ∧ ¬ Tame leaves) middle := by
  simp only [Receiver.pollRecv, Prog.wp_bind]
  refine wp_take_empty hearing.held (hearing.listening listening).empty fun flavor empty => ?_
  have missed := hearing.missed empty
  have connected := (missed.listening listening).connected
  simp only [Prog.wp_bind, wp_getChan, connected, Bool.false_eq_true, if_false]
  refine Prog.wp_mono (registerRecvWaker_hearing missed alive listening) ?_
    fun _ _ unwound => unwound
  rintro _ after hearing'
  refine wp_take_empty hearing'.held (hearing'.listening listening).empty fun flavor' empty' => ?_
  have missed' := hearing'.missed empty'
  have connected' := (missed'.listening listening).connected
  simp only [Prog.wp_bind, wp_getChan, connected', Bool.false_eq_true, if_false]
  exact ⟨missed', rfl⟩

/-- A poll of any receive future where the receiver listens already leaves the channel alone. -/
theorem Mpsc.pollRecv_listening (clear : channel.held = [])
    (alive : channel.state.chan.receiverAlive = true) (found : (channel.state.recvs future).isSome)
    (listening : Listening waker channel) :
    Inert State.items State.parked perform (.pollRecv future waker) (.recv .pending) waker
      channel := by
  obtain ⟨this, found⟩ := Option.isSome_iff_exists.mp found
  refine .intro fun leaves => ?_
  have begins : Hearing channel (inUse (channel.logged (.began (.pollRecv future waker)))
      (.recv future)) := by
    have begun : Hearing channel channel := ⟨⟨_, listening.empty, rfl⟩, clear, rfl, rfl⟩
    have polled : Hearing channel (channel.logged (.began (.pollRecv future waker))) :=
      begun.logged ⟨rfl, rfl⟩
    exact { polled with }
  have found' : (inUse (channel.logged (.began (.pollRecv future waker)))
      (.recv future)).state.recvs
      future = some this := found
  rw [wp_perform, body]
  simp only [Prog.wp_bind, wp_holding, RecvFuture.poll, wp_getState, found']
  refine Prog.wp_mono (pollRecv_hearing begins alive listening) ?_ ?_
  · rintro _ after ⟨hearing, rfl⟩
    exact ⟨(hearing.logged ⟨rfl, rfl⟩).still listening, rfl⟩
  · rintro payload after ⟨hearing, wild⟩
    exact ⟨(hearing.logged ⟨rfl, rfl⟩).still listening, wild⟩

/-- A poll that returns `Pending` leaves the receiver listening, and finds it connected. -/
theorem Mpsc.pollRecv_pending {policy : Policy (Channel α) (Callback α) Panic (Op α)}
    (inv : Inv (.of policy) channel) (legal : channel.state.RecvOwned future) :
    (perform (.pollRecv future waker)).wp (Terms policy (.pollRecv future waker))
      (fun _ after => after.log.head? =
          some (.returned channel.log.length (.pollRecv future waker) (.recv .pending)) →
        channel.state.chan.disconnected = false ∧ Listening waker after)
      (fun _ _ => True) channel := by
  have receiving : Receiving (.pollRecv future waker : Op α) (.recv future) :=
    .pollRecv future waker
  have begun : Inv (.of policy)
      (inUse (channel.logged (.began (.pollRecv future waker))) (.recv future)) :=
    inv.began.hold legal.1 (by rintro _ ⟨⟩)
  have aborts : ∀ channel, (Terms policy (.pollRecv future waker)).abort channel := by
    rintro _ _ ⟨⟩
  rw [wp_perform, body]
  simp only [Prog.wp_bind, wp_holding]
  refine Prog.wp_mono
    (pollRecvFuture_spec (recvSetting receiving aborts) begun List.mem_cons_self rfl waker) ?_
    fun _ _ _ => trivial
  rintro polled after ⟨-, guarantee, answer⟩ answered
  simp at answered
  obtain ⟨parked, idle⟩ := answer.pending answered
  have empty : after.state.chan.contents = [] := not_not.mp fun some => idle (.inl some)
  have connected : after.state.chan.disconnected = false :=
    eq_false_of_ne_true fun isOver => idle (.inr isOver)
  refine ⟨eq_false_of_ne_true fun isOver => ?_, empty, connected, parked⟩
  cases connected.symm.trans (guarantee.evolves.disconnected isOver)

/-- A poll of a receive future leaves the channel alone exactly if the receiver listens with the
waker of the poll already. -/
theorem Mpsc.pollRecv_inert_iff
    (inv : Inv (.of (Policy.any : Policy (Channel α) (Callback α) Panic (Op α))) channel)
    (legal : channel.state.RecvOwned future) :
    Inert State.items State.parked perform (.pollRecv future waker) (.recv .pending) waker channel ↔
      Listening waker channel := by
  constructor
  · intro inert
    obtain ⟨returned, still, -⟩ := inert (fun _ _ => .ok ()) 0
    obtain ⟨ends, answered⟩ := returned fun _ _ => rfl
    have meets : ((perform (.pollRecv future waker)).run (Prog.aloof fun _ _ => .ok ()) 0
        channel).Meets (Terms .any (.pollRecv future waker)) _ _ :=
      (pollRecv_pending inv legal).run_meets (Nat.zero_le 0)
        fun code before entered => ⟨trivial, entered, Guarantee.refl before⟩
    rw [Outcome.Meets, ends] at meets
    obtain ⟨connected, listening⟩ := meets answered
    refine ⟨still.items.symm.trans listening.empty, connected, ?_⟩
    have fewer := still.parked .receivers
    simp only [State.parked, listening.registered] at fewer
    simpa using fewer
  · intro listening
    obtain ⟨this, found⟩ := Option.isSome_iff_exists.mp legal.1
    have alive := inv.handles.alive (inv.handles.recv future this found).1
    exact pollRecv_listening inv.held alive legal.1 listening

end Recv

/-! ### Every run -/

/-- The id of an entry that was withdrawn is in the registry no more. -/
theorem Withdrawn.gone {id : UInt64} {before after : List (UInt64 × Waker)}
    (withdrawn : Withdrawn (some id) before after) (keys : (before.map Prod.fst).Nodup) :
    id ∉ after.map Prod.fst := by
  rcases withdrawn with ⟨own, perm⟩ | ⟨absent, rfl⟩
  · have nodup := (perm.map Prod.fst).nodup_iff.mp keys
    exact (List.nodup_cons.mp nodup).1
  · exact absent

/-- What the next poll of a completed receive future of an mpmc channel does with what its
completion left behind. -/
structure Mpmc.Retires (leaves : Callback α → Mpmc.Channel α → Except Panic Unit) (future : Nat)
    (waker : Waker) (before after : Mpmc.Channel α) : Prop where
  rests : Rests leaves future waker before after
  gone : Fits before.log → ∀ id, before.state.wakerId (.recv future) = some id →
    id ∉ after.state.chan.recvWakers.map Prod.fst

/-- A completed mpmc receive future, polled again, is inert and retires its registration. -/
theorem Mpmc.Inv.retires {manners : Manners} {channel : Mpmc.Channel α} (inv : Inv manners channel)
    {future : Nat} (legal : channel.state.RecvOwned future)
    (resolved : Resolved (.recv future) channel.log) (waker : Waker) :
    Inert State.items State.parked perform (.pollRecv future waker) (.recv .pending) waker channel ∧
      ∀ leaves count, Retires leaves future waker channel
        ((perform (.pollRecv future waker)).run (Prog.aloof leaves) count channel).state := by
  obtain ⟨this, found⟩ := Option.isSome_iff_exists.mp legal.1
  have done := (inv.core.futures.received future this found legal.2).mpr resolved
  have rests : ∀ leaves : Callback α → Mpmc.Channel α → Except Panic Unit,
      (perform (.pollRecv future waker)).wp (.aloof (Calling waker) leaves) _ _ channel :=
    fun leaves => pollRecv_rests inv.core.held found done
  refine ⟨.intro fun leaves => Prog.wp_mono (rests leaves) ?_ ?_, fun leaves count => ?_⟩
  · exact fun _ after rests => ⟨rests.1.still, rests.2⟩
  · exact fun _ after rests => ⟨rests.1.still, rests.2⟩
  · have meets := (rests leaves).run_aloof count
    generalize (perform (.pollRecv future waker)).run (Prog.aloof leaves) count channel = outcome
      at meets ⊢
    have rests' : Rests leaves future waker channel outcome.state := by
      obtain ⟨calls, ending, after⟩ := outcome
      cases ending with
      | returned value => exact meets.1
      | unwound payload => exact meets.1
      | aborted => exact meets.elim
      | faulted => exact meets.elim
      | hung => exact meets.elim
    refine ⟨rests', fun fits id holds => ?_⟩
    exact (rests'.clears id holds).withdrawn.gone (inv.core.registries.tickets fits .receivers).keys

/-- A future whose result was returned by a poll is inert: the send and receive futures of an mpmc
channel, the send future of an mpsc channel, and the receiver of a oneshot channel. The receive
future of an mpsc channel is exactly if its receiver listens, to an empty and connected channel,
with the waker of the poll already. -/
theorem completed_futures_are_inert :
    (∀ (fresh channel : Mpmc.Channel α) frames, Mpmc.New fresh →
      Mpmc.Runs .any fresh (.user channel frames) → ∀ future waker,
      (Resolved (.send future) channel.log → channel.state.SendOwned future →
        Inert Mpmc.State.items Mpmc.State.parked Mpmc.perform (.pollSend future waker)
          (.send .pending) waker channel) ∧
      (Resolved (.recv future) channel.log → channel.state.RecvOwned future →
        Inert Mpmc.State.items Mpmc.State.parked Mpmc.perform (.pollRecv future waker)
          (.recv .pending) waker channel ∧
        ∀ leaves count, Mpmc.Retires leaves future waker channel
          ((Mpmc.perform (.pollRecv future waker)).run (Prog.aloof leaves) count channel).state)) ∧
    (∀ (fresh channel : Mpsc.Channel α) frames, Mpsc.New fresh →
      Mpsc.Runs .any fresh (.user channel frames) → ∀ future waker,
      (Resolved (.send future) channel.log → channel.state.SendOwned future →
        Inert Mpsc.State.items Mpsc.State.parked Mpsc.perform (.pollSend future waker)
          (.send .pending) waker channel) ∧
      (Resolved (.recv future) channel.log → channel.state.RecvOwned future →
        (Inert Mpsc.State.items Mpsc.State.parked Mpsc.perform (.pollRecv future waker)
          (.recv .pending) waker channel ↔ Mpsc.Listening waker channel))) ∧
    ∀ (channel : Oneshot.Channel α) frames, Oneshot.Runs (.user channel frames) →
      Oneshot.yielded channel.log ≠ [] → ∀ waker, channel.state.Legal (.poll waker) →
        Inert Oneshot.State.items Oneshot.State.parked Oneshot.perform (.poll waker)
          (.poll .pending) waker channel := by
  refine ⟨fun fresh channel frames new runs future waker => ⟨?_, ?_⟩,
    fun fresh channel frames new runs future waker => ⟨?_, ?_⟩, ?_⟩
  · intro resolved legal
    obtain ⟨this, found⟩ := Option.isSome_iff_exists.mp legal.1
    have futures := (runs.inv .none new).core.futures
    have done : this.done = true := eq_true_of_ne_false fun running =>
      (futures.unsent future this found running).2.2.1 (futures.resolved future resolved)
    exact Mpmc.pollSend_completed found done
      ((futures.answered future this found legal.2 done).mpr resolved) waker
  · exact fun resolved legal => (runs.inv .none new).retires legal resolved waker
  · intro resolved legal
    obtain ⟨this, found⟩ := Option.isSome_iff_exists.mp legal.1
    have futures := (runs.inv new).futures
    have done : this.done = true := eq_true_of_ne_false fun running =>
      (futures.unsent future this found running).2.2.1 (futures.resolved future resolved)
    exact Mpsc.pollSend_completed found done
      ((futures.answered future this found legal.2 done).mpr resolved) waker
  · exact fun _ legal => Mpsc.pollRecv_inert_iff (runs.inv new) legal
  · intro channel frames runs yields waker legal
    exact Oneshot.poll_completed (runs.inv.core.done.mpr yields) legal.2 waker

/-- An item arrives while a receive future registers. It completes, on both channels, with its
waker still registered, and is inert then, like a oneshot receiver that has yielded. -/
theorem completed_futures_are_inert_registered :
    (∃ channel : Mpmc.Channel Nat, Mpmc.Runs .any Mpmc.unbounded (.user channel []) ∧
      Resolved (.recv 2) channel.log ∧ channel.state.wakerId (.recv 2) = some 0 ∧
      Inert Mpmc.State.items Mpmc.State.parked Mpmc.perform (.pollRecv 2 5) (.recv .pending) 5
        channel) ∧
    (∃ channel : Mpsc.Channel Nat, Mpsc.Runs .any Mpsc.unbounded (.user channel []) ∧
      Resolved (.recv 2) channel.log ∧
      Inert Mpsc.State.items Mpsc.State.parked Mpsc.perform (.pollRecv 2 5) (.recv .pending) 5
        channel) ∧
    ∃ channel : Oneshot.Channel Nat, Oneshot.Runs (.user channel []) ∧
      Oneshot.yielded channel.log ≠ [] ∧
      Inert Oneshot.State.items Oneshot.State.parked Oneshot.perform (.poll 5) (.poll .pending) 5
        channel := by
  let moves : List (Move Panic (Op Nat)) :=
    [.call (.recv 1), .call (.pollRecv 2 5), .call (.trySend 0 7), .leave (.ok ())]
  have mpmc : ∃ channel : Mpmc.Channel Nat, (Mpmc.system Nat).play 4 moves
      (.user Mpmc.unbounded []) = some (.user channel []) ∧ Resolved (.recv 2) channel.log ∧
      channel.state.wakerId (.recv 2) = some 0 ∧ channel.state.RecvOwned 2 :=
    ⟨_, rfl, .inl ⟨⟨_, rfl⟩, rfl⟩, rfl, rfl, by rintro ⟨⟩⟩
  have mpsc : ∃ channel : Mpsc.Channel Nat, (Mpsc.system Nat).play 4 moves
      (.user Mpsc.unbounded []) = some (.user channel []) ∧ Resolved (.recv 2) channel.log ∧
      Mpsc.Listening 5 channel ∧ channel.state.RecvOwned 2 :=
    ⟨_, rfl, .inl ⟨⟨_, rfl⟩, rfl⟩, ⟨rfl, rfl, rfl⟩, rfl, by rintro ⟨⟩⟩
  have oneshot : ∃ channel : Oneshot.Channel Nat, (Oneshot.system Nat).play 4
      [.call (.send 7), .call (.poll 5)] (.user Oneshot.channel []) = some (.user channel []) ∧
      Oneshot.yielded channel.log ≠ [] ∧ channel.state.Legal (.poll 5) :=
    ⟨_, rfl, by simp [Oneshot.yielded, Oneshot.Event.yielded?, Oneshot.Result.yields], rfl, rfl⟩
  obtain ⟨channel, played, resolved, registered, legal⟩ := mpmc
  obtain ⟨channel', played', resolved', listening, legal'⟩ := mpsc
  obtain ⟨last, playedLast, yields, legalLast⟩ := oneshot
  have runs : Mpmc.Runs .any Mpmc.unbounded (.user channel []) := .played _ played
  have runs' : Mpsc.Runs .any Mpsc.unbounded (.user channel' []) := .played _ played'
  have runsLast : Oneshot.Runs (.user last []) := .played _ playedLast
  obtain ⟨mpmc, mpsc, oneshot⟩ := completed_futures_are_inert (α := Nat)
  exact ⟨⟨channel, runs, resolved, registered,
      ((mpmc _ _ _ .unbounded runs 2 5).2 resolved legal).1⟩,
    ⟨channel', runs', resolved',
      ((mpsc _ _ _ .unbounded runs' 2 5).2 resolved' legal').mpr listening⟩,
    last, runsLast, yields, oneshot _ _ runsLast yields 5 legalLast⟩

/-- A receive future of an mpsc channel that has returned one item is polled again, and takes
another. Nothing panics, and no waker is involved. -/
theorem completed_receive_takes_an_item : ∃ channel : Mpsc.Channel Nat,
    Mpsc.Runs .any Mpsc.unbounded (.user channel []) ∧ channel.state.RecvOwned 2 ∧
      Resolved (.recv 2) channel.log ∧ channel.state.chan.contents = [8] ∧
      ¬ Inert Mpsc.State.items Mpsc.State.parked Mpsc.perform (.pollRecv 2 5) (.recv .pending) 5
        channel := by
  have played : ∃ channel : Mpsc.Channel Nat, (Mpsc.system Nat).play 4
      [.call (.trySend 0 7), .call (.trySend 0 8), .call (.recv 1), .call (.pollRecv 2 5)]
      (.user Mpsc.unbounded []) = some (.user channel []) ∧ channel.state.RecvOwned 2 ∧
      Resolved (.recv 2) channel.log ∧ channel.state.chan.contents = [8] ∧
      ((Mpsc.perform (.pollRecv 2 5)).run (Prog.aloof fun _ _ => .ok ()) 0
        channel).state.state.chan.contents = [] :=
    ⟨_, rfl, ⟨rfl, by rintro ⟨⟩⟩, .inl ⟨⟨_, rfl⟩, rfl⟩, rfl, rfl⟩
  obtain ⟨channel, played, legal, resolved, holds, empty⟩ := played
  refine ⟨channel, .played _ played, legal, resolved, holds, fun inert => ?_⟩
  have kept := (inert (fun _ _ => .ok ()) 0).still.items
  cases holds.symm.trans (kept.symm.trans empty)

end Lochan
