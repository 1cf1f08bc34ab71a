import Lochan.Mpsc.Drops
import Lochan.Mpsc.Committing

/-!
# The parked senders of an mpsc channel

`Attends` and `Heeds` are a second invariant and a second guarantee, on top of `Inv` and
`Guarantee`. A parked sender is held up by a full queue, and no operation makes a send future
wait for a waker that it is not registered with.
-/

namespace Lochan.Mpsc

open Reentrant Queue

variable {α : Type} {manners : Manners} {own : Option Nat}
    {channel after first second third : Channel α}

/-- The send future waits for this waker: it is alive and has not committed, its last poll returned
`Pending`, and it has not been woken since. -/
structure Waits (channel : Channel α) (future : Nat) (waker : Waker) : Prop where
  waits : waiting (.send future) channel.log = some waker
  unfinished : ∃ this, channel.state.sends future = some this ∧ this.done = false

/-- The send future is registered with this waker. -/
def Parked (channel : Channel α) (future : Nat) (waker : Waker) : Prop :=
  ∃ id, channel.state.idOf future = some id ∧ (id, waker) ∈ channel.state.chan.sendWakers

/-- The send future waits for this waker, and is not registered with it. -/
structure Forgotten (channel : Channel α) (future : Nat) (waker : Waker) : Prop where
  waits : Waits channel future waker
  unparked : ¬ Parked channel future waker

/-- What holds of the parked senders whenever user code is in control. -/
structure Attends (channel : Channel α) : Prop where
  held : channel.held = []
  below : ∀ future waker, waiting (.send future) channel.log = some waker →
    future < channel.state.fresh
  full : Fits channel.log → ∀ future waker, .send future ∉ channel.state.uses →
    Waits channel future waker → Parked channel future waker →
    channel.state.chan.flavor.isFull = true

/-- What an operation that polls the send future `own`, if any, does to the parked senders. -/
structure Heeds (own : Option Nat) (before after : Channel α) : Prop where
  log : before.log <:+ after.log
  uses : after.state.uses = before.state.uses
  fresh : before.state.fresh ≤ after.state.fresh
  sends : ∀ future, .send future ∈ before.state.uses → own ≠ some future →
    after.state.sends future = before.state.sends future
  waits : ∀ future, .send future ∈ before.state.uses → ∀ waker,
    waiting (.send future) after.log = some waker → waiting (.send future) before.log = some waker
  forgotten : Fits after.log → ∀ future waker, own ≠ some future →
    Forgotten after future waker → Forgotten before future waker

namespace Heeds

/-- A step of nothing concerns nobody. -/
theorem refl (channel : Channel α) : Heeds own channel channel where
  log := List.suffix_refl _
  uses := rfl
  fresh := Nat.le_refl _
  sends _ _ _ := rfl
  waits _ _ _ := id
  forgotten _ _ _ _ := id

/-- What two steps do to the parked senders, both do. -/
theorem trans (earlier : Heeds own first second) (later : Heeds own second third) :
    Heeds own first third where
  log := earlier.log.trans later.log
  uses := later.uses.trans earlier.uses
  fresh := Nat.le_trans earlier.fresh later.fresh
  sends future used other := by
    rw [later.sends future (earlier.uses ▸ used) other, earlier.sends future used other]
  waits future used waker waits :=
    earlier.waits future used waker (later.waits future (earlier.uses ▸ used) waker waits)
  forgotten fits future waker other forgotten :=
    earlier.forgotten (fits.of_suffix later.log) future waker other
      (later.forgotten fits future waker other forgotten)

/-- What concerns no poll concerns none in particular. -/
theorem weaken (heeds : Heeds none first second) : Heeds own first second :=
  { heeds with
    sends := fun future used _ => heeds.sends future used (by rintro ⟨⟩)
    forgotten := fun fits future waker _ => heeds.forgotten fits future waker (by rintro ⟨⟩) }

end Heeds

/-! ### Steps that do not concern the parked senders -/

/-- A task waits until code invokes its waker. -/
theorem waiting_called {owner : Owner} {waker : Waker} {code : Callback α} {log : Log α} :
    waiting owner (.called code :: log) = some waker ↔
      waiting owner log = some waker ∧ code.invokes ≠ some waker := by
  simp [waiting, Option.filter_eq_some_iff]

/-- A step of the channel that does not concern the send futures. -/
structure Aside (before after : Channel α) : Prop where
  log : before.log <:+ after.log
  waits : ∀ future waker, waiting (.send future) after.log = some waker →
    waiting (.send future) before.log = some waker
  held : after.held = before.held
  uses : after.state.uses = before.state.uses
  fresh : before.state.fresh ≤ after.state.fresh
  sends : after.state.sends = before.state.sends
  wakers : after.state.chan.sendWakers = before.state.chan.sendWakers

namespace Aside

/-- A step aside parks nobody, and takes nobody from where it is parked. -/
theorem parked (aside : Aside first second) {future : Nat} {waker : Waker} :
    Parked second future waker ↔ Parked first future waker := by
  unfold Parked State.idOf
  rw [aside.sends, aside.wakers]

/-- Nobody begins to wait by a step aside. -/
theorem waiting (aside : Aside first second) {future : Nat} {waker : Waker}
    (waits : Waits second future waker) : Waits first future waker := by
  obtain ⟨waits, unfinished⟩ := waits
  rw [aside.sends] at unfinished
  exact ⟨aside.waits future waker waits, unfinished⟩

/-- Parked senders stay attended by a step aside that leaves a full queue full. -/
theorem attends (aside : Aside first second)
    (full : first.state.chan.flavor.isFull = true → second.state.chan.flavor.isFull = true)
    (attends : Attends first) : Attends second where
  held := aside.held.trans attends.held
  below future waker waits :=
    Nat.lt_of_lt_of_le (attends.below future waker (aside.waits future waker waits)) aside.fresh
  full fits future waker free waits parked :=
    full (attends.full (fits.of_suffix aside.log) future waker (aside.uses ▸ free)
      (aside.waiting waits) (aside.parked.mp parked))

/-- A step aside does nothing to the parked senders. -/
theorem heeds (aside : Aside first second) : Heeds own first second where
  log := aside.log
  uses := aside.uses
  fresh := aside.fresh
  sends future _ _ := by rw [aside.sends]
  waits future _ := aside.waits future
  forgotten _ future waker _ forgotten :=
    ⟨aside.waiting forgotten.waits, mt aside.parked.mpr forgotten.unparked⟩

/-- An event after which nobody waits who did not before. -/
theorem logged {event : Event (Op α) (Result α) α}
    (silent : ∀ future waker, Lochan.waiting (.send future) (event :: channel.log) = some waker →
      Lochan.waiting (.send future) channel.log = some waker) :
    Aside channel (channel.logged event) :=
  ⟨List.suffix_cons .., silent, rfl, rfl, Nat.le_refl _, rfl, rfl⟩

/-- A callback that is entered is aside. -/
theorem called (code : Callback α) : Aside channel (channel.logged (.called code)) :=
  .logged fun _ _ waits => (waiting_called.mp waits).1

/-- A callback that panics is aside. -/
theorem panicked (code : Callback α) : Aside channel (channel.logged (.panicked code)) :=
  .logged fun _ _ => id

/-- Setting the slot of the receiver is aside. -/
theorem slotted (waker : Option Waker) : Aside channel (Mpsc.slotted channel waker) :=
  ⟨List.suffix_refl _, fun _ _ => id, rfl, rfl, Nat.le_refl _, rfl, rfl⟩

/-- A push is aside. -/
theorem pushed (flavor : Flavor α) (pusher : Option Nat) (item : α) :
    Aside channel (Mpsc.pushed channel flavor pusher item) :=
  ⟨⟨[_, _], rfl⟩, fun _ _ => id, rfl, rfl, Nat.le_refl _, rfl, rfl⟩

end Aside

/-! ### Registrations that go -/

/-- Who is parked after registrations were dropped was so before. -/
theorem Parked.of_queued {rest : List (UInt64 × Waker)}
    (fewer : rest ⊆ channel.state.chan.sendWakers) {future : Nat} {waker : Waker}
    (parked : Parked (queued channel rest) future waker) : Parked channel future waker := by
  obtain ⟨id, holds, member⟩ := parked
  exact ⟨id, holds, fewer member⟩

/-- The parked senders stay attended when registrations are dropped. -/
theorem Attends.queued {rest : List (UInt64 × Waker)} (attends : Attends channel)
    (fewer : rest ⊆ channel.state.chan.sendWakers) : Attends (Mpsc.queued channel rest) where
  held := attends.held
  below := attends.below
  full fits future waker free waits parked :=
    attends.full fits future waker free ⟨waits.waits, waits.unfinished⟩ (parked.of_queued fewer)

/-- Where nobody is parked nobody has to be held up. -/
theorem Attends.vacant (clear : channel.held = [])
    (below : ∀ future waker, waiting (.send future) channel.log = some waker →
      future < channel.state.fresh)
    (none : Fits channel.log → channel.state.chan.sendWakers = []) : Attends channel where
  held := clear
  below := below
  full fits future waker _ _ := by
    rintro ⟨id, -, member⟩
    rw [none fits] at member
    exact absurd member List.not_mem_nil

/-- A registration that no other future holds goes unnoticed by the others. -/
theorem Heeds.remove {id : UInt64} {waker : Waker} {rest : List (UInt64 × Waker)}
    (perm : channel.state.chan.sendWakers.Perm ((id, waker) :: rest))
    (free : Fits channel.log → ∀ future, own ≠ some future → channel.state.idOf future ≠ some id) :
    Heeds own channel (queued channel rest) where
  log := List.suffix_refl _
  uses := rfl
  fresh := Nat.le_refl _
  sends _ _ _ := rfl
  waits _ _ _ waits := waits
  forgotten fits future woken other forgotten := by
    obtain ⟨⟨waits, unfinished⟩, unparked⟩ := forgotten
    refine ⟨⟨waits, unfinished⟩, ?_⟩
    rintro ⟨held, holds, member⟩
    refine unparked ⟨held, holds, ?_⟩
    rcases List.mem_cons.mp (perm.mem_iff.mp member) with same | inside
    · obtain rfl : held = id := congrArg Prod.fst same
      exact absurd holds (free fits future other)
    · exact inside

/-! ### User code -/

/-- What a callback does to a channel, as far as the parked senders are concerned. -/
structure Passes (manners : Manners) (before after : Channel α) : Prop where
  guarantee : Guarantee manners none before after
  heeds : Heeds none before after

/-- The record of a callback passes the parked senders by. -/
theorem Passes.called (channel : Channel α) (code : Callback α) :
    Passes manners channel (channel.logged (.called code)) :=
  ⟨.logged (.called channel code), (Aside.called code).heeds⟩

/-- The record of a panic passes the parked senders by. -/
theorem Passes.panicked (channel : Channel α) (code : Callback α) :
    Passes manners channel (channel.logged (.panicked code)) :=
  ⟨.logged (.panicked channel code), (Aside.panicked code).heeds⟩

/-- What passes twice passes. -/
theorem Passes.trans (earlier : Passes manners first second) (later : Passes manners second third) :
    Passes manners first third :=
  ⟨earlier.guarantee.trans later.guarantee, earlier.heeds.trans later.heeds⟩

/-- A callback leaves the parked senders attended, given that each operation it starts does. -/
theorem attends_carries : Carries (@Attends α) (Passes manners) where
  refl channel := ⟨.refl channel, .refl channel⟩
  trans _ _ _ := .trans
  logged channel event idle attends := by
    cases event with
    | called code => exact ⟨(Aside.called code).attends id attends, .called channel code⟩
    | panicked code => exact ⟨(Aside.panicked code).attends id attends, .panicked channel code⟩
    | _ => exact idle.elim

/-- Parked senders that are swapped out and woken are not forgotten: they have been woken. -/
theorem Heeds.woken (heeds : Heeds none (queued channel []) after)
    (woken : Woken (Passes manners) .senders channel.state.chan.sendWakers (queued channel [])
      after) : Heeds none channel after where
  log := heeds.log
  uses := heeds.uses
  fresh := heeds.fresh
  sends := heeds.sends
  waits := heeds.waits
  forgotten fits future waker other forgotten := by
    obtain ⟨⟨waits, unfinished⟩, -⟩ := heeds.forgotten fits future waker other forgotten
    refine ⟨⟨waits, unfinished⟩, ?_⟩
    rintro ⟨id, -, member⟩
    obtain ⟨middle, -, later⟩ := woken.invoked
      (fun channel side waker => Passes.called channel (.wake side waker)) attends_carries member
    have waits := (later.heeds.forgotten fits future waker other forgotten).waits.waits
    exact (waiting_called.mp waits).2 rfl

/-! ### The functions -/

/-- What the functions rely on: user code keeps both invariants and both guarantees, and its
panics are calm. -/
structure Attending (manners : Manners) (contract : Prog.Contract (Channel α) (Callback α) Panic)
    (admits : Callback α → Panic → Channel α → Prop) : Prop where
  enter : ∀ code channel, Attends channel → contract.enter code channel
  resume : ∀ code before outcome after, contract.resume code before outcome after →
    Inv manners after ∧ Attends after ∧ Passes manners before after
  panics : ∀ code before payload after, contract.resume code before (.error payload) after →
    admits code payload after
  calm : Calm admits
  aborts : ∀ channel, contract.abort channel
  hangs : ∀ channel, contract.hang channel

/-- What an operation leaves behind. -/
abbrev Minded (own : Option Nat) (before after : Channel α) : Prop :=
  Attends after ∧ Heeds own before after

section Functions

variable {contract : Prog.Contract (Channel α) (Callback α) Panic}
  {admits : Callback α → Panic → Channel α → Prop} (attending : Attending manners contract admits)
include attending

/-- An operation relies on callbacks to leave the parked senders attended. -/
theorem Attending.relies : Relies contract Attends (Passes manners) admits where
  enter := attending.enter
  resume code before outcome after left := (attending.resume code before outcome after left).2
  panics := attending.panics

/-- However a callback is left, user code has kept what it has to. If it returns, the first
invariant holds as well. -/
theorem Attending.calls (code : Callback α) (attends : Attends channel) :
    (callback code : M α Unit).wp contract
      (fun _ after => Inv manners after ∧ Attends after ∧ Passes manners channel after)
      (fun _ after => Attends after ∧ Passes manners channel after) channel := by
  have called : Aside channel (channel.logged (.called code)) := .called code
  simp only [callback, Prog.wp_bind, wp_emit, Prog.wp_user]
  refine ⟨attending.enter _ _ (called.attends id attends), fun outcome after left => ?_⟩
  obtain ⟨inv, attends', passes⟩ := attending.resume _ _ _ _ left
  have passes := (Passes.called channel code).trans passes
  cases outcome with
  | ok _ => exact ⟨inv, attends', passes⟩
  | error payload =>
      exact ⟨(Aside.panicked code).attends id attends', passes.trans (.panicked after code)⟩

/-- A callback at the end of a step that has kept what it has to. -/
theorem Attending.ends (code : Callback α) (attends : Attends channel)
    (heeds : Heeds own first channel) :
    (callback code : M α Unit).leaves contract (Minded own first) channel := by
  refine Prog.wp_mono (attending.calls code attends) ?_ ?_
  · rintro _ after ⟨-, attends', passes⟩
    exact ⟨attends', heeds.trans passes.heeds.weaken⟩
  · rintro _ after ⟨attends', passes⟩
    exact ⟨attends', heeds.trans passes.heeds.weaken⟩

omit attending in
/-- What minds the senders from a later channel on minds them from the earlier one. -/
theorem Heeds.before {β : Type} {prog : M α β} (heeds : Heeds own first second)
    (acts : prog.leaves contract (Minded own second) channel) :
    prog.leaves contract (Minded own first) channel := by
  refine Prog.wp_mono acts ?_ ?_
  · rintro _ after ⟨attends, later⟩
    exact ⟨attends, heeds.trans later⟩
  · rintro _ after ⟨attends, later⟩
    exact ⟨attends, heeds.trans later⟩

/-- Waking the receiver leaves the parked senders attended. -/
theorem wakeReceiver_attends (attends : Attends channel) :
    (wakeReceiver : M α Unit).leaves contract (Minded own channel) channel := by
  refine wp_wakeReceiver attends.held (fun _ => ⟨attends, .refl channel⟩) ?_
  intro waker _
  have vacates : Aside channel (slotted channel none) := .slotted none
  exact attending.ends (.wake .receivers waker) (vacates.attends id attends) vacates.heeds

/-- Dropping the receiver's waker leaves the parked senders attended. -/
theorem clearRecvWaker_attends (attends : Attends channel) :
    (clearRecvWaker : M α Unit).leaves contract
      (fun after => Minded none channel after ∧ Guarantee manners none (slotted channel none) after)
      channel := by
  refine wp_clearRecvWaker attends.held ?_ ?_
  · intro vacant
    rw [slotted_self vacant]
    exact ⟨⟨attends, .refl channel⟩, .refl channel⟩
  · intro waker _
    have vacates : Aside channel (slotted channel none) := .slotted none
    refine Prog.wp_mono (attending.calls (.dropWaker waker) (vacates.attends id attends)) ?_ ?_
    · rintro _ after ⟨-, attends', passes⟩
      exact ⟨⟨attends', vacates.heeds.trans passes.heeds⟩, passes.guarantee⟩
    · rintro _ after ⟨attends', passes⟩
      exact ⟨⟨attends', vacates.heeds.trans passes.heeds⟩, passes.guarantee⟩

/-- Registering the receiver leaves the parked senders attended. -/
theorem registerRecvWaker_attends (attends : Attends channel) (waker : Waker) :
    (registerRecvWaker waker : M α Unit).leaves contract (Minded own channel) channel := by
  have clones : (callback (.clone waker) : M α Unit).leaves contract (Minded own channel) channel :=
    attending.ends (.clone waker) attends (.refl channel)
  simp only [registerRecvWaker, Prog.wp_bind, wp_getChan, Prog.wp_ite]
  split
  · exact ⟨attends, .refl channel⟩
  · refine Prog.wp_mono clones ?_ (fun _ _ kept => kept)
    rintro _ cloned ⟨attends', heeds⟩
    split
    · exact attending.ends (.dropWaker waker) attends' heeds
    · have stores : Aside cloned (slotted cloned (some waker)) := .slotted (some waker)
      rw [wp_storeRecvWaker attends'.held]
      cases cloned.state.chan.recvWaker with
      | none => exact ⟨stores.attends id attends', heeds.trans stores.heeds⟩
      | some old =>
          exact attending.ends (.dropWaker old) (stores.attends id attends')
            (heeds.trans stores.heeds)

/-- Waking the parked senders, where a slot may have become free. -/
theorem wakeSenders_attends (vacated : Attends (queued channel [])) :
    (wakeSenders : M α Unit).leaves contract
      (fun after => Minded none channel after ∧ Guarantee manners none (queued channel []) after)
      channel := by
  refine wp_wakeSenders vacated.held ?_ ?_
  · intro empty
    rw [queued_nil empty] at vacated ⊢
    exact ⟨⟨vacated, .refl channel⟩, .refl channel⟩
  · refine Prog.wp_mono (attending.relies.wakeAll attends_carries .senders _ (.inl attending.calm)
      vacated) ?_ ?_
    · rintro _ after ⟨attends, passes, woken⟩
      exact ⟨⟨attends, passes.heeds.woken woken⟩, passes.guarantee⟩
    · rintro _ after ⟨attends, passes, -, calm⟩
      exact ⟨⟨attends, passes.heeds.woken (calm attending.calm).1⟩, passes.guarantee⟩

/-- A registration that no other future holds is removed, and its waker is dropped. -/
theorem removeSend_attends {id : Option UInt64} (attends : Attends channel)
    (free : Fits channel.log → ∀ future held, own ≠ some future → id = some held →
      channel.state.idOf future ≠ some held) :
    (removeSend id : M α Unit).leaves contract
      (fun after => Minded own channel after ∧ ∀ future, .send future ∈ channel.state.uses →
        after.state.sends future = channel.state.sends future) channel := by
  cases id with
  | none => exact ⟨⟨attends, .refl channel⟩, fun _ _ => rfl⟩
  | some id =>
      refine wp_removeSendWaker attends.held
        (fun _ => ⟨⟨attends, .refl channel⟩, fun _ _ => rfl⟩) ?_
      intro waker rest perm
      have fewer : rest ⊆ channel.state.chan.sendWakers :=
        fun entry member => perm.mem_iff.mpr (List.mem_cons_of_mem _ member)
      have removes : Heeds own channel (queued channel rest) :=
        .remove perm fun fits future other => free fits future id other rfl
      refine Prog.wp_mono (attending.calls (.dropWaker waker) (attends.queued fewer)) ?_ ?_
      · rintro _ after ⟨-, attends', passes⟩
        exact ⟨⟨attends', removes.trans passes.heeds.weaken⟩,
          fun future used => passes.heeds.sends future used (by rintro ⟨⟩)⟩
      · rintro _ after ⟨attends', passes⟩
        exact ⟨⟨attends', removes.trans passes.heeds.weaken⟩,
          fun future used => passes.heeds.sends future used (by rintro ⟨⟩)⟩

/-- Dropping items leaves the parked senders attended. -/
theorem dropItems_attends (items : List α) (attends : Attends channel) :
    (dropItems items : M α Unit).leaves contract (Minded own channel) channel := by
  refine Prog.wp_mono (attending.relies.dropItems attends_carries items attends) ?_ ?_
  · rintro _ after ⟨attends', passes⟩
    exact ⟨attends', passes.heeds.weaken⟩
  · rintro _ after ⟨attends', passes⟩
    exact ⟨attends', passes.heeds.weaken⟩

/-- Dropping wakers leaves the parked senders attended. -/
theorem dropWakers_attends (wakers : List Waker) (attends : Attends channel) :
    (dropWakers wakers : M α Unit).leaves contract (Minded own channel) channel := by
  refine Prog.wp_mono (attending.relies.dropWakers attends_carries wakers
    (fun _ after _ => attending.aborts after) attends) ?_ ?_
  · rintro _ after ⟨attends', passes⟩
    exact ⟨attends', passes.heeds.weaken⟩
  · rintro _ after ⟨attends', passes, -⟩
    exact ⟨attends', passes.heeds.weaken⟩

omit attending in
/-- A clean-up after a program that may abort the process when it fails in turn. -/
theorem leaves_ensuring {β : Type} {prog : M α β} {cleanup : M α Unit}
    (aborts : ∀ channel, contract.abort channel)
    (acts : prog.leaves contract (Minded own first) channel)
    (cleans : ∀ middle, Minded own first middle →
      cleanup.leaves contract (Minded own first) middle) :
    (prog.ensuring cleanup).leaves contract (Minded own first) channel := by
  rw [Prog.leaves, Prog.wp_ensuring]
  refine Prog.wp_mono acts (fun _ middle kept => cleans middle kept) fun _ middle kept => ?_
  exact Prog.wp_mono (cleans middle kept) (fun _ _ kept => kept) fun _ after _ => aborts after

end Functions

end Lochan.Mpsc
