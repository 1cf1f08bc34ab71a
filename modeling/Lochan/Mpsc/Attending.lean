import Lochan.Mpsc.Waiting

/-!
# How the functions of an mpsc channel treat the parked senders

A receive makes room and swaps the parked senders out in the same breath; closing and the drop of
the receiver wake them; a send future registers before it looks for room a last time.
-/

namespace Lochan.Mpsc

open Reentrant Queue

variable {α β : Type} {manners : Manners} {own : Option Nat} {base channel after : Channel α}

section Functions

variable {contract : Prog.Contract (Channel α) (Callback α) Panic}
  {admits : Callback α → Panic → Channel α → Prop} (attending : Attending manners contract admits)
include attending

/-! ### Receiving -/

/-- A `take` leaves the parked senders attended: it wakes them once it made room. -/
theorem take_attends (attends : Attends channel) :
    (Receiver.take : M α (Option α)).leaves contract (Minded none channel) channel := by
  simp only [Receiver.take, Prog.wp_bind]
  refine wp_pop attends.held fun flavor contents capacity => ?_
  cases found : channel.state.chan.flavor.toList with
  | nil =>
      have misses : Aside channel ((restocked channel flavor).logged (.missed flavor.toList)) :=
        ⟨List.suffix_cons .., fun _ _ => id, rfl, rfl, Nat.le_refl _, rfl, rfl⟩
      have full : channel.state.chan.flavor.isFull = true → flavor.isFull = true := by
        rw [Flavor.isFull_iff, Flavor.isFull_iff, capacity, contents, found]
        exact id
      exact ⟨misses.attends full attends, misses.heeds⟩
  | cons item rest =>
      -- The senders are swapped out before any of them can be found parked beside a free slot.
      have takes : Aside channel (took channel flavor item) :=
        ⟨List.suffix_cons .., fun _ _ => id, rfl, rfl, Nat.le_refl _, rfl, rfl⟩
      have vacated : Attends (queued (took channel flavor item) []) :=
        .vacant attends.held attends.below fun _ => rfl
      simp only [List.head?_cons, Prog.wp_bind, wp_emit, Prog.wp_guarded]
      refine Prog.wp_mono (wakeSenders_attends attending vacated) ?_ ?_
      · rintro _ woken ⟨⟨attends', wakes⟩, -⟩
        exact ⟨attends', takes.heeds.trans wakes⟩
      · rintro _ woken ⟨⟨attends', wakes⟩, -⟩
        exact Prog.wp_mono (attending.ends (.dropItem item) attends' (takes.heeds.trans wakes))
          (fun _ _ kept => kept) (fun _ after _ => attending.aborts after)

/-- `try_recv` leaves the parked senders attended. -/
theorem tryRecv_attends (attends : Attends channel) :
    (Receiver.tryRecv : M α (Except TryRecvError α)).leaves contract (Minded none channel)
      channel := by
  simp only [Receiver.tryRecv, Prog.wp_bind]
  refine Prog.wp_mono (take_attends attending attends) ?_ (fun _ _ kept => kept)
  intro taken after kept
  cases taken with
  | some item => exact kept
  | none =>
      simp only [Prog.wp_bind, wp_getChan, Prog.wp_ite]
      split
      · exact kept
      · exact kept

/-- The iterator that does not wait leaves the parked senders attended. -/
theorem tryIterNext_attends (attends : Attends channel) :
    (Receiver.tryIterNext : M α (Option α)).leaves contract (Minded none channel) channel := by
  simp only [Receiver.tryIterNext, Prog.wp_bind]
  refine Prog.wp_mono (tryRecv_attends attending attends) ?_ (fun _ _ kept => kept)
  intro received after kept
  cases received with
  | ok item => exact kept
  | error reason => exact kept

/-- A poll of the receiver leaves the parked senders attended. -/
theorem pollRecv_attends (attends : Attends channel) (waker : Waker) :
    (Receiver.pollRecv waker : M α (Poll (Option α))).leaves contract (Minded none channel)
      channel := by
  -- What follows on a receive that found nothing.
  have clears : ∀ {middle : Channel α}, Minded none channel middle →
      (clearRecvWaker : M α Unit).leaves contract (Minded none channel) middle := by
    rintro middle ⟨attends', heeds⟩
    refine heeds.before (Prog.wp_mono (clearRecvWaker_attends attending attends') ?_ ?_)
    · exact fun _ _ kept => kept.1
    · exact fun _ _ kept => kept.1
  simp only [Receiver.pollRecv, Prog.wp_bind]
  refine Prog.wp_mono (take_attends attending attends) ?_ (fun _ _ kept => kept)
  intro taken missed kept
  cases taken with
  | some item => exact kept
  | none =>
      simp only [Prog.wp_bind, wp_getChan, Prog.wp_ite]
      split
      · exact clears kept
      · have registers : (registerRecvWaker waker : M α Unit).leaves contract
            (Minded none channel) missed :=
          kept.2.before (registerRecvWaker_attends attending kept.1 waker)
        refine Prog.wp_mono registers ?_ (fun _ _ kept => kept)
        rintro _ registered ⟨attends', heeds⟩
        have takes : (Receiver.take : M α (Option α)).leaves contract (Minded none channel)
            registered := heeds.before (take_attends attending attends')
        refine Prog.wp_mono takes ?_ (fun _ _ kept => kept)
        intro taken after kept
        cases taken with
        | some item => exact kept
        | none =>
            simp only [Prog.wp_bind, wp_getChan, Prog.wp_ite]
            split
            · exact clears kept
            · exact kept

/-! ### Closing -/

/-- Closing leaves the parked senders attended. -/
theorem close_attends (attends : Attends channel) :
    (close : M α Unit).leaves contract (Minded none channel) channel := by
  have marks : Aside channel
      (channel.onState (·.onChan fun chan => { chan with closed := true })) :=
    ⟨List.suffix_refl _, fun _ _ => id, rfl, rfl, Nat.le_refl _, rfl, rfl⟩
  have shuts : Aside channel (marked channel) :=
    ⟨List.suffix_cons .., fun _ _ => id, rfl, rfl, Nat.le_refl _, rfl, rfl⟩
  have wakes : (wakeReceiver : M α Unit).leaves contract (Minded none channel) (marked channel) :=
    shuts.heeds.before (wakeReceiver_attends attending (shuts.attends id attends))
  have sends : ∀ woken, Minded none channel woken →
      (wakeSenders : M α Unit).leaves contract (Minded none channel) woken := by
    rintro woken ⟨attends', heeds⟩
    refine Prog.wp_mono (wakeSenders_attends attending (attends'.queued (List.nil_subset _))) ?_ ?_
    · rintro _ after ⟨⟨attends'', wakes⟩, -⟩
      exact ⟨attends'', heeds.trans wakes⟩
    · rintro _ after ⟨⟨attends'', wakes⟩, -⟩
      exact ⟨attends'', heeds.trans wakes⟩
  simp only [close, Prog.wp_bind, wp_getChan, wp_modifyChan, Prog.wp_ite]
  split
  · exact ⟨marks.attends id attends, marks.heeds⟩
  · simp only [wp_emit]
    rw [Prog.wp_attempt]
    -- However the receiver was woken, the senders are woken next.
    refine Prog.wp_mono wakes ?_ ?_
    · intro _ woken kept
      simp only [Prog.wp_attempt]
      exact Prog.wp_mono (sends woken kept) (fun _ _ kept' => kept') (fun _ _ kept' => kept')
    · intro first woken kept
      simp only [Prog.wp_attempt]
      refine Prog.wp_mono (sends woken kept) (fun _ _ kept' => kept') ?_
      -- The second panic is disposed of, and the first goes on.
      rintro second after ⟨attends', heeds⟩
      simp only [Prog.wp_bind, Prog.wp_guarded, Prog.wp_unwind]
      refine Prog.wp_mono (attending.relies.dropPanicPayload attends_carries attends') ?_ ?_
      · rintro _ disposed ⟨attends'', passes⟩
        exact ⟨attends'', heeds.trans passes.heeds⟩
      · rintro _ disposed ⟨attends'', passes, -⟩
        exact Prog.wp_mono (attending.ends (.dropPanic first) attends''
          (heeds.trans passes.heeds)) (fun _ _ kept' => kept')
          (fun _ after _ => attending.aborts after)

/-! ### Sending without waiting -/

/-- `try_send` leaves the parked senders attended. -/
theorem trySend_attends (attends : Attends channel) (item : α) :
    (Sender.trySend item : M α (Except (TrySendError α) Unit)).leaves contract
      (Minded none channel) channel := by
  simp only [Sender.trySend, Prog.wp_bind, wp_getChan, Prog.wp_ite]
  split
  · exact ⟨attends, .refl channel⟩
  · refine wp_tryPush attends.held (fun _ => ⟨attends, .refl channel⟩) ?_
    intro flavor room _ _
    -- There was room, so that nobody was held up.
    have pushes : Aside channel (pushed channel flavor none item) := .pushed flavor none item
    have kept : Attends (pushed channel flavor none item) :=
      pushes.attends (fun full => by cases room.symm.trans full) attends
    simp only [Prog.wp_bind, Prog.wp_pure]
    exact pushes.heeds.before (wakeReceiver_attends attending kept)

/-! ### Dropping handles -/

/-- Freeing the channel leaves the parked senders attended. -/
theorem freeChan_attends (attends : Attends channel) :
    (freeChan : M α Unit).leaves contract (Minded none channel) channel := by
  have frees : Aside channel (channel.logged (.freed channel.state.chan.contents)) :=
    .logged fun _ _ waits => waits
  simp only [freeChan, dropGlue, Prog.wp_bind, wp_getChan, wp_emit]
  refine frees.heeds.before (leaves_ensuring attending.aborts
    (dropItems_attends attending _ (frees.attends id attends)) ?_)
  rintro middle ⟨attends', heeds⟩
  refine leaves_ensuring attending.aborts
    (heeds.before (dropWakers_attends attending _ attends')) ?_
  rintro middle ⟨attends', heeds⟩
  exact heeds.before (dropWakers_attends attending _ attends')

/-- Giving up a count leaves the parked senders attended. -/
theorem releaseChan_attends (attends : Attends channel) :
    (releaseChan : M α Unit).leaves contract (Minded none channel) channel := by
  have shares : Aside channel (unshared channel) :=
    ⟨List.suffix_refl _, fun _ _ => id, rfl, rfl, Nat.le_refl _, rfl, rfl⟩
  simp only [releaseChan, Prog.wp_bind, wp_modifyState, wp_getState, Prog.wp_ite]
  split
  · exact shares.heeds.before (freeChan_attends attending (shares.attends id attends))
  · exact ⟨shares.attends id attends, shares.heeds⟩

/-- A destructor that gives up its share when it is over. -/
theorem releasing_attends {act : M α Unit}
    (acts : act.leaves contract (Minded none base) channel) :
    (act.ensuring releaseChan).leaves contract (Minded none base) channel := by
  refine leaves_ensuring attending.aborts acts ?_
  rintro middle ⟨attends, heeds⟩
  exact heeds.before (releaseChan_attends attending attends)

/-- The drop of a sender leaves the parked senders attended. -/
theorem dropSender_attends (attends : Attends channel) :
    (Sender.drop : M α Unit).leaves contract (Minded none channel) channel := by
  have leaves : Aside channel (channel.onState (·.onChan fun chan =>
      { chan with senders := channel.state.chan.senders - 1 })) :=
    ⟨List.suffix_refl _, fun _ _ => id, rfl, rfl, Nat.le_refl _, rfl, rfl⟩
  simp only [Sender.drop, Prog.wp_bind, wp_getChan, wp_modifyChan, Prog.wp_ite]
  split
  · exact leaves.heeds.before (wakeReceiver_attends attending (leaves.attends id attends))
  · exact ⟨leaves.attends id attends, leaves.heeds⟩

/-- A channel that rejects sends and has no parked senders left. -/
structure Barred (channel : Channel α) : Prop where
  rejecting : channel.state.chan.rejecting = true
  unstuck : Unstuck channel

omit attending in
/-- A channel that was barred stays barred. -/
theorem Barred.later (barred : Barred channel) (guarantee : Guarantee manners none channel after) :
    Barred after :=
  ⟨guarantee.evolves.rejecting barred.rejecting,
    barred.unstuck.later guarantee.tally guarantee.evolves⟩

/-- Draining makes room, but there is nobody left to wait for it. -/
theorem drainWithin_attends (depth : Nat) (attends : Attends channel) (barred : Barred channel) :
    (drainWithin depth : M α Unit).leaves contract (Minded none channel) channel := by
  induction depth generalizing channel with
  | zero => exact attending.hangs channel
  | succ depth ih =>
      simp only [drainWithin, Prog.leaves, Prog.wp_guarded]
      refine Prog.wp_loop (fun before => Minded none channel before ∧ Barred before)
        ⟨⟨attends, .refl channel⟩, barred⟩ attending.hangs ?_
      rintro before ⟨⟨attends', heeds⟩, barred'⟩
      rw [Prog.wp_bind]
      refine wp_pop attends'.held fun flavor contents capacity => ?_
      have pops : Aside before (restocked before flavor) :=
        ⟨List.suffix_refl _, fun _ _ => id, rfl, rfl, Nat.le_refl _, rfl, rfl⟩
      have kept : Attends (restocked before flavor) :=
        .vacant attends'.held attends'.below fun fits => barred'.unstuck fits barred'.rejecting
      cases found : before.state.chan.flavor.toList with
      | nil => exact ⟨kept, heeds.trans pops.heeds⟩
      | cons item rest =>
          have barred'' : Barred (restocked before flavor) := ⟨barred'.rejecting, barred'.unstuck⟩
          simp only [List.head?_cons, Prog.wp_bind]
          refine Prog.wp_mono (attending.calls (.dropQueued item) kept) ?_ ?_
          · rintro _ after ⟨-, attends'', passes⟩
            exact ⟨⟨attends'', heeds.trans (pops.heeds.trans passes.heeds)⟩,
              barred''.later passes.guarantee⟩
          · rintro _ after ⟨attends'', passes⟩
            have heeds := heeds.trans (pops.heeds.trans passes.heeds)
            refine Prog.wp_mono (ih attends'' (barred''.later passes.guarantee)) ?_
              (fun _ after _ => attending.aborts after)
            rintro _ last ⟨attends₃, drains⟩
            exact ⟨attends₃, heeds.trans drains⟩

/-- The drop of the receiver leaves the parked senders attended. -/
theorem dropReceiver_attends (receiver : Nat) (attends : Attends channel) :
    (Receiver.drop receiver : M α Unit).leaves contract (Minded none channel) channel := by
  have drains : ∀ {middle : Channel α}, Minded none channel middle → Barred middle →
      (drain : M α Unit).leaves contract (Minded none channel) middle := by
    rintro middle ⟨attends', heeds⟩ barred depth -
    exact heeds.before (drainWithin_attends attending depth attends' barred)
  have departs : Aside channel ((channel.onState (·.onChan fun chan =>
      { chan with receiverAlive := false })).logged (.lastReceiver receiver
        (channel.state.chan.sendWakers.map Prod.snd) channel.state.chan.contents)) :=
    ⟨List.suffix_cons .., fun _ _ => id, rfl, rfl, Nat.le_refl _, rfl, rfl⟩
  have vacated := (departs.attends id attends).queued (List.nil_subset _)
  simp only [Receiver.drop, Prog.wp_bind, wp_getChan, wp_modifyChan, wp_emit, Prog.wp_ensuring]
  refine Prog.wp_mono (wakeSenders_attends attending vacated) ?_ ?_
  · rintro _ woken ⟨⟨attends₁, wakes⟩, guarantee⟩
    have barred : Barred woken := Barred.later ⟨rfl, fun _ _ => rfl⟩ guarantee
    have barred' : Barred (slotted woken none) := ⟨barred.rejecting, barred.unstuck⟩
    refine Prog.wp_mono (clearRecvWaker_attends attending attends₁) ?_ ?_
    · rintro _ cleared ⟨⟨attends₂, clears⟩, guarantee'⟩
      exact drains ⟨attends₂, departs.heeds.trans (wakes.trans clears)⟩ (barred'.later guarantee')
    · rintro _ cleared ⟨⟨attends₂, clears⟩, guarantee'⟩
      exact Prog.wp_mono (drains ⟨attends₂, departs.heeds.trans (wakes.trans clears)⟩
        (barred'.later guarantee')) (fun _ _ kept => kept) (fun _ after _ => attending.aborts after)
  · rintro _ woken ⟨⟨attends₁, wakes⟩, guarantee⟩
    have barred : Barred woken := Barred.later ⟨rfl, fun _ _ => rfl⟩ guarantee
    exact Prog.wp_mono (drains ⟨attends₁, departs.heeds.trans wakes⟩ barred)
      (fun _ _ kept => kept) (fun _ after _ => attending.aborts after)

end Functions

/-! ### Changes to a send future that is being polled -/

section Polling

variable {future : Nat} {change : Send α → Send α} {waker : Waker}

/-- A change of one future makes no other one wait. -/
theorem waits_amended {other : Nat} (different : other ≠ future) {woken : Waker} :
    Waits (amended channel future change) other woken ↔ Waits channel other woken := by
  have same : (amended channel future change).state.sends other = channel.state.sends other :=
    State.sends_other different
  constructor
  · rintro ⟨waits, unfinished⟩
    rw [same] at unfinished
    exact ⟨waits, unfinished⟩
  · rintro ⟨waits, unfinished⟩
    rw [← same] at unfinished
    exact ⟨waits, unfinished⟩

/-- A change of one future parks no other one. -/
theorem parked_amended {other : Nat} (different : other ≠ future) {woken : Waker} :
    Parked (amended channel future change) other woken ↔ Parked channel other woken := by
  have same : (amended channel future change).state.idOf other = channel.state.idOf other :=
    State.idOf_other different
  unfold Parked
  rw [same]
  exact .rfl

/-- The parked senders stay attended while a future is changed by its own poll. -/
theorem Attends.amend (attends : Attends channel) (used : .send future ∈ channel.state.uses) :
    Attends (amended channel future change) where
  held := attends.held
  below := attends.below
  full fits other woken free waits parked := by
    have different : other ≠ future := by
      rintro rfl
      exact free used
    exact attends.full fits other woken free ((waits_amended different).mp waits)
      ((parked_amended different).mp parked)

/-- A change of one future does nothing to the others. -/
theorem Heeds.amend : Heeds (some future) channel (amended channel future change) where
  log := List.suffix_refl _
  uses := rfl
  fresh := Nat.le_refl _
  sends other _ different := State.sends_other fun same => different (congrArg some same.symm)
  waits _ _ _ waits := waits
  forgotten _ other woken different forgotten := by
    have different : other ≠ future := fun same => different (congrArg some same.symm)
    exact ⟨(waits_amended different).mp forgotten.waits,
      mt (parked_amended different).mpr forgotten.unparked⟩

/-- Registering a send future parks no other. -/
theorem Attends.enroll (attends : Attends channel) (inv : Inv manners channel)
    (used : .send future ∈ channel.state.uses) : Attends (enrolled channel future waker) where
  held := attends.held
  below := attends.below
  full fits other woken free waits parked := by
    have different : other ≠ future := by
      rintro rfl
      exact free used
    have fits : Fits channel.log := fits.of_suffix (List.suffix_cons ..)
    obtain ⟨id, holds, member⟩ := parked
    have holds : channel.state.idOf other = some id := (State.idOf_other different).symm.trans holds
    have waits : Waits channel other woken := by
      obtain ⟨waits, unfinished⟩ := waits
      exact ⟨waits, (State.sends_other different) ▸ unfinished⟩
    rcases List.mem_append.mp member with old | new
    · exact attends.full fits other woken free waits ⟨id, holds, old⟩
    · -- The new id has not been issued before.
      obtain rfl : id = channel.state.chan.nextSendId :=
        congrArg Prod.fst (List.mem_singleton.mp new)
      have issued := (inv.registry.tickets fits).held other _ holds
      have number := inv.registry.nextSendId_toNat fits
      exact absurd issued (by simp only [ledger]; omega)

/-- Registering one future does nothing to the others. -/
theorem Heeds.enroll : Heeds (some future) channel (enrolled channel future waker) where
  log := List.suffix_cons ..
  uses := rfl
  fresh := Nat.le_refl _
  sends other _ different := State.sends_other fun same => different (congrArg some same.symm)
  waits _ _ _ waits := waits
  forgotten _ other woken different forgotten := by
    have different : other ≠ future := fun same => different (congrArg some same.symm)
    obtain ⟨⟨waits, unfinished⟩, unparked⟩ := forgotten
    refine ⟨⟨waits, (State.sends_other different) ▸ unfinished⟩, ?_⟩
    rintro ⟨id, holds, member⟩
    exact unparked ⟨id, (State.idOf_other different).trans holds, List.mem_append_left _ member⟩

/-- A poll that returns `Pending` leaves its future held up by a full queue. -/
def HeldUp (future : Nat) (polled : Poll (Except (SendError α) Unit))
    (channel : Channel α) : Prop :=
  polled = .pending → Fits channel.log → ∀ waker, Waits channel future waker →
    Parked channel future waker ∧ channel.state.chan.flavor.isFull = true

variable {contract : Prog.Contract (Channel α) (Callback α) Panic}
  {admits : Callback α → Panic → Channel α → Prop} (attending : Attending manners contract admits)
include attending

/-- The effects of a commit leave the parked senders attended, once the id is given up. -/
theorem effects_attends {id : Option UInt64} (pushed : Bool) (attends : Attends channel)
    (used : .send future ∈ channel.state.uses)
    (free : Fits channel.log → ∀ other held, some future ≠ some other → id = some held →
      channel.state.idOf other ≠ some held) :
    (SendFuture.effects future pushed id : M α (Poll (Except (SendError α) Unit))).wp contract
      (fun polled after => Minded (some future) channel after ∧ HeldUp future polled after)
      (fun _ => Minded (some future) channel) channel := by
  have settles : ∀ woken, Minded (some future) channel woken →
      (expect "committed outcome"
        ((woken.state.sends future).bind Send.outcome) : M α _).wp contract
        (fun outcome after => Minded (some future) channel after ∧
          HeldUp future (.ready outcome) after)
        (fun _ => Minded (some future) channel)
        (amended woken future fun this => { this with outcome := none }) := by
    rintro woken ⟨attends', heeds⟩
    have kept : Attends (amended woken future fun this => { this with outcome := none }) :=
      attends'.amend (heeds.uses ▸ used)
    cases (woken.state.sends future).bind Send.outcome with
    | some result => exact ⟨⟨kept, heeds.trans .amend⟩, by rintro ⟨⟩⟩
    | none =>
        have fails : Aside (amended woken future fun this => { this with outcome := none })
            ((amended woken future fun this => { this with outcome := none }).logged
              (.expectFailed "committed outcome")) := .logged fun _ _ waits => waits
        exact ⟨fails.attends (fun full => full) kept, heeds.trans (Heeds.amend.trans fails.heeds)⟩
  simp only [SendFuture.effects, Prog.wp_bind]
  refine Prog.wp_mono (removeSend_attends attending attends free) ?_ (fun _ _ kept => kept.1)
  rintro _ removed ⟨⟨attends₁, removes⟩, -⟩
  cases pushed with
  | true =>
      simp only [↓reduceIte, Prog.wp_bind]
      exact Prog.wp_mono (removes.before (wakeReceiver_attends attending attends₁))
        (fun _ woken kept => settles woken kept) (fun _ _ kept => kept)
  | false =>
      simp only [Bool.false_eq_true, ↓reduceIte, Prog.wp_bind]
      exact settles removed ⟨attends₁, removes⟩

/-- An attempt to push settles the send, or finds the queue full. -/
theorem attemptPush_attends {this : Send α} {item : α}
    {parked : M α (Poll (Except (SendError α) Unit))} (attends : Attends channel)
    (heeds : Heeds (some future) base channel) (used : .send future ∈ channel.state.uses)
    (found : channel.state.sends future = some this) (message : this.item = some item)
    (free : Fits channel.log → ∀ other held, some future ≠ some other → this.wakerId = some held →
      channel.state.idOf other ≠ some held)
    (full : channel.state.chan.flavor.isFull = true →
      parked.wp contract (fun polled after => Minded (some future) base after ∧
        HeldUp future polled after) (fun _ => Minded (some future) base) channel) :
    (SendFuture.attemptPush future parked).wp contract
      (fun polled after => Minded (some future) base after ∧ HeldUp future polled after)
      (fun _ => Minded (some future) base) channel := by
  -- What follows once the outcome is settled.
  have commits : ∀ (result : Except (SendError α) Unit) {attempted : Channel α},
      Attends attempted → Aside channel attempted →
      (SendFuture.effects future result.toBool this.wakerId).wp contract
        (fun polled after => Minded (some future) base after ∧ HeldUp future polled after)
        (fun _ => Minded (some future) base) (settled attempted future result) := by
    intro result attempted kept aside
    have logs : Aside (amended attempted future (settle result))
        (settled attempted future result) :=
      .logged fun _ _ waits => waits
    have settles : Heeds (some future) base (settled attempted future result) :=
      heeds.trans (aside.heeds.trans (Heeds.amend.trans logs.heeds))
    have used' : .send future ∈ attempted.state.uses := aside.uses.symm ▸ used
    have free' : Fits (settled attempted future result).log → ∀ other held,
        some future ≠ some other → this.wakerId = some held →
        (settled attempted future result).state.idOf other ≠ some held := by
      intro fits other held different holds holds'
      have same : (settled attempted future result).state.idOf other =
          channel.state.idOf other := by
        refine (State.idOf_other fun same => different (congrArg some same.symm)).trans ?_
        unfold State.idOf
        rw [aside.sends]
      exact free (fits.of_suffix (aside.log.trans logs.log)) other held different holds
        (same.symm.trans holds')
    have kept' : Attends (settled attempted future result) :=
      logs.attends (fun full => full) (kept.amend used')
    refine Prog.wp_mono (effects_attends attending result.toBool kept' used' free') ?_ ?_
    · rintro polled after ⟨⟨attends', later⟩, heldUp⟩
      exact ⟨⟨attends', settles.trans later⟩, heldUp⟩
    · rintro _ after ⟨attends', later⟩
      exact ⟨attends', settles.trans later⟩
  refine wp_attemptPush attends.held found message ?_ ?_ fun _ => full
  · intro _
    exact commits (.error ⟨item⟩) attends
      ⟨List.suffix_refl _, fun _ _ waits => waits, rfl, rfl, Nat.le_refl _, rfl, rfl⟩
  · intro flavor _ room _ _
    have pushes : Aside channel (pushed channel flavor (some future) item) :=
      .pushed flavor (some future) item
    exact commits (.ok ()) (pushes.attends (fun full => by cases room.symm.trans full) attends)
      pushes

/-- A send future that finds the queue full registers. -/
theorem park_attends {this : Send α} (inv : Inv manners channel) (attends : Attends channel)
    (used : .send future ∈ channel.state.uses) (found : channel.state.sends future = some this)
    (waker : Waker) :
    (do
      removeSend (← takeWakerId future)
      let id ← addSendWaker waker
      setWakerId future id : M α Unit).wp contract
      (fun _ after => Minded (some future) channel after ∧ ∃ id,
        after.state.sends future = some { this with wakerId := some id } ∧
        (id, waker) ∈ after.state.chan.sendWakers ∧
        (Fits after.log → ∀ other, some future ≠ some other → after.state.idOf other ≠ some id))
      (fun _ => Minded (some future) channel) channel := by
  have holds : channel.state.idOf future = this.wakerId := by simp [State.idOf, found]
  have taken : Attends (channel.onState (·.setWakerId none future)) := attends.amend used
  have takes : Heeds (some future) channel (channel.onState (·.setWakerId none future)) := .amend
  have found₀ : (channel.onState (·.setWakerId none future)).state.sends future =
      some { this with wakerId := none } := State.sends_updateSend found
  have free : Fits (channel.onState (·.setWakerId none future)).log → ∀ other held,
      some future ≠ some other → channel.state.idOf future = some held →
      (channel.onState (·.setWakerId none future)).state.idOf other ≠ some held := by
    intro fits other held different holds holds'
    have different : other ≠ future := fun same => different (congrArg some same.symm)
    have holds' : channel.state.idOf other = some held :=
      (State.idOf_other different).symm.trans holds'
    exact different ((inv.registry.tickets fits).sole other future held holds' holds)
  simp only [Prog.wp_bind, wp_takeWakerId]
  rw [show (channel.state.sends future).bind Send.wakerId = channel.state.idOf future from rfl]
  refine Prog.wp_mono (removeSend_attends attending taken free) ?_ ?_
  · rintro _ removed ⟨⟨attends₁, removes⟩, keeps⟩
    have used₁ : .send future ∈ removed.state.uses := removes.uses.symm ▸ used
    have found₁ := (keeps future used).trans found₀
    rw [← Prog.wp_bind]
    refine wp_register (Prog.wp_mono (attending.calls (.clone waker) attends₁) ?_ ?_)
    · rintro _ cloned ⟨inv₂, attends₂, passes⟩
      have used₂ : .send future ∈ cloned.state.uses := passes.heeds.uses.symm ▸ used₁
      have found₂ := (passes.heeds.sends future used₁ (by rintro ⟨⟩)).trans found₁
      refine ⟨attends₂.held, ⟨attends₂.enroll inv₂ used₂,
        takes.trans (removes.trans (passes.heeds.weaken.trans .enroll))⟩,
        cloned.state.chan.nextSendId, (State.sends_updateSend found₂).trans rfl,
        List.mem_append_right _ (List.mem_singleton_self _), ?_⟩
      intro fits other different holds
      have fits : Fits cloned.log := fits.of_suffix (List.suffix_cons ..)
      have issued := (inv₂.registry.tickets fits).held other _
        ((State.idOf_other fun same => different (congrArg some same.symm)).symm.trans holds)
      have number := inv₂.registry.nextSendId_toNat fits
      exact absurd issued (by simp only [ledger]; omega)
    · rintro _ cloned ⟨attends₂, passes⟩
      exact ⟨attends₂, takes.trans (removes.trans passes.heeds.weaken)⟩
  · rintro _ removed ⟨⟨attends₁, removes⟩, -⟩
    exact ⟨attends₁, takes.trans removes⟩

/-- Polling a send. The waker that it is polled with is the only one it can wait for. -/
theorem pollSend_attends (inv : Inv manners channel) (attends : Attends channel)
    (used : .send future ∈ channel.state.uses)
    (polled : ∀ woken, waiting (.send future) channel.log = some woken → woken = waker) :
    (SendFuture.poll future waker : M α (Poll (Except (SendError α) Unit))).wp contract
      (fun polled after => Minded (some future) channel after ∧ HeldUp future polled after)
      (fun _ => Minded (some future) channel) channel := by
  obtain ⟨this, found⟩ := Option.isSome_iff_exists.mp (inv.handles.uses _ used)
  simp only [SendFuture.poll, Prog.wp_bind, wp_getState, found]
  cases this.outcome with
  | some outcome => exact ⟨⟨attends.amend used, .amend⟩, by rintro ⟨⟩⟩
  | none =>
      simp only [Prog.wp_ite]
      cases done : this.done with
      | true =>
          refine ⟨⟨attends, .refl channel⟩, fun _ _ woken waits => ?_⟩
          obtain ⟨other, found', running⟩ := waits.unfinished
          obtain rfl := Option.some.inj (found.symm.trans found')
          cases done.symm.trans running
      | false =>
          simp only [Bool.false_eq_true, ↓reduceIte]
          obtain ⟨present, -⟩ := inv.futures.unsent future this found done
          obtain ⟨item, message⟩ := Option.isSome_iff_exists.mp present
          have holds : channel.state.idOf future = this.wakerId := by simp [State.idOf, found]
          have free : Fits channel.log → ∀ other held, some future ≠ some other →
              this.wakerId = some held → channel.state.idOf other ≠ some held := by
            intro fits other held different mine theirs
            refine different (congrArg some ?_)
            exact (inv.registry.tickets fits).sole future other held (holds.trans mine) theirs
          refine attemptPush_attends attending attends (.refl channel) used found message free ?_
          intro _
          have parks := park_attends attending inv attends used found waker
          simp only [Prog.wp_bind] at parks ⊢
          refine Prog.wp_mono parks (fun _ _ removes => Prog.wp_mono removes
            (fun id _ adds => Prog.wp_mono adds ?_ (fun _ _ kept => kept)) (fun _ _ kept => kept))
            (fun _ _ kept => kept)
          rintro _ parked ⟨⟨attends', heeds⟩, id, found', filed, free'⟩
          have used' : .send future ∈ parked.state.uses := heeds.uses.symm ▸ used
          refine attemptPush_attends attending attends' heeds used' found' message ?_ ?_
          · rintro fits other held different ⟨⟩
            exact free' fits other different
          · -- No user code has run since the future was registered.
            intro full
            refine ⟨⟨attends', heeds⟩, fun _ _ woken waits => ⟨?_, full⟩⟩
            obtain rfl := polled woken (heeds.waits future used woken waits.waits)
            exact ⟨id, congrArg (Option.bind · Send.wakerId) found', filed⟩

end Polling

end Lochan.Mpsc
