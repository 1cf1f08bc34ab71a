import Lochan.Mpsc.Attending
import Lochan.Mpsc.Parking
import Lochan.Reentrant.Layers

/-!
# No sender of an mpsc channel is forgotten

Every operation keeps the second invariant and the second guarantee. So between operations a send
future that waits for its waker is registered with it, the queue is full, and sends are accepted.
-/

namespace Lochan.Mpsc

open Reentrant Queue

variable {α β : Type} {manners : Manners} {base channel after : Channel α}

/-! ### What an operation adds -/

section Hold

variable {ref : Ref}

/-- References in use do not decide who waits. -/
theorem waits_uses {uses : List Ref} {future : Nat} {waker : Waker} :
    Waits (channel.onState fun state => { state with uses := uses }) future waker ↔
      Waits channel future waker :=
  ⟨fun waits => ⟨waits.waits, waits.unfinished⟩, fun waits => ⟨waits.waits, waits.unfinished⟩⟩

/-- A reference in use exempts its future. -/
theorem Attends.hold (attends : Attends channel) : Attends (inUse channel ref) where
  held := attends.held
  below := attends.below
  full fits future waker free waits parked :=
    attends.full fits future waker (fun used => free (List.mem_cons_of_mem _ used))
      (waits_uses.mp waits) parked

/-- The parked senders stay attended when a reference is let go, if its own future is. -/
theorem Attends.release (attends : Attends channel)
    (heldUp : Fits channel.log → ∀ future, .send future = ref → ∀ waker,
      Waits channel future waker → Parked channel future waker →
        channel.state.chan.flavor.isFull = true) : Attends (released channel ref) where
  held := attends.held
  below := attends.below
  full fits future waker free waits parked := by
    by_cases same : .send future = ref
    · exact heldUp fits future same waker (waits_uses.mp waits) parked
    · refine attends.full fits future waker (fun used => free ?_) (waits_uses.mp waits) parked
      exact (List.mem_erase_of_ne same).mpr used

/-- What an operation does to the parked senders does not change when its reference is let go. -/
theorem Heeds.release {own : Option Nat} (heeds : Heeds own (inUse channel ref) after) :
    Heeds own channel (released after ref) where
  log := heeds.log
  uses := by
    show after.state.uses.erase ref = channel.state.uses
    rw [heeds.uses]
    exact List.erase_cons_head ..
  fresh := heeds.fresh
  sends future used := heeds.sends future (List.mem_cons_of_mem _ used)
  waits future used := heeds.waits future (List.mem_cons_of_mem _ used)
  forgotten fits future waker other forgotten := by
    obtain ⟨waits, unparked⟩ := forgotten
    obtain ⟨waits, unparked⟩ :=
      heeds.forgotten fits future waker other ⟨waits_uses.mp waits, unparked⟩
    exact ⟨waits_uses.mp waits, unparked⟩

end Hold

variable {contract : Prog.Contract (Channel α) (Callback α) Panic}

/-- An operation that holds a reference through which no send is polled. -/
theorem holding_attends {ref : Ref} {act : M α β} (plain : ∀ future, .send future ≠ ref)
    (acts : act.leaves contract (Minded none (inUse channel ref)) (inUse channel ref)) :
    (holding ref act).leaves contract (Minded none channel) channel := by
  have gives : ∀ after, Minded none (inUse channel ref) after →
      Minded none channel (released after ref) := by
    rintro after ⟨attends, heeds⟩
    exact ⟨attends.release fun _ future same => absurd same (plain future), heeds.release⟩
  rw [Prog.leaves, wp_holding]
  exact Prog.wp_mono acts (fun _ after kept => gives after kept)
    (fun _ after kept => gives after kept)

/-- An operation that does not poll a send. -/
theorem perform_attends {op : Op α} (other : ∀ future waker, op.polls ≠ some (.send future, waker))
    (attends : Attends channel)
    (acts : Attends (channel.logged (.began op)) →
      (body op).leaves contract (Minded none (channel.logged (.began op)))
        (channel.logged (.began op))) :
    (perform op).leaves contract (Minded none channel) channel := by
  have begins : Aside channel (channel.logged (.began op)) :=
    .logged fun future _ waits => (waiting_began_other (other future)).symm.trans waits
  have ended : ∀ {after : Channel α} {event : Event (Op α) (Result α) α}, event.Ends →
      Minded none (channel.logged (.began op)) after →
        Minded none channel (after.logged event) := by
    rintro after event ends ⟨attends', heeds⟩
    have logs : Aside after (after.logged event) := .logged fun _ _ => waiting_ends ends
    exact ⟨logs.attends id attends', begins.heeds.trans (heeds.trans logs.heeds)⟩
  rw [Prog.leaves, wp_perform]
  refine Prog.wp_mono (acts (begins.attends id attends)) ?_ ?_
  · exact fun result after kept => ended (.returned channel.log.length op result) kept
  · exact fun _ after kept => ended (.unwound channel.log.length op) kept

/-! ### Creating and dropping a send -/

/-- The channel in which a send future is replaced. -/
abbrev replaced (channel : Channel α) (future : Nat) (send : Option (Send α)) : Channel α :=
  channel.onState fun state => { state with sends := Function.update state.sends future send }

section Replace

variable {future : Nat} {send : Option (Send α)}

/-- The futures beside a replaced one stay. -/
theorem sends_replaced {other : Nat} (different : other ≠ future) :
    (replaced channel future send).state.sends other = channel.state.sends other :=
  Function.update_of_ne different ..

/-- The ids beside a replaced one stay. -/
theorem idOf_replaced {other : Nat} (different : other ≠ future) :
    (replaced channel future send).state.idOf other = channel.state.idOf other :=
  congrArg (Option.bind · Send.wakerId) (sends_replaced different)

/-- The parked senders stay attended when a future is replaced by one that does not wait. -/
theorem Attends.replace (attends : Attends channel)
    (idle : ∀ waker, ¬ Waits (replaced channel future send) future waker) :
    Attends (replaced channel future send) where
  held := attends.held
  below := attends.below
  full fits other woken free waits parked := by
    have different : other ≠ future := by
      rintro rfl
      exact idle woken waits
    obtain ⟨waits, unfinished⟩ := waits
    obtain ⟨id, holds, member⟩ := parked
    exact attends.full fits other woken free ⟨waits, sends_replaced different ▸ unfinished⟩
      ⟨id, (idOf_replaced different).symm.trans holds, member⟩

/-- A future replaced by one that does not wait leaves the others alone. -/
theorem Heeds.replace (unused : .send future ∉ channel.state.uses)
    (idle : ∀ waker, ¬ Waits (replaced channel future send) future waker) :
    Heeds none channel (replaced channel future send) where
  log := List.suffix_refl _
  uses := rfl
  fresh := Nat.le_refl _
  sends other used _ := by
    refine sends_replaced ?_
    rintro rfl
    exact unused used
  waits _ _ _ waits := waits
  forgotten _ other woken _ forgotten := by
    obtain ⟨waits, unparked⟩ := forgotten
    have different : other ≠ future := by
      rintro rfl
      exact idle woken waits
    refine ⟨⟨waits.waits, sends_replaced different ▸ waits.unfinished⟩, ?_⟩
    rintro ⟨id, holds, member⟩
    exact unparked ⟨id, (idOf_replaced different).trans holds, member⟩

end Replace

section Operations

variable {admits : Callback α → Panic → Channel α → Prop}
  (attending : Attending manners contract admits)

/-- Nobody waits for a send future that is created. -/
theorem send_attends (inv : Inv manners channel) (attends : Attends channel) (sender : Nat)
    (item : α) : (body (.send sender item)).leaves contract (Minded none channel) channel := by
  have counts : Aside channel (channel.onState fun state =>
      { state with fresh := state.fresh + 1 }) :=
    ⟨List.suffix_refl _, fun _ _ waits => waits, rfl, rfl, Nat.le_succ _, rfl, rfl⟩
  have unused : .send channel.state.fresh ∉ channel.state.uses := by
    intro used
    obtain ⟨this, found⟩ := Option.isSome_iff_exists.mp (inv.handles.uses _ used)
    exact absurd (inv.handles.send _ this found).2 (Nat.lt_irrefl _)
  have idle : ∀ waker, ¬ Waits (replaced
      (channel.onState fun state => { state with fresh := state.fresh + 1 }) channel.state.fresh
      (some (Send.new sender item))) channel.state.fresh waker :=
    fun waker waits => absurd (attends.below _ waker waits.waits) (Nat.lt_irrefl _)
  exact ⟨(counts.attends (fun full => full) attends).replace idle,
    counts.heeds.trans (.replace unused idle)⟩

include attending

/-- The drop of a send future leaves the parked senders attended. -/
theorem dropSend_attends {future : Nat} (inv : Inv manners channel) (attends : Attends channel)
    (owned : channel.state.SendOwned future) :
    (body (.dropSend future)).leaves contract (Minded none channel) channel := by
  obtain ⟨alive, unused⟩ := owned
  obtain ⟨this, found⟩ := Option.isSome_iff_exists.mp alive
  have gone : (replaced channel future none).state.sends future = none := Function.update_self ..
  have idle : ∀ waker, ¬ Waits (replaced channel future none) future waker := by
    rintro waker ⟨-, other, present, -⟩
    cases gone.symm.trans present
  have erases : Heeds none channel (replaced channel future none) := .replace unused idle
  have holds : channel.state.idOf future = this.wakerId := by simp [State.idOf, found]
  have free : Fits channel.log → ∀ other held, none ≠ some other → this.wakerId = some held →
      (replaced channel future none).state.idOf other ≠ some held := by
    intro fits other held _ mine theirs
    by_cases same : other = future
    · subst same
      have none : (replaced channel other none).state.idOf other = none :=
        congrArg (Option.bind · Send.wakerId) gone
      cases none.symm.trans theirs
    · exact same ((inv.registry.tickets fits).sole other future held
        ((idOf_replaced same).symm.trans theirs) (holds.trans mine))
  have drops : (SendFuture.drop this : M α Unit).leaves contract
      (Minded none (inUse (replaced channel future none) (.sender this.sender)))
      (inUse (replaced channel future none) (.sender this.sender)) := by
    unfold SendFuture.drop dropGlue
    refine leaves_ensuring attending.aborts (Prog.wp_mono
      (removeSend_attends attending (attends.replace idle).hold free) (fun _ _ kept => kept.1)
      (fun _ _ kept => kept.1)) ?_
    rintro middle ⟨attends', heeds⟩
    refine leaves_ensuring attending.aborts
      (heeds.before (dropItems_attends attending _ attends')) ?_
    rintro middle ⟨attends', heeds⟩
    exact heeds.before (dropItems_attends attending _ attends')
  simp only [body, Prog.leaves, Prog.wp_bind, wp_getState, found, wp_modifyState, Prog.wp_pure]
  exact erases.before (holding_attends (by rintro _ ⟨⟩) drops)

/-- What an operation does that does not poll a send. -/
theorem body_attends {op : Op α} (other : ∀ future waker, op.polls ≠ some (.send future, waker))
    (legal : channel.state.Legal op) (inv : Inv manners channel) (attends : Attends channel) :
    (body op).leaves contract (Minded none channel) channel := by
  have closes : ∀ {ref : Ref}, (Mpsc.close : M α Unit).leaves contract
      (Minded none (inUse channel ref)) (inUse channel ref) :=
    close_attends attending attends.hold
  cases op with
  | trySend sender item =>
      simp only [body, Prog.leaves, Prog.wp_bind, Prog.wp_pure]
      exact holding_attends (by rintro _ ⟨⟩) (trySend_attends attending attends.hold item)
  | cloneSender sender =>
      have clones : Aside channel (channel.onState fun state =>
          { state with
            chan := { state.chan with senders := state.chan.senders + 1 }
            fresh := state.fresh + 1
            strong := state.strong + 1
            senders := state.fresh :: state.senders }) :=
        ⟨List.suffix_refl _, fun _ _ waits => waits, rfl, rfl, Nat.le_succ _, rfl, rfl⟩
      exact ⟨clones.attends id attends, clones.heeds⟩
  | dropSender sender =>
      have leaves : Aside channel (channel.onState fun state =>
          { state with senders := state.senders.erase sender }) :=
        ⟨List.suffix_refl _, fun _ _ waits => waits, rfl, rfl, Nat.le_refl _, rfl, rfl⟩
      simp only [body, Prog.leaves, Prog.wp_bind, wp_modifyState, Prog.wp_pure]
      exact leaves.heeds.before (releasing_attends attending
        (dropSender_attends attending (leaves.attends id attends)))
  | closeSender sender =>
      simp only [body, Prog.leaves, Prog.wp_bind, Prog.wp_pure]
      refine holding_attends (by rintro _ ⟨⟩) ?_
      simp only [Sender.close, Sender.isClosed, Prog.leaves, Prog.wp_bind, wp_getChan,
        Prog.wp_pure, Prog.wp_ite]
      split
      · exact ⟨attends.hold, .refl _⟩
      · exact closes
  | send sender item => exact send_attends inv attends sender item
  | pollSend future waker => exact absurd rfl (other future waker)
  | sendIsTerminated future =>
      obtain ⟨this, found⟩ := Option.isSome_iff_exists.mp legal.1
      simp only [body, SendFuture.isTerminated, Prog.leaves, Prog.wp_bind, wp_getState, found]
      exact ⟨attends, .refl channel⟩
  | dropSend future => exact dropSend_attends attending inv attends legal
  | tryRecv receiver =>
      simp only [body, Prog.leaves, Prog.wp_bind, Prog.wp_pure]
      exact holding_attends (by rintro _ ⟨⟩) (tryRecv_attends attending attends.hold)
  | tryIterNext receiver =>
      simp only [body, Prog.leaves, Prog.wp_bind, Prog.wp_pure]
      exact holding_attends (by rintro _ ⟨⟩) (tryIterNext_attends attending attends.hold)
  | pollNext receiver waker =>
      simp only [body, Prog.leaves, Prog.wp_bind, Prog.wp_pure]
      exact holding_attends (by rintro _ ⟨⟩) (pollRecv_attends attending attends.hold waker)
  | cloneReceiver receiver => exact legal.elim
  | dropReceiver receiver =>
      have leaves : Aside channel (channel.onState fun state => { state with receiver := none }) :=
        ⟨List.suffix_refl _, fun _ _ waits => waits, rfl, rfl, Nat.le_refl _, rfl, rfl⟩
      simp only [body, Prog.leaves, Prog.wp_bind, wp_modifyState, Prog.wp_pure]
      exact leaves.heeds.before (releasing_attends attending
        (dropReceiver_attends attending receiver (leaves.attends id attends)))
  | closeReceiver receiver =>
      simp only [body, Prog.leaves, Prog.wp_bind, Prog.wp_pure]
      refine holding_attends (by rintro _ ⟨⟩) ?_
      simp only [Receiver.close, Receiver.isClosed, Prog.leaves, Prog.wp_bind, wp_getChan,
        Prog.wp_pure, Prog.wp_ite]
      split
      · exact ⟨attends.hold, .refl _⟩
      · exact closes
  | streamIsTerminated receiver =>
      simp only [body, Receiver.isTerminated, Prog.leaves, Prog.wp_bind, wp_getChan, Prog.wp_ite]
      split
      · rw [wp_isEmpty attends.held]
        exact ⟨attends, .refl channel⟩
      · exact ⟨attends, .refl channel⟩
  | recv receiver =>
      have creates : Aside channel (channel.onState fun state =>
          { state with
            fresh := state.fresh + 1
            recvs := Function.update state.recvs state.fresh (some ⟨receiver, false⟩) }) :=
        ⟨List.suffix_refl _, fun _ _ waits => waits, rfl, rfl, Nat.le_succ _, rfl, rfl⟩
      exact ⟨creates.attends id attends, creates.heeds⟩
  | pollRecv future waker =>
      obtain ⟨this, found⟩ := Option.isSome_iff_exists.mp legal.1
      simp only [body, Prog.leaves, Prog.wp_bind, Prog.wp_pure]
      refine holding_attends (by rintro _ ⟨⟩) ?_
      have found' : (inUse channel (.recv future)).state.recvs future = some this := found
      simp only [RecvFuture.poll, Prog.leaves, Prog.wp_bind, wp_getState, found']
      refine Prog.wp_mono (pollRecv_attends attending attends.hold waker) ?_ (fun _ _ kept => kept)
      rintro polled after ⟨attends', heeds⟩
      cases polled with
      | pending => exact ⟨attends', heeds⟩
      | ready item =>
          have completes : Aside after (after.onState
              (·.updateRecv future fun this => { this with done := true })) :=
            ⟨List.suffix_refl _, fun _ _ waits => waits, rfl, rfl, Nat.le_refl _, rfl, rfl⟩
          exact ⟨completes.attends id attends', heeds.trans completes.heeds⟩
  | dropRecv future =>
      obtain ⟨this, found⟩ := Option.isSome_iff_exists.mp legal.1
      have erases : Aside channel (channel.onState fun state =>
          { state with recvs := Function.update state.recvs future none }) :=
        ⟨List.suffix_refl _, fun _ _ waits => waits, rfl, rfl, Nat.le_refl _, rfl, rfl⟩
      simp only [body, Prog.leaves, Prog.wp_bind, wp_getState, found, wp_modifyState, Prog.wp_pure]
      refine erases.heeds.before (holding_attends (by rintro _ ⟨⟩) ?_)
      have kept := erases.attends id attends
      simp only [RecvFuture.drop, Prog.leaves, Prog.wp_ite]
      split
      · exact ⟨kept.hold, .refl _⟩
      · exact Prog.wp_mono (clearRecvWaker_attends attending kept.hold) (fun _ _ kept => kept.1)
          (fun _ _ kept => kept.1)
  | _ =>
      refine body_observes ?_ legal attends.held fun _ _ => ⟨attends, .refl channel⟩
      trivial

/-- Polling a send. Only the poll itself tells what becomes of its future. -/
theorem pollSend_minded {future : Nat} {waker : Waker} (owned : channel.state.SendOwned future)
    (inv : Inv manners channel) (attends : Attends channel) :
    (perform (.pollSend future waker)).leaves contract (Minded none channel) channel := by
  obtain ⟨alive, unused⟩ := owned
  obtain ⟨this, found⟩ := Option.isSome_iff_exists.mp alive
  have others : ∀ {other woken}, other ≠ future →
      waiting (.send other) (.began (.pollSend future waker) :: channel.log) = some woken →
      waiting (.send other) channel.log = some woken := by
    intro other woken different waits
    refine (waiting_began_other fun woken same => different ?_).symm.trans waits
    cases same
    rfl
  have begun : waiting (.send future)
      (.began (.pollSend future waker) :: channel.log) = some waker :=
    waiting_began rfl
  let polling := inUse (channel.logged (.began (.pollSend future waker))) (.send future)
  have used : .send future ∈ polling.state.uses := List.mem_cons_self
  have inv' : Inv manners polling := inv.began.hold alive (by rintro _ ⟨⟩)
  have attends' : Attends polling := by
    refine ⟨attends.held, fun other woken waits => ?_, fun fits other woken free waits parked => ?_⟩
    · by_cases same : other = future
      · subst same
        exact (inv.handles.send other this found).2
      · exact attends.below other woken (others same waits)
    · have different : other ≠ future := by
        rintro rfl
        exact free used
      exact attends.full fits other woken (fun used => free (List.mem_cons_of_mem _ used))
        ⟨others different waits.waits, waits.unfinished⟩ parked
  have ended : ∀ {after : Channel α} {event : Event (Op α) (Result α) α}, event.Ends →
      Minded (some future) polling after →
      (Fits after.log → ∀ woken, Waits (after.logged event) future woken →
        Parked after future woken ∧ after.state.chan.flavor.isFull = true) →
      Minded none channel ((released after (.send future)).logged event) := by
    rintro after event ends ⟨kept, heeds⟩ heldUp
    have logs : Aside after (after.logged event) := .logged fun _ _ => waiting_ends ends
    have heeds : Heeds (some future) polling (after.logged event) := heeds.trans logs.heeds
    have fits' : Fits (event :: after.log) → Fits after.log :=
      fun fits => fits.of_suffix (List.suffix_cons ..)
    refine ⟨(logs.attends (fun full => full) kept).release ?_, ?_⟩
    · rintro fits other ⟨⟩ woken waits -
      exact (heldUp (fits' fits) woken waits).2
    have apart : ∀ {other}, other ≠ future → some future ≠ some other :=
      fun different same => different (Option.some.inj same).symm
    refine ⟨(List.suffix_cons ..).trans heeds.log, heeds.release.uses, heeds.fresh, ?_, ?_, ?_⟩
    · intro other used' _
      have different : other ≠ future := by
        rintro rfl
        exact unused used'
      exact heeds.sends other (List.mem_cons_of_mem _ used') (apart different)
    · intro other used' woken waits
      have different : other ≠ future := by
        rintro rfl
        exact unused used'
      exact others different (heeds.waits other (List.mem_cons_of_mem _ used') woken waits)
    · intro fits other woken _ forgotten
      obtain ⟨⟨waits, unfinished⟩, unparked⟩ := forgotten
      by_cases same : other = future
      · subst same
        exact absurd (heldUp (fits' fits) woken ⟨waits, unfinished⟩).1 unparked
      · obtain ⟨before, unparked⟩ :=
          heeds.forgotten fits other woken (apart same) ⟨⟨waits, unfinished⟩, unparked⟩
        exact ⟨⟨others same before.waits, before.unfinished⟩, unparked⟩
  rw [Prog.leaves, wp_perform]
  simp only [body, Prog.wp_bind, Prog.wp_pure]
  rw [wp_holding]
  refine Prog.wp_mono (pollSend_attends attending inv' attends' used fun woken waits =>
    (Option.some.inj (begun.symm.trans waits)).symm) ?_ ?_
  · rintro polled after ⟨kept, heldUp⟩
    refine ended (.returned _ _ _) kept fun fits woken waits => ?_
    cases polled with
    | ready result =>
        have waits := waits.waits
        simp [waiting, Op.polls, Result.isPending] at waits
    | pending =>
        exact heldUp rfl fits woken
          ⟨waiting_ends (.returned _ _ _) waits.waits, waits.unfinished⟩
  · intro _ after kept
    refine ended (.unwound _ _) kept fun fits woken waits => ?_
    have waits := waits.waits
    simp [waiting, Op.polls] at waits

/-- Every operation keeps the second invariant and the second guarantee. -/
theorem perform_minded {op : Op α} (legal : channel.state.Legal op) (inv : Inv manners channel)
    (attends : Attends channel) :
    (perform op).leaves contract (Minded none channel) channel := by
  by_cases polls : ∃ future waker, op.polls = some (.send future, waker)
  · obtain ⟨future, waker, polls⟩ := polls
    cases op with
    | pollSend other woken => exact pollSend_minded attending legal inv attends
    | _ => cases polls
  · have other : ∀ future waker, op.polls ≠ some (.send future, waker) :=
      fun future waker same => polls ⟨future, waker, same⟩
    exact perform_attends other attends fun begun =>
      body_attends attending other legal inv.began begun

end Operations

/-! ### Every run -/

section Run

variable {policy : Policy (Channel α) (Callback α) Panic (Op α)} {fresh : Channel α}

/-- Nobody is parked on a new channel. -/
theorem New.attends (new : New fresh) : Attends fresh := by
  cases new with
  | bounded cap positive => exact ⟨rfl, by rintro _ _ ⟨⟩, by rintro - _ _ - ⟨⟨⟩, -⟩⟩
  | unbounded => exact ⟨rfl, by rintro _ _ ⟨⟩, by rintro - _ _ - ⟨⟨⟩, -⟩⟩

/-- In the runs in which panics are calm, both invariants hold whenever user code is in control, and
both guarantees between operations. -/
theorem Runs.attended (calm : ∀ op, Calm (Admits policy op)) (new : New fresh)
    {config : Config (Channel α) (Callback α) Panic (Op α)} (runs : Runs policy fresh config) :
    System.ConfigSound policy (exits policy)
      (fun channel => Inv (.of policy) channel ∧ Attends channel)
      (fun before after => Guarantee (.of policy) none before after ∧ Heeds none before after)
      fresh config := by
  refine System.Reachable.sound_above Guarantee.refl (fun _ _ _ => Guarantee.trans) Heeds.refl
    (fun _ _ _ => Heeds.trans) (fun op channel legal allowed inv => perform_keeps legal allowed inv)
    ?_ new.inv new.attends runs
  intro op channel legal _ inv attends
  have attending : Attending (.of policy)
      (System.above policy (Inv (.of policy)) (Guarantee (.of policy) none) Attends (Heeds none) op)
      (Admits policy op) :=
    { enter := fun _ _ attends => attends
      resume := fun _ _ _ _ left => ⟨left.2.1.1, left.2.2.1, left.2.1.2, left.2.2.2⟩
      panics := fun _ _ _ _ left => left.1
      calm := calm op
      aborts := fun _ => trivial
      hangs := fun _ => trivial }
  exact perform_minded attending legal inv attends

/-- Nobody is forgotten in a run that starts with a new channel. -/
theorem Heeds.parked (heeds : Heeds none fresh channel) (new : New fresh) (fits : Fits channel.log)
    {future : Nat} {waker : Waker} (waits : Waits channel future waker) :
    Parked channel future waker := by
  by_contra unparked
  have forgotten := heeds.forgotten fits future waker (by rintro ⟨⟩) ⟨waits, unparked⟩
  have silent : waiting (.send future) fresh.log = none := by cases new <;> rfl
  cases silent.symm.trans forgotten.waits.waits

/-- Between operations a send future whose last poll returned `Pending`, and that waits for the
waker of that poll, is registered with it; the queue is full, and the channel accepts sends. Panics
must be such that their payloads can be disposed of. -/
theorem no_sender_is_forgotten (calm : ∀ op, Calm (Admits policy op)) (new : New fresh)
    (runs : Runs policy fresh (.user channel [])) (fits : Fits channel.log) {future : Nat}
    {waker : Waker} (waits : Waits channel future waker) :
    Parked channel future waker ∧ channel.state.chan.flavor.isFull = true ∧
      channel.state.chan.rejecting = false := by
  have sound := Runs.attended calm new runs
  obtain ⟨guarantee, heeds⟩ := sound.quiescent
  obtain ⟨-, attends⟩ := sound.1
  have parked := heeds.parked new fits waits
  have idle : .send future ∉ channel.state.uses := by
    rw [heeds.uses, new.uses]
    exact List.not_mem_nil
  refine ⟨parked, attends.full fits future waker idle waits parked,
    eq_false_of_ne_true fun rejecting => ?_⟩
  obtain ⟨id, -, member⟩ := parked
  have before := (guarantee.tally.stuck fits rejecting _ member).2
  exact absurd (new.sendWakers ▸ before) List.not_mem_nil

/-- A send is parked on a full queue. -/
theorem no_sender_is_forgotten_parked : ∃ channel : Channel Nat,
    Runs Policy.panicFree (bounded 1 (by decide)) (.user channel []) ∧ Waits channel 2 5 ∧
      Parked channel 2 5 := by
  have played : ∃ channel : Channel Nat, (system Nat).play 4
      [.call (.trySend 0 7), .call (.send 0 8), .call (.pollSend 2 5), .leave (.ok ())]
      (.user (bounded 1 (by decide)) []) = some (.user channel []) ∧
      waiting (.send 2) channel.log = some 5 ∧
      channel.state.sends 2 = some ⟨0, some 8, false, some 0, none⟩ ∧
      registrations .receivers channel.log = 0 ∧ registrations .senders channel.log = 1 :=
    ⟨_, rfl, rfl, rfl, rfl, rfl⟩
  obtain ⟨channel, played, waits, found, received, sent⟩ := played
  have runs : Runs Policy.panicFree (bounded 1 (by decide)) (.user channel []) :=
    .playedCalm played (by simp)
  have fits : Fits channel.log := .intro (received ▸ by decide) (sent ▸ by decide)
  have calm : ∀ op, Calm (Admits (Policy.panicFree : Policy (Channel Nat) _ _ _) op) := by
    rintro op code payload world ⟨⟩
  have awaits : Waits channel 2 5 := ⟨waits, _, found, rfl⟩
  exact ⟨channel, runs, awaits,
    (no_sender_is_forgotten calm (.bounded 1 (by decide)) runs fits awaits).1⟩

end Run

end Lochan.Mpsc
