import Lochan.Undisturbed
import Lochan.Mpsc.Delivery

/-!
# An mpsc channel as a queue with parked senders

If nothing that is called back does anything, each operation of an mpsc channel does what it does
to a channel without the registration of the receiver's task, and the slot for that one follows the
signals.
-/

namespace Lochan.Mpsc

open Reentrant Queue

variable {α β : Type} {channel : Channel α} {limit : Nat}

/-- The channel without the registration of the receiver. -/
def ideal (channel : Channel α) : Ideal α where
  cap := channel.state.chan.flavor.cap
  items := channel.state.chan.contents
  senderCount := channel.state.chan.senders
  receiverCount := channel.state.chan.receiverAlive.toNat
  closed := channel.state.chan.closed
  parked := channel.state.chan.sendWakers
  nextId := channel.state.chan.nextSendId
  strong := channel.state.strong
  senders := channel.state.senders
  receivers := channel.state.receiver.toList
  recvs := fun future => (channel.state.recvs future).map fun this => (this.receiver, this.done)
  sends := channel.state.sends
  fresh := channel.state.fresh
  woken := wokeSenders channel.log

section Parts

variable {exc : Panic → Channel α → Prop}

/-- Where callbacks do nothing, the receiver in the slot is woken. -/
theorem wp_wakeReceiver_inert {post : Unit → Channel α → Prop} (clear : channel.held = []) :
    (wakeReceiver : M α Unit).wp (.inert limit) post exc channel =
      post () ((slotted channel none).toldAll
        (wakings .receivers channel.state.chan.recvWaker.toList)) := by
  obtain ⟨state, held, log⟩ := channel
  subst clear
  cases registered : state.chan.recvWaker with
  | none =>
      simp [wakeReceiver, wp_borrowing, registered]
      rw [slotted_self (by exact registered)]
      rfl
  | some waker =>
      simp [wakeReceiver, wp_borrowing, takeRecvWaker, registered]
      rfl

/-- Where callbacks do nothing, the waker in the slot is dropped. -/
theorem wp_clearRecvWaker_inert {post : Unit → Channel α → Prop} (clear : channel.held = []) :
    (clearRecvWaker : M α Unit).wp (.inert limit) post exc channel =
      post () ((slotted channel none).toldAll
        (disposals channel.state.chan.recvWaker.toList)) := by
  rw [clearRecvWaker, Prog.wp_bind, wp_takeRecvWaker clear]
  cases channel.state.chan.recvWaker with
  | none => rfl
  | some waker => simp [disposals, World.toldAll, World.logged]

/-- Where callbacks do nothing, all parked senders are woken in their order. -/
theorem wp_wakeSenders_inert {post : Unit → Channel α → Prop} (clear : channel.held = []) :
    (wakeSenders : M α Unit).wp (.inert limit) post exc channel =
      post () ((queued channel []).toldAll
        (wakings .senders (channel.state.chan.sendWakers.map Prod.snd))) := by
  obtain ⟨state, held, log⟩ := channel
  subst clear
  by_cases empty : state.chan.sendWakers = []
  · simp [wakeSenders, wp_borrowing, empty]
    rw [queued_nil (by exact empty)]
    rfl
  · simp [wakeSenders, wp_borrowing, empty]
    rfl

/-- Where callbacks do nothing, an id and its waker leave the registry. -/
theorem wp_removeSend_inert {post : Unit → Channel α → Prop} (clear : channel.held = [])
    (id : Option UInt64) :
    (removeSend id : M α Unit).wp (.inert limit) post exc channel =
      post () ((queued channel (withdrawn channel.state.chan.sendWakers id)).toldAll
        (disposals (dismissed channel.state.chan.sendWakers id))) := by
  obtain ⟨state, held, log⟩ := channel
  subst clear
  cases id with
  | none => rfl
  | some id =>
      simp only [removeSend, removeSendWaker, withdrawn, dismissed]
      cases found : removeById state.chan.sendWakers id with
      | mk removed rest =>
          cases removed with
          | none => simp [wp_borrowing, found, disposals, World.toldAll, World.onState]
          | some entry =>
              simp [wp_borrowing, found, disposals, World.toldAll, World.onState, World.logged]

/-- Where callbacks do nothing, the receiver is registered in the place of the one before. -/
theorem wp_registerRecvWaker_inert {post : Unit → Channel α → Prop} (clear : channel.held = [])
    (running : channel.state.chan.terminal = false) (waker : Waker) :
    (registerRecvWaker waker : M α Unit).wp (.inert limit) post exc channel =
      post () ((slotted (channel.logged (.called (.clone waker))) (some waker)).toldAll
        (disposals channel.state.chan.recvWaker.toList)) := by
  have cloned : (channel.logged (.called (.clone waker))).state.chan.terminal = false := running
  simp only [registerRecvWaker, Prog.wp_bind, wp_getChan, Prog.wp_ite, wp_callback_inert, running,
    cloned, Bool.false_eq_true, if_false]
  rw [wp_storeRecvWaker (by exact clear)]
  simp only [World.logged_state]
  cases channel.state.chan.recvWaker with
  | none => rfl
  | some old => simp [disposals, World.toldAll, World.logged]

/-- Where callbacks do nothing, a sender is registered under the next id. -/
theorem wp_addSendWaker_inert {post : UInt64 → Channel α → Prop} (clear : channel.held = [])
    (waker : Waker) :
    (addSendWaker waker : M α UInt64).wp (.inert limit) post exc channel =
      post channel.state.chan.nextSendId
        ((channel.onState (·.onChan fun chan =>
          { chan with
            sendWakers := chan.sendWakers ++ [(chan.nextSendId, waker)]
            nextSendId := chan.nextSendId + 1 })).toldAll
          [.called (.clone waker), .registered .senders]) := by
  obtain ⟨state, held, log⟩ := channel
  subst clear
  simp [addSendWaker, wp_borrowing, World.toldAll, World.onState, World.logged, State.onChan]

/-- A receive takes the oldest item, if there is one, and wakes the parked senders. -/
theorem wp_take_inert {post : Option α → Channel α → Prop} (clear : channel.held = [])
    (misses : ∀ flavor : Flavor α, channel.state.chan.contents = [] → flavor.toList = [] →
      flavor.cap = channel.state.chan.flavor.cap →
      post none ((restocked channel flavor).logged (.missed [])))
    (takes : ∀ item rest, ∀ flavor : Flavor α, channel.state.chan.contents = item :: rest →
      flavor.toList = rest → flavor.cap = channel.state.chan.flavor.cap →
      post (some item) ((queued ((restocked channel flavor).logged (.took item)) []).toldAll
        (wakings .senders (channel.state.chan.sendWakers.map Prod.snd)))) :
    (Receiver.take : M α (Option α)).wp (.inert limit) post exc channel := by
  rw [Receiver.take, Prog.wp_bind]
  refine wp_pop clear fun flavor contents capacity => ?_
  cases stocked : channel.state.chan.flavor.toList with
  | nil =>
      have empty : flavor.toList = [] := by rw [contents, stocked]; rfl
      have missed := misses flavor stocked empty capacity
      rw [← empty] at missed
      exact missed
  | cons item rest =>
      have left : flavor.toList = rest := by rw [contents, stocked]; rfl
      have taken := takes item rest flavor stocked left capacity
      simp only [List.head?_cons, Prog.wp_bind, wp_emit, Prog.wp_guarded]
      rw [wp_wakeSenders_inert (by exact clear)]
      exact taken

/-- What remains to be told when the channel is freed. -/
def freeing (chan : Chan α) : Log α :=
  .freed chan.contents :: ((chan.flavor.toList.map fun item => .called (.dropItem item)) ++
    (disposals chan.recvWaker.toList ++ disposals (chan.sendWakers.map Prod.snd)))

/-- Where callbacks do nothing, giving up a count is all that happens. -/
theorem wp_releaseChan_inert {post : Unit → Channel α → Prop} :
    (releaseChan : M α Unit).wp (.inert limit) post exc channel =
      post () ((channel.onState fun state => { state with strong := state.strong - 1 }).toldAll
        (if channel.state.strong - 1 = 0 then freeing channel.state.chan else [])) := by
  simp only [releaseChan, Prog.wp_bind, wp_modifyState, wp_getState, Prog.wp_ite]
  by_cases last : channel.state.strong - 1 = 0
  · simp [last, freeChan, dropGlue, freeing, World.toldAll, World.logged]
  · simp [last, World.toldAll]
    exact Iff.rfl

/-- Where callbacks do nothing, enough rounds of the loop drain the queue. -/
theorem wp_drainQueue_inert {post : Unit → Channel α → Prop} {items : List α} {count : Nat}
    (clear : channel.held = []) (stocked : channel.state.chan.flavor.toList = items)
    (enough : items.length < count)
    (drains : ∀ flavor : Flavor α, flavor.toList = [] →
      flavor.cap = channel.state.chan.flavor.cap →
      post () ((restocked channel flavor).toldAll (draining items))) :
    (Prog.iterate (do
      match ← pop with
      | none => return some ()
      | some item =>
        callback (.dropQueued item)
        return none : M α (Option Unit)) count).wp (.inert limit) post exc channel := by
  induction items generalizing channel count with
  | nil =>
      obtain ⟨count, rfl⟩ := Nat.exists_eq_add_one_of_ne_zero (Nat.ne_of_gt enough)
      rw [Prog.iterate, Prog.wp_bind_eq, Prog.wp_bind]
      refine wp_pop clear fun flavor contents capacity => ?_
      rw [stocked] at contents ⊢
      exact drains flavor contents capacity
  | cons item rest ih =>
      obtain ⟨count, rfl⟩ :=
        Nat.exists_eq_add_one_of_ne_zero (Nat.ne_of_gt (Nat.zero_lt_of_lt enough))
      rw [Prog.iterate, Prog.wp_bind_eq, Prog.wp_bind]
      refine wp_pop clear fun flavor contents capacity => ?_
      rw [stocked] at contents ⊢
      simp only [List.head?_cons, Prog.wp_bind, wp_callback_inert, Prog.wp_pure]
      refine ih clear contents (Nat.lt_of_succ_lt_succ enough) fun flavor' empty capacity' => ?_
      have drained := drains flavor' empty (capacity'.trans capacity)
      rw [draining, List.map_cons, World.toldAll_cons] at drained
      exact drained

/-- Where callbacks do nothing, draining leaves an empty queue of the same capacity. -/
theorem wp_drain_inert {post : Unit → Channel α → Prop} (clear : channel.held = [])
    (enough : channel.state.chan.contents.length < limit)
    (drains : ∀ flavor : Flavor α, flavor.toList = [] →
      flavor.cap = channel.state.chan.flavor.cap →
      post () ((restocked channel flavor).toldAll (draining channel.state.chan.contents))) :
    (drain : M α Unit).wp (.inert limit) post exc channel := by
  rintro depth rfl
  obtain ⟨depth, rfl⟩ := Nat.exists_eq_add_one_of_ne_zero (Nat.ne_of_gt (Nat.zero_lt_of_lt enough))
  rw [drainWithin, Prog.wp_guarded]
  rintro count rfl
  exact wp_drainQueue_inert clear rfl enough drains

/-- The channel without the registration of a send future. -/
def removed (channel : Channel α) (id : Option UInt64) : Channel α :=
  (queued channel (withdrawn channel.state.chan.sendWakers id)).toldAll
    (disposals (dismissed channel.state.chan.sendWakers id))

/-- A committed outcome is returned, once the receiver has heard of a pushed item. -/
theorem wp_effects_inert {post : Poll (Except (SendError α) Unit) → Channel α → Prop}
    {future : Nat} {this : Send α} {result : Except (SendError α) Unit} {id : Option UInt64}
    (clear : channel.held = []) (found : channel.state.sends future = some this)
    (outcome : this.outcome = some result) {heard : Bool} :
    (SendFuture.effects future heard id).wp (.inert limit) post exc channel =
      post (.ready result) (amended (if heard then (slotted (removed channel id) none).toldAll
        (wakings .receivers channel.state.chan.recvWaker.toList) else removed channel id) future
          fun this => { this with outcome := none }) := by
  have committed : ((removed channel id).state.sends future).bind Send.outcome = some result := by
    rw [show (removed channel id).state.sends = channel.state.sends from rfl, found]
    exact outcome
  simp only [SendFuture.effects, Prog.wp_bind]
  rw [wp_removeSend_inert clear]
  change Prog.wp _ _ _ _ (removed channel id) = _
  cases heard with
  | false =>
      simp only [Bool.false_eq_true, if_false, Prog.wp_bind, wp_getState, SendFuture.update,
        wp_modifyState, committed]
      rfl
  | true =>
      simp only [if_true, Prog.wp_bind]
      rw [wp_wakeReceiver_inert (by exact clear)]
      simp only [wp_getState, SendFuture.update, wp_modifyState, World.toldAll_state]
      change (expect _ (((removed channel id).state.sends future).bind Send.outcome) :
        M α (Except (SendError α) Unit)).wp _ _ _ _ = _
      rw [committed]
      rfl

end Parts

/-! ### The operations -/

/-- The channel has taken a turn, and its slot has followed the signal. -/
structure Tracks (turn : Turn α) (before after : Channel α) : Prop where
  ideal : ideal after = turn.next
  slot : after.state.chan.recvWaker = turn.signal.slot before.state.chan.recvWaker
  woken : wokeReceivers after.log = wokeReceivers before.log ++
    turn.signal.woken before.state.chan.recvWaker.toList
  answers : answers after.log = answers before.log

/-- A program takes a turn, and returns what is answered. -/
def Refines (limit : Nat) (turn : Turn α) (answer : β → Result α) (prog : M α β)
    (channel : Channel α) : Prop :=
  prog.wp (.inert limit) (fun value after => Tracks turn channel after ∧ answer value = turn.result)
    (fun _ _ => False) channel

/-- A reference held for the time of a program does not show. -/
theorem Refines.holding {turn : Turn α} {answer : β → Result α} {prog : M α β} {ref : Ref}
    (refines : Refines limit turn answer prog (inUse channel ref)) :
    Refines limit turn answer (holding ref prog) channel := by
  rw [Refines, wp_holding]
  refine Prog.wp_mono refines ?_ fun _ _ => id
  rintro value after ⟨tracks, answers⟩
  exact ⟨{ tracks with }, answers⟩

/-- An operation refines what its body refines. -/
theorem Refines.body {turn : Turn α} {answer : β → Result α} {prog : M α β}
    (refines : Refines limit turn answer prog channel) :
    Refines limit turn id (do return answer (← prog)) channel := by
  rw [Refines, Prog.wp_bind]
  exact refines

/-- Nothing has happened. -/
theorem Tracks.refl (channel : Channel α) (result : Result α) :
    Tracks ⟨result, .keeps, Mpsc.ideal channel⟩ channel channel :=
  ⟨rfl, rfl, (List.append_nil _).symm, rfl⟩

/-- A receive has found nothing. -/
theorem Tracks.missed {flavor : Flavor α} (empty : channel.state.chan.contents = [])
    (contents : flavor.toList = []) (capacity : flavor.cap = channel.state.chan.flavor.cap)
    (result : Result α) :
    Tracks ⟨result, .keeps, Mpsc.ideal channel⟩ channel
      ((restocked channel flavor).logged (.missed [])) := by
  refine ⟨?_, rfl, ?_, ?_⟩
  · have stocked : channel.state.chan.flavor.toList = [] := empty
    simp [Mpsc.ideal, contents, stocked, capacity, Event.wokeSender?, Chan.contents, State.onChan]
  · simp [Event.wokeReceiver?, Signal.woken]
  · simp [Event.answer?]

/-- A receive has taken an item, which means nothing to the receiver. -/
theorem Tracks.took {flavor : Flavor α} {item : α} {rest : List α}
    (contents : flavor.toList = rest) (capacity : flavor.cap = channel.state.chan.flavor.cap)
    {turn : Turn α} (next : turn.next = (Mpsc.ideal channel).taken rest)
    (same : turn.signal.slot channel.state.chan.recvWaker = channel.state.chan.recvWaker)
    (silent : turn.signal.woken = fun _ => []) :
    Tracks turn channel ((queued ((restocked channel flavor).logged (.took item)) []).toldAll
      (wakings .senders (channel.state.chan.sendWakers.map Prod.snd))) := by
  refine ⟨?_, same.symm, ?_, ?_⟩
  · rw [next]
    simp [Mpsc.ideal, contents, capacity, Event.wokeSender?, Chan.contents,
      State.onChan, Ideal.taken, Ideal.wakeSenders]
  · simp [Event.wokeReceiver?, silent]
  · simp [Event.answer?]

/-- A turn after a silent one. -/
theorem Tracks.after {turn : Turn α} {result : Result α} {next : Ideal α} {middle after : Channel α}
    (first : Tracks ⟨result, .keeps, next⟩ channel middle) (later : Tracks turn middle after) :
    Tracks turn channel after := by
  have slot : middle.state.chan.recvWaker = channel.state.chan.recvWaker := first.slot
  have woken : wokeReceivers middle.log = wokeReceivers channel.log :=
    first.woken.trans (List.append_nil _)
  refine ⟨later.ideal, ?_, ?_, later.answers.trans first.answers⟩
  · rw [later.slot, slot]
  · rw [later.woken, woken, slot]

/-- A silent turn after another one. -/
theorem Tracks.before {signal : Signal} {result result' : Result α} {next next' : Ideal α}
    {middle after : Channel α} (first : Tracks ⟨result, signal, next⟩ channel middle)
    (later : Tracks ⟨result', .keeps, next'⟩ middle after) :
    Tracks ⟨result, signal, next'⟩ channel after := by
  refine ⟨later.ideal, later.slot.trans first.slot, ?_, later.answers.trans first.answers⟩
  rw [later.woken, first.woken]
  exact List.append_nil _

/-- What the ideal channel does not see may follow a step. -/
theorem Tracks.resting {turn : Turn α} {result : Result α} {middle after : Channel α}
    (first : Tracks turn channel middle)
    (later : Tracks ⟨result, .keeps, Mpsc.ideal middle⟩ middle after) :
    Tracks turn channel after := by
  rw [first.ideal] at later
  exact first.before later

/-- The ideal channel is full when the channel is. -/
theorem isFull_eq : channel.state.chan.flavor.isFull = (ideal channel).isFull := by
  rw [Bool.eq_iff_iff, Flavor.isFull_iff]
  simp [ideal, Ideal.isFull, Chan.contents]

/-- The ideal channel rejects sends when the channel does. -/
theorem rejecting_eq : channel.state.chan.rejecting = (ideal channel).rejecting := by
  simp only [ideal, Ideal.rejecting, Chan.rejecting]
  cases channel.state.chan.receiverAlive with
  | true => rfl
  | false => rfl

/-- Terminal is to have lost the receiver, or to be disconnected. -/
theorem Chan.terminal_eq {chan : Chan α} :
    chan.terminal = (!chan.receiverAlive || chan.disconnected) := Bool.or_assoc ..

section Functions

variable (clear : channel.held = [])
include clear

/-- A send that does not wait answers as on the ideal channel. -/
theorem trySend_refines (item : α) :
    Refines limit ((ideal channel).trySend item) .trySend (Sender.trySend item) channel := by
  simp only [Refines, Sender.trySend, Prog.wp_bind, wp_getChan, Prog.wp_ite, rejecting_eq,
    Ideal.trySend]
  cases (ideal channel).rejecting with
  | true => exact ⟨.refl channel _, rfl⟩
  | false =>
      refine wp_tryPush clear (fun full => ?_) fun pushed room contents capacity => ?_
      · rw [isFull_eq] at full
        simp only [full]
        exact ⟨.refl channel _, rfl⟩
      · rw [isFull_eq] at room
        simp only [room, Prog.wp_bind]
        rw [wp_wakeReceiver_inert (by exact clear)]
        refine ⟨⟨?_, rfl, ?_, ?_⟩, rfl⟩
        · simp [ideal, contents, capacity, Event.wokeSender?, Chan.contents, State.onChan]
        · simp [Event.wokeReceiver?, Signal.woken]
        · simp [Event.answer?]

/-- A receive that does not wait answers as on the ideal channel. -/
theorem tryRecv_refines :
    Refines limit (ideal channel).tryRecv .tryRecv Receiver.tryRecv channel := by
  rw [Refines, Receiver.tryRecv, Prog.wp_bind]
  refine wp_take_inert clear (fun flavor empty contents capacity => ?_)
    fun item rest flavor stocked contents capacity => ?_
  · have none : (ideal channel).items = [] := empty
    have same : ((restocked channel flavor).logged (.missed [])).state.chan.disconnected =
      (ideal channel).disconnected := rfl
    simp only [Ideal.tryRecv, none, Prog.wp_bind, wp_getChan, Prog.wp_ite, same]
    cases (ideal channel).disconnected with
    | true => exact ⟨.missed empty contents capacity _, rfl⟩
    | false => exact ⟨.missed empty contents capacity _, rfl⟩
  · have some : (ideal channel).items = item :: rest := stocked
    simp only [Ideal.tryRecv, some]
    exact ⟨.took contents capacity rfl rfl rfl, rfl⟩

/-- An iterator that does not wait answers as on the ideal channel. -/
theorem tryIterNext_refines :
    Refines limit (ideal channel).tryIterNext .next Receiver.tryIterNext channel := by
  rw [Refines, Receiver.tryIterNext, Prog.wp_bind]
  refine Prog.wp_mono (tryRecv_refines clear) ?_ fun _ _ => id
  rintro result after ⟨tracks, answers⟩
  simp only [Ideal.tryRecv, Ideal.tryIterNext] at tracks answers ⊢
  cases items : (ideal channel).items with
  | nil =>
      simp only [items] at tracks answers ⊢
      cases result with
      | error error => exact ⟨{ tracks with }, rfl⟩
      | ok item => cases answers
  | cons item rest =>
      simp only [items] at tracks answers ⊢
      cases answers
      exact ⟨{ tracks with }, rfl⟩

/-- The receiver gives up its registration, if it has one. -/
theorem clearRecvWaker_tracks (result : Result α) :
    Refines limit ⟨result, .forgets, ideal channel⟩ (fun _ => result) clearRecvWaker channel := by
  rw [Refines, wp_clearRecvWaker_inert clear]
  refine ⟨⟨?_, rfl, ?_, ?_⟩, rfl⟩
  · simp [ideal, State.onChan, Chan.contents]
  · simp [Signal.woken]
  · simp

/-- A poll of the receiver, which is registered only while there is nothing to receive. -/
theorem pollRecv_refines (alive : channel.state.chan.receiverAlive = true)
    (idle : channel.state.chan.recvWaker ≠ none → channel.state.chan.contents = [])
    (waker : Waker) :
    Refines limit ((ideal channel).pollNext waker) .recv (Receiver.pollRecv waker) channel := by
  rw [Refines, Receiver.pollRecv, Prog.wp_bind]
  refine wp_take_inert clear (fun flavor empty contents capacity => ?_)
    fun item rest flavor stocked contents capacity => ?_
  · have none : (ideal channel).items = [] := empty
    have missed : Tracks ⟨.unit, .keeps, ideal channel⟩ channel _ :=
      .missed empty contents capacity .unit
    simp only [Ideal.pollNext, none, Prog.wp_bind, wp_getChan, Prog.wp_ite]
    cases isOver : channel.state.chan.disconnected with
    | true =>
        have same : ((restocked channel flavor).logged (.missed [])).state.chan.disconnected =
          true := isOver
        have same' : (ideal channel).disconnected = true := isOver
        simp only [same, same', if_true]
        refine Prog.wp_mono (clearRecvWaker_tracks (by exact clear) (.recv (.ready .none))) ?_
          fun _ _ => id
        rintro _ after ⟨cleared, -⟩
        rw [missed.ideal] at cleared
        exact ⟨missed.after cleared, rfl⟩
    | false =>
        have same : ((restocked channel flavor).logged (.missed [])).state.chan.disconnected =
          false := isOver
        have same' : (ideal channel).disconnected = false := isOver
        have running : ((restocked channel flavor).logged (.missed [])).state.chan.terminal =
            false := by
          rw [Chan.terminal_eq, same]
          simp [alive]
        simp only [same, same', Bool.false_eq_true, if_false]
        rw [wp_registerRecvWaker_inert (by exact clear) running]
        refine wp_take_inert (by exact clear) (fun flavor' empty' contents' capacity' => ?_)
          fun item rest flavor' stocked' => ?_
        · have registers : Tracks ⟨.recv .pending, .registers waker, ideal channel⟩
              ((restocked channel flavor).logged (.missed []))
              ((slotted (((restocked channel flavor).logged (.missed [])).logged
                (.called (.clone waker))) (some waker)).toldAll
                (disposals channel.state.chan.recvWaker.toList)) := by
            refine ⟨?_, rfl, ?_, ?_⟩
            · rw [← missed.ideal]
              simp [ideal, State.onChan, Chan.contents, Event.wokeSender?]
            · simp [Signal.woken, Event.wokeReceiver?]
            · simp [Event.answer?]
          simp only [Prog.wp_bind, wp_getChan, Prog.wp_ite]
          split
          · rename_i shut
            cases isOver.symm.trans shut
          · have missed' := Tracks.missed empty' contents' capacity' (.unit : Result α)
            exact ⟨(missed.after registers).resting missed', rfl⟩
        · cases contents.symm.trans stocked'
  · have some : (ideal channel).items = item :: rest := stocked
    have vacant : channel.state.chan.recvWaker = none := by
      by_contra registered
      cases stocked.symm.trans (idle registered)
    simp only [Ideal.pollNext, some]
    exact ⟨.took contents capacity rfl vacant.symm rfl, rfl⟩

section Send

variable {future : Nat} {this : Send α} (found : channel.state.sends future = some this)
  (unanswered : this.outcome = none)
include found unanswered

/-- A poll of a send that finds the channel closed answers as on the ideal channel. -/
theorem failed_refines (item : α) :
    (SendFuture.effects future false this.wakerId).wp (.inert limit) (fun value after =>
        Tracks ⟨.send (.ready (.error ⟨item⟩)), .keeps, (ideal channel).settle future this⟩ channel
          after ∧ Result.send value = (.send (.ready (.error ⟨item⟩)) : Result α))
      (fun _ _ => False) (settled channel future (.error ⟨item⟩)) := by
  rw [wp_effects_inert (by exact clear) (State.sends_updateSend found) rfl]
  refine ⟨⟨?_, rfl, ?_, ?_⟩, rfl⟩
  · simp [ideal, Ideal.settle, Event.wokeSender?, Chan.contents, State.onChan,
      State.updateSend, found, settle, unanswered, removed]
  · simp [Event.wokeReceiver?, Signal.woken, removed]
  · simp [Event.answer?, removed]

/-- A poll of a send that finds room answers as on the ideal channel. -/
theorem pushed_refines {flavor : Flavor α} {item : α}
    (contents : flavor.toList = channel.state.chan.flavor.toList ++ [item])
    (capacity : flavor.cap = channel.state.chan.flavor.cap) :
    (SendFuture.effects future true this.wakerId).wp (.inert limit) (fun value after =>
        Tracks ⟨.send (.ready (.ok ())), .wakes,
          { ideal channel with items := (ideal channel).items ++ [item] }.settle
            future this⟩ channel
          after ∧ Result.send value = (.send (.ready (.ok ())) : Result α))
      (fun _ _ => False) (settled (pushed channel flavor (some future) item) future (.ok ())) := by
  rw [wp_effects_inert (by exact clear) (State.sends_updateSend found) rfl]
  refine ⟨⟨?_, rfl, ?_, ?_⟩, rfl⟩
  · simp [ideal, Ideal.settle, Event.wokeSender?, Chan.contents, State.onChan,
      State.updateSend, found, settle, unanswered, removed, contents, capacity]
  · simp [Event.wokeReceiver?, Signal.woken, removed, State.onChan, State.updateSend]
  · simp [Event.answer?, removed]

omit unanswered in
/-- A future that finds the queue full is registered anew. -/
theorem park_refines (waker : Waker) (accepts : channel.state.chan.rejecting = false)
    (full : channel.state.chan.flavor.isFull = true) {item : α} (message : this.item = some item) :
    (do
      removeSend (← takeWakerId future)
      let id ← addSendWaker waker
      setWakerId future id
      SendFuture.attemptPush future (return .pending) :
        M α (Poll (Except (SendError α) Unit))).wp (.inert limit) (fun value after =>
        Tracks ⟨.send .pending, .keeps, (ideal channel).park future this waker⟩ channel after ∧
          Result.send value = (.send .pending : Result α))
      (fun _ _ => False) channel := by
  simp only [Prog.wp_bind, wp_takeWakerId, found, Option.bind_some]
  rw [wp_removeSend_inert (by exact clear), wp_addSendWaker_inert (by exact clear)]
  simp only [wp_setWakerId]
  have held : ({ this with wakerId := some channel.state.chan.nextSendId } : Send α).item =
      some item :=
    message
  refine wp_attemptPush (by exact clear) ?_ held ?_ ?_ ?_
  · simp [State.setWakerId, State.updateSend, State.onChan, found]
  · intro rejects
    cases accepts.symm.trans rejects
  · intro _ _ room
    cases full.symm.trans room
  · rintro - -
    refine ⟨⟨?_, rfl, ?_, ?_⟩, rfl⟩
    · simp [ideal, Ideal.park, Event.wokeSender?, Chan.contents, State.onChan, State.setWakerId,
        State.updateSend, found]
    · simp [Event.wokeReceiver?, Signal.woken]
    · simp [Event.answer?]

/-- A poll of a send future. -/
theorem pollSend_refines (unsent : this.done = false → this.item.isSome = true) (waker : Waker) :
    Refines limit ((ideal channel).pollSend future waker) .send (SendFuture.poll future waker)
      channel := by
  have same : (ideal channel).sends future = some this := found
  simp only [Refines, SendFuture.poll, Prog.wp_bind, wp_getState, found, unanswered, Prog.wp_ite,
    Ideal.pollSend, same]
  cases running : this.done with
  | true => exact ⟨.refl channel _, rfl⟩
  | false =>
      obtain ⟨item, message⟩ := Option.isSome_iff_exists.mp (unsent running)
      simp only [message, Bool.false_eq_true, if_false]
      refine wp_attemptPush clear found message ?_ ?_ ?_
      · intro rejects
        have rejects' : (ideal channel).rejecting = true := rejecting_eq.symm.trans rejects
        simp only [rejects', if_true]
        exact failed_refines clear found unanswered item
      · intro flavor accepts room contents capacity
        have accepts' : (ideal channel).rejecting = false := rejecting_eq.symm.trans accepts
        simp only [accepts', isFull_eq ▸ room, Bool.false_eq_true, if_false]
        exact pushed_refines clear found unanswered contents capacity
      · intro accepts full
        have accepts' : (ideal channel).rejecting = false := rejecting_eq.symm.trans accepts
        simp only [accepts', isFull_eq ▸ full, Bool.false_eq_true, if_false, if_true]
        exact park_refines clear found waker accepts full message

end Send

/-- A poll of a receive future, which completes once there is an answer. -/
theorem pollRecvFuture_refines (alive : channel.state.chan.receiverAlive = true)
    (idle : channel.state.chan.recvWaker ≠ none → channel.state.chan.contents = []) {future : Nat}
    {this : Recv} (found : channel.state.recvs future = some this) (waker : Waker) :
    Refines limit ((ideal channel).pollRecv future waker) .recv (RecvFuture.poll future waker)
      channel := by
  simp only [Refines, RecvFuture.poll, Prog.wp_bind, wp_getState, found, Ideal.pollRecv]
  refine Prog.wp_mono (pollRecv_refines clear alive idle waker) ?_ fun _ _ => id
  rintro polled after ⟨tracks, answers⟩
  rw [← answers]
  cases polled with
  | pending => exact ⟨tracks, answers⟩
  | ready item =>
      refine ⟨⟨?_, tracks.slot, tracks.woken, tracks.answers⟩, rfl⟩
      rw [← tracks.ideal]
      simp only [ideal, Ideal.complete, World.onState, State.updateRecv]
      congr 1
      funext key
      by_cases same : key = future
      · subst same
        simp [Function.comp_def]
      · simp [same]

/-- Closing an open channel wakes both halves. -/
theorem close_refines (isOpen : channel.state.chan.closed = false) :
    Refines limit (ideal channel).close (fun _ => .bool true) close channel := by
  simp only [Refines, close, Prog.wp_bind, wp_getChan, wp_modifyChan, isOpen, Prog.wp_ite,
    Bool.false_eq_true, if_false, wp_emit, Prog.wp_attempt]
  rw [wp_wakeReceiver_inert (by exact clear), wp_wakeSenders_inert (by exact clear)]
  refine ⟨⟨?_, rfl, ?_, ?_⟩, rfl⟩
  · simp [ideal, Ideal.close, Ideal.wakeSenders, Event.wokeSender?, Chan.contents, State.onChan]
  · simp [Event.wokeReceiver?, Signal.woken, State.onChan, Ideal.close]
  · simp [Event.answer?]

/-- Closing from a sender answers as on the ideal channel. -/
theorem closeSender_refines :
    Refines limit (if (ideal channel).rejecting then ⟨.bool false, .keeps, ideal channel⟩
      else (ideal channel).close) .bool Sender.close channel := by
  simp only [Refines, Sender.close, Sender.isClosed, Prog.wp_bind, wp_getChan,
    Prog.wp_ite, rejecting_eq, Prog.wp_pure]
  cases shut : (ideal channel).rejecting with
  | true => exact ⟨.refl channel _, rfl⟩
  | false =>
      refine close_refines clear ?_
      rw [Ideal.rejecting, Bool.or_eq_false_iff] at shut
      exact shut.2

/-- Closing from the receiver answers as on the ideal channel. -/
theorem closeReceiver_refines :
    Refines limit (if (ideal channel).disconnected then ⟨.bool false, .keeps, ideal channel⟩
      else (ideal channel).close) .bool Receiver.close channel := by
  have ends : channel.state.chan.disconnected = (ideal channel).disconnected := rfl
  simp only [Refines, Receiver.close, Receiver.isClosed, Prog.wp_bind, wp_getChan,
    Prog.wp_ite, ends, Prog.wp_pure]
  cases shut : (ideal channel).disconnected with
  | true => exact ⟨.refl channel _, rfl⟩
  | false =>
      refine close_refines clear ?_
      rw [Ideal.disconnected, Bool.or_eq_false_iff] at shut
      exact shut.2

/-! ### Handles and futures -/

omit clear in
/-- A clone of a sender is one of the ideal channel. -/
theorem cloneSender_refines (sender : Nat) :
    Refines limit ((ideal channel).step (.cloneSender sender)) .handle Sender.clone channel := by
  simp only [Refines, Sender.clone, freshId, Prog.wp_bind, wp_modifyChan, wp_getState,
    wp_modifyState, Prog.wp_pure]
  exact ⟨⟨rfl, rfl, (List.append_nil _).symm, rfl⟩, rfl⟩

omit clear in
/-- A share in the channel is released, and the channel freed with the last one. -/
theorem releaseChan_refines :
    Refines limit ⟨.unit, .keeps, { ideal channel with strong := (ideal channel).strong - 1 }⟩
      (fun _ => .unit) releaseChan channel := by
  have silent : ∀ {β : Type} {project : Event (Op α) (Result α) α → Option β},
      (∀ held, project (.freed held) = none) → (∀ item, project (.called (.dropItem item)) = none) →
      (∀ waker, project (.called (.dropWaker waker)) = none) →
      (if channel.state.strong - 1 = 0 then freeing channel.state.chan else []).filterMap project =
        [] := by
    intro _ project freed item waker
    split
    · simp [freeing, disposals, freed, item, waker, Function.comp_def]
    · rfl
  rw [Refines, wp_releaseChan_inert]
  refine ⟨⟨?_, rfl, ?_, ?_⟩, rfl⟩
  · simp only [ideal, wokeSenders_toldAll]
    rw [silent (fun _ => rfl) (fun _ => rfl) fun _ => rfl, List.append_nil]
    rfl
  · rw [wokeReceivers_toldAll, silent (fun _ => rfl) (fun _ => rfl) fun _ => rfl]
    rfl
  · rw [answers_toldAll, silent (fun _ => rfl) (fun _ => rfl) fun _ => rfl, List.append_nil]
    rfl

omit clear in
/-- A share is released at the end of a turn. -/
theorem releaseChan_tracks {turn : Turn α} {middle : Channel α} (signal : Signal) (next : Ideal α)
    (same : turn = ⟨.unit, signal, { next with strong := next.strong - 1 }⟩)
    (first : Tracks ⟨.unit, signal, next⟩ channel middle) :
    (releaseChan : M α Unit).wp (.inert limit)
      (fun _ after => Tracks turn channel after ∧ id (.unit : Result α) = turn.result)
      (fun _ _ => False) middle := by
  subst same
  refine Prog.wp_mono releaseChan_refines ?_ fun _ _ => id
  rintro _ after ⟨later, -⟩
  rw [first.ideal] at later
  exact ⟨first.before later, rfl⟩

/-- The drop of a sender is that of the ideal channel. -/
theorem dropSender_refines (sender : Nat) :
    Refines limit ((ideal channel).step (.dropSender sender)) id (body (.dropSender sender))
      channel := by
  simp only [Refines, body, Prog.wp_bind, wp_modifyState, Prog.wp_ensuring, Sender.drop, wp_getChan,
    wp_modifyChan, Prog.wp_ite, Prog.wp_pure, Ideal.step]
  have same : (ideal channel).senderCount = channel.state.chan.senders := rfl
  cases last : channel.state.chan.senders == 1 with
  | true =>
      simp only [World.onState_state, same, last, if_true]
      rw [wp_wakeReceiver_inert (by exact clear)]
      refine releaseChan_tracks .wakes { ideal channel with
        senderCount := (ideal channel).senderCount - 1
        senders := (ideal channel).senders.erase sender } rfl ⟨?_, rfl, ?_, ?_⟩
      · simp [ideal, Chan.contents, State.onChan]
      · simp [Signal.woken, State.onChan]
      · simp
  | false =>
      simp only [World.onState_state, same, last, Bool.false_eq_true, if_false]
      exact releaseChan_tracks .keeps { ideal channel with
        senderCount := (ideal channel).senderCount - 1
        senders := (ideal channel).senders.erase sender } rfl
          ⟨rfl, rfl, (List.append_nil _).symm, rfl⟩

omit clear in
/-- A new send future is one of the ideal channel. -/
theorem send_refines (sender : Nat) (item : α) :
    Refines limit ((ideal channel).step (.send sender item)) id
      (body (.send sender item)) channel := by
  simp only [Refines, body, freshId, Prog.wp_bind, wp_getState, wp_modifyState, Prog.wp_pure]
  exact ⟨⟨rfl, rfl, (List.append_nil _).symm, rfl⟩, rfl⟩

omit clear in
/-- A new receive future is one of the ideal channel. -/
theorem recv_refines (receiver : Nat) :
    Refines limit ((ideal channel).step (.recv receiver)) id (body (.recv receiver)) channel := by
  simp only [Refines, body, freshId, Prog.wp_bind, wp_getState, wp_modifyState, Prog.wp_pure]
  refine ⟨⟨?_, rfl, (List.append_nil _).symm, rfl⟩, rfl⟩
  simp only [ideal, Ideal.step, World.onState]
  congr 1
  funext key
  by_cases same : key = channel.state.fresh
  · subst same
    simp
  · simp [same]

/-- The drop of a send future is that of the ideal channel. -/
theorem dropSend_refines {future : Nat} {this : Send α}
    (found : channel.state.sends future = some this) :
    Refines limit ((ideal channel).step (.dropSend future)) id
      (body (.dropSend future)) channel := by
  have same : (ideal channel).sends future = some this := found
  simp only [Refines, body, Prog.wp_bind, wp_getState, found, wp_modifyState, wp_holding,
    SendFuture.drop, dropGlue, Prog.wp_ensuring, Prog.wp_pure, Ideal.step, Ideal.dropSend, same]
  rw [wp_removeSend_inert (by exact clear)]
  simp only [wp_dropItems_inert]
  refine ⟨⟨?_, rfl, ?_, ?_⟩, rfl⟩
  · simp [ideal, Chan.contents, State.onChan, Event.wokeSender?, Function.comp_def]
  · simp [Event.wokeReceiver?, Signal.woken, Function.comp_def]
  · simp [Event.answer?, Function.comp_def]

/-- The drop of a receive future is that of the ideal channel. -/
theorem dropRecv_refines {future : Nat} {this : Recv}
    (found : channel.state.recvs future = some this) :
    Refines limit ((ideal channel).step (.dropRecv future)) id
      (body (.dropRecv future)) channel := by
  have same : (ideal channel).recvs future =
      some (this.receiver, this.done) := by simp [ideal, found]
  have removed : (fun key => (Function.update channel.state.recvs future none key).map
      fun this => (this.receiver, this.done)) =
      Function.update (ideal channel).recvs future none := by
    funext key
    by_cases same : key = future
    · subst same
      simp
    · simp [same, ideal]
  simp only [Refines, body, Prog.wp_bind, wp_getState, found, wp_modifyState, wp_holding,
    RecvFuture.drop, Prog.wp_ite, Prog.wp_pure, Ideal.step, Ideal.dropRecv, same, Option.any_some]
  cases this.done with
  | true =>
      refine ⟨⟨?_, rfl, (List.append_nil _).symm, rfl⟩, rfl⟩
      simp only [← removed]
      rfl
  | false =>
      simp only [Bool.false_eq_true, if_false]
      rw [wp_clearRecvWaker_inert (by exact clear)]
      refine ⟨⟨?_, rfl, ?_, ?_⟩, rfl⟩
      · simp only [← removed]
        simp [ideal, State.onChan, Chan.contents]
      · simp [Signal.woken]
      · simp

/-- The drop of the receiver is that of the ideal channel, given callbacks enough for every item. -/
theorem dropReceiver_refines {receiver : Nat} (owned : channel.state.receiver = some receiver)
    (alive : channel.state.chan.receiverAlive = true)
    (enough : channel.state.chan.contents.length < limit) :
    Refines limit ((ideal channel).step (.dropReceiver receiver)) id (body (.dropReceiver receiver))
      channel := by
  simp only [Refines, body, Prog.wp_bind, wp_modifyState, Prog.wp_ensuring,
    Receiver.drop, wp_getChan, wp_modifyChan, wp_emit, Prog.wp_pure]
  rw [wp_wakeSenders_inert (by exact clear), wp_clearRecvWaker_inert (by exact clear)]
  refine wp_drain_inert (by exact clear) enough fun flavor empty capacity => ?_
  have kept : flavor.cap = channel.state.chan.flavor.cap := capacity
  have last : (ideal channel).receiverCount = 1 := by simp [ideal, alive]
  have only : (ideal channel).receivers.erase receiver = [] := by simp [ideal, owned]
  refine releaseChan_tracks .forgets
    { ideal channel with items := [], receiverCount := 0, receivers := [] }.wakeSenders
    (by simp [Ideal.step, Ideal.dropReceiver, Ideal.wakeSenders, last, only]) ⟨?_, rfl, ?_, ?_⟩
  · simp [ideal, Ideal.wakeSenders, Chan.contents, State.onChan, Event.wokeSender?, empty, kept]
  · simp [Event.wokeReceiver?, Signal.woken]
  · simp [Event.answer?]

end Functions

/-! ### Every operation -/

/-- A channel on which no operation is in progress and none has unwound. -/
structure AtRest (channel : Channel α) : Prop where
  held : channel.held = []
  alive : channel.state.chan.receiverAlive = channel.state.receiver.isSome
  recv : ∀ future this, channel.state.recvs future = some this →
    channel.state.receiver = some this.receiver
  unsent : ∀ future this, channel.state.sends future = some this → this.done = false →
    this.item.isSome = true
  unanswered : (ideal channel).Settled
  idle : channel.state.chan.recvWaker ≠ none → channel.state.chan.contents = []

/-- What the invariant says of an undisturbed channel is what a refinement starts from. -/
theorem Inv.atRest {manners : Manners} (inv : Inv manners channel)
    (unanswered : (ideal channel).Settled)
    (idle : channel.state.chan.recvWaker ≠ none → channel.state.chan.contents = []) :
    AtRest channel where
  held := inv.held
  alive := inv.handles.receiver
  recv future this found := (inv.handles.recv future this found).1
  unsent future this found running := (inv.futures.unsent future this found running).1
  unanswered := unanswered
  idle := idle

/-- Every operation but `is_terminated` refines that of the ideal channel. -/
theorem body_refines (rests : AtRest channel) {op : Op α} (legal : channel.state.Legal op)
    (enough : channel.state.chan.contents.length < limit) :
    (body op).wp (.inert limit)
    (fun result after => Tracks ((ideal channel).step op) channel after ∧
        (op.isShared = true → result = ((ideal channel).step op).result))
      (fun _ _ => False) channel := by
  have clear := rests.held
  have answers : ∀ {turn : Turn α} {prog : M α (Result α)}, Refines limit turn id prog channel →
      prog.wp (.inert limit) (fun result after => Tracks turn channel after ∧
        (op.isShared = true → result = turn.result)) (fun _ _ => False) channel := by
    intro turn prog refines
    refine Prog.wp_mono refines ?_ fun _ _ => id
    rintro result after ⟨tracks, answer⟩
    exact ⟨tracks, fun _ => answer⟩
  have alive : ∀ {receiver}, channel.state.receiver = some receiver →
      channel.state.chan.receiverAlive = true := by
    intro receiver owned
    rw [rests.alive, owned]
    rfl
  cases op with
  | trySend sender item => exact answers (trySend_refines (by exact clear) item).holding.body
  | cloneSender sender => exact answers (cloneSender_refines sender).body
  | dropSender sender => exact answers (dropSender_refines clear sender)
  | closeSender sender => exact answers (closeSender_refines (by exact clear)).holding.body
  | senderCapacity sender =>
      simp only [body, Prog.wp_bind]
      rw [wp_cap clear]
      exact ⟨.refl channel _, fun _ => rfl⟩
  | senderLen sender | receiverLen receiver =>
      simp only [body, Prog.wp_bind]
      rw [wp_len clear]
      exact ⟨.refl channel _, fun _ => rfl⟩
  | senderIsEmpty sender | receiverIsEmpty receiver =>
      simp only [body, Prog.wp_bind]
      rw [wp_isEmpty clear]
      exact ⟨.refl channel _, fun _ => rfl⟩
  | senderIsFull sender =>
      simp only [body, Prog.wp_bind]
      rw [wp_isFull clear, isFull_eq]
      exact ⟨.refl channel _, fun _ => rfl⟩
  | senderIsClosed sender =>
      have closed : Result.bool channel.state.chan.rejecting =
          ((ideal channel).step (.senderIsClosed sender)).result := by
        rw [rejecting_eq]
        rfl
      exact ⟨.refl channel _, fun _ => closed⟩
  | receiverIsClosed receiver => exact ⟨.refl channel _, fun _ => rfl⟩
  | send sender item => exact answers (send_refines sender item)
  | pollSend future waker =>
      obtain ⟨this, found⟩ := Option.isSome_iff_exists.mp legal.1
      exact answers (Refines.holding (pollSend_refines (by exact clear) (by exact found)
        (rests.unanswered future this found) (rests.unsent future this found) waker)).body
  | sendIsTerminated future =>
      obtain ⟨this, found⟩ := Option.isSome_iff_exists.mp legal.1
      simp only [body, SendFuture.isTerminated, Prog.wp_bind, wp_getState, found]
      exact ⟨.refl channel _, by rintro ⟨⟩⟩
  | dropSend future =>
      obtain ⟨this, found⟩ := Option.isSome_iff_exists.mp legal.1
      exact answers (dropSend_refines clear found)
  | tryRecv receiver => exact answers (tryRecv_refines (by exact clear)).holding.body
  | tryIterNext receiver => exact answers (tryIterNext_refines (by exact clear)).holding.body
  | pollNext receiver waker =>
      exact answers (Refines.holding (pollRecv_refines (by exact clear) (by exact alive legal.1)
        (by exact rests.idle) waker)).body
  | cloneReceiver receiver => exact legal.elim
  | dropReceiver receiver =>
    exact answers (dropReceiver_refines clear legal.1 (alive legal.1) enough)
  | closeReceiver receiver => exact answers (closeReceiver_refines (by exact clear)).holding.body
  | streamIsTerminated receiver =>
      simp only [body, Receiver.isTerminated, Prog.wp_bind, wp_getChan, Prog.wp_ite]
      split
      · rw [wp_isEmpty clear]
        exact ⟨.refl channel _, by rintro ⟨⟩⟩
      · exact ⟨.refl channel _, by rintro ⟨⟩⟩
  | recv receiver => exact answers (recv_refines receiver)
  | pollRecv future waker =>
      obtain ⟨this, found⟩ := Option.isSome_iff_exists.mp legal.1
      exact answers (Refines.holding (pollRecvFuture_refines (by exact clear)
        (by exact alive (rests.recv future this found)) (by exact rests.idle) (by exact found)
        waker)).body
  | recvIsTerminated future =>
      obtain ⟨this, found⟩ := Option.isSome_iff_exists.mp legal.1
      simp only [body, RecvFuture.isTerminated, Prog.wp_bind, wp_getState, found]
      exact ⟨.refl channel _, by rintro ⟨⟩⟩
  | dropRecv future =>
      obtain ⟨this, found⟩ := Option.isSome_iff_exists.mp legal.1
      exact answers (dropRecv_refines clear found)

/-- The channel has performed an operation, and its slot has followed the signal. -/
structure Performed (op : Op α) (before after : Channel α) : Prop where
  ideal : ideal after = ((ideal before).step op).next
  slot : after.state.chan.recvWaker =
    ((Mpsc.ideal before).step op).signal.slot before.state.chan.recvWaker
  woken : wokeReceivers after.log = wokeReceivers before.log ++
    ((Mpsc.ideal before).step op).signal.woken before.state.chan.recvWaker.toList
  answers : answers after.log = answers before.log ++ ((Mpsc.ideal before).step op).answers op

/-- Performed from rest, every legal operation is tracked by the ideal channel. -/
theorem perform_refines (rests : AtRest channel) {op : Op α} (legal : channel.state.Legal op)
    (enough : channel.state.chan.contents.length < limit) :
    (perform op).wp (.inert limit) (fun _ after => Performed op channel after) (fun _ _ => False)
      channel := by
  have began : ideal (channel.logged (.began op)) = ideal channel := by
    simp [ideal, Event.wokeSender?]
  have rests' : AtRest (channel.logged (.began op)) :=
    { rests with unanswered := began ▸ rests.unanswered }
  rw [wp_perform]
  refine Prog.wp_mono (body_refines rests' legal enough) ?_ fun _ _ => id
  rintro result after ⟨tracks, answer⟩
  rw [began] at tracks answer
  refine ⟨?_, tracks.slot, ?_, ?_⟩
  · rw [← tracks.ideal]
    simp [ideal, Event.wokeSender?]
  · simp [tracks.woken, Event.wokeReceiver?]
  · simp only [World.logged_log, answers_cons, tracks.answers, Turn.answers, Event.answer?]
    cases shared : op.isShared with
    | true => simp [answer shared]
    | false => simp

/-! ### Operations in turn -/

/-- What the borrow checker lets user code do to a channel whose receiver is borrowed exclusively,
it lets it do to the channel. -/
theorem legal_of_permitted (unused : channel.state.uses = []) {op : Op α}
    (permitted : (ideal channel).Permitted op) (exclusive : (ideal channel).Exclusive op) :
    channel.state.Legal op := by
  have free : ∀ ref, ref ∉ channel.state.uses := by
    rw [unused]
    rintro ref ⟨⟩
  have send : ∀ {future}, ((ideal channel).sends future).isSome → channel.state.SendOwned future :=
    fun live => ⟨live, free _⟩
  have recv : ∀ {future}, ((ideal channel).recvs future).isSome → channel.state.RecvOwned future :=
    fun live => ⟨by simpa [ideal] using live, free _⟩
  have owns : ∀ {receiver}, receiver ∈ (ideal channel).receivers →
      channel.state.receiver = some receiver :=
    fun live => by simpa [ideal] using live
  have idle : ∀ {receiver}, (ideal channel).Unborrowed receiver →
      channel.state.receiverBorrowed receiver = false := by
    intro receiver idle
    simp only [State.receiverBorrowed, List.any_eq_false, Option.any_eq_true, not_exists, not_and,
      beq_iff_eq]
    intro future _ this found
    exact idle future (this.receiver, this.done) (by simp [ideal, found])
  cases op with
  | dropSender sender =>
      refine ⟨permitted.1, free _, ?_⟩
      simp only [State.senderBorrowed, List.any_eq_false, Option.any_eq_true, not_exists, not_and,
        beq_iff_eq]
      exact fun future _ this found => permitted.2 future this found
  | pollSend future waker | sendIsTerminated future | dropSend future => exact send permitted
  | pollNext receiver waker | dropReceiver receiver =>
      exact ⟨owns permitted.1, free _, free _, idle permitted.2⟩
  | tryRecv receiver | tryIterNext receiver | recv receiver =>
      exact ⟨owns permitted, free _, free _, idle exclusive⟩
  | closeReceiver receiver | receiverLen receiver | receiverIsEmpty receiver
  | receiverIsClosed receiver | streamIsTerminated receiver =>
      exact ⟨owns permitted, free _, idle exclusive⟩
  | cloneReceiver receiver => exact exclusive.elim
  | pollRecv future waker =>
      obtain ⟨receiver, found⟩ := permitted
      exact recv (by rw [found]; rfl)
  | recvIsTerminated future | dropRecv future => exact recv permitted
  | _ => exact permitted

/-- No receive future is polled once it has completed. -/
def fused : Policy (Channel α) (Callback α) Panic (Op α) where
  call channel op := ∀ future waker, op = .pollRecv future waker → ∀ this,
    channel.state.recvs future = some this → this.done = false
  resume _ _ _ _ := True
  patience := 0

/-- What the ideal channel permits polls no completed receive. -/
theorem fused_of_permitted {op : Op α} (permitted : (ideal channel).Permitted op) :
    fused.call channel op := by
  rintro future waker rfl this found
  obtain ⟨receiver, pending⟩ := permitted
  simp only [ideal, found, Option.map_some, Option.some.injEq, Prod.mk.injEq] at pending
  exact pending.2

/-- What the borrow checker lets user code do to the channel is permitted, and exclusive, if no
receive future is polled once it has completed. -/
theorem permitted_of_legal {manners : Manners} (inv : Inv manners channel) {op : Op α}
    (legal : channel.state.Legal op) (allowed : fused.call channel op) :
    (ideal channel).Permitted op ∧ (ideal channel).Exclusive op := by
  have owned : ∀ {receiver}, channel.state.receiver = some receiver →
      receiver ∈ (ideal channel).receivers := by
    intro receiver owned
    simp [ideal, owned]
  have idle : ∀ {receiver}, channel.state.receiverBorrowed receiver = false →
      (ideal channel).Unborrowed receiver := by
    intro receiver unborrowed future this found
    obtain ⟨recv, present, rfl⟩ := Option.map_eq_some_iff.mp found
    simp only [State.receiverBorrowed, List.any_eq_false, Option.any_eq_true, not_exists, not_and,
      beq_iff_eq, List.mem_range] at unborrowed
    exact unborrowed future (inv.handles.recv future recv present).2 recv present
  cases op with
  | dropSender sender =>
      refine ⟨⟨legal.1, fun future this found => ?_⟩, trivial⟩
      have unborrowed := legal.2.2
      simp only [State.senderBorrowed, List.any_eq_false, Option.any_eq_true, not_exists, not_and,
        beq_iff_eq, List.mem_range] at unborrowed
      exact unborrowed future (inv.handles.send future this found).2 this found
  | pollSend future waker | sendIsTerminated future | dropSend future => exact ⟨legal.1, trivial⟩
  | pollNext receiver waker | dropReceiver receiver =>
      exact ⟨⟨owned legal.1, idle legal.2.2.2⟩, trivial⟩
  | tryRecv receiver | tryIterNext receiver | recv receiver =>
      exact ⟨owned legal.1, idle legal.2.2.2⟩
  | closeReceiver receiver | receiverLen receiver | receiverIsEmpty receiver
  | receiverIsClosed receiver | streamIsTerminated receiver =>
      exact ⟨owned legal.1, idle legal.2.2⟩
  | cloneReceiver receiver => exact legal.elim
  | pollRecv future waker =>
      obtain ⟨this, found⟩ := Option.isSome_iff_exists.mp legal.1
      refine ⟨⟨this.receiver, ?_⟩, trivial⟩
      simp [ideal, found, allowed future waker rfl this found]
  | recvIsTerminated future | dropRecv future =>
      exact ⟨by simpa [ideal, Ideal.Permitted] using legal.1, trivial⟩
  | _ => exact ⟨legal, trivial⟩

/-- What is kept while the channel serves operations, with some to come. -/
structure Serving (fresh : Channel α) (limit left : Nat) (channel : Channel α) : Prop where
  runs : Runs .any fresh (.user channel [])
  unanswered : (ideal channel).Settled
  idle : channel.state.chan.recvWaker ≠ none → channel.state.chan.contents = []
  enough : channel.state.chan.contents.length + left ≤ limit

/-- A new channel serves before its first operation. -/
theorem Serving.initial {fresh : Channel α} (new : New fresh) {left : Nat}
    (granted : left ≤ limit) :
    Serving fresh limit left fresh := by
  have empty : fresh.state.chan.contents = [] := by
    cases new with
    | bounded cap positive => exact Flavor.mkBounded_toList positive
    | unbounded => exact Flavor.mkUnbounded_toList
  refine ⟨.start, ?_, fun _ => empty, by simpa [empty] using granted⟩
  cases new with
  | bounded cap positive => rintro _ _ ⟨⟩
  | unbounded => rintro _ _ ⟨⟩

/-- A permitted operation is served, if it is exclusive. -/
theorem Serving.served {fresh : Channel α} (new : New fresh) {left : Nat} {op : Op α}
    (serving : Serving fresh limit (left + 1) channel) (permitted : (ideal channel).Permitted op)
    (exclusive : (ideal channel).Exclusive op) :
    ∃ after, System.Served (system α) fused limit op channel after ∧
      Serving fresh limit left after ∧ Performed op channel after := by
  have inv := serving.runs.inv new
  have legal := legal_of_permitted (serving.runs.unused new) permitted exclusive
  have enough : channel.state.chan.contents.length < limit :=
    Nat.lt_of_lt_of_le (Nat.lt_add_of_pos_right (Nat.succ_pos left)) serving.enough
  have performs : ∃ after, System.Served (system α) fused limit op channel after ∧
      Performed op channel after :=
    System.Served.of_wp legal (fused_of_permitted permitted)
      (perform_refines (inv.atRest serving.unanswered serving.idle) legal enough)
  obtain ⟨after, served, performed⟩ := performs
  have anyway : System.Served (system α) .any limit op channel after :=
    { served with allowed := trivial }
  have items : after.state.chan.contents = ((ideal channel).step op).next.items :=
    congrArg Ideal.items performed.ideal
  refine ⟨after, served, ⟨?_, ?_, ?_, ?_⟩, performed⟩
  · exact anyway.reachable (fun _ _ _ => trivial) (Nat.zero_le _) serving.runs
  · rw [performed.ideal]
    exact serving.unanswered.step
  · rw [performed.slot, items]
    exact Ideal.step_idle serving.idle
  · have grows : after.state.chan.contents.length ≤ channel.state.chan.contents.length + 1 :=
      items ▸ Ideal.step_length
    have enough := serving.enough
    omega

/-- What is served is permitted, and exclusive. -/
theorem Serving.follows {fresh : Channel α} (new : New fresh) {left : Nat} {op : Op α}
    {after : Channel α} (serving : Serving fresh limit (left + 1) channel)
    (served : System.Served (system α) fused limit op channel after) :
    (ideal channel).Permitted op ∧ (ideal channel).Exclusive op ∧ Serving fresh limit left after ∧
      Performed op channel after := by
  obtain ⟨permitted, exclusive⟩ :=
    permitted_of_legal (serving.runs.inv new) served.legal served.allowed
  obtain ⟨_, again, serving', performed⟩ := serving.served new permitted exclusive
  obtain rfl := again.leaves.symm.trans served.leaves
  exact ⟨permitted, exclusive, serving', performed⟩

/-- What is kept between the channel and an ideal one that serve the same operations. -/
structure Matches (fresh : Channel α) (limit left : Nat) (channel : Channel α)
    (world : World (Ideal α) (Op α) (Result α) α) : Prop where
  serving : Serving fresh limit left channel
  agrees : Ideal.Agrees (ideal channel) channel.log world

section Matches

variable {fresh : Channel α} (new : New fresh) (left : Nat) (op : Op α)
include new

/-- A new channel matches the ideal one. -/
theorem Matches.initial (granted : left ≤ limit) :
    Matches fresh limit left fresh ⟨ideal fresh, [], []⟩ := by
  refine ⟨.initial new granted, rfl, ?_⟩
  cases new with
  | bounded cap positive => rfl
  | unbounded => rfl

/-- The ideal channel serves what the channel serves. -/
theorem Matches.forward (before after : Channel α) (world : World (Ideal α) (Op α) (Result α) α)
    (related : Matches fresh limit (left + 1) before world)
    (served : System.Served (system α) fused limit op before after) :
    ∃ next, System.Served (Ideal.system α) Ideal.exclusive limit op world next ∧
      Matches fresh limit left after next := by
  obtain ⟨permitted, exclusive, serving, performed⟩ := related.serving.follows new served
  rw [related.agrees.state] at permitted exclusive
  obtain ⟨next, served'⟩ : ∃ next,
      System.Served (Ideal.system α) Ideal.exclusive limit op world next :=
    Ideal.serve limit permitted exclusive
  exact ⟨next, served', serving, related.agrees.step served' performed.ideal performed.answers⟩

/-- The channel serves what the ideal channel serves. -/
theorem Matches.backward (before after : World (Ideal α) (Op α) (Result α) α) (channel : Channel α)
    (related : Matches fresh limit (left + 1) channel before)
    (served : System.Served (Ideal.system α) Ideal.exclusive limit op before after) :
    ∃ next, System.Served (system α) fused limit op channel next ∧
      Matches fresh limit left next after := by
  have permitted : before.state.Permitted op := served.legal
  have exclusive : before.state.Exclusive op := served.allowed
  rw [← related.agrees.state] at permitted exclusive
  obtain ⟨next, served', serving, performed⟩ := related.serving.served new permitted exclusive
  exact ⟨next, served', serving, related.agrees.step served performed.ideal performed.answers⟩

end Matches

/-- As long as nothing that is called back does anything, an mpsc channel serves just what a queue
with parked senders serves whose receiver is borrowed exclusively, with the same answers and the
same parked senders woken, and every operation returns. -/
theorem serves_as_exclusive_ideal {fresh : Channel α} (new : New fresh) (count : Nat) :
    Ideal.Realizes (system α) fused Ideal.exclusive ideal fresh count := by
  constructor
  · intro ops channel granted serves
    obtain ⟨world, serves', related⟩ := serves.simulates (fun left => Matches fresh count left)
      (Matches.forward new) (.initial new _ granted)
    exact ⟨world, serves', related.agrees⟩
  · intro ops world granted serves
    obtain ⟨channel, serves', related⟩ := serves.simulates
      (fun left world channel => Matches fresh count left channel world)
      (Matches.backward new) (.initial new _ granted)
    exact ⟨channel, serves', related.agrees⟩
  · intro ops channel op granted serves legal allowed
    obtain ⟨_, -, related⟩ := serves.simulates (fun left => Matches fresh count (left + 1))
      (fun left => Matches.forward new (left + 1)) (.initial new _ granted)
    obtain ⟨permitted, exclusive⟩ :=
      permitted_of_legal (related.serving.runs.inv new) legal allowed
    obtain ⟨next, served, -⟩ := related.serving.served new permitted exclusive
    exact ⟨next, served⟩

/-- A channel of one slot turns the second item away. -/
theorem serves_as_exclusive_ideal_full : ∃ channel : Channel Nat,
    System.Serves (system Nat) fused 2 [.trySend 0 7, .trySend 0 8]
      (bounded 1 Nat.one_pos) channel ∧
      answers channel.log =
        [(.trySend 0 7, .trySend (.ok ())), (.trySend 0 8, .trySend (.error (.full 8)))] := by
  have serves : ∃ world, System.Serves (Ideal.system Nat) Ideal.exclusive 2
      [.trySend 0 7, .trySend 0 8] ⟨ideal (bounded 1 Nat.one_pos), [], []⟩ world ∧
      answers world.log =
        [(.trySend 0 7, .trySend (.ok ())), (.trySend 0 8, .trySend (.error (.full 8)))] :=
    ⟨_, .cons ⟨.head _, trivial, rfl, rfl⟩ (.cons ⟨.head _, trivial, rfl, rfl⟩ .nil), rfl⟩
  obtain ⟨world, serves, heard⟩ := serves
  obtain ⟨channel, serves', agrees⟩ :=
    (serves_as_exclusive_ideal (.bounded 1 Nat.one_pos) 2).backward (by decide) serves
  exact ⟨channel, serves', agrees.answers.trans heard⟩

end Lochan.Mpsc
