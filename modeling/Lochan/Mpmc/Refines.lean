import Lochan.Undisturbed
import Lochan.Mpmc.Parking

/-!
# An mpmc channel as a queue with parked senders

If nothing that is called back does anything, each operation of an mpmc channel does what it does to
a channel without the registrations of the receivers' tasks. Its redelivery slot stays empty, and
its registrations follow the signals.
-/

namespace Lochan.Mpmc

open Reentrant Queue

variable {α β : Type} {channel : Channel α} {limit : Nat}

/-- The channel without the registrations of its receivers. -/
def ideal (channel : Channel α) : Ideal α where
  cap := channel.state.chan.flavor.cap
  items := channel.state.chan.contents
  senderCount := channel.state.chan.senders
  receiverCount := channel.state.chan.receivers
  closed := channel.state.chan.closed
  parked := channel.state.chan.sendWakers
  nextId := channel.state.chan.nextSendId
  strong := channel.state.strong
  senders := channel.state.senders
  receivers := channel.state.receivers
  recvs := fun future => (channel.state.recvs future).map fun this => (this.receiver, this.done)
  sends := channel.state.sends
  fresh := channel.state.fresh
  woken := wokeSenders channel.log

/-- The wakers of the receivers' tasks that are registered. -/
def waiters (channel : Channel α) : List Waker := channel.state.chan.recvWakers.map Prod.snd

/-- No receive future that has completed is registered. -/
def Tidy (state : State α) : Prop :=
  ∀ future this, state.recvs future = some this → this.done = true → this.wakerId = none

section Parts

variable {exc : Panic → Channel α → Prop}

/-- An empty registry set to be empty stays as it is. -/
theorem listed_nil {side : Side} (empty : channel.state.wakers side = []) :
    listed channel side [] = channel := by
  obtain ⟨⟨chan, strong, senders, receivers, stream, recvs, sends, fresh, uses⟩,
    held, log⟩ := channel
  obtain ⟨flavor, redelivery, count, alive, closed, receiving, next, sending, next'⟩ := chan
  cases side with
  | receivers =>
      obtain rfl : receiving = [] := empty
      rfl
  | senders =>
      obtain rfl : sending = [] := empty
      rfl

/-- Where callbacks do nothing, all parked receivers are woken in their order. -/
theorem wp_wakeReceivers_inert {post : Unit → Channel α → Prop} (clear : channel.held = []) :
    (wakeReceivers : M α Unit).wp (.inert limit) post exc channel =
      post () ((listed channel .receivers []).toldAll (wakings .receivers (waiters channel))) := by
  obtain ⟨state, held, log⟩ := channel
  subst clear
  by_cases empty : state.chan.recvWakers = []
  · simp [wakeReceivers, wp_borrowing, empty]
    rw [listed_nil (by exact empty), waiters, empty]
    rfl
  · simp [wakeReceivers, wp_borrowing, empty]
    rfl

/-- Where callbacks do nothing, all parked senders are woken in their order. -/
theorem wp_wakeSenders_inert {post : Unit → Channel α → Prop} (clear : channel.held = []) :
    (wakeSenders : M α Unit).wp (.inert limit) post exc channel =
      post () ((listed channel .senders []).toldAll
        (wakings .senders (channel.state.chan.sendWakers.map Prod.snd))) := by
  obtain ⟨state, held, log⟩ := channel
  subst clear
  by_cases empty : state.chan.sendWakers = []
  · simp [wakeSenders, wp_borrowing, empty]
    rw [listed_nil (by exact empty)]
    rfl
  · simp [wakeSenders, wp_borrowing, empty]
    rfl

/-- Where callbacks do nothing, an id and its waker leave the registry of the senders. -/
theorem wp_removeSend_inert {post : Unit → Channel α → Prop} (clear : channel.held = [])
    (id : Option UInt64) :
    (removeSend id : M α Unit).wp (.inert limit) post exc channel =
      post () ((listed channel .senders (withdrawn channel.state.chan.sendWakers id)).toldAll
        (disposals (dismissed channel.state.chan.sendWakers id))) := by
  obtain ⟨state, held, log⟩ := channel
  subst clear
  cases id with
  | none => rfl
  | some id =>
      simp only [removeSend, removeSendWaker, withdrawn, dismissed]
      cases found : removeById state.chan.sendWakers id with
      | mk removed rest =>
          cases removed with
          | none =>
            simp [wp_borrowing, found, disposals, World.toldAll, World.onState, Chan.setWakers]
          | some entry =>
              simp [wp_borrowing, found, disposals, World.toldAll, World.onState, World.logged,
                Chan.setWakers]

/-- Where callbacks do nothing, an id and its waker leave the registry of the receivers. -/
theorem wp_removeRecv_inert {post : Unit → Channel α → Prop} (clear : channel.held = [])
    (id : Option UInt64) :
    (removeRecv id : M α Unit).wp (.inert limit) post exc channel =
      post () ((listed channel .receivers (withdrawn channel.state.chan.recvWakers id)).toldAll
        (disposals (dismissed channel.state.chan.recvWakers id))) := by
  obtain ⟨state, held, log⟩ := channel
  subst clear
  cases id with
  | none => rfl
  | some id =>
      simp only [removeRecv, removeRecvWaker, withdrawn, dismissed]
      cases found : removeById state.chan.recvWakers id with
      | mk removed rest =>
          cases removed with
          | none =>
            simp [wp_borrowing, found, disposals, World.toldAll, World.onState, Chan.setWakers]
          | some entry =>
              simp [wp_borrowing, found, disposals, World.toldAll, World.onState, World.logged,
                Chan.setWakers]

/-- The channel once a task has been registered under a new id. -/
def enlisted (channel : Channel α) (side : Side) (waker : Waker) : Channel α :=
  channel.onState (·.onChan fun chan => match side with
    | .receivers =>
      { chan with
        recvWakers := chan.recvWakers ++ [(chan.nextRecvId, waker)]
        nextRecvId := chan.nextRecvId + 1 }
    | .senders =>
      { chan with
        sendWakers := chan.sendWakers ++ [(chan.nextSendId, waker)]
        nextSendId := chan.nextSendId + 1 })

/-- Where callbacks do nothing, a sender is registered under the next id. -/
theorem wp_addSendWaker_inert {post : UInt64 → Channel α → Prop} (clear : channel.held = [])
    (waker : Waker) :
    (addSendWaker waker : M α UInt64).wp (.inert limit) post exc channel =
      post channel.state.chan.nextSendId
        ((enlisted channel .senders waker).toldAll
          [.called (.clone waker), .registered .senders]) := by
  obtain ⟨state, held, log⟩ := channel
  subst clear
  simp [addSendWaker, wp_borrowing, World.toldAll, World.onState, World.logged,
    State.onChan, enlisted]

/-- Where callbacks do nothing, a receiver is registered under the next id. -/
theorem wp_addRecvWaker_inert {post : UInt64 → Channel α → Prop} (clear : channel.held = [])
    (running : (channel.state.chan.disconnected || channel.state.chan.receivers == 0) = false)
    (waker : Waker) :
    (addRecvWaker waker : M α UInt64).wp (.inert limit) post exc channel =
      post channel.state.chan.nextRecvId
        ((enlisted channel .receivers waker).toldAll
          [.registered .receivers, .called (.clone waker)]) := by
  simp only [addRecvWaker, Prog.wp_bind, wp_getChan, wp_modifyChan, wp_emit, Prog.wp_ite,
    wp_callback_inert]
  split
  · rename_i shut
    cases running.symm.trans shut
  · beta_reduce
    split
    · rename_i shut
      cases running.symm.trans shut
    · obtain ⟨state, held, log⟩ := channel
      subst clear
      simp [wp_borrowing, World.toldAll, World.onState, World.logged, State.onChan, enlisted]

/-- A receive takes the oldest item, if there is one, and wakes the parked senders, while the item
stays in the redelivery slot. -/
theorem wp_tryTake_inert {post : Option α → Channel α → Prop} (clear : channel.held = [])
    (granted : 0 < limit) (vacant : channel.state.chan.redelivery = none)
    (misses : ∀ flavor : Flavor α, channel.state.chan.contents = [] → flavor.toList = [] →
      flavor.cap = channel.state.chan.flavor.cap →
      post none ((restocked channel flavor none).logged (.missed [])))
    (takes : ∀ item rest, ∀ flavor : Flavor α, channel.state.chan.contents = item :: rest →
      flavor.toList = rest → flavor.cap = channel.state.chan.flavor.cap →
      post (some item) (((listed (restocked channel flavor none) .senders []).toldAll
        (wakings .senders (channel.state.chan.sendWakers.map Prod.snd))).logged (.took item))) :
    (tryTake : M α (Option α)).wp (.inert limit) post exc channel := by
  rintro count rfl
  obtain ⟨count, rfl⟩ := Nat.exists_eq_add_one_of_ne_zero (Nat.ne_of_gt granted)
  have stock : channel.state.chan.contents = channel.state.chan.flavor.toList := by
    simp [Chan.contents, vacant]
  have emptied : ∀ flavor, channel.onState (·.onChan fun chan => { chan with flavor }) =
      restocked channel flavor none := by
    intro flavor
    simp [restocked, World.onState, State.onChan, vacant]
  rw [Prog.iterate, Prog.wp_bind_eq, tryTakeTurn, Prog.wp_bind]
  refine wp_takeRedelivery clear (fun _ => ?_) fun item parked => ?_
  · simp only [Prog.wp_bind]
    refine wp_pop clear fun flavor contents capacity => ?_
    rw [emptied]
    cases stocked : channel.state.chan.flavor.toList with
    | nil =>
        have empty : flavor.toList = [] := by rw [contents, stocked]; rfl
        have missed := misses flavor (stock.trans stocked) empty capacity
        have none : (restocked channel flavor none).state.chan.contents = [] := empty
        simp only [List.head?_nil, Prog.wp_bind, wp_getChan, wp_emit, none]
        exact missed
    | cons item rest =>
        have left : flavor.toList = rest := by rw [contents, stocked]; rfl
        have taken := takes item rest flavor (stock.trans stocked) left capacity
        simp only [List.head?_cons, Prog.wp_bind]
        rw [wp_hasParkedSenders (by exact clear)]
        simp only [Prog.wp_ite, Prog.wp_bind, wp_emit]
        split
        · rename_i none
          have free : channel.state.chan.sendWakers = [] := by simpa using none
          rw [listed_nil (by exact free), free] at taken
          exact taken
        · refine wp_setRedelivery (by exact clear) rfl ?_
          rw [Prog.wp_guarded, wp_wakeSenders_inert (by exact clear)]
          refine wp_takeRedelivery (by exact clear) (by rintro ⟨⟩) fun item' parked => ?_
          obtain rfl := Option.some.inj parked
          exact taken
  · cases vacant.symm.trans parked

/-- What remains to be told when the channel is freed. -/
def freeing (chan : Chan α) : Log α :=
  .freed chan.contents :: ((chan.flavor.toList.map fun item => .called (.dropItem item)) ++
    ((chan.redelivery.toList.map fun item => .called (.dropItem item)) ++
      (disposals (chan.recvWakers.map Prod.snd) ++ disposals (chan.sendWakers.map Prod.snd))))

/-- Where callbacks do nothing, giving up a count is all that happens. -/
theorem wp_releaseChan_inert {post : Unit → Channel α → Prop} :
    (releaseChan : M α Unit).wp (.inert limit) post exc channel =
      post () ((channel.onState fun state => { state with strong := state.strong - 1 }).toldAll
        (if channel.state.strong - 1 = 0 then freeing channel.state.chan else [])) := by
  simp only [releaseChan, Prog.wp_bind, wp_modifyState, wp_getState, Prog.wp_ite]
  by_cases last : channel.state.strong - 1 = 0
  · simp [last, freeChan, dropGlue, freeing, World.toldAll, World.logged]
  · simp [last, World.toldAll]
    exact Iff.rfl

/-- Where callbacks do nothing, enough rounds of the loop drain the queue. -/
theorem wp_drainQueue_inert {post : Unit → Channel α → Prop} {items : List α} {count : Nat}
    (clear : channel.held = []) (vacant : channel.state.chan.redelivery = none)
    (stocked : channel.state.chan.flavor.toList = items) (enough : items.length < count)
    (drains : ∀ flavor : Flavor α, flavor.toList = [] →
      flavor.cap = channel.state.chan.flavor.cap →
      post () ((restocked channel flavor none).toldAll (draining items))) :
    (Prog.iterate (do
      match ← pop with
      | none => return some ()
      | some item =>
        callback (.dropQueued item)
        return none : M α (Option Unit)) count).wp (.inert limit) post exc channel := by
  have emptied : ∀ (channel : Channel α) flavor, channel.state.chan.redelivery = none →
      channel.onState (·.onChan fun chan => { chan with flavor }) =
      restocked channel flavor none := by
    intro channel flavor vacant
    simp [restocked, World.onState, State.onChan, vacant]
  induction items generalizing channel count with
  | nil =>
      obtain ⟨count, rfl⟩ := Nat.exists_eq_add_one_of_ne_zero (Nat.ne_of_gt enough)
      rw [Prog.iterate, Prog.wp_bind_eq, Prog.wp_bind]
      refine wp_pop clear fun flavor contents capacity => ?_
      rw [stocked] at contents ⊢
      rw [emptied channel flavor vacant]
      exact drains flavor contents capacity
  | cons item rest ih =>
      obtain ⟨count, rfl⟩ :=
        Nat.exists_eq_add_one_of_ne_zero (Nat.ne_of_gt (Nat.zero_lt_of_lt enough))
      rw [Prog.iterate, Prog.wp_bind_eq, Prog.wp_bind]
      refine wp_pop clear fun flavor contents capacity => ?_
      rw [stocked] at contents ⊢
      rw [emptied channel flavor vacant]
      simp only [List.head?_cons, Prog.wp_bind, wp_callback_inert, Prog.wp_pure]
      refine ih clear rfl contents (Nat.lt_of_succ_lt_succ enough) fun flavor' empty capacity' => ?_
      have drained := drains flavor' empty (capacity'.trans capacity)
      rw [draining, List.map_cons, World.toldAll_cons] at drained
      exact drained

/-- Where callbacks do nothing, draining leaves an empty queue of the same capacity. -/
theorem wp_drain_inert {post : Unit → Channel α → Prop} (clear : channel.held = [])
    (vacant : channel.state.chan.redelivery = none)
    (enough : channel.state.chan.contents.length < limit)
    (drains : ∀ flavor : Flavor α, flavor.toList = [] →
      flavor.cap = channel.state.chan.flavor.cap →
      post () ((restocked channel flavor none).toldAll (draining channel.state.chan.contents))) :
    (drain : M α Unit).wp (.inert limit) post exc channel := by
  rintro depth rfl
  obtain ⟨depth, rfl⟩ := Nat.exists_eq_add_one_of_ne_zero (Nat.ne_of_gt (Nat.zero_lt_of_lt enough))
  have stock : channel.state.chan.contents = channel.state.chan.flavor.toList := by
    simp [Chan.contents, vacant]
  rw [stock] at enough drains
  rw [drainWithin, Prog.wp_guarded, Prog.wp_bind]
  refine wp_takeRedelivery clear (fun _ => ?_) fun item parked => ?_
  · rintro count rfl
    exact wp_drainQueue_inert clear vacant rfl enough drains
  · cases vacant.symm.trans parked

/-- The channel without the registration of a send future. -/
def removed (channel : Channel α) (id : Option UInt64) : Channel α :=
  (listed channel .senders (withdrawn channel.state.chan.sendWakers id)).toldAll
    (disposals (dismissed channel.state.chan.sendWakers id))

/-- A committed outcome is returned, once the receivers have heard of a pushed item. -/
theorem wp_effects_inert {post : Poll (Except (SendError α) Unit) → Channel α → Prop}
    {future : Nat} {this : Send α} {result : Except (SendError α) Unit} {id : Option UInt64}
    (clear : channel.held = []) (found : channel.state.sends future = some this)
    (outcome : this.outcome = some result) {heard : Bool} :
    (SendFuture.effects future heard id).wp (.inert limit) post exc channel =
      post (.ready result) (amended (removed (if heard then
        (listed channel .receivers []).toldAll (wakings .receivers (waiters channel)) else channel)
          id) future fun this => { this with outcome := none }) := by
  have committed : ∀ {channel : Channel α}, channel.state.sends future = some this →
      ((removed channel id).state.sends future).bind Send.outcome = some result := by
    intro channel found
    rw [show (removed channel id).state.sends = channel.state.sends from rfl, found]
    exact outcome
  simp only [SendFuture.effects, Prog.wp_bind, Prog.wp_ensuring, Prog.wp_ite]
  cases heard with
  | false =>
      simp only [Bool.false_eq_true, if_false, Prog.wp_pure]
      rw [wp_removeSend_inert (by exact clear)]
      change Prog.wp _ _ _ _ (removed channel id) = _
      simp only [wp_getState, SendFuture.update, wp_modifyState, committed found]
      rfl
  | true =>
      have found' : ((listed channel .receivers []).toldAll
          (wakings .receivers (waiters channel))).state.sends future = some this := found
      simp only [if_true]
      rw [wp_wakeReceivers_inert (by exact clear), wp_removeSend_inert (by exact clear)]
      change Prog.wp _ _ _ _ (removed ((listed channel .receivers []).toldAll
        (wakings .receivers (waiters channel))) id) = _
      simp only [wp_getState, SendFuture.update, wp_modifyState, committed found']
      rfl

end Parts

/-! ### The operations -/

/-- The channel has taken a turn, and its registry has followed the signal. -/
structure Tracks (turn : Turn α) (before after : Channel α) : Prop where
  ideal : ideal after = turn.next
  vacant : after.state.chan.redelivery = none
  tidy : Tidy before.state → Tidy after.state
  /-- The waker that a single slot would hold is registered. -/
  waits : ∀ slot : Option Waker, (∀ waker ∈ slot, waker ∈ waiters before) →
    ∀ waker ∈ turn.signal.slot slot, waker ∈ waiters after
  woken : wokeReceivers after.log = wokeReceivers before.log ++ turn.signal.woken (waiters before)
  answers : answers after.log = answers before.log

/-- A program takes a turn, and returns what is answered. -/
def Refines (limit : Nat) (turn : Turn α) (answer : β → Result α) (prog : M α β)
    (channel : Channel α) : Prop :=
  prog.wp (.inert limit) (fun value after => Tracks turn channel after ∧ answer value = turn.result)
    (fun _ _ => False) channel

/-- A reference held for the time of a program does not show. -/
theorem Refines.holding {turn : Turn α} {answer : β → Result α} {prog : M α β} {ref : Ref}
    (refines : Refines limit turn answer prog (inUse channel ref)) :
    Refines limit turn answer (holding ref prog) channel := by
  rw [Refines, wp_holding]
  refine Prog.wp_mono refines ?_ fun _ _ => id
  rintro value after ⟨tracks, answers⟩
  exact ⟨{ tracks with }, answers⟩

/-- An operation refines what its body refines. -/
theorem Refines.body {turn : Turn α} {answer : β → Result α} {prog : M α β}
    (refines : Refines limit turn answer prog channel) :
    Refines limit turn id (do return answer (← prog)) channel := by
  rw [Refines, Prog.wp_bind]
  exact refines

/-- What nothing has happened to is still tracked. -/
theorem Tracks.refl (vacant : channel.state.chan.redelivery = none) (result : Result α) :
    Tracks ⟨result, .keeps, Mpmc.ideal channel⟩ channel channel :=
  ⟨rfl, vacant, id, fun _ covered => covered, (List.append_nil _).symm, rfl⟩

/-- A receive has found nothing. -/
theorem Tracks.missed {flavor : Flavor α} (empty : channel.state.chan.contents = [])
    (contents : flavor.toList = []) (capacity : flavor.cap = channel.state.chan.flavor.cap)
    (result : Result α) :
    Tracks ⟨result, .keeps, Mpmc.ideal channel⟩ channel
      ((restocked channel flavor none).logged (.missed [])) := by
  refine ⟨?_, rfl, id, fun _ covered => covered, ?_, ?_⟩
  · have items : channel.state.chan.redelivery.toList ++
        channel.state.chan.flavor.toList = [] := empty
    simp [Mpmc.ideal, contents, items, capacity, Event.wokeSender?, Chan.contents, State.onChan]
  · simp [Event.wokeReceiver?, Signal.woken]
  · simp [Event.answer?]

/-- A receive has taken an item. -/
theorem Tracks.took {flavor : Flavor α} {item : α} {rest : List α}
    (contents : flavor.toList = rest) (capacity : flavor.cap = channel.state.chan.flavor.cap)
    {turn : Turn α} (next : turn.next = (Mpmc.ideal channel).taken rest)
    (waits : ∀ slot, turn.signal.slot slot = slot ∨ turn.signal.slot slot = none)
    (silent : turn.signal.woken = fun _ => []) :
    Tracks turn channel (((listed (restocked channel flavor none) .senders []).toldAll
      (wakings .senders (channel.state.chan.sendWakers.map Prod.snd))).logged (.took item)) := by
  refine ⟨?_, rfl, id, ?_, ?_, ?_⟩
  · rw [next]
    simp [Mpmc.ideal, contents, capacity, Event.wokeSender?, Chan.contents,
      State.onChan, Ideal.taken, Ideal.wakeSenders, Chan.setWakers]
  · intro slot covered waker member
    rcases waits slot with same | none
    · rw [same] at member
      exact covered waker member
    · rw [none] at member
      cases member
  · simp [Event.wokeReceiver?, silent]
  · simp [Event.answer?]

/-- A turn that settles the registration anew, after a silent one. -/
theorem Tracks.after {turn : Turn α} {result : Result α} {signal : Signal} {next : Ideal α}
    {middle after : Channel α} (first : Tracks ⟨result, signal, next⟩ channel middle)
    (quiet : signal.woken = fun _ => []) (later : Tracks turn middle after)
    (anew : ∀ slot, turn.signal.slot slot = turn.signal.slot none)
    (silent : turn.signal.woken = fun _ => []) : Tracks turn channel after := by
  refine ⟨later.ideal, later.vacant, fun tidy => later.tidy (first.tidy tidy), ?_, ?_,
    later.answers.trans first.answers⟩
  · intro slot _ waker member
    rw [anew] at member
    exact later.waits none (by rintro _ ⟨⟩) waker member
  · have woken := later.woken
    rw [first.woken] at woken
    simpa [quiet, silent] using woken

/-- A silent turn after another one. -/
theorem Tracks.before {signal : Signal} {result result' : Result α} {next next' : Ideal α}
    {middle after : Channel α} (first : Tracks ⟨result, signal, next⟩ channel middle)
    (later : Tracks ⟨result', .keeps, next'⟩ middle after) :
    Tracks ⟨result, signal, next'⟩ channel after := by
  refine ⟨later.ideal, later.vacant, fun tidy => later.tidy (first.tidy tidy), ?_, ?_,
    later.answers.trans first.answers⟩
  · exact fun slot covered => later.waits _ (first.waits slot covered)
  · rw [later.woken, first.woken]
    exact List.append_nil _

/-- What the ideal channel does not see may follow a step. -/
theorem Tracks.resting {turn : Turn α} {result : Result α} {middle after : Channel α}
    (first : Tracks turn channel middle)
    (later : Tracks ⟨result, .keeps, Mpmc.ideal middle⟩ middle after) :
    Tracks turn channel after := by
  rw [first.ideal] at later
  exact first.before later

/-- The ideal channel is full when the channel is. -/
theorem isFull_eq (vacant : channel.state.chan.redelivery = none) :
    channel.state.chan.flavor.isFull = (ideal channel).isFull := by
  rw [Bool.eq_iff_iff, Flavor.isFull_iff]
  simp [ideal, Ideal.isFull, Chan.contents, vacant]

/-- Registration ids are no part of the shared channel. -/
@[simp] theorem State.setWakerId_chan (state : State α) (id : Option UInt64) (owner : Owner) :
    (state.setWakerId id owner).chan = state.chan := by
  cases owner <;> rfl

/-- Replacing the registration of a receive changes nothing else. -/
theorem ideal_reassigned {owner : Owner} (receives : owner.side = .receivers) (id : Option UInt64) :
    ideal (reassigned channel owner id) = ideal channel := by
  cases owner with
  | stream receiver => rfl
  | recv future =>
      simp only [ideal, State.setWakerId, State.updateRecv, World.onState]
      congr 1
      funext key
      by_cases same : key = future
      · subst same
        simp [Function.comp_def]
      · simp [same]
  | send future => cases receives

/-- Wakers that are dropped do not show. -/
theorem ideal_disposed (wakers : List Waker) :
    ideal (channel.toldAll (disposals wakers)) = ideal channel := by
  simp [ideal]

/-- A tidy state stays so when an id is set for a task that is not done. -/
theorem Tidy.reassigned {state : State α} (tidy : Tidy state) {owner : Owner} {id : Option UInt64}
    (unfinished : id = none ∨ ∀ future, owner = .recv future → ∀ this,
      state.recvs future = some this → this.done = false) :
    Tidy (state.setWakerId id owner) := by
  intro key this found done
  cases owner with
  | stream receiver => exact tidy key this found done
  | send future => exact tidy key this found done
  | recv future =>
      simp only [State.setWakerId, State.updateRecv] at found
      by_cases same : key = future
      · subst same
        simp only [Function.update_self, Option.map_eq_some_iff] at found
        obtain ⟨before, present, rfl⟩ := found
        rcases unfinished with rfl | running
        · rfl
        · cases done.symm.trans (running key rfl before present)
      · rw [Function.update_of_ne same] at found
        exact tidy key this found done

/-- A cleared id is none. -/
theorem wakerId_cleared {state : State α} {owner : Owner} :
    (state.setWakerId none owner).wakerId owner = none := by
  cases owner with
  | stream receiver => simp [State.setWakerId, State.wakerId]
  | recv future =>
      cases found : state.recvs future <;>
        simp [State.setWakerId, State.wakerId, State.updateRecv, found]
  | send future =>
      cases found : state.sends future <;>
        simp [State.setWakerId, State.wakerId, State.updateSend, found]

/-- The channel without the registration of a receive. -/
def unlisted (channel : Channel α) (owner : Owner) : Channel α :=
  (listed (reassigned channel owner none) .receivers
    (withdrawn (reassigned channel owner none).state.chan.recvWakers
      (channel.state.wakerId owner))).toldAll
    (disposals (dismissed (reassigned channel owner none).state.chan.recvWakers
      (channel.state.wakerId owner)))

/-- Where callbacks do nothing, a task loses its id and its waker together. -/
theorem wp_removeOwn_inert {post : Unit → Channel α → Prop} {exc : Panic → Channel α → Prop}
    (clear : channel.held = []) (owner : Owner) :
    (Receiver.removeOwn owner : M α Unit).wp (.inert limit) post exc channel =
      post () (unlisted channel owner) := by
  simp only [Receiver.removeOwn, Prog.wp_bind, wp_takeWakerId]
  rw [wp_removeRecv_inert (by exact clear)]
  rfl

/-- A task that gives up its own registration does not show. -/
theorem unlisted_tracks (vacant : channel.state.chan.redelivery = none) {owner : Owner}
    (receives : owner.side = .receivers) (result : Result α) :
    Tracks ⟨result, .forgets, ideal channel⟩ channel (unlisted channel owner) := by
  refine ⟨?_, ?_, fun tidy => tidy.reassigned (.inl rfl), by rintro _ _ _ ⟨⟩, ?_, ?_⟩
  · exact (ideal_disposed _).trans (ideal_reassigned receives none)
  · simp [unlisted, Chan.setWakers, vacant]
  · simp [unlisted, Signal.woken]
  · simp [unlisted]

section Functions

variable (clear : channel.held = []) (vacant : channel.state.chan.redelivery = none)
include clear vacant

/-- A send that does not wait answers as on the ideal channel. -/
theorem trySend_refines (item : α) :
    Refines limit ((ideal channel).trySend item) .trySend (Sender.trySend item) channel := by
  have rejects : channel.state.chan.rejecting = (ideal channel).rejecting := by
    simp [Chan.rejecting, Ideal.rejecting, ideal]
  simp only [Refines, Sender.trySend, Prog.wp_bind, wp_getChan, Prog.wp_ite, rejects,
    Ideal.trySend]
  cases (ideal channel).rejecting with
  | true => exact ⟨.refl vacant _, rfl⟩
  | false =>
      refine wp_tryPush clear (fun full => ?_) fun pushed room contents capacity => ?_
      · rw [isFull_eq vacant] at full
        simp only [full]
        exact ⟨.refl vacant _, rfl⟩
      · rw [isFull_eq vacant] at room
        simp only [room, Prog.wp_bind]
        rw [wp_wakeReceivers_inert (by exact clear)]
        refine ⟨⟨?_, vacant, id, ?_, ?_, ?_⟩, rfl⟩
        · simp [ideal, contents, capacity, Event.wokeSender?, Chan.contents, State.onChan, vacant,
            Chan.setWakers]
        · rintro _ _ _ ⟨⟩
        · simp [Event.wokeReceiver?, Signal.woken, waiters, State.onChan]
        · simp [Event.answer?]

/-- A receive that does not wait answers as on the ideal channel. -/
theorem tryRecv_refines (granted : 0 < limit) :
    Refines limit (ideal channel).tryRecv .tryRecv Receiver.tryRecv channel := by
  rw [Refines, Receiver.tryRecv, Prog.wp_bind]
  refine wp_tryTake_inert clear granted vacant (fun flavor empty contents capacity => ?_)
    fun item rest flavor stocked contents capacity => ?_
  · have none : (ideal channel).items = [] := empty
    have same : ((restocked channel flavor .none).logged (.missed [])).state.chan.disconnected =
      (ideal channel).disconnected := rfl
    simp only [Ideal.tryRecv, none, Prog.wp_bind, wp_getChan, Prog.wp_ite, same]
    cases (ideal channel).disconnected with
    | true => exact ⟨.missed empty contents capacity _, rfl⟩
    | false => exact ⟨.missed empty contents capacity _, rfl⟩
  · have some : (ideal channel).items = item :: rest := stocked
    simp only [Ideal.tryRecv, some]
    exact ⟨.took contents capacity rfl (fun _ => .inl rfl) rfl, rfl⟩

/-- An iterator that does not wait answers as on the ideal channel. -/
theorem tryIterNext_refines (granted : 0 < limit) :
    Refines limit (ideal channel).tryIterNext .next Receiver.tryIterNext channel := by
  rw [Refines, Receiver.tryIterNext, Prog.wp_bind]
  refine Prog.wp_mono (tryRecv_refines clear vacant granted) ?_ fun _ _ => id
  rintro result after ⟨tracks, answers⟩
  simp only [Ideal.tryRecv, Ideal.tryIterNext] at tracks answers ⊢
  cases items : (ideal channel).items with
  | nil =>
      simp only [items] at tracks answers ⊢
      cases result with
      | error error => exact ⟨{ tracks with }, rfl⟩
      | ok item => cases answers
  | cons item rest =>
      simp only [items] at tracks answers ⊢
      cases answers
      exact ⟨{ tracks with }, rfl⟩

/-- A receive that finds nothing is registered. -/
theorem register_refines {owner : Owner} (receives : owner.side = .receivers)
    (granted : 0 < limit) (empty : channel.state.chan.contents = [])
    (running : (channel.state.chan.disconnected || channel.state.chan.receivers == 0) = false)
    (unfinished : ∀ future, owner = .recv future → ∀ this,
      channel.state.recvs future = some this → this.done = false) (waker : Waker) :
    (do
      let id ← addRecvWaker waker
      setWakerId owner id
      match ← tryTake with
      | some item => return .ready (some item)
      | none =>
        if (← getChan).disconnected then
          Receiver.removeOwn owner
          return .ready none
        else return .pending : M α (Poll (Option α))).wp (.inert limit) (fun polled after =>
      Tracks ⟨.recv .pending, .registers waker, ideal channel⟩ channel after ∧ polled = .pending)
      (fun _ _ => False) channel := by
  have chan : ∀ events : Log α, (reassigned ((enlisted channel .receivers waker).toldAll events)
      owner (some channel.state.chan.nextRecvId)).state.chan =
        (enlisted channel .receivers waker).state.chan := fun _ => State.setWakerId_chan ..
  have shut : ∀ events : Log α, (reassigned ((enlisted channel .receivers waker).toldAll events)
      owner (some channel.state.chan.nextRecvId)).state.chan.disconnected = false := by
    intro events
    rw [chan]
    exact (Bool.or_eq_false_iff.mp running).1
  simp only [Prog.wp_bind]
  rw [wp_addRecvWaker_inert clear running]
  simp only [wp_setWakerId]
  refine wp_tryTake_inert (by exact clear) granted (by rw [chan]; exact vacant)
    (fun flavor nothing contents capacity => ?_) fun item rest flavor stocked => ?_
  · have filed : Tracks ⟨.recv .pending, .registers waker, ideal channel⟩ channel
        (reassigned ((enlisted channel .receivers waker).toldAll
          [.registered .receivers, .called (.clone waker)]) owner
            (some channel.state.chan.nextRecvId)) := by
      refine ⟨(ideal_reassigned receives _).trans ?_, ?_, ?_, ?_, ?_, ?_⟩
      · simp [ideal, enlisted, Event.wokeSender?, Chan.contents, State.onChan]
      · rw [chan]
        exact vacant
      · exact fun tidy => Tidy.reassigned (by exact tidy) (.inr unfinished)
      · rintro slot - _ ⟨⟩
        rw [waiters, chan]
        simp [enlisted]
      · simp [Event.wokeReceiver?, Signal.woken, enlisted]
      · simp [Event.answer?, enlisted]
    simp only [Prog.wp_bind, wp_getChan, Prog.wp_ite]
    split
    · rename_i isOver
      cases (shut _).symm.trans isOver
    · exact ⟨filed.resting (.missed nothing contents capacity .unit), rfl⟩
  · rw [chan] at stocked
    cases empty.symm.trans stocked

/-- A poll of the receiver, through its stream or a receive future. -/
theorem pollRecv_refines {owner : Owner} (receives : owner.side = .receivers)
    (granted : 0 < limit) (alive : channel.state.chan.receivers ≠ 0)
    (unfinished : ∀ future, owner = .recv future → ∀ this,
      channel.state.recvs future = some this → this.done = false) (waker : Waker) :
    (Receiver.pollRecv waker owner : M α (Poll (Option α))).wp (.inert limit) (fun polled after =>
        Tracks ((ideal channel).pollNext waker) channel after ∧
          .recv polled = ((ideal channel).pollNext waker).result ∧
          (polled ≠ .pending → after.state.wakerId owner = none))
      (fun _ _ => False) channel := by
  have unlists : Tracks ⟨.unit, .forgets, ideal channel⟩ channel (unlisted channel owner) :=
    unlisted_tracks vacant receives .unit
  have free : (unlisted channel owner).state.wakerId owner = none := wakerId_cleared
  have same : (unlisted channel owner).state.chan.contents = channel.state.chan.contents :=
    congrArg Ideal.items unlists.ideal
  rw [Receiver.pollRecv, Prog.wp_bind, wp_removeOwn_inert clear, Prog.wp_bind]
  refine wp_tryTake_inert (by exact clear) granted unlists.vacant
    (fun flavor nothing contents capacity => ?_)
    fun item rest flavor stocked contents capacity => ?_
  · have none : (ideal channel).items = [] := same.symm.trans nothing
    have missed : Tracks ⟨.unit, .forgets, ideal channel⟩ channel
        ((restocked (unlisted channel owner) flavor .none).logged (.missed [])) :=
      unlists.resting (.missed nothing contents capacity .unit)
    have ends : ((restocked (unlisted channel owner) flavor .none).logged
        (.missed [])).state.chan.disconnected = (ideal channel).disconnected :=
      congrArg Ideal.disconnected missed.ideal
    simp only [Ideal.pollNext, none]
    rw [Prog.wp_bind, wp_getChan]
    beta_reduce
    rw [ends]
    cases shut : (ideal channel).disconnected with
    | true => exact ⟨{ missed with }, rfl, fun _ => free⟩
    | false =>
        have running : (((restocked (unlisted channel owner) flavor .none).logged
            (.missed [])).state.chan.disconnected ||
            ((restocked (unlisted channel owner) flavor .none).logged
              (.missed [])).state.chan.receivers == 0) = false := by
          rw [ends, shut, Bool.false_or, beq_eq_false_iff_ne]
          simpa [unlisted, Chan.setWakers] using alive
        have unfinished' : ∀ future, owner = .recv future → ∀ this,
            (unlisted channel owner).state.recvs future = some this → this.done = false := by
          rintro future rfl this found
          obtain ⟨before, present, rfl⟩ : ∃ before, channel.state.recvs future = some before ∧
              { before with wakerId := .none } = this := by
            simpa [unlisted, State.setWakerId, State.updateRecv, State.onChan] using found
          exact unfinished future rfl before present
        refine Prog.wp_mono (register_refines (by exact clear) rfl receives granted
          (by exact contents)
          running unfinished' waker) ?_ fun _ _ => id
        rintro _ after ⟨registers, rfl⟩
        rw [missed.ideal] at registers
        exact ⟨missed.after rfl registers (fun _ => rfl) rfl, rfl, fun ready => absurd rfl ready⟩
  · rw [same] at stocked
    have some : (ideal channel).items = item :: rest := stocked
    simp only [Ideal.pollNext, some]
    refine ⟨unlists.after rfl (.took contents capacity ?_ (fun _ => .inr rfl) rfl)
      (fun _ => rfl) rfl, rfl, fun _ => free⟩
    rw [unlists.ideal]

/-- A poll of the stream of the receiver. -/
theorem pollNext_refines (granted : 0 < limit) (alive : channel.state.chan.receivers ≠ 0)
    (receiver : Nat) (waker : Waker) :
    Refines limit ((ideal channel).pollNext waker) .recv
      (Receiver.pollRecv waker (.stream receiver)) channel := by
  refine Prog.wp_mono (pollRecv_refines clear vacant rfl granted alive (by rintro _ ⟨⟩) waker) ?_
    fun _ _ => id
  rintro polled after ⟨tracks, answers, -⟩
  exact ⟨tracks, answers⟩

/-- A poll of a receive future that has not completed. -/
theorem pollRecvFuture_refines (granted : 0 < limit) (alive : channel.state.chan.receivers ≠ 0)
    {future : Nat} {this : Recv} (found : channel.state.recvs future = some this)
    (running : this.done = false) (waker : Waker) :
    Refines limit ((ideal channel).pollRecv future waker) .recv (RecvFuture.poll future waker)
      channel := by
  have unfinished : ∀ key, Owner.recv future = .recv key → ∀ this,
      channel.state.recvs key = some this → this.done = false := by
    rintro key ⟨⟩ other present
    obtain rfl := Option.some.inj (found.symm.trans present)
    exact running
  simp only [Refines, RecvFuture.poll, Prog.wp_bind, wp_getState, found, Ideal.pollRecv, running,
    Bool.false_eq_true, if_false]
  refine Prog.wp_mono (pollRecv_refines clear vacant rfl granted alive unfinished waker) ?_
    fun _ _ => id
  rintro polled after ⟨tracks, answers, free⟩
  rw [← answers]
  cases polled with
  | pending => exact ⟨tracks, answers⟩
  | ready item =>
      have cleared := free (by rintro ⟨⟩)
      refine ⟨⟨?_, tracks.vacant, ?_, tracks.waits, tracks.woken, tracks.answers⟩, rfl⟩
      · rw [← tracks.ideal]
        simp only [ideal, Ideal.complete, World.onState, State.updateRecv]
        congr 1
        funext key
        by_cases same : key = future
        · subst same
          simp [Function.comp_def]
        · simp [same]
      · intro tidy key left present done
        by_cases same : key = future
        · subst same
          obtain ⟨before, present', rfl⟩ : ∃ before, after.state.recvs key = some before ∧
              { before with done := true } = left := by
            simpa [State.updateRecv] using present
          simpa [State.wakerId, present'] using cleared
        · refine tracks.tidy tidy key left ?_ done
          simpa [State.updateRecv, same] using present

section Send

variable {future : Nat} {this : Send α} (found : channel.state.sends future = some this)
  (unanswered : this.outcome = none)
include found unanswered

/-- A poll of a send that finds the channel closed answers as on the ideal channel. -/
theorem failed_refines (item : α) :
    (SendFuture.effects future false this.wakerId).wp (.inert limit) (fun value after =>
        Tracks ⟨.send (.ready (.error ⟨item⟩)), .keeps, (ideal channel).settle future this⟩ channel
          after ∧ Result.send value = (.send (.ready (.error ⟨item⟩)) : Result α))
      (fun _ _ => False) (finished channel future (.error ⟨item⟩)) := by
  have settled : (finished channel future (.error ⟨item⟩)).state.sends future =
      some (Send.settle (.error ⟨item⟩) { this with wakerId := none }) := by
    simp [State.setWakerId, State.updateSend, found]
  rw [wp_effects_inert (by exact clear) settled rfl]
  refine ⟨⟨?_, vacant, id, fun _ covered => covered, ?_, ?_⟩, rfl⟩
  · simp [ideal, Ideal.settle, Event.wokeSender?, Chan.contents, State.onChan,
      State.updateSend, found, Send.settle, unanswered, removed, Chan.setWakers, State.setWakerId]
  · simp [Event.wokeReceiver?, Signal.woken, removed]
  · simp [Event.answer?, removed]

/-- A poll of a send that finds room answers as on the ideal channel. -/
theorem pushed_refines {flavor : Flavor α} {item : α}
    (contents : flavor.toList = channel.state.chan.flavor.toList ++ [item])
    (capacity : flavor.cap = channel.state.chan.flavor.cap) :
    (SendFuture.effects future true this.wakerId).wp (.inert limit) (fun value after =>
        Tracks ⟨.send (.ready (.ok ())), .wakes,
          { ideal channel with items := (ideal channel).items ++ [item] }.settle
            future this⟩ channel
          after ∧ Result.send value = (.send (.ready (.ok ())) : Result α))
      (fun _ _ => False)
      (finished (pushedTo channel flavor (some future) item) future (.ok ())) := by
  have settled : (finished (pushedTo channel flavor (some future) item) future (.ok ())).state.sends
      future = some (Send.settle (.ok ()) { this with wakerId := none }) := by
    simp [State.setWakerId, State.updateSend, found, State.onChan]
  rw [wp_effects_inert (by exact clear) settled rfl]
  refine ⟨⟨?_, vacant, id, ?_, ?_, ?_⟩, rfl⟩
  · simp [ideal, Ideal.settle, Event.wokeSender?, Chan.contents, State.onChan,
      State.updateSend, found, Send.settle, unanswered, removed, contents, capacity, Chan.setWakers,
      State.setWakerId, vacant]
  · rintro _ _ _ ⟨⟩
  · simp [Event.wokeReceiver?, Signal.woken, removed, State.onChan, State.updateSend, waiters,
      State.setWakerId]
  · simp [Event.answer?, removed]

omit unanswered in
/-- A future that finds the queue full is registered anew. -/
theorem park_refines (waker : Waker) (accepts : channel.state.chan.rejecting = false)
    (full : channel.state.chan.flavor.isFull = true) {item : α} (message : this.item = some item) :
    (do
      removeSend (← takeWakerId (.send future))
      let id ← addSendWaker waker
      setWakerId (.send future) id
      SendFuture.attemptPush future (return .pending) :
        M α (Poll (Except (SendError α) Unit))).wp (.inert limit) (fun value after =>
        Tracks ⟨.send .pending, .keeps, (ideal channel).park future this waker⟩ channel after ∧
          Result.send value = (.send .pending : Result α))
      (fun _ _ => False) channel := by
  have holds : channel.state.wakerId (.send future) = this.wakerId := by
    simp [State.wakerId, found]
  simp only [Prog.wp_bind, wp_takeWakerId, holds]
  rw [wp_removeSend_inert (by exact clear), wp_addSendWaker_inert (by exact clear)]
  simp only [wp_setWakerId]
  have held : ({ this with wakerId := some channel.state.chan.nextSendId } : Send α).item =
      some item := message
  refine wp_attemptPush (by exact clear) ?_ held ?_ ?_ ?_
  · simp [State.setWakerId, State.updateSend, State.onChan, found, enlisted, Chan.setWakers]
  · intro rejects
    cases accepts.symm.trans rejects
  · intro _ _ room
    cases full.symm.trans room
  · rintro - -
    refine ⟨⟨?_, vacant, id, fun _ covered => covered, ?_, ?_⟩, rfl⟩
    · simp [ideal, Ideal.park, Event.wokeSender?, Chan.contents, State.onChan, State.setWakerId,
        State.updateSend, found, enlisted, Chan.setWakers]
    · simp [Event.wokeReceiver?, Signal.woken, enlisted]
    · simp [Event.answer?, enlisted]

/-- A poll of a send future. -/
theorem pollSend_refines (unsent : this.done = false → this.item.isSome = true) (waker : Waker) :
    Refines limit ((ideal channel).pollSend future waker) .send (SendFuture.poll future waker)
      channel := by
  have same : (ideal channel).sends future = some this := found
  have rejects : channel.state.chan.rejecting = (ideal channel).rejecting := by
    simp [Chan.rejecting, Ideal.rejecting, ideal]
  simp only [Refines, SendFuture.poll, Prog.wp_bind, wp_getState, found, unanswered, Prog.wp_ite,
    Ideal.pollSend, same]
  cases running : this.done with
  | true => exact ⟨.refl vacant _, rfl⟩
  | false =>
      obtain ⟨item, message⟩ := Option.isSome_iff_exists.mp (unsent running)
      simp only [message, Bool.false_eq_true, if_false]
      refine wp_attemptPush clear found message ?_ ?_ ?_
      · intro shut
        simp only [rejects ▸ shut, if_true]
        exact failed_refines clear vacant found unanswered item
      · intro flavor accepts room contents capacity
        simp only [rejects ▸ accepts, isFull_eq vacant ▸ room, Bool.false_eq_true, if_false]
        exact pushed_refines clear vacant found unanswered contents capacity
      · intro accepts full
        simp only [rejects ▸ accepts, isFull_eq vacant ▸ full, Bool.false_eq_true,
          if_false, if_true]
        exact park_refines clear vacant found waker accepts full message

end Send

/-- Closing an open channel wakes both halves. -/
theorem close_refines (isOpen : channel.state.chan.closed = false) :
    Refines limit (ideal channel).close (fun _ => .bool true) close channel := by
  simp only [Refines, close, Prog.wp_bind, wp_getChan, wp_modifyChan, isOpen, Prog.wp_ite,
    Bool.false_eq_true, if_false, wp_emit, Prog.wp_attempt]
  rw [wp_wakeReceivers_inert (by exact clear), wp_wakeSenders_inert (by exact clear)]
  refine ⟨⟨?_, vacant, id, by rintro _ _ _ ⟨⟩, ?_, ?_⟩, rfl⟩
  · simp [ideal, Ideal.close, Ideal.wakeSenders, Event.wokeSender?, Chan.contents, State.onChan,
      Chan.setWakers]
  · simp [Event.wokeReceiver?, Signal.woken, State.onChan, Ideal.close, waiters]
  · simp [Event.answer?]

/-- Closing from a sender answers as on the ideal channel. -/
theorem closeSender_refines :
    Refines limit (if (ideal channel).rejecting then ⟨.bool false, .keeps, ideal channel⟩
      else (ideal channel).close) .bool Sender.close channel := by
  have rejects : channel.state.chan.rejecting = (ideal channel).rejecting := by
    simp [Chan.rejecting, Ideal.rejecting, ideal]
  simp only [Refines, Sender.close, Sender.isClosed, Prog.wp_bind, wp_getChan, Prog.wp_ite, rejects,
    Prog.wp_pure]
  cases shut : (ideal channel).rejecting with
  | true => exact ⟨.refl vacant _, rfl⟩
  | false =>
      refine close_refines clear vacant ?_
      rw [Ideal.rejecting, Bool.or_eq_false_iff] at shut
      exact shut.2

/-- Closing from a receiver answers as on the ideal channel. -/
theorem closeReceiver_refines :
    Refines limit (if (ideal channel).disconnected then ⟨.bool false, .keeps, ideal channel⟩
      else (ideal channel).close) .bool Receiver.close channel := by
  have ends : channel.state.chan.disconnected = (ideal channel).disconnected := rfl
  simp only [Refines, Receiver.close, Receiver.isClosed, Prog.wp_bind, wp_getChan,
    Prog.wp_ite, ends, Prog.wp_pure]
  cases shut : (ideal channel).disconnected with
  | true => exact ⟨.refl vacant _, rfl⟩
  | false =>
      refine close_refines clear vacant ?_
      rw [Ideal.disconnected, Bool.or_eq_false_iff] at shut
      exact shut.2

/-! ### Handles and futures -/

omit clear in
/-- A clone of a sender is one of the ideal channel. -/
theorem cloneSender_refines (sender : Nat) :
    Refines limit ((ideal channel).step (.cloneSender sender)) .handle Sender.clone channel := by
  simp only [Refines, Sender.clone, freshId, Prog.wp_bind, wp_modifyChan, wp_getState,
    wp_modifyState, Prog.wp_pure]
  exact ⟨⟨rfl, vacant, id, fun _ covered => covered, (List.append_nil _).symm, rfl⟩, rfl⟩

omit clear vacant in
/-- The events that free the channel mean nothing to the tasks. -/
theorem freeing_silent {project : Event (Op α) (Result α) α → Option β}
    (freed : ∀ held, project (.freed held) = none)
    (item : ∀ item, project (.called (.dropItem item)) = none)
    (waker : ∀ waker, project (.called (.dropWaker waker)) = none) :
    (if channel.state.strong - 1 = 0 then freeing channel.state.chan else []).filterMap project =
      [] := by
  split
  · simp [freeing, disposals, freed, item, waker, Function.comp_def]
  · rfl

omit clear in
/-- A share in the channel is released, and the channel freed with the last one. -/
theorem releaseChan_refines :
    Refines limit ⟨.unit, .keeps, { ideal channel with strong := (ideal channel).strong - 1 }⟩
      (fun _ => .unit) releaseChan channel := by
  rw [Refines, wp_releaseChan_inert]
  refine ⟨⟨?_, vacant, id, fun _ covered => covered, ?_, ?_⟩, rfl⟩
  · simp only [ideal, wokeSenders_toldAll]
    rw [freeing_silent (fun _ => rfl) (fun _ => rfl) fun _ => rfl, List.append_nil]
    rfl
  · rw [wokeReceivers_toldAll, freeing_silent (fun _ => rfl) (fun _ => rfl) fun _ => rfl]
    rfl
  · rw [answers_toldAll, freeing_silent (fun _ => rfl) (fun _ => rfl) fun _ => rfl, List.append_nil]
    rfl

omit clear vacant in
/-- A share is released at the end of a turn. -/
theorem releaseChan_tracks {turn : Turn α} {middle : Channel α} (signal : Signal) (next : Ideal α)
    (same : turn = ⟨.unit, signal, { next with strong := next.strong - 1 }⟩)
    (first : Tracks ⟨.unit, signal, next⟩ channel middle) :
    (releaseChan : M α Unit).wp (.inert limit)
      (fun _ after => Tracks turn channel after ∧ id (.unit : Result α) = turn.result)
      (fun _ _ => False) middle := by
  subst same
  refine Prog.wp_mono (releaseChan_refines first.vacant) ?_ fun _ _ => id
  rintro _ after ⟨later, -⟩
  rw [first.ideal] at later
  exact ⟨first.before later, rfl⟩

/-- The drop of a sender is that of the ideal channel. -/
theorem dropSender_refines (sender : Nat) :
    Refines limit ((ideal channel).step (.dropSender sender)) id (body (.dropSender sender))
      channel := by
  simp only [Refines, body, Prog.wp_bind, wp_modifyState, Prog.wp_ensuring, Sender.drop, wp_getChan,
    wp_modifyChan, Prog.wp_ite, Prog.wp_pure, Ideal.step]
  have same : (ideal channel).senderCount = channel.state.chan.senders := rfl
  cases last : channel.state.chan.senders == 1 with
  | true =>
      simp only [World.onState_state, same, last, if_true]
      rw [wp_wakeReceivers_inert (by exact clear)]
      refine releaseChan_tracks .wakes { ideal channel with
        senderCount := (ideal channel).senderCount - 1
        senders := (ideal channel).senders.erase sender } rfl
        ⟨?_, vacant, id, by rintro _ _ _ ⟨⟩, ?_, ?_⟩
      · simp [ideal, Chan.contents, State.onChan, Chan.setWakers]
      · simp [Signal.woken, State.onChan, waiters]
      · simp
  | false =>
      simp only [World.onState_state, same, last, Bool.false_eq_true, if_false]
      exact releaseChan_tracks .keeps { ideal channel with
        senderCount := (ideal channel).senderCount - 1
        senders := (ideal channel).senders.erase sender } rfl
        ⟨rfl, vacant, id, fun _ covered => covered, (List.append_nil _).symm, rfl⟩

omit clear in
/-- A new send future is one of the ideal channel. -/
theorem send_refines (sender : Nat) (item : α) :
    Refines limit ((ideal channel).step (.send sender item)) id
      (body (.send sender item)) channel := by
  simp only [Refines, body, freshId, Prog.wp_bind, wp_getState, wp_modifyState, Prog.wp_pure]
  exact ⟨⟨rfl, vacant, id, fun _ covered => covered, (List.append_nil _).symm, rfl⟩, rfl⟩

omit clear in
/-- A new receive future is one of the ideal channel. -/
theorem recv_refines (receiver : Nat) :
    Refines limit ((ideal channel).step (.recv receiver)) id (body (.recv receiver)) channel := by
  simp only [Refines, body, freshId, Prog.wp_bind, wp_getState, wp_modifyState, Prog.wp_pure]
  refine ⟨⟨?_, vacant, ?_, fun _ covered => covered, (List.append_nil _).symm, rfl⟩, rfl⟩
  · simp only [ideal, Ideal.step, World.onState]
    congr 1
    funext key
    by_cases same : key = channel.state.fresh
    · subst same
      simp
    · simp [same]
  · intro tidy key this found done
    by_cases same : key = channel.state.fresh
    · subst same
      obtain rfl : ⟨receiver, false, none⟩ = this := by simpa using found
      rfl
    · exact tidy key this (by simpa [same] using found) done

/-- The drop of a send future is that of the ideal channel. -/
theorem dropSend_refines {future : Nat} {this : Send α}
    (found : channel.state.sends future = some this) :
    Refines limit ((ideal channel).step (.dropSend future)) id
      (body (.dropSend future)) channel := by
  have same : (ideal channel).sends future = some this := found
  simp only [Refines, body, Prog.wp_bind, wp_getState, found, wp_modifyState, wp_holding,
    SendFuture.drop, dropGlue, Prog.wp_ensuring, Prog.wp_pure, Ideal.step, Ideal.dropSend, same]
  rw [wp_removeSend_inert (by exact clear)]
  simp only [wp_dropItems_inert]
  refine ⟨⟨?_, vacant, id, fun _ covered => covered, ?_, ?_⟩, rfl⟩
  · simp [ideal, Chan.contents, State.onChan, Event.wokeSender?, Function.comp_def, Chan.setWakers]
  · simp [Event.wokeReceiver?, Signal.woken, Function.comp_def]
  · simp [Event.answer?, Function.comp_def]

/-- A completed receive future holds no registration to give up. -/
theorem dropRecv_refines {future : Nat} {this : Recv} (tidy : Tidy channel.state)
    (found : channel.state.recvs future = some this) :
    Refines limit ((ideal channel).step (.dropRecv future)) id
      (body (.dropRecv future)) channel := by
  have same : (ideal channel).recvs future =
      some (this.receiver, this.done) := by simp [ideal, found]
  have removed : (fun key => (Function.update channel.state.recvs future none key).map
      fun this => (this.receiver, this.done)) =
      Function.update (ideal channel).recvs future none := by
    funext key
    by_cases same : key = future
    · subst same
      simp
    · simp [same, ideal]
  have tidy' : ∀ key this, Function.update channel.state.recvs future none key = some this →
      this.done = true → this.wakerId = none := by
    intro key this present
    by_cases same : key = future
    · subst same
      simp at present
    · exact tidy key this (by simpa [same] using present)
  simp only [Refines, body, Prog.wp_bind, wp_getState, found, wp_modifyState, wp_holding,
    RecvFuture.drop, Prog.wp_pure, Ideal.step, Ideal.dropRecv, same, Option.any_some]
  rw [wp_removeRecv_inert (by exact clear)]
  cases done : this.done with
  | true =>
      have none : this.wakerId = none := tidy future this found done
      simp only [none, withdrawn, dismissed]
      refine ⟨⟨?_, vacant, fun _ => tidy', fun _ covered => covered,
        (List.append_nil _).symm, rfl⟩, rfl⟩
      simp only [← removed]
      rfl
  | false =>
      refine ⟨⟨?_, vacant, fun _ => tidy', by rintro _ _ _ ⟨⟩, ?_, ?_⟩, rfl⟩
      · simp only [← removed]
        simp [ideal, State.onChan, Chan.contents, Chan.setWakers]
      · simp [Signal.woken]
      · simp

omit clear in
/-- The stream of a new receiver is not registered. -/
theorem cloneReceiver_refines (receiver : Nat) :
    Refines limit ((ideal channel).step (.cloneReceiver receiver)) .handle
      Receiver.clone channel := by
  simp only [Refines, Receiver.clone, freshId, Prog.wp_bind, wp_modifyChan, wp_getState,
    wp_modifyState, Prog.wp_pure]
  exact ⟨⟨rfl, vacant, id, fun _ covered => covered, (List.append_nil _).symm, rfl⟩, rfl⟩

/-- The last receiver drains the queue, after the senders are woken. -/
theorem dropLast_refines {receiver : Nat} (last : channel.state.chan.receivers = 1)
    (enough : channel.state.chan.contents.length < limit) :
    Refines limit ((ideal channel).step (.dropReceiver receiver)) id (body (.dropReceiver receiver))
      channel := by
  have last' : (ideal channel).receiverCount = 1 := last
  simp only [Refines, body, Prog.wp_bind, wp_modifyState, Prog.wp_ensuring,
    Receiver.drop, wp_getChan,
    wp_modifyChan, Prog.wp_ite, wp_emit, Prog.wp_pure, wp_takeWakerId, Receiver.cleanup]
  split
  · beta_reduce
    rw [wp_wakeSenders_inert (by exact clear)]
    refine wp_drain_inert (by exact clear) (by exact vacant) (by exact enough)
      fun flavor empty capacity => ?_
    rw [wp_removeRecv_inert (by exact clear)]
    have kept : flavor.cap = channel.state.chan.flavor.cap := capacity
    refine releaseChan_tracks .forgets
      { ideal channel with
        items := []
        receiverCount := 0
        receivers := (ideal channel).receivers.erase receiver }.wakeSenders
      (by simp [Ideal.step, Ideal.dropReceiver, Ideal.wakeSenders, last'])
      ⟨?_, rfl, id, by rintro _ _ _ ⟨⟩, ?_, ?_⟩
    · simp [ideal, Ideal.wakeSenders, Chan.contents, State.onChan, Event.wokeSender?, empty, kept,
        State.setWakerId, Chan.setWakers, last]
    · simp [Event.wokeReceiver?, Signal.woken]
    · simp [Event.answer?]
  · rename_i other
    have only : (channel.state.chan.receivers == 1) = true := by rw [last]; rfl
    exact absurd only other

/-- A receiver that is not the last one only gives up its registration. -/
theorem dropOther_refines {receiver : Nat} (more : (channel.state.chan.receivers == 1) = false) :
    Refines limit ((ideal channel).step (.dropReceiver receiver)) id (body (.dropReceiver receiver))
      channel := by
  have more' : ((ideal channel).receiverCount == 1) = false := more
  simp only [Refines, body, Prog.wp_bind, wp_modifyState, Prog.wp_ensuring,
    Receiver.drop, wp_getChan,
    wp_modifyChan, Prog.wp_ite, Prog.wp_pure]
  split
  · rename_i last
    cases more.symm.trans last
  · rw [wp_removeOwn_inert (by exact clear)]
    refine releaseChan_tracks .forgets { ideal channel with
        receiverCount := (ideal channel).receiverCount - 1
        receivers := (ideal channel).receivers.erase receiver }
      (by simp [Ideal.step, Ideal.dropReceiver, more']) ?_
    exact { unlisted_tracks (by exact vacant) rfl .unit with }

/-- The drop of a receiver is that of the ideal channel, given callbacks enough for every item. -/
theorem dropReceiver_refines (receiver : Nat)
    (enough : channel.state.chan.contents.length < limit) :
    Refines limit ((ideal channel).step (.dropReceiver receiver)) id (body (.dropReceiver receiver))
      channel := by
  cases single : channel.state.chan.receivers == 1 with
  | true => exact dropLast_refines clear vacant (by simpa using single) enough
  | false => exact dropOther_refines clear vacant single

end Functions

/-! ### Every operation -/

/-- A channel on which no operation is in progress and none has unwound. -/
structure AtRest (channel : Channel α) : Prop where
  held : channel.held = []
  receivers : channel.state.chan.receivers = channel.state.receivers.length
  recv : ∀ future this, channel.state.recvs future = some this →
    this.receiver ∈ channel.state.receivers
  unsent : ∀ future this, channel.state.sends future = some this → this.done = false →
    this.item.isSome = true
  unanswered : (ideal channel).Settled
  vacant : channel.state.chan.redelivery = none
  tidy : Tidy channel.state

/-- What the invariant says of an undisturbed channel is what a refinement starts from. -/
theorem Inv.atRest {manners : Manners} (inv : Inv manners channel)
    (unanswered : (ideal channel).Settled) (vacant : channel.state.chan.redelivery = none)
    (tidy : Tidy channel.state) : AtRest channel where
  held := inv.core.held
  receivers := inv.core.handles.receivers
  recv future this found := (inv.core.handles.recv future this found).1
  unsent future this found running := (inv.core.futures.unsent future this found running).1
  unanswered := unanswered
  vacant := vacant
  tidy := tidy

/-- At rest, a channel with a receiver counts one. -/
theorem AtRest.alive (rests : AtRest channel) {receiver : Nat}
    (member : receiver ∈ channel.state.receivers) : channel.state.chan.receivers ≠ 0 := by
  rw [rests.receivers]
  exact Nat.ne_of_gt (List.length_pos_of_mem member)

/-- Every operation but `is_terminated` refines that of the ideal channel. -/
theorem body_refines (rests : AtRest channel) {op : Op α} (legal : channel.state.Legal op)
    (permitted : (ideal channel).Permitted op)
    (enough : channel.state.chan.contents.length < limit) :
    (body op).wp (.inert limit)
    (fun result after => Tracks ((ideal channel).step op) channel after ∧
        (op.isShared = true → result = ((ideal channel).step op).result))
      (fun _ _ => False) channel := by
  have clear := rests.held
  have vacant := rests.vacant
  have granted : 0 < limit := Nat.zero_lt_of_lt enough
  have answers : ∀ {turn : Turn α} {prog : M α (Result α)}, Refines limit turn id prog channel →
      prog.wp (.inert limit) (fun result after => Tracks turn channel after ∧
        (op.isShared = true → result = turn.result)) (fun _ _ => False) channel := by
    intro turn prog refines
    refine Prog.wp_mono refines ?_ fun _ _ => id
    rintro result after ⟨tracks, answer⟩
    exact ⟨tracks, fun _ => answer⟩
  cases op with
  | trySend sender item =>
      exact answers (trySend_refines (by exact clear) (by exact vacant) item).holding.body
  | cloneSender sender => exact answers (cloneSender_refines vacant sender).body
  | dropSender sender => exact answers (dropSender_refines clear vacant sender)
  | closeSender sender =>
      exact answers (closeSender_refines (by exact clear) (by exact vacant)).holding.body
  | senderCapacity sender =>
      simp only [body, Prog.wp_bind]
      rw [wp_cap clear]
      exact ⟨.refl vacant _, fun _ => rfl⟩
  | senderLen sender | receiverLen receiver =>
      simp only [body, Prog.wp_bind]
      rw [wp_len clear]
      exact ⟨.refl vacant _, fun _ => rfl⟩
  | senderIsEmpty sender | receiverIsEmpty receiver =>
      simp only [body, Prog.wp_bind]
      rw [wp_isEmpty clear]
      exact ⟨.refl vacant _, fun _ => rfl⟩
  | senderIsFull sender =>
      simp only [body, Prog.wp_bind]
      rw [wp_isFull clear, isFull_eq vacant]
      exact ⟨.refl vacant _, fun _ => rfl⟩
  | senderIsClosed sender =>
      refine ⟨.refl vacant _, fun _ => congrArg Result.bool ?_⟩
      simp [Chan.rejecting, Ideal.rejecting, ideal]
  | receiverIsClosed receiver => exact ⟨.refl vacant _, fun _ => rfl⟩
  | send sender item => exact answers (send_refines vacant sender item)
  | pollSend future waker =>
      obtain ⟨this, found⟩ := Option.isSome_iff_exists.mp legal.1
      exact answers (Refines.holding (pollSend_refines (by exact clear) (by exact vacant)
        (by exact found) (rests.unanswered future this found) (rests.unsent future this found)
        waker)).body
  | sendIsTerminated future =>
      obtain ⟨this, found⟩ := Option.isSome_iff_exists.mp legal.1
      simp only [body, SendFuture.isTerminated, Prog.wp_bind, wp_getState, found]
      exact ⟨.refl vacant _, by rintro ⟨⟩⟩
  | dropSend future =>
      obtain ⟨this, found⟩ := Option.isSome_iff_exists.mp legal.1
      exact answers (dropSend_refines clear vacant found)
  | tryRecv receiver =>
      exact answers (tryRecv_refines (by exact clear) (by exact vacant) granted).holding.body
  | tryIterNext receiver =>
      exact answers (tryIterNext_refines (by exact clear) (by exact vacant) granted).holding.body
  | pollNext receiver waker =>
      exact answers (Refines.holding (pollNext_refines (by exact clear) (by exact vacant) granted
        (by exact rests.alive legal.1) receiver waker)).body
  | cloneReceiver receiver => exact answers (cloneReceiver_refines vacant receiver).body
  | dropReceiver receiver => exact answers (dropReceiver_refines clear vacant receiver enough)
  | closeReceiver receiver =>
      exact answers (closeReceiver_refines (by exact clear) (by exact vacant)).holding.body
  | streamIsTerminated receiver =>
      simp only [body, Receiver.isTerminated, Prog.wp_bind, wp_getState, Prog.wp_ite]
      split
      · rw [wp_isEmpty clear]
        exact ⟨.refl vacant _, by rintro ⟨⟩⟩
      · exact ⟨.refl vacant _, by rintro ⟨⟩⟩
  | recv receiver => exact answers (recv_refines vacant receiver)
  | pollRecv future waker =>
      obtain ⟨this, found⟩ := Option.isSome_iff_exists.mp legal.1
      have running : this.done = false := by
        obtain ⟨receiver, pending⟩ := permitted
        simp only [ideal, found, Option.map_some, Option.some.injEq, Prod.mk.injEq] at pending
        exact pending.2
      exact answers (Refines.holding (pollRecvFuture_refines (by exact clear) (by exact vacant)
        granted (by exact rests.alive (rests.recv future this found)) (by exact found) running
        waker)).body
  | recvIsTerminated future =>
      obtain ⟨this, found⟩ := Option.isSome_iff_exists.mp legal.1
      simp only [body, RecvFuture.isTerminated, Prog.wp_bind, wp_getState, found]
      exact ⟨.refl vacant _, by rintro ⟨⟩⟩
  | dropRecv future =>
      obtain ⟨this, found⟩ := Option.isSome_iff_exists.mp legal.1
      exact answers (dropRecv_refines clear vacant rests.tidy found)

/-- The channel has performed an operation, and its registry has followed the signal. -/
structure Performed (op : Op α) (before after : Channel α) : Prop where
  ideal : ideal after = ((ideal before).step op).next
  vacant : after.state.chan.redelivery = none
  tidy : Tidy before.state → Tidy after.state
  waits : ∀ slot : Option Waker, (∀ waker ∈ slot, waker ∈ waiters before) →
    ∀ waker ∈ ((Mpmc.ideal before).step op).signal.slot slot, waker ∈ waiters after
  woken : wokeReceivers after.log = wokeReceivers before.log ++
    ((Mpmc.ideal before).step op).signal.woken (waiters before)
  answers : answers after.log = answers before.log ++ ((Mpmc.ideal before).step op).answers op

/-- Performed from rest, every legal operation is tracked by the ideal channel. -/
theorem perform_refines (rests : AtRest channel) {op : Op α} (legal : channel.state.Legal op)
    (permitted : (ideal channel).Permitted op)
    (enough : channel.state.chan.contents.length < limit) :
    (perform op).wp (.inert limit) (fun _ after => Performed op channel after) (fun _ _ => False)
      channel := by
  have began : ideal (channel.logged (.began op)) = ideal channel := by
    simp [ideal, Event.wokeSender?]
  have rests' : AtRest (channel.logged (.began op)) :=
    { rests with unanswered := began ▸ rests.unanswered }
  rw [wp_perform]
  refine Prog.wp_mono (body_refines rests' legal (began ▸ permitted) enough) ?_ fun _ _ => id
  rintro result after ⟨tracks, answer⟩
  rw [began] at tracks answer
  refine ⟨?_, tracks.vacant, tracks.tidy, tracks.waits, ?_, ?_⟩
  · rw [← tracks.ideal]
    simp [ideal, Event.wokeSender?]
  · simp [tracks.woken, Event.wokeReceiver?, waiters]
  · simp only [World.logged_log, answers_cons, tracks.answers, Turn.answers, Event.answer?]
    cases shared : op.isShared with
    | true => simp [answer shared]
    | false => simp

/-! ### Operations in turn -/

/-- What is permitted, the borrow checker lets user code do to the channel. -/
theorem legal_of_permitted (unused : channel.state.uses = []) {op : Op α}
    (permitted : (ideal channel).Permitted op) : channel.state.Legal op := by
  have free : ∀ ref, ref ∉ channel.state.uses := by
    rw [unused]
    rintro ref ⟨⟩
  have send : ∀ {future}, ((ideal channel).sends future).isSome → channel.state.SendOwned future :=
    fun live => ⟨live, free _⟩
  have recv : ∀ {future}, ((ideal channel).recvs future).isSome → channel.state.RecvOwned future :=
    fun live => ⟨by simpa [ideal] using live, free _⟩
  have idle : ∀ {receiver}, (ideal channel).Unborrowed receiver →
      channel.state.receiverBorrowed receiver = false := by
    intro receiver idle
    simp only [State.receiverBorrowed, List.any_eq_false, Option.any_eq_true, not_exists, not_and,
      beq_iff_eq]
    intro future _ this found
    exact idle future (this.receiver, this.done) (by simp [ideal, found])
  cases op with
  | dropSender sender =>
      refine ⟨permitted.1, free _, ?_⟩
      simp only [State.senderBorrowed, List.any_eq_false, Option.any_eq_true, not_exists, not_and,
        beq_iff_eq]
      exact fun future _ this found => permitted.2 future this found
  | pollSend future waker | sendIsTerminated future | dropSend future => exact send permitted
  | pollNext receiver waker | dropReceiver receiver =>
      exact ⟨permitted.1, free _, free _, idle permitted.2⟩
  | tryRecv receiver | tryIterNext receiver | recv receiver | closeReceiver receiver
  | receiverLen receiver | receiverIsEmpty receiver | receiverIsClosed receiver
  | streamIsTerminated receiver | cloneReceiver receiver => exact ⟨permitted, free _⟩
  | pollRecv future waker =>
      obtain ⟨receiver, found⟩ := permitted
      exact recv (by rw [found]; rfl)
  | recvIsTerminated future | dropRecv future => exact recv permitted
  | _ => exact permitted

/-- No receive future is polled once it has completed. -/
def fused : Policy (Channel α) (Callback α) Panic (Op α) where
  call channel op := ∀ future waker, op = .pollRecv future waker → ∀ this,
    channel.state.recvs future = some this → this.done = false
  resume _ _ _ _ := True
  patience := 0

/-- What the ideal channel permits polls no completed receive. -/
theorem fused_of_permitted {op : Op α} (permitted : (ideal channel).Permitted op) :
    fused.call channel op := by
  rintro future waker rfl this found
  obtain ⟨receiver, pending⟩ := permitted
  simp only [ideal, found, Option.map_some, Option.some.injEq, Prod.mk.injEq] at pending
  exact pending.2

/-- What the borrow checker lets user code do to the channel is permitted, if no receive future is
polled once it has completed. -/
theorem permitted_of_legal {manners : Manners} (inv : Inv manners channel) {op : Op α}
    (legal : channel.state.Legal op) (allowed : fused.call channel op) :
    (ideal channel).Permitted op := by
  have idle : ∀ {receiver}, channel.state.receiverBorrowed receiver = false →
      (ideal channel).Unborrowed receiver := by
    intro receiver unborrowed future this found
    obtain ⟨recv, present, rfl⟩ := Option.map_eq_some_iff.mp found
    simp only [State.receiverBorrowed, List.any_eq_false, Option.any_eq_true, not_exists, not_and,
      beq_iff_eq, List.mem_range] at unborrowed
    exact unborrowed future (inv.core.handles.recv future recv present).2 recv present
  cases op with
  | dropSender sender =>
      refine ⟨legal.1, fun future this found => ?_⟩
      have unborrowed := legal.2.2
      simp only [State.senderBorrowed, List.any_eq_false, Option.any_eq_true, not_exists, not_and,
        beq_iff_eq, List.mem_range] at unborrowed
      exact unborrowed future (inv.core.handles.send future this found).2 this found
  | pollSend future waker | sendIsTerminated future | dropSend future => exact legal.1
  | pollNext receiver waker | dropReceiver receiver => exact ⟨legal.1, idle legal.2.2.2⟩
  | tryRecv receiver | tryIterNext receiver | recv receiver | closeReceiver receiver
  | receiverLen receiver | receiverIsEmpty receiver | receiverIsClosed receiver
  | streamIsTerminated receiver | cloneReceiver receiver => exact legal.1
  | pollRecv future waker =>
      obtain ⟨this, found⟩ := Option.isSome_iff_exists.mp legal.1
      refine ⟨this.receiver, ?_⟩
      simp [ideal, found, allowed future waker rfl this found]
  | recvIsTerminated future | dropRecv future => simpa [ideal, Ideal.Permitted] using legal.1
  | _ => exact legal

/-- What is kept while the channel serves operations, with some to come. -/
structure Serving (fresh : Channel α) (limit left : Nat) (channel : Channel α) : Prop where
  runs : Runs .any fresh (.user channel [])
  unanswered : (ideal channel).Settled
  vacant : channel.state.chan.redelivery = none
  tidy : Tidy channel.state
  enough : channel.state.chan.contents.length + left ≤ limit

/-- A new channel serves before its first operation. -/
theorem Serving.initial {fresh : Channel α} (new : New fresh) {left : Nat}
    (granted : left ≤ limit) :
    Serving fresh limit left fresh := by
  have vacant : fresh.state.chan.redelivery = none := by cases new <;> rfl
  have empty : fresh.state.chan.contents = [] := by
    rw [Chan.contents, vacant, Option.toList_none, List.nil_append]
    cases new with
    | bounded cap positive => exact Flavor.mkBounded_toList positive
    | unbounded => exact Flavor.mkUnbounded_toList
  refine ⟨.start, ?_, vacant, ?_, by simpa [empty] using granted⟩
  · cases new <;> rintro _ _ ⟨⟩
  · cases new <;> rintro _ _ ⟨⟩

/-- A permitted operation is served. -/
theorem Serving.served {fresh : Channel α} (new : New fresh) {left : Nat} {op : Op α}
    (serving : Serving fresh limit (left + 1) channel) (permitted : (ideal channel).Permitted op) :
    ∃ after, System.Served (system α) fused limit op channel after ∧
      Serving fresh limit left after ∧ Performed op channel after := by
  have inv : Inv .none channel := serving.runs.inv .none new
  have unused : channel.state.uses = [] :=
    (serving.runs.quiescent .none new).evolves.uses.trans new.uses
  have legal := legal_of_permitted unused permitted
  have enough : channel.state.chan.contents.length < limit :=
    Nat.lt_of_lt_of_le (Nat.lt_add_of_pos_right (Nat.succ_pos left)) serving.enough
  have rests := inv.atRest serving.unanswered serving.vacant serving.tidy
  have performs : ∃ after, System.Served (system α) fused limit op channel after ∧
      Performed op channel after :=
    System.Served.of_wp legal (fused_of_permitted permitted)
      (perform_refines rests legal permitted enough)
  obtain ⟨after, served, performed⟩ := performs
  have anyway : System.Served (system α) .any limit op channel after :=
    { served with allowed := trivial }
  have items : after.state.chan.contents = ((ideal channel).step op).next.items :=
    congrArg Ideal.items performed.ideal
  refine ⟨after, served, ⟨?_, ?_, performed.vacant, performed.tidy serving.tidy, ?_⟩, performed⟩
  · exact anyway.reachable (fun _ _ _ => trivial) (Nat.zero_le _) serving.runs
  · rw [performed.ideal]
    exact serving.unanswered.step
  · have grows : after.state.chan.contents.length ≤ channel.state.chan.contents.length + 1 :=
      items ▸ Ideal.step_length
    have enough := serving.enough
    omega

/-- What is served is permitted. -/
theorem Serving.follows {fresh : Channel α} (new : New fresh) {left : Nat} {op : Op α}
    {after : Channel α} (serving : Serving fresh limit (left + 1) channel)
    (served : System.Served (system α) fused limit op channel after) :
    (ideal channel).Permitted op ∧ Serving fresh limit left after ∧ Performed op channel after := by
  have inv : Inv .none channel := serving.runs.inv .none new
  have permitted := permitted_of_legal inv served.legal served.allowed
  obtain ⟨_, again, serving', performed⟩ := serving.served new permitted
  obtain rfl := again.leaves.symm.trans served.leaves
  exact ⟨permitted, serving', performed⟩

/-- What is kept between the channel and an ideal one that serve the same operations. -/
structure Matches (fresh : Channel α) (limit left : Nat) (channel : Channel α)
    (world : World (Ideal α) (Op α) (Result α) α) : Prop where
  serving : Serving fresh limit left channel
  agrees : Ideal.Agrees (ideal channel) channel.log world

section Matches

variable {fresh : Channel α} (new : New fresh) (left : Nat) (op : Op α)
include new

/-- A new channel matches the ideal one. -/
theorem Matches.initial (granted : left ≤ limit) :
    Matches fresh limit left fresh ⟨ideal fresh, [], []⟩ := by
  refine ⟨.initial new granted, rfl, ?_⟩
  cases new with
  | bounded cap positive => rfl
  | unbounded => rfl

/-- The ideal channel serves what the channel serves. -/
theorem Matches.forward (before after : Channel α) (world : World (Ideal α) (Op α) (Result α) α)
    (related : Matches fresh limit (left + 1) before world)
    (served : System.Served (system α) fused limit op before after) :
    ∃ next, System.Served (Ideal.system α) .any limit op world next ∧
      Matches fresh limit left after next := by
  obtain ⟨permitted, serving, performed⟩ := related.serving.follows new served
  rw [related.agrees.state] at permitted
  obtain ⟨next, served'⟩ : ∃ next, System.Served (Ideal.system α) .any limit op world next :=
    Ideal.serve limit permitted trivial
  exact ⟨next, served', serving, related.agrees.step served' performed.ideal performed.answers⟩

/-- The channel serves what the ideal channel serves. -/
theorem Matches.backward (before after : World (Ideal α) (Op α) (Result α) α) (channel : Channel α)
    (related : Matches fresh limit (left + 1) channel before)
    (served : System.Served (Ideal.system α) .any limit op before after) :
    ∃ next, System.Served (system α) fused limit op channel next ∧
      Matches fresh limit left next after := by
  have permitted : before.state.Permitted op := served.legal
  rw [← related.agrees.state] at permitted
  obtain ⟨next, served', serving, performed⟩ := related.serving.served new permitted
  exact ⟨next, served', serving, related.agrees.step served performed.ideal performed.answers⟩

end Matches

/-- As long as nothing that is called back does anything, an mpmc channel serves just what a queue
with parked senders serves, however often its receivers are cloned, with the same answers and the
same parked senders woken, and every operation returns. -/
theorem serves_as_shared_ideal {fresh : Channel α} (new : New fresh) (count : Nat) :
    Ideal.Realizes (system α) fused .any ideal fresh count := by
  constructor
  · intro ops channel granted serves
    obtain ⟨world, serves', related⟩ := serves.simulates (fun left => Matches fresh count left)
      (Matches.forward new) (.initial new _ granted)
    exact ⟨world, serves', related.agrees⟩
  · intro ops world granted serves
    obtain ⟨channel, serves', related⟩ := serves.simulates
      (fun left world channel => Matches fresh count left channel world)
      (Matches.backward new) (.initial new _ granted)
    exact ⟨channel, serves', related.agrees⟩
  · intro ops channel op granted serves legal allowed
    obtain ⟨_, -, related⟩ := serves.simulates (fun left => Matches fresh count (left + 1))
      (fun left => Matches.forward new (left + 1)) (.initial new _ granted)
    have inv : Inv .none channel := related.serving.runs.inv .none new
    obtain ⟨next, served, -⟩ :=
      related.serving.served new (permitted_of_legal inv legal allowed)
    exact ⟨next, served⟩

/-- A cloned receiver takes the item. -/
theorem serves_as_shared_ideal_cloned : ∃ channel : Channel Nat,
    System.Serves (system Nat) fused 3 [.cloneReceiver 1, .trySend 0 7, .tryRecv 2] unbounded
        channel ∧
      answers channel.log = [(.cloneReceiver 1, .handle 2), (.trySend 0 7, .trySend (.ok ())),
        (.tryRecv 2, .tryRecv (.ok 7))] := by
  have serves : ∃ world, System.Serves (Ideal.system Nat) .any 3
      [.cloneReceiver 1, .trySend 0 7, .tryRecv 2] ⟨ideal unbounded, [], []⟩ world ∧
      answers world.log = [(.cloneReceiver 1, .handle 2), (.trySend 0 7, .trySend (.ok ())),
        (.tryRecv 2, .tryRecv (.ok 7))] :=
    ⟨_, .cons ⟨.head _, trivial, rfl, rfl⟩ (.cons ⟨.head _, trivial, rfl, rfl⟩
      (.cons ⟨.head _, trivial, rfl, rfl⟩ .nil)), rfl⟩
  obtain ⟨world, serves, heard⟩ := serves
  obtain ⟨channel, serves', agrees⟩ :=
    (serves_as_shared_ideal .unbounded 3).backward (by decide) serves
  exact ⟨channel, serves', agrees.answers.trans heard⟩

end Lochan.Mpmc
