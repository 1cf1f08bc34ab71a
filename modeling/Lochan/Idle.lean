import Lochan.Mpsc.Refines
import Lochan.Mpmc.Refines

/-!
# Operations that come to nothing

A query, a refusal and a poll that returns pending leave no trace in what a channel answers
afterwards. So a future that is given up while it is pending might as well not have been polled.
-/

namespace Lochan

open Reentrant System

variable {α : Type}

/-- Whether the answer to an operation says that nothing was sent, received or changed. -/
def Op.isIdle : Op α → Result α → Bool
  | .senderCapacity _, _ | .senderLen _, _ | .senderIsEmpty _, _ | .senderIsFull _, _
  | .senderIsClosed _, _ | .receiverLen _, _ | .receiverIsEmpty _, _
  | .receiverIsClosed _, _ => true
  | .trySend _ _, .trySend (.error _) | .tryRecv _, .tryRecv (.error _)
  | .tryIterNext _, .next none => true
  | .closeSender _, .bool closes | .closeReceiver _, .bool closes => !closes
  | .pollNext _ _, .recv (.ready none) => true
  | .pollNext _ _, .recv .pending | .pollRecv _ _, .recv .pending
  | .pollSend _ _, .send .pending => true
  | _, _ => false

/-- The answers but for those that come to nothing. -/
def effective (answers : List (Op α × Result α)) : List (Op α × Result α) :=
  answers.filter fun answer => !answer.1.isIdle answer.2

namespace Ideal

variable {ideal other : Ideal α} {op : Op α} {ops : List (Op α)} {count : Nat}
  {policy : Policy (World (Ideal α) (Op α) (Result α) α) (Callback α) Panic (Op α)}
  {before after : World (Ideal α) (Op α) (Result α) α}

/-- The send futures without their registrations. -/
def unregistered (sends : Nat → Option (Send α)) (future : Nat) : Option (Send α) :=
  (sends future).map fun this => { this with wakerId := none }

/-- Two channels are alike if they differ in the registrations of the senders only. -/
inductive Alike (ideal : Ideal α) : Ideal α → Prop where
  | intro (parked : List (UInt64 × Waker)) (nextId : UInt64) (woken : List Waker)
      (sends : Nat → Option (Send α)) (same : unregistered sends = unregistered ideal.sends) :
      Alike ideal { ideal with parked, nextId, woken, sends }

/-- A channel is like itself. -/
theorem Alike.refl (ideal : Ideal α) : Alike ideal ideal := .intro _ _ _ _ rfl

/-- Futures alike but for their registrations stay so under like updates. -/
theorem unregistered_update {sends sends' : Nat → Option (Send α)}
    (same : unregistered sends = unregistered sends') {future : Nat} {send send' : Option (Send α)}
    (same' : send.map (fun this => { this with wakerId := none }) =
      send'.map fun this => { this with wakerId := none }) :
    unregistered (Function.update sends future send) =
      unregistered (Function.update sends' future send') := by
  funext key
  have same := congrFun same key
  unfold unregistered at same ⊢
  by_cases here : key = future
  · subst here
    simpa using same'
  · simpa [here] using same

/-- Completing a receive keeps channels alike. -/
theorem Alike.complete (alike : Alike ideal other) (future : Nat) :
    Alike (ideal.complete future) (other.complete future) := by
  obtain ⟨parked, nextId, woken, sends, same⟩ := alike
  exact .intro _ _ _ _ same

/-- A poll of the stream keeps channels alike. -/
theorem Alike.pollNext (alike : Alike ideal other) (waker : Waker) :
    Relates Alike (ideal.pollNext waker) (other.pollNext waker) := by
  obtain ⟨parked, nextId, woken, sends, same⟩ := alike
  obtain ⟨cap, items, senders, receivers, closed, rest⟩ := ideal
  simp only [Ideal.pollNext]
  cases items with
  | nil => exact .ite ⟨rfl, .intro _ _ _ _ same⟩ ⟨rfl, .intro _ _ _ _ same⟩
  | cons item rest => exact ⟨rfl, .intro _ _ _ _ same⟩

/-- A poll of a send keeps channels alike. -/
theorem Alike.pollSend (alike : Alike ideal other) (future : Nat) (waker : Waker) :
    Relates Alike (ideal.pollSend future waker) (other.pollSend future waker) := by
  obtain ⟨parked, nextId, woken, sends, same⟩ := alike
  have here := congrFun same future
  simp only [unregistered] at here
  simp only [Ideal.pollSend]
  cases found : ideal.sends future with
  | none =>
      rw [found, Option.map_none, Option.map_eq_none_iff] at here
      simp only [here]
      exact ⟨rfl, .intro _ _ _ _ same⟩
  | some this =>
      rw [found, Option.map_some, Option.map_eq_some_iff] at here
      obtain ⟨this', found', alike⟩ := here
      obtain ⟨sender, item, done, wakerId, outcome⟩ := this
      obtain ⟨sender', item', done', wakerId', outcome'⟩ := this'
      obtain ⟨rfl, rfl, rfl, -, rfl⟩ := Send.mk.inj alike
      simp only [found']
      cases done' with
      | true => exact ⟨rfl, .intro _ _ _ _ same⟩
      | false =>
          cases item' with
          | none => exact ⟨rfl, .intro _ _ _ _ same⟩
          | some item =>
              refine .ite ?_ (.ite ?_ ?_)
              · exact ⟨rfl, .intro _ _ _ _ (unregistered_update same rfl)⟩
              · exact ⟨rfl, .intro _ _ _ _ (unregistered_update same rfl)⟩
              · exact ⟨rfl, .intro _ _ _ _ (unregistered_update same rfl)⟩

/-- What an operation answers and does does not depend on the registrations. -/
theorem Alike.step (alike : Alike ideal other) (op : Op α) :
    Relates Alike (ideal.step op) (other.step op) := by
  have polled := alike.pollNext
  have sent := alike.pollSend
  obtain ⟨parked, nextId, woken, sends, same⟩ := alike
  cases op with
  | pollSend future waker => exact sent future waker
  | dropSend future =>
      have here := congrFun same future
      simp only [unregistered] at here
      simp only [Ideal.step, dropSend]
      cases found : ideal.sends future with
      | none =>
          rw [found, Option.map_none, Option.map_eq_none_iff] at here
          simp only [here]
          exact ⟨rfl, .intro _ _ _ _ same⟩
      | some this =>
          rw [found, Option.map_some, Option.map_eq_some_iff] at here
          obtain ⟨this', found', -⟩ := here
          simp only [found']
          exact ⟨rfl, .intro _ _ _ _ (unregistered_update same rfl)⟩
  | send sender item => exact ⟨rfl, .intro _ _ _ _ (unregistered_update same rfl)⟩
  | trySend sender item =>
      exact .ite ⟨rfl, .intro _ _ _ _ same⟩
        (.ite ⟨rfl, .intro _ _ _ _ same⟩ ⟨rfl, .intro _ _ _ _ same⟩)
  | pollNext receiver waker => exact polled waker
  | pollRecv future waker =>
      obtain ⟨result, next⟩ := polled waker
      simp only [Ideal.step, Ideal.pollRecv, result]
      split
      · exact ⟨rfl, next.complete future⟩
      · exact ⟨result, next⟩
  | tryRecv receiver =>
      obtain ⟨cap, items, senders, receivers, closed, rest⟩ := ideal
      simp only [Ideal.step, tryRecv]
      cases items with
      | nil => exact ⟨rfl, .intro _ _ _ _ same⟩
      | cons item rest => exact ⟨rfl, .intro _ _ _ _ same⟩
  | tryIterNext receiver =>
      obtain ⟨cap, items, senders, receivers, closed, rest⟩ := ideal
      simp only [Ideal.step, tryIterNext]
      cases items with
      | nil => exact ⟨rfl, .intro _ _ _ _ same⟩
      | cons item rest => exact ⟨rfl, .intro _ _ _ _ same⟩
  | dropReceiver receiver =>
      refine ⟨rfl, ?_⟩
      simp only [Ideal.step, dropReceiver]
      split
      · exact .intro _ _ _ _ same
      · exact .intro _ _ _ _ same
  | closeSender sender =>
      exact .ite ⟨rfl, .intro _ _ _ _ same⟩ ⟨rfl, .intro _ _ _ _ same⟩
  | closeReceiver receiver =>
      exact .ite ⟨rfl, .intro _ _ _ _ same⟩ ⟨rfl, .intro _ _ _ _ same⟩
  | _ => exact ⟨rfl, .intro _ _ _ _ same⟩

/-- If a channel is like another, then the other is like it. -/
theorem Alike.symm (alike : Alike ideal other) : Alike other ideal := by
  obtain ⟨parked, nextId, woken, sends, same⟩ := alike
  exact .intro _ _ _ _ same.symm

/-- Channels like one and the same are like each other. -/
theorem Alike.trans {third : Ideal α} (alike : Alike ideal other) (alike' : Alike other third) :
    Alike ideal third := by
  obtain ⟨parked, nextId, woken, sends, same⟩ := alike
  obtain ⟨parked', nextId', woken', sends', same'⟩ := alike'
  exact .intro _ _ _ _ (same'.trans same)

/-- What is found in a channel is found in one like it. -/
theorem Alike.found (alike : Alike ideal other) {future : Nat} {this : Send α}
    (found : ideal.sends future = some this) :
    ∃ this', other.sends future = some this' ∧ this'.sender = this.sender := by
  obtain ⟨parked, nextId, woken, sends, same⟩ := alike
  have here := congrFun same future
  simp only [unregistered, found, Option.map_some, Option.map_eq_some_iff] at here
  obtain ⟨this', found', same⟩ := here
  exact ⟨this', found', (Send.mk.inj same).1⟩

/-- User code may do the same to channels that are alike. -/
theorem Alike.permitted (alike : Alike ideal other) (permitted : ideal.Permitted op) :
    other.Permitted op := by
  have live : ∀ {future}, (ideal.sends future).isSome → (other.sends future).isSome := by
    intro future live
    obtain ⟨this, found⟩ := Option.isSome_iff_exists.mp live
    obtain ⟨this', found', -⟩ := alike.found found
    rw [found']
    rfl
  have borrows : ∀ {future this}, other.sends future = some this →
      ∃ this', ideal.sends future = some this' ∧ this'.sender = this.sender := alike.symm.found
  obtain ⟨parked, nextId, woken, sends, same⟩ := alike
  cases op with
  | dropSender sender =>
      refine ⟨permitted.1, fun future this found => ?_⟩
      obtain ⟨this', found', same⟩ := borrows found
      exact same ▸ permitted.2 future this' found'
  | pollSend future waker | sendIsTerminated future | dropSend future => exact live permitted
  | _ => exact permitted

/-- Channels that are alike may be used exclusively at the same times. -/
theorem Alike.exclusive (alike : Alike ideal other) (exclusive : ideal.Exclusive op) :
    other.Exclusive op := by
  obtain ⟨parked, nextId, woken, sends, same⟩ := alike
  cases op <;> exact exclusive

/-- A poll of the stream that returns nothing leaves the channel as it was. -/
theorem pollNext_idle (receiver : Nat) {waker : Waker}
    (idle : (Op.pollNext receiver waker).isIdle (ideal.pollNext waker).result = true) :
    (ideal.pollNext waker).next = ideal := by
  unfold Ideal.pollNext at idle ⊢
  cases items : ideal.items with
  | cons item rest => simp [items, Op.isIdle] at idle
  | nil =>
      cases ideal.disconnected with
      | true => rfl
      | false => rfl

/-- A poll of a receive that returns nothing leaves the channel as it was. -/
theorem pollRecv_idle {future : Nat} {waker : Waker}
    (idle : (Op.pollRecv future waker).isIdle (ideal.pollRecv future waker).result = true) :
    (ideal.pollRecv future waker).next = ideal := by
  simp only [Ideal.pollRecv] at idle ⊢
  cases result : (ideal.pollNext waker).result with
  | recv polled =>
      cases polled with
      | ready item => simp [result, Op.isIdle] at idle
      | pending => exact pollNext_idle 0 (by rw [result]; rfl)
  | _ => simp [result, Op.isIdle] at idle

/-- Parking a sender leaves a channel like the one before. -/
theorem park_alike {future : Nat} {this : Send α} (waker : Waker)
    (found : ideal.sends future = some this) : Alike ideal (ideal.park future this waker) := by
  refine .intro _ _ _ _ (funext fun key => ?_)
  by_cases here : key = future
  · subst here
    simp [unregistered, found]
  · simp [unregistered, here]

/-- A poll of a send that returns nothing leaves a channel like the one before. -/
theorem pollSend_idle {future : Nat} {waker : Waker}
    (idle : (Op.pollSend future waker).isIdle (ideal.pollSend future waker).result = true) :
    Alike ideal (ideal.pollSend future waker).next := by
  unfold Ideal.pollSend at idle ⊢
  cases found : ideal.sends future with
  | none => exact .refl ideal
  | some this =>
      have parks := park_alike waker found
      obtain ⟨sender, item, done, wakerId, outcome⟩ := this
      cases done with
      | true => exact .refl ideal
      | false =>
          cases item with
          | none => exact .refl ideal
          | some item =>
              cases shut : ideal.rejecting with
              | true => simp [found, shut, Op.isIdle] at idle
              | false =>
                  cases full : ideal.isFull with
                  | true => simpa using parks
                  | false => simp [found, shut, full, Op.isIdle] at idle

/-- An operation that comes to nothing changes the registrations only. -/
theorem step_alike (idle : op.isIdle (ideal.step op).result = true) :
    Alike ideal (ideal.step op).next := by
  have same : ∀ {next : Ideal α}, next = ideal → Alike ideal next := by
    rintro _ rfl
    exact .refl _
  cases op with
  | pollSend future waker => exact pollSend_idle idle
  | pollNext receiver waker => exact same (pollNext_idle receiver idle)
  | pollRecv future waker => exact same (pollRecv_idle idle)
  | trySend sender item =>
      simp only [Ideal.step, trySend] at idle ⊢
      cases shut : ideal.rejecting with
      | true => exact same rfl
      | false =>
          cases full : ideal.isFull with
          | true => exact same rfl
          | false => simp [shut, full, Op.isIdle] at idle
  | tryRecv receiver =>
      simp only [Ideal.step, tryRecv] at idle ⊢
      cases items : ideal.items with
      | nil => exact same rfl
      | cons item rest => simp [items, Op.isIdle] at idle
  | tryIterNext receiver =>
      simp only [Ideal.step, tryIterNext] at idle ⊢
      cases items : ideal.items with
      | nil => exact same rfl
      | cons item rest => simp [items, Op.isIdle] at idle
  | closeSender sender =>
      simp only [Ideal.step] at idle ⊢
      cases shut : ideal.rejecting with
      | true => exact same rfl
      | false => simp [shut, close, Op.isIdle] at idle
  | closeReceiver receiver =>
      simp only [Ideal.step] at idle ⊢
      cases shut : ideal.disconnected with
      | true => exact same rfl
      | false => simp [shut, close, Op.isIdle] at idle
  | senderCapacity _ | senderLen _ | senderIsEmpty _ | senderIsFull _ | senderIsClosed _
  | receiverLen _ | receiverIsEmpty _ | receiverIsClosed _ => exact same rfl
  | dropSend future =>
      simp only [Ideal.step, dropSend] at idle
      split at idle
      · cases idle
      · cases idle
  | _ => cases idle

/-! ### Whole runs -/

/-- What is kept when the operations that come to nothing are left out. -/
structure Bears (world abstract : World (Ideal α) (Op α) (Result α) α) : Prop where
  alike : Alike world.state abstract.state
  answers : answers abstract.log = effective (answers world.log)

/-- The effective answers of a turn are its answers, unless it was idle. -/
theorem effective_answers (turn : Turn α) :
    effective (turn.answers op) = if op.isIdle turn.result then [] else turn.answers op := by
  unfold Turn.answers
  split
  · cases idle : op.isIdle turn.result <;> simp [effective, idle]
  · simp [effective]

/-- Whether a policy lets user code do the same to channels that are alike. -/
def Blind (policy : Policy (World (Ideal α) (Op α) (Result α) α) (Callback α) Panic (Op α)) :
    Prop :=
  ∀ world abstract op, Alike world.state abstract.state → policy.call world op →
    policy.call abstract op

/-- Whether a task has exclusive use is the same on channels that are alike. -/
theorem exclusive_blind : Blind (@exclusive α) := fun _ _ _ alike exclusive =>
  alike.exclusive exclusive

/-- An operation that comes to nothing is skipped, and everything else is done again. -/
theorem Bears.served (blind : Blind policy) (op : Op α)
    (before after abstract : World (Ideal α) (Op α) (Result α) α) (related : Bears before abstract)
    (served : Served (system α) policy count op before after) :
    Bears after abstract ∨
      ∃ next, Served (system α) policy count op abstract next ∧ Bears after next := by
  have heard : effective (Lochan.answers after.log) =
      Lochan.answers abstract.log ++ effective ((before.state.step op).answers op) := by
    rw [Served.answers served, effective, List.filter_append, related.answers]
    rfl
  rw [effective_answers] at heard
  cases idle : op.isIdle (before.state.step op).result with
  | true =>
      refine .inl ⟨?_, ?_⟩
      · rw [Served.state served]
        exact (step_alike idle).symm.trans related.alike
      · rw [heard, idle]
        exact (List.append_nil _).symm
  | false =>
      obtain ⟨result, alike⟩ := related.alike.step op
      obtain ⟨next, served'⟩ := serve count (related.alike.permitted served.legal)
        (blind before abstract op related.alike served.allowed)
      refine .inr ⟨next, served', ?_, ?_⟩
      · rw [Served.state served, Served.state served']
        exact alike
      · rw [heard, idle, Served.answers served', Turn.answers, Turn.answers, result]
        rfl

section Realizes

variable {χ : Type}
  {channel : System (World χ (Op α) (Result α) α) (Callback α) Panic (Op α)}
  {manners : Policy (World χ (Op α) (Result α) α) (Callback α) Panic (Op α)}
  {project : World χ (Op α) (Result α) α → Ideal α} {fresh last : World χ (Op α) (Result α) α}

/-- A channel bears it that its idle operations are left out: the others answer the same. -/
theorem Realizes.bears (realizes : Realizes channel manners policy project fresh count)
    (blind : Blind policy) (granted : ops.length ≤ count)
    (serves : Serves channel manners count ops fresh last) :
    ∃ kept other, kept.Sublist ops ∧ Serves channel manners count kept fresh other ∧
      answers other.log = effective (answers last.log) ∧ Alike (project last) (project other) := by
  obtain ⟨world, run, agrees⟩ := realizes.forward granted serves
  obtain ⟨kept, abstract, sublist, run', bears⟩ :=
    run.simulates_skipping Bears (Bears.served blind) ⟨.refl _, rfl⟩
  obtain ⟨other, serves', agrees'⟩ := realizes.backward (sublist.length_le.trans granted) run'
  refine ⟨kept, other, sublist, serves', ?_, ?_⟩
  · rw [agrees'.answers, bears.answers, agrees.answers]
  · rw [agrees'.state, agrees.state]
    exact bears.alike

end Realizes

end Ideal

/-- Operations that come to nothing leave no trace, as long as nothing happens in the callbacks and
no completed receive future is polled. Without them a channel of either kind gives the other answers
all the same, reports of termination aside, and comes to the same items, handles and futures; only
what is registered for the senders and the receivers may differ. -/
theorem idle_operations_leave_no_trace {count : Nat} {ops : List (Op α)}
    (granted : ops.length ≤ count) :
    (∀ fresh channel : Mpsc.Channel α, Mpsc.New fresh →
      Serves (Mpsc.system α) Mpsc.fused count ops fresh channel →
      ∃ kept other, kept.Sublist ops ∧ Serves (Mpsc.system α) Mpsc.fused count kept fresh other ∧
        answers other.log = effective (answers channel.log) ∧
        Ideal.Alike (Mpsc.ideal channel) (Mpsc.ideal other)) ∧
    ∀ fresh channel : Mpmc.Channel α, Mpmc.New fresh →
      Serves (Mpmc.system α) Mpmc.fused count ops fresh channel →
      ∃ kept other, kept.Sublist ops ∧ Serves (Mpmc.system α) Mpmc.fused count kept fresh other ∧
        answers other.log = effective (answers channel.log) ∧
        Ideal.Alike (Mpmc.ideal channel) (Mpmc.ideal other) := by
  constructor
  · intro fresh channel new serves
    exact (Mpsc.serves_as_exclusive_ideal new count).bears
      Ideal.exclusive_blind granted serves
  · intro fresh channel new serves
    exact (Mpmc.serves_as_shared_ideal new count).bears (fun _ _ _ _ _ => trivial) granted serves

/-- A send that was given up while it was pending, and a stream that waited in vain, might as well
not have been polled. -/
theorem idle_operations_leave_no_trace_empty : ∃ kept, ∃ other : Mpsc.Channel Nat,
    kept.Sublist [.trySend 0 7, .send 0 8, .pollSend 2 3, .dropSend 2, .tryRecv 1, .pollNext 1 5,
        .trySend 0 9] ∧
      Serves (Mpsc.system Nat) Mpsc.fused 7 kept (Mpsc.bounded 1 Nat.one_pos) other ∧
      answers other.log = [(.trySend 0 7, .trySend (.ok ())), (.send 0 8, .handle 2),
        (.dropSend 2, .unit), (.tryRecv 1, .tryRecv (.ok 7)),
        (.trySend 0 9, .trySend (.ok ()))] := by
  have serves : ∃ channel : Mpsc.Channel Nat,
      Serves (Mpsc.system Nat) Mpsc.fused 7 [.trySend 0 7, .send 0 8, .pollSend 2 3, .dropSend 2,
        .tryRecv 1, .pollNext 1 5, .trySend 0 9] (Mpsc.bounded 1 Nat.one_pos) channel ∧
      effective (answers channel.log) = [(.trySend 0 7, .trySend (.ok ())), (.send 0 8, .handle 2),
        (.dropSend 2, .unit), (.tryRecv 1, .tryRecv (.ok 7)),
        (.trySend 0 9, .trySend (.ok ()))] :=
    ⟨_, .cons ⟨by decide, by rintro _ _ ⟨⟩, rfl, rfl⟩
      (.cons ⟨by decide, by rintro _ _ ⟨⟩, rfl, rfl⟩
        (.cons ⟨by decide, by rintro _ _ ⟨⟩, rfl, rfl⟩
          (.cons ⟨by decide, by rintro _ _ ⟨⟩, rfl, rfl⟩
            (.cons ⟨by decide, by rintro _ _ ⟨⟩, rfl, rfl⟩
              (.cons ⟨by decide, by rintro _ _ ⟨⟩, rfl, rfl⟩
                (.cons ⟨by decide, by rintro _ _ ⟨⟩, rfl, rfl⟩ .nil)))))), rfl⟩
  obtain ⟨channel, serves, heard⟩ := serves
  obtain ⟨kept, other, sublist, serves', heard', -⟩ :=
    (idle_operations_leave_no_trace (by decide)).1 _ channel (.bounded 1 Nat.one_pos) serves
  exact ⟨kept, other, sublist, serves', heard'.trans heard⟩

end Lochan
