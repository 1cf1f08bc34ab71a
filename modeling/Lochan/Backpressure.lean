import Lochan.Mpsc.Refines
import Lochan.Mpmc.Refines

/-!
# Channels whose capacity does not show

A bounded channel that never tells anyone that it is full behaves as an unbounded one. So the
capacity makes a difference by what it refuses, and by nothing else.
-/

namespace Lochan

open Reentrant System

variable {α : Type}

/-- Whether the answer to an operation shows that the queue has a capacity. -/
def Op.showsCapacity : Op α → Result α → Bool
  | .senderCapacity _, _ => true
  | .senderIsFull _, .bool full => full
  | .trySend _ _, .trySend (.error (.full _)) => true
  | .pollSend _ _, .send .pending => true
  | _, _ => false

/-- Whether no answer shows that the queue has a capacity. -/
def Unrestrained (answers : List (Op α × Result α)) : Prop :=
  ∀ answer ∈ answers, answer.1.showsCapacity answer.2 = false

namespace Ideal

variable {ideal : Ideal α} {op : Op α} {ops : List (Op α)} {count : Nat}
  {policy : Policy (World (Ideal α) (Op α) (Result α) α) (Callback α) Panic (Op α)}
  {before after : World (Ideal α) (Op α) (Result α) α}

/-- The channel without its capacity. -/
def unbound (ideal : Ideal α) : Ideal α := { ideal with cap := none }

/-- A send that does not wait and is not told of a full queue goes as without a capacity. -/
theorem trySend_unbound {sender : Nat} {item : α}
    (hidden : (Op.trySend sender item).showsCapacity (ideal.trySend item).result = false) :
    Relates (fun ideal other => other = ideal.unbound) (ideal.trySend item)
      (ideal.unbound.trySend item) := by
  have same : ideal.unbound.rejecting = ideal.rejecting := rfl
  unfold trySend at hidden ⊢
  rw [same]
  cases shut : ideal.rejecting with
  | true => exact ⟨rfl, rfl⟩
  | false =>
      cases full : ideal.isFull with
      | true => simp [shut, full, Op.showsCapacity] at hidden
      | false => exact ⟨rfl, rfl⟩

/-- A poll of a send that is not told of a full queue goes as without a capacity. -/
theorem pollSend_unbound {future : Nat} {waker : Waker}
    (hidden : (Op.pollSend future waker).showsCapacity
      (ideal.pollSend future waker).result = false) :
    Relates (fun ideal other => other = ideal.unbound) (ideal.pollSend future waker)
      (ideal.unbound.pollSend future waker) := by
  have same : ideal.unbound.rejecting = ideal.rejecting := rfl
  have sends : ideal.unbound.sends = ideal.sends := rfl
  unfold pollSend at hidden ⊢
  rw [sends, same]
  cases found : ideal.sends future with
  | none => exact ⟨rfl, rfl⟩
  | some this =>
      obtain ⟨sender, item, done, wakerId, outcome⟩ := this
      cases done with
      | true => exact ⟨rfl, rfl⟩
      | false =>
          cases item with
          | none => exact ⟨rfl, rfl⟩
          | some item =>
              cases shut : ideal.rejecting with
              | true => exact ⟨rfl, rfl⟩
              | false =>
                  cases full : ideal.isFull with
                  | true => simp [found, shut, full, Op.showsCapacity] at hidden
                  | false => exact ⟨rfl, rfl⟩

/-- A poll of the stream goes as without a capacity. -/
theorem pollNext_unbound (ideal : Ideal α) (waker : Waker) :
    Relates (fun ideal other => other = ideal.unbound) (ideal.pollNext waker)
      (ideal.unbound.pollNext waker) := by
  obtain ⟨cap, items, senders, receivers, closed, rest⟩ := ideal
  cases items with
  | nil => exact .ite ⟨rfl, rfl⟩ ⟨rfl, rfl⟩
  | cons item rest => exact ⟨rfl, rfl⟩

/-- An operation that does not show the capacity does the same without it. -/
theorem step_unbound (hidden : op.showsCapacity (ideal.step op).result = false) :
    Relates (fun ideal other => other = ideal.unbound) (ideal.step op) (ideal.unbound.step op) := by
  cases op with
  | trySend sender item => exact trySend_unbound hidden
  | pollSend future waker => exact pollSend_unbound hidden
  | dropSend future =>
      have sends : ideal.unbound.sends = ideal.sends := rfl
      unfold step dropSend
      simp only [sends]
      cases ideal.sends future with
      | none => exact ⟨rfl, rfl⟩
      | some this => exact ⟨rfl, rfl⟩
  | senderCapacity sender => cases hidden
  | senderIsFull sender => exact ⟨congrArg Result.bool hidden.symm, rfl⟩
  | closeSender sender | closeReceiver receiver => exact .ite ⟨rfl, rfl⟩ ⟨rfl, rfl⟩
  | tryRecv receiver =>
      obtain ⟨cap, items, senders, receivers, closed, rest⟩ := ideal
      cases items with
      | nil => exact ⟨rfl, rfl⟩
      | cons item rest => exact ⟨rfl, rfl⟩
  | tryIterNext receiver =>
      obtain ⟨cap, items, senders, receivers, closed, rest⟩ := ideal
      cases items with
      | nil => exact ⟨rfl, rfl⟩
      | cons item rest => exact ⟨rfl, rfl⟩
  | pollNext receiver waker => exact pollNext_unbound ideal waker
  | pollRecv future waker =>
      obtain ⟨result, next⟩ := pollNext_unbound ideal waker
      simp only [step, pollRecv, result]
      split
      · exact ⟨rfl, congrArg (complete · future) next⟩
      · exact ⟨result, next⟩
  | dropReceiver receiver =>
      have same : ideal.unbound.receiverCount = ideal.receiverCount := rfl
      simp only [step, dropReceiver, same]
      cases ideal.receiverCount == 1 with
      | true => exact ⟨rfl, rfl⟩
      | false => exact ⟨rfl, rfl⟩
  | _ => exact ⟨rfl, rfl⟩

/-! ### Whole runs -/

/-- What was heard is heard still. -/
theorem heard_suffix (serves : Serves (system α) policy count ops before after) :
    ∃ later, answers after.log = answers before.log ++ later := by
  induction serves with
  | nil => exact ⟨[], (List.append_nil _).symm⟩
  | cons first _ ih =>
      obtain ⟨later, heard⟩ := ih
      rw [Served.answers first, List.append_assoc] at heard
      exact ⟨_, heard⟩

/-- Whether a policy lets user code do the same to a channel without its capacity. -/
def Unmeasured (policy : Policy (World (Ideal α) (Op α) (Result α) α) (Callback α) Panic (Op α)) :
    Prop :=
  ∀ world abstract op, abstract.state = world.state.unbound → policy.call world op →
    policy.call abstract op

/-- Exclusive use has nothing to do with the capacity. -/
theorem exclusive_unmeasured : Unmeasured (@exclusive α) := by
  intro world abstract op same allowed
  have exclusive : world.state.Exclusive op := allowed
  change abstract.state.Exclusive op
  rw [same]
  cases op <;> exact exclusive

/-- What is answered in a run does not show the capacity at any step if it never does. -/
theorem hidden_of_unrestrained (first : Served (system α) policy count op before after)
    {last : World (Ideal α) (Op α) (Result α) α}
    (rest : Serves (system α) policy count ops after last)
    (unrestrained : Unrestrained (answers last.log)) :
    op.showsCapacity (before.state.step op).result = false := by
  cases shared : op.isShared with
  | true =>
      obtain ⟨later, heard⟩ := heard_suffix rest
      refine unrestrained (op, (before.state.step op).result) ?_
      rw [heard, Served.answers first, Turn.answers, shared]
      simp
  | false => cases op <;> first | rfl | cases shared

/-- A run in which the capacity does not show goes as without one. -/
theorem serves_unbound (unmeasured : Unmeasured policy)
    (serves : Serves (system α) policy count ops before after)
    (unrestrained : Unrestrained (answers after.log))
    {abstract : World (Ideal α) (Op α) (Result α) α} (same : abstract.state = before.state.unbound)
    (heard : answers abstract.log = answers before.log) :
    ∃ next, Serves (system α) policy count ops abstract next ∧ next.state = after.state.unbound ∧
      answers next.log = answers after.log := by
  induction serves generalizing abstract with
  | nil => exact ⟨abstract, .nil, same, heard⟩
  | @cons op ops before middle after first rest ih =>
      have permitted : abstract.state.Permitted op := same ▸ first.legal
      obtain ⟨result, state⟩ := step_unbound (hidden_of_unrestrained first rest unrestrained)
      rw [← same] at result state
      obtain ⟨next, served⟩ :=
        serve count permitted (unmeasured before abstract op same first.allowed)
      have same' : next.state = middle.state.unbound := by
        rw [Served.state served, Served.state first, state]
      have heard' : answers next.log = answers middle.log := by
        rw [Served.answers served, Served.answers first, heard, Turn.answers, Turn.answers, result]
      obtain ⟨last, serves, reached, answered⟩ := ih unrestrained same' heard'
      exact ⟨last, .cons served serves, reached, answered⟩

section Realizes

variable {χ : Type}
  {channel : System (World χ (Op α) (Result α) α) (Callback α) Panic (Op α)}
  {manners : Policy (World χ (Op α) (Result α) α) (Callback α) Panic (Op α)}
  {project : World χ (Op α) (Result α) α → Ideal α}
  {fresh fresh' last : World χ (Op α) (Result α) α}

/-- A channel in whose run the capacity does not show answers as one without a capacity. -/
theorem Realizes.unrestrained (realizes : Realizes channel manners policy project fresh count)
    (realizes' : Realizes channel manners policy project fresh' count)
    (unmeasured : Unmeasured policy) (same : project fresh' = (project fresh).unbound)
    (granted : ops.length ≤ count) (serves : Serves channel manners count ops fresh last)
    (unrestrained : Unrestrained (answers last.log)) :
    ∃ other, Serves channel manners count ops fresh' other ∧
      answers other.log = answers last.log ∧ project other = (project last).unbound := by
  obtain ⟨world, run, agrees⟩ := realizes.forward granted serves
  rw [agrees.answers] at unrestrained
  have start : (⟨project fresh', [], []⟩ : World (Ideal α) (Op α) (Result α) α).state =
      (project fresh).unbound := same
  obtain ⟨abstract, run', state, heard⟩ := serves_unbound unmeasured run unrestrained start rfl
  obtain ⟨other, serves', agrees'⟩ := realizes'.backward granted run'
  refine ⟨other, serves', ?_, ?_⟩
  · rw [agrees'.answers, heard, agrees.answers]
  · rw [agrees'.state, state, agrees.state]

end Realizes

end Ideal

/-- As long as no answer shows that a bounded channel has a capacity, an unbounded channel of its
kind gives the same answers, reports of termination aside, wakes the same parked senders, and holds
the same items. Nothing happens in the callbacks, and no completed receive future is polled. -/
theorem capacity_shows_by_refusals {cap : Nat} (positive : 0 < cap) {count : Nat}
    {ops : List (Op α)} (granted : ops.length ≤ count) :
    (∀ channel, Serves (Mpsc.system α) Mpsc.fused count ops (Mpsc.bounded cap positive) channel →
      Unrestrained (answers channel.log) →
      ∃ other, Serves (Mpsc.system α) Mpsc.fused count ops Mpsc.unbounded other ∧
        answers other.log = answers channel.log ∧
        Mpsc.ideal other = (Mpsc.ideal channel).unbound) ∧
    ∀ channel, Serves (Mpmc.system α) Mpmc.fused count ops (Mpmc.bounded cap positive) channel →
      Unrestrained (answers channel.log) →
      ∃ other, Serves (Mpmc.system α) Mpmc.fused count ops Mpmc.unbounded other ∧
        answers other.log = answers channel.log ∧
        Mpmc.ideal other = (Mpmc.ideal channel).unbound := by
  have unlimited : (Queue.Flavor.mkUnbounded : Queue.Flavor α).cap = none := rfl
  constructor
  · intro channel serves unrestrained
    have same : Mpsc.ideal (Mpsc.unbounded : Mpsc.Channel α) =
        (Mpsc.ideal (Mpsc.bounded cap positive)).unbound := by
      simp [Mpsc.ideal, Ideal.unbound, Mpsc.unbounded, Mpsc.bounded, Mpsc.start, Mpsc.Chan.new,
        Mpsc.Chan.contents, unlimited]
    exact (Mpsc.serves_as_exclusive_ideal (.bounded cap positive) count).unrestrained
      (Mpsc.serves_as_exclusive_ideal .unbounded count) Ideal.exclusive_unmeasured same granted
      serves unrestrained
  · intro channel serves unrestrained
    have same : Mpmc.ideal (Mpmc.unbounded : Mpmc.Channel α) =
        (Mpmc.ideal (Mpmc.bounded cap positive)).unbound := by
      simp [Mpmc.ideal, Ideal.unbound, Mpmc.unbounded, Mpmc.bounded, Mpmc.start, Mpmc.Chan.new,
        Mpmc.Chan.contents, unlimited]
    exact (Mpmc.serves_as_shared_ideal (.bounded cap positive) count).unrestrained
      (Mpmc.serves_as_shared_ideal .unbounded count) (fun _ _ _ _ _ => trivial) same granted serves
      unrestrained

/-- A channel of two slots wakes the stream that waits, and fills up. It does not tell. -/
theorem capacity_shows_by_refusals_hidden : ∃ channel other : Mpsc.Channel Nat,
    .called (.wake .receivers 5) ∈ channel.log ∧ channel.state.chan.flavor.isFull = true ∧
      Serves (Mpsc.system Nat) Mpsc.fused 6 [.pollNext 1 5, .trySend 0 7,
        .senderIsFull 0, .send 0 8, .pollSend 2 3, .senderLen 0] Mpsc.unbounded other ∧
      answers other.log = answers channel.log ∧
      answers other.log = [(.pollNext 1 5, .recv .pending), (.trySend 0 7, .trySend (.ok ())),
        (.senderIsFull 0, .bool false), (.send 0 8, .handle 2),
        (.pollSend 2 3, .send (.ready (.ok ()))), (.senderLen 0, .size 2)] := by
  have serves : ∃ channel : Mpsc.Channel Nat, Serves (Mpsc.system Nat) Mpsc.fused 6
      [.pollNext 1 5, .trySend 0 7, .senderIsFull 0, .send 0 8, .pollSend 2 3, .senderLen 0]
      (Mpsc.bounded 2 Nat.two_pos) channel ∧
      .called (.wake .receivers 5) ∈ channel.log ∧ channel.state.chan.flavor.isFull = true ∧
      answers channel.log = [(.pollNext 1 5, .recv .pending), (.trySend 0 7, .trySend (.ok ())),
        (.senderIsFull 0, .bool false), (.send 0 8, .handle 2),
        (.pollSend 2 3, .send (.ready (.ok ()))), (.senderLen 0, .size 2)] := by
    refine ⟨_, .cons ⟨by decide, by rintro _ _ ⟨⟩, rfl, rfl⟩
      (.cons ⟨by decide, by rintro _ _ ⟨⟩, rfl, rfl⟩
        (.cons ⟨by decide, by rintro _ _ ⟨⟩, rfl, rfl⟩
          (.cons ⟨by decide, by rintro _ _ ⟨⟩, rfl, rfl⟩
            (.cons ⟨by decide, by rintro _ _ ⟨⟩, rfl, rfl⟩
              (.cons ⟨by decide, by rintro _ _ ⟨⟩, rfl, rfl⟩ .nil))))), ?_, rfl, rfl⟩
    refine List.mem_of_getElem? (i := 12) ?_
    rfl
  obtain ⟨channel, serves, wakes, full, heard⟩ := serves
  have unrestrained : Unrestrained (answers channel.log) := by
    rw [heard]
    simp [Unrestrained, Op.showsCapacity]
  obtain ⟨other, serves', heard', -⟩ :=
    (capacity_shows_by_refusals Nat.two_pos (by decide)).1 channel serves unrestrained
  exact ⟨channel, other, wakes, full, serves', heard', heard'.trans heard⟩

end Lochan
