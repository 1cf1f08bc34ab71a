import Lochan.Mpsc.Refines
import Lochan.Mpmc.Refines

/-!
# Receives in a row

Receives of every kind that follow each other, through whichever handles and futures that have not
completed, hand out the queued items in order, one each, and then report that there are none.
-/

namespace Lochan

open Reentrant System

variable {α : Type}

/-- Whether an operation receives. -/
def Op.receives : Op α → Bool
  | .tryRecv _ | .tryIterNext _ | .pollNext _ _ | .pollRecv _ _ => true
  | _ => false

/-- What a receive answers, by the item that it finds and whether the channel is disconnected. -/
def Op.receipt (ended : Bool) (found : Option α) : Op α → Result α
  | .tryRecv _ => .tryRecv (found.elim (.error (if ended then .disconnected else .empty)) .ok)
  | .tryIterNext _ => .next found
  | .pollNext _ _ | .pollRecv _ _ =>
    .recv (found.elim (if ended then .ready none else .pending) (.ready ∘ some))
  | _ => .unit

/-- What receives in a row answer. -/
def handouts (ended : Bool) : List (Op α) → List α → List (Op α × Result α)
  | [], _ => []
  | op :: ops, items => (op, op.receipt ended items.head?) :: handouts ended ops items.tail

namespace Ideal

variable {ideal : Ideal α} {op : Op α} {ops : List (Op α)} {count : Nat}
  {policy : Policy (World (Ideal α) (Op α) (Result α) α) (Callback α) Panic (Op α)}
  {before after : World (Ideal α) (Op α) (Result α) α}

/-- A receive takes the oldest item, if there is one, and does not disconnect the channel. -/
theorem step_receives (receives : op.receives = true) :
    (ideal.step op).answers op = [(op, op.receipt ideal.disconnected ideal.items.head?)] ∧
      (ideal.step op).next.items = ideal.items.tail ∧
      (ideal.step op).next.disconnected = ideal.disconnected := by
  cases op with
  | tryRecv receiver =>
      cases items : ideal.items with
      | nil => simp [step, tryRecv, items, Turn.answers, Op.isShared, Op.receipt]
      | cons item rest =>
          simp [step, tryRecv, items, Turn.answers, Op.isShared, Op.receipt, taken, wakeSenders,
            disconnected]
  | tryIterNext receiver =>
      cases items : ideal.items with
      | nil => simp [step, tryIterNext, items, Turn.answers, Op.isShared, Op.receipt]
      | cons item rest =>
          simp [step, tryIterNext, items, Turn.answers, Op.isShared, Op.receipt, taken, wakeSenders,
            disconnected]
  | pollNext receiver waker =>
      cases items : ideal.items with
      | nil =>
          cases shut : ideal.disconnected <;>
            simp [step, pollNext, items, shut, Turn.answers, Op.isShared, Op.receipt]
      | cons item rest =>
          simp [step, pollNext, items, Turn.answers, Op.isShared, Op.receipt, taken, wakeSenders,
            disconnected]
  | pollRecv future waker =>
      cases items : ideal.items with
      | nil =>
          cases shut : ideal.disconnected with
          | true =>
              have completed : (ideal.complete future).disconnected = true := shut
              simp [step, pollRecv, pollNext, items, shut, completed, Turn.answers, Op.isShared,
                Op.receipt]
              exact items
          | false =>
              simp [step, pollRecv, pollNext, items, shut, Turn.answers, Op.isShared, Op.receipt]
      | cons item rest =>
          simp [step, pollRecv, pollNext, items, Turn.answers, Op.isShared, Op.receipt, taken,
            wakeSenders, disconnected, complete]
  | _ => cases receives

/-- Receives served in a row hand out the queue from its head on. -/
theorem serves_handouts (serves : Serves (system α) policy count ops before after)
    (receiving : ∀ op ∈ ops, op.receives = true) :
    answers after.log = answers before.log ++
        handouts before.state.disconnected ops before.state.items ∧
      after.state.items = before.state.items.drop ops.length := by
  induction serves with
  | nil => simp [handouts]
  | cons first _ ih =>
      obtain ⟨heard, items, ended⟩ := step_receives (receiving _ List.mem_cons_self)
      obtain ⟨heard', items'⟩ := ih fun op member => receiving op (List.mem_cons_of_mem _ member)
      rw [Served.state first] at heard' items'
      refine ⟨?_, ?_⟩
      · rw [heard', Served.answers first, heard, items, ended, handouts, List.append_assoc]
        rfl
      · rw [items', items]
        exact List.drop_tail

section Realizes

variable {χ : Type}
  {channel : System (World χ (Op α) (Result α) α) (Callback α) Panic (Op α)}
  {manners : Policy (World χ (Op α) (Result α) α) (Callback α) Panic (Op α)}
  {project : World χ (Op α) (Result α) α → Ideal α}
    {fresh middle last : World χ (Op α) (Result α) α}

/-- A channel that realizes the ideal one hands out its queue from the head on. -/
theorem Realizes.handouts
    (realizes : Realizes channel manners policy project fresh count) {earlier : List (Op α)}
    (granted : (earlier ++ ops).length ≤ count)
    (serves : Serves channel manners count earlier fresh middle)
    (serves' : Serves channel manners count ops middle last)
    (receiving : ∀ op ∈ ops, op.receives = true) :
    answers last.log = answers middle.log ++
        Lochan.handouts (project middle).disconnected ops (project middle).items ∧
      (project last).items = (project middle).items.drop ops.length := by
  have shorter : earlier.length ≤ count := by
    rw [List.length_append] at granted
    exact Nat.le_of_add_right_le granted
  obtain ⟨world, run, agrees⟩ := realizes.forward shorter serves
  obtain ⟨world', run', agrees'⟩ := realizes.forward granted (serves.append serves')
  obtain ⟨_, again, rest⟩ := run'.split
  obtain rfl := again.deterministic run
  obtain ⟨heard, items⟩ := serves_handouts rest receiving
  rw [agrees'.answers, agrees'.state, agrees.answers, agrees.state]
  exact ⟨heard, items⟩

end Realizes

end Ideal

/-- Whatever operations a channel of either kind has served, a number of receives in a row hand out
as many of its oldest items, in order, and then report that it is empty or at its end, as long as
nothing happens in the callbacks and no completed receive future is polled. -/
theorem receives_hand_out_in_turn {count : Nat} {earlier ops : List (Op α)}
    (granted : (earlier ++ ops).length ≤ count) (receiving : ∀ op ∈ ops, op.receives = true) :
    (∀ fresh middle last : Mpsc.Channel α, Mpsc.New fresh →
      Serves (Mpsc.system α) Mpsc.fused count earlier fresh middle →
      Serves (Mpsc.system α) Mpsc.fused count ops middle last →
      answers last.log = answers middle.log ++
          handouts middle.state.chan.disconnected ops middle.state.chan.contents ∧
        last.state.chan.contents = middle.state.chan.contents.drop ops.length) ∧
    ∀ fresh middle last : Mpmc.Channel α, Mpmc.New fresh →
      Serves (Mpmc.system α) Mpmc.fused count earlier fresh middle →
      Serves (Mpmc.system α) Mpmc.fused count ops middle last →
      answers last.log = answers middle.log ++
          handouts middle.state.chan.disconnected ops middle.state.chan.contents ∧
        last.state.chan.contents = middle.state.chan.contents.drop ops.length := by
  constructor
  · intro fresh middle last new serves serves'
    exact (Mpsc.serves_as_exclusive_ideal new count).handouts granted serves serves' receiving
  · intro fresh middle last new serves serves'
    exact (Mpmc.serves_as_shared_ideal new count).handouts granted serves serves' receiving

/-- The first receive takes the only item, and the second one waits. -/
theorem receives_hand_out_in_turn_once : ∃ middle last : Mpsc.Channel Nat,
    Serves (Mpsc.system Nat) Mpsc.fused 3 [.tryRecv 1, .pollNext 1 5] middle last ∧
      answers last.log =
        answers middle.log ++
          [(.tryRecv 1, .tryRecv (.ok 7)), (.pollNext 1 5, .recv .pending)] := by
  have serves : ∃ middle last : Mpsc.Channel Nat,
      Serves (Mpsc.system Nat) Mpsc.fused 3 [.trySend 0 7] Mpsc.unbounded middle ∧
      Serves (Mpsc.system Nat) Mpsc.fused 3 [.tryRecv 1, .pollNext 1 5] middle last ∧
      handouts middle.state.chan.disconnected [.tryRecv 1, .pollNext 1 5]
          middle.state.chan.contents =
        [(.tryRecv 1, .tryRecv (.ok 7)), (.pollNext 1 5, .recv .pending)] :=
    ⟨_, _, .cons ⟨by decide, by rintro _ _ ⟨⟩, rfl, rfl⟩ .nil,
      .cons ⟨by decide, by rintro _ _ ⟨⟩, rfl, rfl⟩
        (.cons ⟨by decide, by rintro _ _ ⟨⟩, rfl, rfl⟩ .nil), rfl⟩
  obtain ⟨middle, last, serves, serves', handed⟩ := serves
  obtain ⟨heard, -⟩ := (receives_hand_out_in_turn (by decide)
    (by simp [Op.receives])).1 _ middle last .unbounded serves serves'
  exact ⟨middle, last, serves', heard.trans (congrArg _ handed)⟩

end Lochan
