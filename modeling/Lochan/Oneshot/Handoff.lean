import Lochan.Oneshot.Soundness

/-!
# The hand-off of one value

A oneshot channel as an object whose operations happen at once: sending leaves the value and gives
the sender up. In a run of the channel a poll happens when it returns, and any other operation when
it begins.
-/

namespace Lochan.Oneshot

open Reentrant

variable {α : Type}

/-- A value that is handed from a sender to a receiver. -/
structure Handoff (α : Type) where
  value : Option α
  sender : Bool
  receiver : Bool
  /-- The receiver has yielded its result. -/
  done : Bool

namespace Handoff

/-- Nothing has been sent, and both handles are live. -/
def new : Handoff α := ⟨none, true, true, false⟩

variable (state : Handoff α)

/-- What the receiver finds when it looks. -/
def look : Option (Except Canceled α) × Handoff α :=
  if state.done then (none, state)
  else
    match state.value with
    | some value => (some (.ok value), { state with value := none, done := true })
    | none =>
      if state.sender then (none, state)
      else (some (.error .mk), { state with done := true })

/-- What the receiver finds if it does not ask whether the sender is gone. -/
def peek : Option α × Handoff α :=
  if state.done then (none, state)
  else
    match state.value with
    | some value => (some value, { state with value := none, done := true })
    | none => (none, state)

/-- The answer of an operation, and what it leaves. -/
def step : Op α → Result α × Handoff α
  | .send value =>
    if state.receiver then (.send (.ok ()), { state with value := some value, sender := false })
    else (.send (.error value), { state with sender := false })
  | .dropSender => (.unit, { state with sender := false })
  | .senderIsClosed => (.bool !state.receiver, state)
  | .poll _ =>
    (.poll (match state.look.1 with
      | some result => .ready result
      | none => .pending), state.look.2)
  | .tryRecv =>
    (.tryRecv (match state.look.1 with
      | some (.ok value) => .ok (some value)
      | some (.error error) => .error error
      | none => .ok none), state.look.2)
  | .tryIterNext => (.next state.peek.1, state.peek.2)
  | .receiverIsClosed => (.bool !state.sender, state)
  | .isTerminated => (.bool state.done, state)
  | .dropReceiver => (.unit, { state with receiver := false })

/-- A value that is sent to a live receiver is left for it. -/
theorem step_send (value : α) (alive : state.receiver = true) :
    state.step (.send value) =
      (.send (.ok ()), { state with value := some value, sender := false }) := if_pos alive

/-- A value that is sent when the receiver is gone comes back. -/
theorem step_send_refused (value : α) (gone : state.receiver = false) :
    state.step (.send value) = (.send (.error value), { state with sender := false }) :=
  if_neg (by rw [gone]; exact Bool.false_ne_true)

/-- What some operations leave. -/
def run : List (Op α) → Handoff α := List.foldl (fun state op => (state.step op).2) .new

end Handoff

/-- The operation that happens with an event. -/
def Event.happens? : Event (Op α) (Result α) α → Option (Op α)
  | .began (.poll _) => none
  | .began op => some op
  | .returned _ (.poll waker) _ => some (.poll waker)
  | _ => none

/-- The operations in the order in which they happened. -/
def happened (log : Log α) : List (Op α) := collect Event.happens? log

/-- The hand-off after what has happened. -/
def handoff (log : Log α) : Handoff α := .run (happened log)

/-- The log when an operation happened that began at `start` and now returns. -/
def Op.moment (op : Op α) (start : Nat) (log : Log α) : Log α :=
  match op with
  | .poll _ => log
  | _ => past start log

/-- A value is being sent: that operation is not over. -/
def Sending : Log α → Prop
  | .began (.send _) :: _ => True
  | .returned _ (.send _) _ :: _ | .unwound _ (.send _) :: _ => False
  | _ :: log => Sending log
  | [] => False

/-- An operation answers as if it happened at once. While a value is being sent the sender is gone,
but the receiver may still be told that it is there. -/
def Agrees (op : Op α) (result : Result α) (log : Log α) : Prop :=
  result = ((handoff log).step op).1 ∨
    (op = .receiverIsClosed ∧ result = .bool false ∧ Sending log)

/-- Every operation that returned had begun, and answered as when it happened at once. -/
def Explained : Log α → Prop
  | .returned start op result :: log =>
    (.began op :: past start log <:+ log ∧ Agrees op result (op.moment start log)) ∧ Explained log
  | _ :: log => Explained log
  | [] => True

/-! ### What has happened -/

/-- What has happened with the newest event happens last. -/
theorem handoff_cons (event : Event (Op α) (Result α) α) (log : Log α) :
    handoff (event :: log) =
      match Event.happens? event with
      | some op => ((handoff log).step op).2
      | none => handoff log := by
  unfold handoff happened
  rw [collect_cons]
  cases Event.happens? event with
  | none => rw [Option.toList_none, List.append_nil]
  | some op => simp [Handoff.run]

/-- An event with which nothing happens. -/
theorem handoff_idle {event : Event (Op α) (Result α) α} (idle : Event.happens? event = none)
    (log : Log α) : handoff (event :: log) = handoff log := by
  rw [handoff_cons, idle]

/-- An operation happens with an event. -/
theorem handoff_happens {event : Event (Op α) (Result α) α} {op : Op α}
    (happens : Event.happens? event = some op) (log : Log α) :
    handoff (event :: log) = ((handoff log).step op).2 := by
  rw [handoff_cons, happens]

/-- What is explained stays explained: it is read off where the answer was given. -/
theorem Explained.answers {log : Log α} (explained : Explained log) {start : Nat} {op : Op α}
    {result : Result α} {older : Log α} (suffix : .returned start op result :: older <:+ log) :
    .began op :: past start older <:+ older ∧ Agrees op result (op.moment start older) := by
  obtain ⟨newer, rfl⟩ := suffix
  induction newer with
  | nil => exact explained.1
  | cons event newer ih =>
      cases event with
      | returned _ _ _ => exact ih explained.2
      | _ => exact ih explained

end Lochan.Oneshot
