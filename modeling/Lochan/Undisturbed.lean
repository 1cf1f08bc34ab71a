import Lochan.Rules
import Lochan.Ideal
import Lochan.Reentrant.Serving

/-!
# Rules for user code that does nothing

What the actions that run user code come to when it returns at once: events in the log, of which
only the wakes matter to anyone.
-/

namespace Lochan

open Reentrant

variable {χ ω ρ α : Type}

/-- The world once some more events are in the log. -/
def World.toldAll (world : World χ ω ρ α) (events : List (Event ω ρ α)) : World χ ω ρ α :=
  { world with log := events.reverse ++ world.log }

/-- Events leave the state of the channel as it is. -/
@[simp] theorem World.toldAll_state (world : World χ ω ρ α) (events : List (Event ω ρ α)) :
    (world.toldAll events).state = world.state := rfl

/-- Events borrow no cell. -/
@[simp] theorem World.toldAll_held (world : World χ ω ρ α) (events : List (Event ω ρ α)) :
    (world.toldAll events).held = world.held := rfl

/-- Events are told one after the other. -/
theorem World.toldAll_cons (world : World χ ω ρ α) (event : Event ω ρ α)
    (events : List (Event ω ρ α)) :
    world.toldAll (event :: events) = (world.logged event).toldAll events := by
  simp [toldAll, logged]

/-- The wakes of some parked tasks. -/
def wakings (side : Side) (wakers : List Waker) : List (Event ω ρ α) :=
  wakers.map fun waker => .called (.wake side waker)

/-- The destructors of some wakers. -/
def disposals (wakers : List Waker) : List (Event ω ρ α) :=
  wakers.map fun waker => .called (.dropWaker waker)

/-- The destructors of the items of a queue that is drained. -/
def draining (items : List α) : List (Event ω ρ α) :=
  items.map fun item => .called (.dropQueued item)

/-- The wakers that withdrawing a registration drops. -/
def dismissed (entries : List (UInt64 × Waker)) : Option UInt64 → List Waker
  | some id => ((removeById entries id).1.map Prod.snd).toList
  | none => []

section Rules

variable {limit : Nat} {post : Unit → World χ ω ρ α → Prop} {exc : Panic → World χ ω ρ α → Prop}

/-- A callback that does nothing is only told of. -/
@[simp] theorem wp_callback_inert (code : Callback α) :
    (callback code : Act χ ω ρ α Unit).wp (.inert limit) post exc =
      fun world => post () (world.logged (.called code)) := by
  funext world
  simp only [callback, Prog.wp_bind, wp_emit, Prog.wp_user, Prog.Contract.inert, true_and, and_imp,
    forall_eq_apply_imp_iff, forall_eq]
  rfl

/-- Items are dropped, and nothing else happens. -/
@[simp] theorem wp_dropItems_inert (items : List α) :
    (dropItems items : Act χ ω ρ α Unit).wp (.inert limit) post exc =
      fun world => post () (world.toldAll (items.map fun item => .called (.dropItem item))) := by
  funext world
  induction items generalizing world with
  | nil => rfl
  | cons item rest ih => simp [dropItems, ih, World.toldAll_cons]

/-- Wakers are dropped, and nothing else happens. -/
@[simp] theorem wp_dropWakers_inert (wakers : List Waker) :
    (dropWakers wakers : Act χ ω ρ α Unit).wp (.inert limit) post exc =
      fun world => post () (world.toldAll (disposals wakers)) := by
  funext world
  induction wakers generalizing world post exc with
  | nil => rfl
  | cons waker rest ih => simp [dropWakers, dropGlue, ih, disposals, World.toldAll_cons]

/-- Tasks are woken, and nothing else happens. -/
@[simp] theorem wp_wakeAll_inert (side : Side) (wakers : List (UInt64 × Waker)) :
    (wakeAll side wakers : Act χ ω ρ α Unit).wp (.inert limit) post exc =
      fun world => post () (world.toldAll (wakings side (wakers.map Prod.snd))) := by
  funext world
  unfold wakeAll
  induction wakers generalizing world with
  | nil => rfl
  | cons entry rest ih => simp [wakeEach, ih, wakings, World.toldAll_cons]

end Rules

/-! ### What is heard of a channel -/

/-- The answer of an operation that is heard of. -/
def Event.answer? : Event (Op α) (Result α) α → Option (Op α × Result α)
  | .returned _ op result => if op.isShared then some (op, result) else none
  | _ => none

/-- The results of the operations so far, but for reports of termination. -/
def answers (log : Log α) : List (Op α × Result α) := collect Event.answer? log

/-- The waker of a receiver that is invoked with an event. -/
def Event.wokeReceiver? : Event (Op α) (Result α) α → Option Waker
  | .called (.wake .receivers waker) => some waker
  | _ => none

/-- The wakers of the receiver's tasks that were woken, in that order. -/
def wokeReceivers (log : Log α) : List Waker := collect Event.wokeReceiver? log

section Heard

variable (event : Event (Op α) (Result α) α) (events log : Log α)

/-- The newest event answers last. -/
@[simp] theorem answers_cons : answers (event :: log) = answers log ++ event.answer?.toList :=
  collect_cons ..

/-- The newest event wakes the last sender. -/
@[simp] theorem wokeSenders_cons :
    wokeSenders (event :: log) = wokeSenders log ++ event.wokeSender?.toList := collect_cons ..

/-- The newest event wakes the last receiver. -/
@[simp] theorem wokeReceivers_cons :
    wokeReceivers (event :: log) = wokeReceivers log ++ event.wokeReceiver?.toList :=
  collect_cons ..

variable {χ : Type} (world : World χ (Op α) (Result α) α)

/-- What is told yields its part of the log. -/
theorem collect_toldAll {β : Type} (project : Event (Op α) (Result α) α → Option β) :
    collect project (world.toldAll events).log =
      collect project world.log ++ events.filterMap project := by
  simp [World.toldAll, collect]

/-- The answers that are told come last. -/
@[simp] theorem answers_toldAll : answers (world.toldAll events).log =
    answers world.log ++ events.filterMap Event.answer? := collect_toldAll ..

/-- The senders that are told to be woken come last. -/
@[simp] theorem wokeSenders_toldAll : wokeSenders (world.toldAll events).log =
    wokeSenders world.log ++ events.filterMap Event.wokeSender? := collect_toldAll ..

/-- The receivers that are told to be woken come last. -/
@[simp] theorem wokeReceivers_toldAll : wokeReceivers (world.toldAll events).log =
    wokeReceivers world.log ++ events.filterMap Event.wokeReceiver? := collect_toldAll ..

variable (wakers : List Waker)

/-- Waking tasks answers nothing. -/
@[simp] theorem answers_wakings (side : Side) :
    (wakings side wakers : Log α).filterMap Event.answer? = [] := by
  simp [wakings, Event.answer?, Function.comp_def]

/-- Waking senders wakes these senders. -/
@[simp] theorem wokeSenders_wakings :
    (wakings .senders wakers : Log α).filterMap Event.wokeSender? = wakers := by
  simp [wakings, Event.wokeSender?, Function.comp_def]

/-- Waking receivers wakes no sender. -/
@[simp] theorem wokeSenders_wakings_receivers :
    (wakings .receivers wakers : Log α).filterMap Event.wokeSender? = [] := by
  simp [wakings, Event.wokeSender?, Function.comp_def]

/-- Waking receivers wakes these receivers. -/
@[simp] theorem wokeReceivers_wakings :
    (wakings .receivers wakers : Log α).filterMap Event.wokeReceiver? = wakers := by
  simp [wakings, Event.wokeReceiver?, Function.comp_def]

/-- Waking senders wakes no receiver. -/
@[simp] theorem wokeReceivers_wakings_senders :
    (wakings .senders wakers : Log α).filterMap Event.wokeReceiver? = [] := by
  simp [wakings, Event.wokeReceiver?, Function.comp_def]

/-- Dropping wakers answers nothing. -/
@[simp] theorem answers_disposals :
    (disposals wakers : Log α).filterMap Event.answer? = [] := by
  simp [disposals, Event.answer?, Function.comp_def]

/-- Dropping wakers wakes no sender. -/
@[simp] theorem wokeSenders_disposals :
    (disposals wakers : Log α).filterMap Event.wokeSender? = [] := by
  simp [disposals, Event.wokeSender?, Function.comp_def]

/-- Dropping wakers wakes no receiver. -/
@[simp] theorem wokeReceivers_disposals :
    (disposals wakers : Log α).filterMap Event.wokeReceiver? = [] := by
  simp [disposals, Event.wokeReceiver?, Function.comp_def]

variable (items : List α)

/-- Dropping items answers nothing. -/
@[simp] theorem answers_draining : (draining items : Log α).filterMap Event.answer? = [] := by
  simp [draining, Event.answer?, Function.comp_def]

/-- Dropping items wakes no sender. -/
@[simp] theorem wokeSenders_draining :
    (draining items : Log α).filterMap Event.wokeSender? = [] := by
  simp [draining, Event.wokeSender?, Function.comp_def]

/-- Dropping items wakes no receiver. -/
@[simp] theorem wokeReceivers_draining :
    (draining items : Log α).filterMap Event.wokeReceiver? = [] := by
  simp [draining, Event.wokeReceiver?, Function.comp_def]

end Heard

/-! ### The ideal channel as a system -/

namespace Ideal

open System

variable {op : Op α} {policy : Policy (World (Ideal α) (Op α) (Result α) α)
    (Callback α) Panic (Op α)}
  {count : Nat} {before after : World (Ideal α) (Op α) (Result α) α}

/-- Serving an operation leaves what its turn leaves. -/
theorem Served.state (served : Served (system α) policy count op before after) :
    after.state = (before.state.step op).next :=
  served.establishes (fun after => after.state = (before.state.step op).next) rfl

/-- Serving an operation adds the answer of its turn. -/
theorem Served.answers (served : Served (system α) policy count op before after) :
    answers after.log = answers before.log ++ (before.state.step op).answers op := by
  refine served.establishes (fun after => Lochan.answers after.log = _) ?_
  have logged : (if op.isShared then some (op, (before.state.step op).result) else none).toList =
      (before.state.step op).answers op := by
    unfold Turn.answers
    split
    · rfl
    · rfl
  simp [system, perform, Event.answer?, logged]

/-- An operation that is permitted is served. -/
theorem serve (count : Nat) (permitted : before.state.Permitted op)
    (allowed : policy.call before op) :
    ∃ after, Served (system α) policy count op before after := by
  have performs : ((system α).prog op).wp (.inert count) (fun _ _ => True)
      (fun _ _ => False) before := by
    simp [system, perform]
  obtain ⟨after, served, -⟩ := Served.of_wp permitted allowed performs
  exact ⟨after, served⟩

/-- A channel has come as far as an ideal one, with the same answers. -/
structure Agrees (ideal : Ideal α) (log : Log α) (world : World (Ideal α) (Op α) (Result α) α) :
    Prop where
  state : ideal = world.state
  answers : answers log = answers world.log

/-- Two channels that agree still do when both serve an operation. -/
theorem Agrees.step {ideal ideal' : Ideal α} {log log' : Log α} (agrees : Agrees ideal log before)
    (served : Served (system α) policy count op before after) (next : ideal' = (ideal.step op).next)
    (heard : Lochan.answers log' = Lochan.answers log ++ (ideal.step op).answers op) :
    Agrees ideal' log' after := by
  refine ⟨?_, ?_⟩
  · rw [next, agrees.state, Served.state served]
  · rw [heard, agrees.state, agrees.answers, Served.answers served]

/-- A system serves just what the ideal channel serves, with the same answers, and comes to the same
states. Whatever user code may start is served. -/
structure Realizes {χ : Type}
    (channel : System (World χ (Op α) (Result α) α) (Callback α) Panic (Op α))
    (manners : Policy (World χ (Op α) (Result α) α) (Callback α) Panic (Op α))
    (policy : Policy (World (Ideal α) (Op α) (Result α) α) (Callback α) Panic (Op α))
    (ideal : World χ (Op α) (Result α) α → Ideal α) (fresh : World χ (Op α) (Result α) α)
    (count : Nat) : Prop where
  forward : ∀ {ops after}, ops.length ≤ count → Serves channel manners count ops fresh after →
    ∃ world, Serves (system α) policy count ops ⟨ideal fresh, [], []⟩ world ∧
      Agrees (ideal after) after.log world
  backward : ∀ {ops world}, ops.length ≤ count →
    Serves (system α) policy count ops ⟨ideal fresh, [], []⟩ world →
    ∃ after, Serves channel manners count ops fresh after ∧ Agrees (ideal after) after.log world
  total : ∀ {ops after op}, ops.length < count → Serves channel manners count ops fresh after →
    channel.legal after op → manners.call after op → ∃ next,
      Served channel manners count op after next

end Ideal

end Lochan
