import Mathlib.Data.List.Basic

/-!
# First in, first out

The plain list that a queue stands for, and what it takes for a machine to behave like
it. A machine is a function that runs one operation on a state, or faults.
-/

namespace Lochan.Queue

variable {α σ ε : Type} {cap : Option Nat}

/-- The operations of a queue. -/
inductive QueueOp (α : Type) where
  | push (item : α)
  | pop

/-- The results of the operations; a queue that is full hands the item back. -/
inductive Outcome (α : Type) where
  | pushed (result : Except α Unit)
  | popped (item : Option α)

/-- A plain list, with the items that have entered it and those that have left it. -/
structure Fifo (α : Type) where
  queue : List α
  entered : List α
  left : List α

namespace Fifo

/-- A list that nothing has entered. -/
def empty : Fifo α := ⟨[], [], []⟩

/-- Appends at the back of a list of at most `cap` items, or removes from its front. -/
def step (cap : Option Nat) (fifo : Fifo α) : QueueOp α → Outcome α × Fifo α
  | .push item =>
    if cap = some fifo.queue.length then (.pushed (.error item), fifo)
    else (.pushed (.ok ()), ⟨fifo.queue ++ [item], fifo.entered ++ [item], fifo.left⟩)
  | .pop =>
    (.popped fifo.queue.head?,
      ⟨fifo.queue.tail, fifo.entered, fifo.left ++ fifo.queue.head?.toList⟩)

/-- The outcomes of operations in turn, and the list that they leave. -/
def run (cap : Option Nat) (fifo : Fifo α) : List (QueueOp α) → List (Outcome α) × Fifo α
  | [] => ([], fifo)
  | op :: ops =>
    let (outcome, next) := fifo.step cap op
    let (outcomes, last) := next.run cap ops
    (outcome :: outcomes, last)

/-- Every item that has entered has left or is queued, in the order of the pushes. -/
def Conserves (fifo : Fifo α) : Prop := fifo.entered = fifo.left ++ fifo.queue

/-- A step neither duplicates nor loses an item. -/
theorem Conserves.step {fifo : Fifo α} (conserves : fifo.Conserves) (op : QueueOp α) :
    (fifo.step cap op).2.Conserves := by
  unfold Conserves at conserves
  cases op with
  | push item =>
      by_cases full : cap = some fifo.queue.length
      · simp [Fifo.step, full, Conserves, conserves]
      · simp [Fifo.step, full, Conserves, conserves]
  | pop =>
      cases queue : fifo.queue with
      | nil => simp [Conserves, Fifo.step, conserves, queue]
      | cons item rest => simp [Conserves, Fifo.step, conserves, queue]

/-- Nothing has entered an empty list. -/
theorem empty_conserves : (empty : Fifo α).Conserves := rfl

/-- The items that a run without a bound lets in are the ones it pushes. -/
def pushes : List (QueueOp α) → List α
  | [] => []
  | .push item :: ops => item :: pushes ops
  | .pop :: ops => pushes ops

/-- The items that a list of results hands out. -/
def handed : List (Outcome α) → List α
  | [] => []
  | .popped item :: outcomes => item.toList ++ handed outcomes
  | .pushed _ :: outcomes => handed outcomes

/-- What enters a list without a bound is what is pushed. -/
theorem run_entered (fifo : Fifo α) (ops : List (QueueOp α)) :
    (fifo.run none ops).2.entered = fifo.entered ++ pushes ops := by
  induction ops generalizing fifo with
  | nil => simp [run, pushes]
  | cons op ops ih =>
      cases op with
      | push item => simp [run, step, pushes, ih]
      | pop => simp [run, step, pushes, ih]

/-- What leaves a list is what the outcomes hand out. -/
theorem run_left (fifo : Fifo α) (ops : List (QueueOp α)) :
    (fifo.run cap ops).2.left = fifo.left ++ handed (fifo.run cap ops).1 := by
  induction ops generalizing fifo with
  | nil => simp [run, handed]
  | cons op ops ih =>
      cases op with
      | push item =>
          simp only [run, step]
          split
          · exact ih _
          · exact ih _
      | pop =>
          simp only [run, step, handed, ih]
          simp

end Fifo

/-- Runs operations one after the other. -/
def runOps (step : σ → QueueOp α → Except ε (Outcome α × σ)) (state : σ) :
    List (QueueOp α) → Except ε (List (Outcome α) × σ)
  | [] => .ok ([], state)
  | op :: ops => do
    let (outcome, next) ← step state op
    let (outcomes, last) ← runOps step next ops
    return (outcome :: outcomes, last)

/-- A machine whose every step follows a plain list follows it over every run. -/
theorem runOps_follows {step : σ → QueueOp α → Except ε (Outcome α × σ)}
    {follows : Fifo α → σ → Prop}
    (steps : ∀ fifo state op, follows fifo state → ∃ next,
      step state op = .ok ((fifo.step cap op).1, next) ∧ follows (fifo.step cap op).2 next)
    {fifo : Fifo α} {state : σ} (begins : follows fifo state) (ops : List (QueueOp α)) :
    ∃ last, runOps step state ops = .ok ((fifo.run cap ops).1, last) ∧
      follows (fifo.run cap ops).2 last := by
  induction ops generalizing fifo state with
  | nil => exact ⟨state, rfl, begins⟩
  | cons op ops ih =>
      obtain ⟨next, stepped, reached⟩ := steps fifo state op begins
      obtain ⟨last, ran, ended⟩ := ih reached
      refine ⟨last, ?_, ended⟩
      unfold runOps
      rw [stepped]
      show (runOps step next ops >>= _) = _
      rw [ran]
      rfl

end Lochan.Queue
