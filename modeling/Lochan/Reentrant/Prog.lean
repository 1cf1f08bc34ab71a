import Mathlib.Data.List.Basic

/-!
# Programs that hand control to user code

A program over a shared state reads and writes that state, and now and then
runs a callback: a piece of user code that may itself run further programs on
the same state before it returns or panics. A panic unwinds the program; the
code that must still run on the way out is attached with `Prog.guarded`, and
`Prog.attempt` stops an unwind. A panic that escapes while another one is
unwinding aborts the process.

`Prog.wp` is the weakest precondition of a program under a contract with user
code: what the program promises when a callback is entered, and what it may rely
on when the callback is left.
-/

namespace Reentrant

/-- A program over the shared state `σ` that runs callbacks `κ`, panics with
payloads `ε` and returns a value of type `α`. -/
inductive Prog (σ κ ε α : Type) where
  | ret (value : α)
  /-- Unwinds with a panic payload. -/
  | unwind (payload : ε)
  /-- The process aborts. -/
  | abort
  /-- Undefined behaviour: nothing is promised past this point. -/
  | fault
  /-- A loop that has used up its budget of iterations and never goes on. -/
  | hang
  | get (next : σ → Prog σ κ ε α)
  | set (state : σ) (next : Prog σ κ ε α)
  /-- Runs user code, and goes on with the way it was left. -/
  | user (callback : κ) (next : Except ε Unit → Prog σ κ ε α)
  /-- Asks for a budget of iterations; a run may choose any. -/
  | budget (next : Nat → Prog σ κ ε α)

namespace Prog

variable {σ κ ε α β : Type}

/-- Runs a program and then the one its value selects. -/
def bind : Prog σ κ ε α → (α → Prog σ κ ε β) → Prog σ κ ε β
  | .ret value, next => next value
  | .unwind payload, _ => .unwind payload
  | .abort, _ => .abort
  | .fault, _ => .fault
  | .hang, _ => .hang
  | .get first, next => .get fun state => (first state).bind next
  | .set state first, next => .set state (first.bind next)
  | .user callback first, next => .user callback fun outcome => (first outcome).bind next
  | .budget first, next => .budget fun count => (first count).bind next

instance : Monad (Prog σ κ ε) where
  pure := .ret
  bind := .bind

/-- The shared state. -/
def read : Prog σ κ ε σ := .get .ret

/-- Replaces the shared state. -/
def modify (update : σ → σ) : Prog σ κ ε Unit := .get fun state => .set (update state) (.ret ())

/-- Catches an unwind and returns its payload. -/
def attempt : Prog σ κ ε α → Prog σ κ ε (Except ε α)
  | .ret value => .ret (.ok value)
  | .unwind payload => .ret (.error payload)
  | .abort => .abort
  | .fault => .fault
  | .hang => .hang
  | .get next => .get fun state => (next state).attempt
  | .set state next => .set state next.attempt
  | .user callback next => .user callback fun outcome => (next outcome).attempt
  | .budget next => .budget fun count => (next count).attempt

/-- Runs the clean-up of an unwind in progress and resumes the unwind. A panic
that escapes the clean-up aborts the process. -/
def unwinding (cleanup : Prog σ κ ε Unit) (payload : ε) : Prog σ κ ε α :=
  cleanup.attempt.bind fun
    | .ok _ => .unwind payload
    | .error _ => .abort

/-- Runs a program with a clean-up that runs only if the program unwinds. -/
def guarded : Prog σ κ ε α → Prog σ κ ε Unit → Prog σ κ ε α
  | .ret value, _ => .ret value
  | .unwind payload, cleanup => unwinding cleanup payload
  | .abort, _ => .abort
  | .fault, _ => .fault
  | .hang, _ => .hang
  | .get next, cleanup => .get fun state => (next state).guarded cleanup
  | .set state next, cleanup => .set state (next.guarded cleanup)
  | .user callback next, cleanup => .user callback fun outcome => (next outcome).guarded cleanup
  | .budget next, cleanup => .budget fun count => (next count).guarded cleanup

/-- Runs a program and then its clean-up, however the program is left. -/
def ensuring (prog : Prog σ κ ε α) (cleanup : Prog σ κ ε Unit) : Prog σ κ ε α := do
  let value ← prog.guarded cleanup
  cleanup
  return value

/-- Runs the body at most `count` times, until it yields a value. -/
def iterate (body : Prog σ κ ε (Option α)) : Nat → Prog σ κ ε α
  | 0 => .hang
  | count + 1 => body.bind fun
    | some value => .ret value
    | none => iterate body count

/-- Runs the body until it yields a value. -/
def loop (body : Prog σ κ ε (Option α)) : Prog σ κ ε α := .budget (iterate body)

/-! ### Weakest preconditions -/

/-- What a program and the user code it runs promise each other: `enter` holds of
the state in which a callback is entered, `resume` relates that state to the way
the callback is left and the state it leaves behind, `abort` holds of the states
in which the program may abort the process, and `hang` of those in which it may use up
the budget of a loop, which is one that `grants` allows. -/
structure Contract (σ κ ε : Type) where
  enter : κ → σ → Prop
  resume : κ → σ → Except ε Unit → σ → Prop
  abort : σ → Prop
  hang : σ → Prop
  grants : Nat → Prop

/-- The weakest precondition of a program: under the contract it never faults,
enters every callback as promised, satisfies `post` when it returns and `exc` when it
unwinds. -/
def wp (contract : Contract σ κ ε) (post : α → σ → Prop) (exc : ε → σ → Prop) :
    Prog σ κ ε α → σ → Prop
  | .ret value, state => post value state
  | .unwind payload, state => exc payload state
  | .abort, state => contract.abort state
  | .fault, _ => False
  | .hang, state => contract.hang state
  | .get next, state => (next state).wp contract post exc state
  | .set state next, _ => next.wp contract post exc state
  | .user callback next, state => contract.enter callback state ∧
      ∀ outcome after, contract.resume callback state outcome after →
        (next outcome).wp contract post exc after
  | .budget next, state => ∀ count, contract.grants count → (next count).wp contract post exc state

/-- However the program is left, what it leaves behind satisfies `holds`. -/
abbrev leaves (contract : Contract σ κ ε) (holds : σ → Prop) (prog : Prog σ κ ε α) : σ → Prop :=
  prog.wp contract (fun _ => holds) (fun _ => holds)

section WP

variable {contract : Contract σ κ ε} {post : α → σ → Prop} {exc : ε → σ → Prop} {state : σ}

/-- The weakest precondition is monotone in both postconditions. -/
theorem wp_mono {post' : α → σ → Prop} {exc' : ε → σ → Prop}
    {prog : Prog σ κ ε α} (holds : prog.wp contract post exc state)
    (returns : ∀ value after, post value after → post' value after)
    (unwinds : ∀ payload after, exc payload after → exc' payload after) :
    prog.wp contract post' exc' state := by
  induction prog generalizing state with
  | ret value => exact returns _ _ holds
  | unwind payload => exact unwinds _ _ holds
  | abort => exact holds
  | fault => exact holds
  | hang => exact holds
  | get next ih => exact ih state holds
  | set written next ih => exact ih holds
  | user callback next ih =>
      exact ⟨holds.1, fun outcome after left => ih outcome (holds.2 outcome after left)⟩
  | budget next ih => exact fun count granted => ih count (holds count granted)

/-- The rule for a program that returns at once. -/
@[simp] theorem wp_pure (value : α) :
    (pure value : Prog σ κ ε α).wp contract post exc = post value := rfl

/-- The rule for a program that unwinds at once. -/
@[simp] theorem wp_unwind (payload : ε) :
    (unwind payload : Prog σ κ ε α).wp contract post exc = exc payload := rfl

/-- A program that aborts needs the contract to let it. -/
@[simp] theorem wp_abort :
    (abort : Prog σ κ ε α).wp contract post exc = contract.abort := rfl

/-- A program that faults meets no contract. -/
@[simp] theorem wp_fault : (fault : Prog σ κ ε α).wp contract post exc = fun _ => False := rfl

/-- A program that hangs needs the contract to let it. -/
@[simp] theorem wp_hang : (hang : Prog σ κ ε α).wp contract post exc = contract.hang := rfl

/-- The rule for a callback: what it is entered in is promised, and how it is left is relied on. -/
@[simp] theorem wp_user (callback : κ) (next : Except ε Unit → Prog σ κ ε α) :
    (user callback next).wp contract post exc = fun state => contract.enter callback state ∧
      ∀ outcome after, contract.resume callback state outcome after →
        (next outcome).wp contract post exc after := rfl

/-- The rule for a budget: every budget that the contract grants may be chosen. -/
@[simp] theorem wp_budget (next : Nat → Prog σ κ ε α) :
    (budget next).wp contract post exc =
      fun state => ∀ count, contract.grants count → (next count).wp contract post exc state := rfl

/-- The rule for reading the shared state. -/
@[simp] theorem wp_read {post : σ → σ → Prop} :
    (read : Prog σ κ ε σ).wp contract post exc = fun state => post state state := rfl

/-- The rule for writing the shared state. -/
@[simp] theorem wp_modify {post : Unit → σ → Prop} (update : σ → σ) :
    (modify update : Prog σ κ ε Unit).wp contract post exc = fun state => post () (update state) :=
  rfl

/-- The rule for one program after the other. -/
theorem wp_bind_eq {post : β → σ → Prop} (prog : Prog σ κ ε α) (next : α → Prog σ κ ε β) :
    (prog.bind next).wp contract post exc =
      prog.wp contract (fun value => (next value).wp contract post exc) exc := by
  funext state
  induction prog generalizing state with
  | ret value => rfl
  | unwind payload => rfl
  | abort => rfl
  | fault => rfl
  | hang => rfl
  | get first ih => exact ih state state
  | set written first ih => exact ih written
  | user callback first ih =>
      simp only [bind, wp]
      simp only [ih]
  | budget first ih =>
      simp only [bind, wp]
      simp only [ih]

/-- The rule for one program after the other, as `do` writes it. -/
@[simp] theorem wp_bind {post : β → σ → Prop} (prog : Prog σ κ ε α) (next : α → Prog σ κ ε β) :
    (prog >>= next).wp contract post exc =
      prog.wp contract (fun value => (next value).wp contract post exc) exc :=
  wp_bind_eq prog next

/-- The rule for a branch. -/
@[simp] theorem wp_ite (condition : Prop) [Decidable condition] (yes no : Prog σ κ ε α) :
    (if condition then yes else no).wp contract post exc =
      if condition then yes.wp contract post exc else no.wp contract post exc := by
  split <;> rfl

/-- The rule for a caught unwind. -/
@[simp] theorem wp_attempt {post : Except ε α → σ → Prop} (prog : Prog σ κ ε α) :
    prog.attempt.wp contract post exc =
      prog.wp contract (fun value => post (.ok value)) (fun payload => post (.error payload)) := by
  funext state
  induction prog generalizing state with
  | ret value => rfl
  | unwind payload => rfl
  | abort => rfl
  | fault => rfl
  | hang => rfl
  | get next ih => exact ih state state
  | set written next ih => exact ih written
  | user callback next ih =>
      simp only [attempt, wp]
      simp only [ih]
  | budget next ih =>
      simp only [attempt, wp]
      simp only [ih]

/-- The rule for a clean-up that runs while a panic unwinds. -/
theorem wp_unwinding (cleanup : Prog σ κ ε Unit) (payload : ε) :
    (unwinding cleanup payload : Prog σ κ ε α).wp contract post exc =
      cleanup.wp contract (fun _ => exc payload) (fun _ => contract.abort) := by
  unfold unwinding
  rw [wp_bind_eq, wp_attempt]
  rfl

/-- The rule for a program with a clean-up for the case that it unwinds. -/
@[simp] theorem wp_guarded (prog : Prog σ κ ε α) (cleanup : Prog σ κ ε Unit) :
    (prog.guarded cleanup).wp contract post exc =
      prog.wp contract post
        (fun payload => cleanup.wp contract (fun _ => exc payload) (fun _ => contract.abort)) := by
  funext state
  induction prog generalizing state with
  | ret value => rfl
  | unwind payload => exact congrFun (wp_unwinding cleanup payload) state
  | abort => rfl
  | fault => rfl
  | hang => rfl
  | get next ih => exact ih state state
  | set written next ih => exact ih written
  | user callback next ih =>
      simp only [guarded, wp]
      simp only [ih]
  | budget next ih =>
      simp only [guarded, wp]
      simp only [ih]

/-- The rule for a program with a clean-up that always runs. -/
@[simp] theorem wp_ensuring (prog : Prog σ κ ε α) (cleanup : Prog σ κ ε Unit) :
    (prog.ensuring cleanup).wp contract post exc =
      prog.wp contract (fun value => cleanup.wp contract (fun _ => post value) exc)
        (fun payload => cleanup.wp contract (fun _ => exc payload) (fun _ => contract.abort)) := by
  simp [ensuring]

/-- The rule for a loop with a budget: an invariant that the body keeps until it yields a
value, and that accounts for the iterations left. -/
theorem wp_iterate {body : Prog σ κ ε (Option α)} (invariant : Nat → σ → Prop) {count : Nat}
    (initially : invariant count state)
    (exhausted : ∀ after, invariant 0 after → contract.hang after)
    (keeps : ∀ left before, invariant (left + 1) before →
      body.wp contract (fun yielded after => match yielded with
        | some value => post value after
        | none => invariant left after) exc before) :
    (iterate body count).wp contract post exc state := by
  induction count generalizing state with
  | zero => exact exhausted state initially
  | succ count ih =>
      simp only [iterate, wp_bind_eq]
      refine wp_mono (keeps count state initially) ?_ (fun _ _ unwound => unwound)
      intro yielded after left
      cases yielded with
      | none => exact ih left
      | some value => exact left

/-- The loop rule: an invariant that the body keeps until it yields a value, where the
program may hang. -/
theorem wp_loop {body : Prog σ κ ε (Option α)} (invariant : σ → Prop) (initially : invariant state)
    (hangs : ∀ after, contract.hang after)
    (keeps : ∀ before, invariant before →
      body.wp contract (fun yielded after => match yielded with
        | some value => post value after
        | none => invariant after) exc before) :
    (loop body).wp contract post exc state :=
  fun _ _ => wp_iterate (fun _ => invariant) initially (fun after _ => hangs after)
    fun _ => keeps

end WP

end Prog

end Reentrant
