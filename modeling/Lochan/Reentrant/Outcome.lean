import Lochan.Reentrant.Prog

/-!
# Running a program against given user code

`Prog.run` runs a program to its end, where a function answers for user code: how each
callback is left, and in which state. Its outcome names the callbacks that the program
itself ran, in order. The rules compute the outcome of a compound program from those of its
parts.
-/

namespace Reentrant

variable {σ κ ε α β : Type}

/-- How a program is over. -/
inductive Ending (ε α : Type) where
  | returned (value : α)
  | unwound (payload : ε)
  | aborted
  | faulted
  | hung
deriving DecidableEq

/-- How a callback is left that panics with a payload, or does not. -/
def leaving : Option ε → Except ε Unit
  | none => .ok ()
  | some payload => .error payload

/-- How a program is over that resumes a panic, or has none to resume. -/
def Ending.resuming : Option ε → Ending ε Unit
  | none => .returned ()
  | some payload => .unwound payload

/-- Resuming a panic is not aborting. -/
theorem Ending.resuming_ne_aborted {panic : Option ε} : Ending.resuming panic ≠ .aborted := by
  cases panic <;> exact nofun

/-- The outcome of a program: the callbacks it ran and how each was left, how the program is
over, and the state it leaves behind. -/
structure Outcome (σ κ ε α : Type) where
  calls : List (κ × Except ε Unit)
  ending : Ending ε α
  state : σ

namespace Outcome

/-- The program ran a callback before. -/
def after (outcome : Outcome σ κ ε α) (call : κ × Except ε Unit) : Outcome σ κ ε α :=
  { outcome with calls := call :: outcome.calls }

/-- The program ran some callbacks before. -/
def afterAll (outcome : Outcome σ κ ε α) (calls : List (κ × Except ε Unit)) : Outcome σ κ ε α :=
  { outcome with calls := calls ++ outcome.calls }

/-- Goes on with what follows if the program returned. -/
def andThen (outcome : Outcome σ κ ε α) (next : α → σ → Outcome σ κ ε β) : Outcome σ κ ε β :=
  match outcome.ending with
  | .returned value => (next value outcome.state).afterAll outcome.calls
  | .unwound payload => ⟨outcome.calls, .unwound payload, outcome.state⟩
  | .aborted => ⟨outcome.calls, .aborted, outcome.state⟩
  | .faulted => ⟨outcome.calls, .faulted, outcome.state⟩
  | .hung => ⟨outcome.calls, .hung, outcome.state⟩

/-- An unwind is caught. -/
def caught (outcome : Outcome σ κ ε α) : Outcome σ κ ε (Except ε α) :=
  match outcome.ending with
  | .returned value => ⟨outcome.calls, .returned (.ok value), outcome.state⟩
  | .unwound payload => ⟨outcome.calls, .returned (.error payload), outcome.state⟩
  | .aborted => ⟨outcome.calls, .aborted, outcome.state⟩
  | .faulted => ⟨outcome.calls, .faulted, outcome.state⟩
  | .hung => ⟨outcome.calls, .hung, outcome.state⟩

/-- A clean-up runs on an unwind, and aborts the process if it unwinds itself. -/
def cleaned (outcome : Outcome σ κ ε α) (cleanup : σ → Outcome σ κ ε Unit) : Outcome σ κ ε α :=
  match outcome.ending with
  | .unwound payload =>
    let last := cleanup outcome.state
    match last.ending with
    | .returned _ => ⟨outcome.calls ++ last.calls, .unwound payload, last.state⟩
    | .unwound _ => ⟨outcome.calls ++ last.calls, .aborted, last.state⟩
    | .aborted => ⟨outcome.calls ++ last.calls, .aborted, last.state⟩
    | .faulted => ⟨outcome.calls ++ last.calls, .faulted, last.state⟩
    | .hung => ⟨outcome.calls ++ last.calls, .hung, last.state⟩
  | _ => outcome

/-- What an outcome has to satisfy under a contract. -/
def Meets (contract : Prog.Contract σ κ ε) (post : α → σ → Prop) (exc : ε → σ → Prop)
    (outcome : Outcome σ κ ε α) : Prop :=
  match outcome.ending with
  | .returned value => post value outcome.state
  | .unwound payload => exc payload outcome.state
  | .aborted => contract.abort outcome.state
  | .faulted => False
  | .hung => contract.hang outcome.state

/-- A callback before everything else is called first. -/
@[simp] theorem after_calls (outcome : Outcome σ κ ε α) (call : κ × Except ε Unit) :
    (outcome.after call).calls = call :: outcome.calls := rfl

/-- A callback before everything else does not change the ending. -/
@[simp] theorem after_ending (outcome : Outcome σ κ ε α) (call : κ × Except ε Unit) :
    (outcome.after call).ending = outcome.ending := rfl

/-- A callback before everything else does not change the state that is left. -/
@[simp] theorem after_state (outcome : Outcome σ κ ε α) (call : κ × Except ε Unit) :
    (outcome.after call).state = outcome.state := rfl

/-- What follows comes after the callbacks that were run. -/
theorem calls_andThen (outcome : Outcome σ κ ε α) (next : α → σ → Outcome σ κ ε β) :
    ∃ later, (outcome.andThen next).calls = outcome.calls ++ later := by
  obtain ⟨calls, ending, state⟩ := outcome
  cases ending with
  | returned value => exact ⟨_, rfl⟩
  | _ => exact ⟨[], (List.append_nil _).symm⟩

/-- Catching an unwind runs no callback. -/
@[simp] theorem calls_caught (outcome : Outcome σ κ ε α) :
    outcome.caught.calls = outcome.calls := by
  obtain ⟨calls, ending, state⟩ := outcome
  cases ending <;> rfl

/-- A clean-up only adds to the callbacks that were run. -/
theorem calls_cleaned (outcome : Outcome σ κ ε α) (cleanup : σ → Outcome σ κ ε Unit) :
    ∃ later, (outcome.cleaned cleanup).calls = outcome.calls ++ later := by
  obtain ⟨calls, ending, state⟩ := outcome
  cases ending with
  | unwound payload =>
      refine ⟨(cleanup state).calls, ?_⟩
      simp only [cleaned]
      cases (cleanup state).ending <;> rfl
  | _ => exact ⟨[], (List.append_nil _).symm⟩

/-- A callback before a program is one before the program and what follows it. -/
theorem after_andThen (outcome : Outcome σ κ ε α) (call : κ × Except ε Unit)
    (next : α → σ → Outcome σ κ ε β) :
    (outcome.after call).andThen next = (outcome.andThen next).after call := by
  obtain ⟨calls, ending, state⟩ := outcome
  cases ending <;> rfl

/-- A callback before a program that is caught is run before the catch. -/
theorem after_caught (outcome : Outcome σ κ ε α) (call : κ × Except ε Unit) :
    (outcome.after call).caught = outcome.caught.after call := by
  obtain ⟨calls, ending, state⟩ := outcome
  cases ending <;> rfl

/-- A callback before a program that is cleaned up after is run before the clean-up. -/
theorem after_cleaned (outcome : Outcome σ κ ε α) (call : κ × Except ε Unit)
    (cleanup : σ → Outcome σ κ ε Unit) :
    (outcome.after call).cleaned cleanup = (outcome.cleaned cleanup).after call := by
  obtain ⟨calls, ending, state⟩ := outcome
  cases ending with
  | unwound payload =>
      simp only [after, cleaned]
      cases (cleanup state).ending <;> rfl
  | _ => rfl

end Outcome

namespace Prog

/-- Runs a program where `answer` says how a callback entered in a state is left, and in
which state; every loop is granted `count` iterations. -/
def run (answer : κ → σ → Except ε Unit × σ) (count : Nat) :
    Prog σ κ ε α → σ → Outcome σ κ ε α
  | .ret value, state => ⟨[], .returned value, state⟩
  | .unwind payload, state => ⟨[], .unwound payload, state⟩
  | .abort, state => ⟨[], .aborted, state⟩
  | .fault, state => ⟨[], .faulted, state⟩
  | .hang, state => ⟨[], .hung, state⟩
  | .get next, state => (next state).run answer count state
  | .set state next, _ => next.run answer count state
  | .user callback next, state =>
    let left := answer callback state
    ((next left.1).run answer count left.2).after (callback, left.1)
  | .budget next, state => (next count).run answer count state

variable {answer : κ → σ → Except ε Unit × σ} {count : Nat}

/-- Returning runs no callback. -/
@[simp] theorem run_pure (value : α) (state : σ) :
    (pure value : Prog σ κ ε α).run answer count state = ⟨[], .returned value, state⟩ := rfl

/-- Unwinding runs no callback. -/
@[simp] theorem run_unwind (payload : ε) (state : σ) :
    (unwind payload : Prog σ κ ε α).run answer count state = ⟨[], .unwound payload, state⟩ := rfl

/-- Reading the state runs no callback. -/
@[simp] theorem run_read (state : σ) :
    (read : Prog σ κ ε σ).run answer count state = ⟨[], .returned state, state⟩ := rfl

/-- Writing the state runs no callback. -/
@[simp] theorem run_modify (update : σ → σ) (state : σ) :
    (modify update : Prog σ κ ε Unit).run answer count state =
      ⟨[], .returned (), update state⟩ := rfl

/-- A run of one program after the other is a run of the one, and then of the other. -/
theorem run_bind_eq (prog : Prog σ κ ε α) (next : α → Prog σ κ ε β) (state : σ) :
    (prog.bind next).run answer count state =
      (prog.run answer count state).andThen fun value => (next value).run answer count := by
  induction prog generalizing state with
  | ret value => rfl
  | unwind payload => rfl
  | abort => rfl
  | fault => rfl
  | hang => rfl
  | get first ih => exact ih state state
  | set written first ih => exact ih written
  | user callback first ih =>
      simp only [bind, run]
      rw [ih, Outcome.after_andThen]
  | budget first ih => exact ih count state

/-- The same, as `do` writes it. -/
@[simp] theorem run_bind (prog : Prog σ κ ε α) (next : α → Prog σ κ ε β) (state : σ) :
    (prog >>= next).run answer count state =
      (prog.run answer count state).andThen fun value => (next value).run answer count :=
  run_bind_eq prog next state

/-- A run of a program whose unwind is caught. -/
@[simp] theorem run_attempt (prog : Prog σ κ ε α) (state : σ) :
    prog.attempt.run answer count state = (prog.run answer count state).caught := by
  induction prog generalizing state with
  | ret value => rfl
  | unwind payload => rfl
  | abort => rfl
  | fault => rfl
  | hang => rfl
  | get first ih => exact ih state state
  | set written first ih => exact ih written
  | user callback first ih =>
      simp only [attempt, run]
      rw [ih, Outcome.after_caught]
  | budget first ih => exact ih count state

/-- A run of a program with a clean-up for the case that it unwinds. -/
@[simp] theorem run_guarded (prog : Prog σ κ ε α) (cleanup : Prog σ κ ε Unit) (state : σ) :
    (prog.guarded cleanup).run answer count state =
      (prog.run answer count state).cleaned (cleanup.run answer count) := by
  induction prog generalizing state with
  | ret value => rfl
  | unwind payload =>
      simp only [guarded, unwinding, run_bind_eq, run_attempt, run, Outcome.cleaned]
      cases cleanup.run answer count state with
      | mk calls ending after =>
          cases ending <;> simp [Outcome.caught, Outcome.andThen, Outcome.afterAll, run]
  | abort => rfl
  | fault => rfl
  | hang => rfl
  | get first ih => exact ih state state
  | set written first ih => exact ih written
  | user callback first ih =>
      simp only [guarded, run]
      rw [ih, Outcome.after_cleaned]
  | budget first ih => exact ih count state

/-- A program that satisfies its weakest precondition ends as that promises, where user code
keeps to the contract. -/
theorem wp.run_meets {contract : Contract σ κ ε} {post : α → σ → Prop} {exc : ε → σ → Prop}
    {prog : Prog σ κ ε α} {state : σ} (holds : prog.wp contract post exc state)
    (granted : contract.grants count)
    (answers : ∀ callback before, contract.enter callback before →
      contract.resume callback before (answer callback before).1 (answer callback before).2) :
    (prog.run answer count state).Meets contract post exc := by
  induction prog generalizing state with
  | ret value => exact holds
  | unwind payload => exact holds
  | abort => exact holds
  | fault => exact holds
  | hang => exact holds
  | get next ih => exact ih state holds
  | set written next ih => exact ih holds
  | user callback next ih => exact ih _ (holds.2 _ _ (answers callback state holds.1))
  | budget next ih => exact ih count (holds count granted)

/-- Every callback that a program runs is one that its contract lets it enter. -/
theorem wp.run_enters {contract : Contract σ κ ε} {post : α → σ → Prop} {exc : ε → σ → Prop}
    {prog : Prog σ κ ε α} {state : σ} (holds : prog.wp contract post exc state)
    (granted : contract.grants count)
    (answers : ∀ callback before, contract.enter callback before →
      contract.resume callback before (answer callback before).1 (answer callback before).2) :
    ∀ call ∈ (prog.run answer count state).calls, ∃ before, contract.enter call.1 before := by
  induction prog generalizing state with
  | get next ih => exact ih state holds
  | set written next ih => exact ih holds
  | user callback next ih =>
      intro call member
      rcases List.mem_cons.mp member with rfl | later
      · exact ⟨state, holds.1⟩
      · exact ih _ (holds.2 _ _ (answers callback state holds.1)) call later
  | budget next ih => exact ih count (holds count granted)
  | _ =>
      intro call member
      cases member

/-! ### User code that keeps out of the state -/

/-- User code that leaves the state alone, and each callback in a given way. -/
def aloof (leaves : κ → σ → Except ε Unit) (callback : κ) (state : σ) : Except ε Unit × σ :=
  (leaves callback state, state)

/-- The contract of such user code with a program that enters certain callbacks only, and is over
with an unwind at worst. -/
def Contract.aloof (enters : κ → Prop) (leaves : κ → σ → Except ε Unit) : Contract σ κ ε where
  enter callback _ := enters callback
  resume callback before outcome after := outcome = leaves callback before ∧ after = before
  abort _ := False
  hang _ := False
  grants _ := True

variable {enters : κ → Prop} {leaves : κ → σ → Except ε Unit}

/-- A program meets its contract when user code only answers the callbacks. -/
theorem wp.run_aloof {post : α → σ → Prop} {exc : ε → σ → Prop} {prog : Prog σ κ ε α} {state : σ}
    (holds : prog.wp (.aloof enters leaves) post exc state) (count : Nat) :
    (prog.run (aloof leaves) count state).Meets (.aloof enters leaves) post exc :=
  holds.run_meets trivial fun _ _ _ => ⟨rfl, rfl⟩

/-- Every callback that is run is one that the contract lets be entered. -/
theorem wp.calls_aloof {post : α → σ → Prop} {exc : ε → σ → Prop} {prog : Prog σ κ ε α} {state : σ}
    (holds : prog.wp (.aloof enters leaves) post exc state) (count : Nat) :
    ∀ call ∈ (prog.run (aloof leaves) count state).calls, enters call.1 := by
  intro call member
  obtain ⟨_, entered⟩ := holds.run_enters trivial (fun _ _ _ => ⟨rfl, rfl⟩) call member
  exact entered

/-! ### User code that does nothing -/

/-- User code that returns from every callback without having done anything. -/
def inert : κ → σ → Except ε Unit × σ := aloof fun _ _ => .ok ()

/-- The contract of such user code with a program that returns, where every loop is granted
`limit` iterations. -/
def Contract.inert (limit : Nat) : Contract σ κ ε where
  enter _ _ := True
  resume _ before outcome after := outcome = .ok () ∧ after = before
  abort _ := False
  hang _ := False
  grants granted := granted = limit

/-- A program that may not unwind returns when user code does nothing. -/
theorem wp.run_inert {post : α → σ → Prop} {prog : Prog σ κ ε α} {state : σ}
    (holds : prog.wp (.inert count) post (fun _ _ => False) state) :
    ∃ value, (prog.run inert count state).ending = .returned value ∧
      post value (prog.run inert count state).state := by
  have meets : (prog.run inert count state).Meets (.inert count) post fun _ _ => False :=
    holds.run_meets rfl fun _ _ _ => ⟨rfl, rfl⟩
  revert meets
  generalize prog.run inert count state = outcome
  obtain ⟨calls, ending, after⟩ := outcome
  cases ending with
  | returned value => exact fun meets => ⟨value, rfl, meets⟩
  | unwound payload => exact False.elim
  | aborted => exact False.elim
  | faulted => exact False.elim
  | hung => exact False.elim

end Prog

end Reentrant
