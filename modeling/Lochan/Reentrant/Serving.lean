import Lochan.Reentrant.Machine
import Lochan.Reentrant.Outcome

/-!
# Operations served one after the other

The runs in which user code only starts operations, and does nothing in the callbacks that they
run. Two systems are compared there by a forward simulation: what the one serves, the other one
serves as well, and the relation between their states is kept.
-/

namespace Reentrant

variable {σ κ ε ι τ κ' ε' : Type}

namespace System

/-- An operation that user code may start is over, and user code has done nothing meanwhile. -/
structure Served (system : System σ κ ε ι) (policy : Policy σ κ ε ι) (count : Nat) (op : ι)
    (before after : σ) : Prop where
  legal : system.legal before op
  allowed : policy.call before op
  returns : ((system.prog op).run Prog.inert count before).ending = .returned ()
  leaves : ((system.prog op).run Prog.inert count before).state = after

/-- Operations that are served in turn. -/
inductive Serves (system : System σ κ ε ι) (policy : Policy σ κ ε ι) (count : Nat) :
    List ι → σ → σ → Prop where
  | nil {state} : Serves system policy count [] state state
  | cons {op ops before middle after} (first : Served system policy count op before middle)
      (rest : Serves system policy count ops middle after) :
      Serves system policy count (op :: ops) before after

variable {system : System σ κ ε ι} {policy : Policy σ κ ε ι} {count : Nat} {op : ι} {ops : List ι}
  {before after : σ}

/-- What an operation establishes when user code does nothing holds once it is served. -/
theorem Served.establishes (served : Served system policy count op before after) (post : σ → Prop)
    (holds : (system.prog op).wp (.inert count) (fun _ => post) (fun _ _ => False) before) :
    post after := by
  obtain ⟨_, -, established⟩ := holds.run_inert
  rw [served.leaves] at established
  exact established

/-- An operation that returns when user code does nothing is served. -/
theorem Served.of_wp (legal : system.legal before op) (allowed : policy.call before op)
    {post : σ → Prop}
    (holds : (system.prog op).wp (.inert count) (fun _ => post) (fun _ _ => False) before) :
    ∃ after, Served system policy count op before after ∧ post after := by
  obtain ⟨_, returned, established⟩ := holds.run_inert
  exact ⟨_, ⟨legal, allowed, returned, rfl⟩, established⟩

/-- What serving an operation leaves is determined by the state before. -/
theorem Served.deterministic {after' : σ} (served : Served system policy count op before after)
    (served' : Served system policy count op before after') : after = after' :=
  served.leaves.symm.trans served'.leaves

/-- What serving operations leaves is determined by the state before. -/
theorem Serves.deterministic {after' : σ} (serves : Serves system policy count ops before after)
    (serves' : Serves system policy count ops before after') : after = after' := by
  induction serves with
  | nil =>
      cases serves'
      rfl
  | cons first _ ih =>
      cases serves' with
      | cons first' rest' =>
          obtain rfl := first.deterministic first'
          exact ih rest'

/-- Operations are served after others. -/
theorem Serves.append {later : List ι} {middle : σ}
    (serves : Serves system policy count ops before middle)
    (serves' : Serves system policy count later middle after) :
    Serves system policy count (ops ++ later) before after := by
  induction serves with
  | nil => exact serves'
  | cons first _ ih => exact .cons first (ih serves')

/-- What is served together is served one part after the other. -/
theorem Serves.split {later : List ι}
    (serves : Serves system policy count (ops ++ later) before after) :
    ∃ middle, Serves system policy count ops before middle ∧
      Serves system policy count later middle after := by
  induction ops generalizing before with
  | nil => exact ⟨before, .nil, serves⟩
  | cons op ops ih =>
      cases serves with
      | cons first rest =>
          obtain ⟨middle, early, late⟩ := ih rest
          exact ⟨middle, .cons first early, late⟩

/-! ### Runs -/

/-- A program that returns when user code does nothing does so in a run. -/
theorem Reachable.finish {start state after : σ} {frames : List (Frame σ κ ε ι)}
    {prog : Prog σ κ ε Unit}
    (resumes : ∀ state op callback, policy.resume state op callback (.ok ()))
    (granted : policy.patience ≤ count)
    (reachable : Reachable system policy start (.ofStop op frames (prog.exec count state)))
    (returns : (prog.run Prog.inert count state).ending = .returned ())
    (leaves : (prog.run Prog.inert count state).state = after) :
    Reachable system policy start (.user after frames) := by
  induction prog generalizing state with
  | ret value =>
      obtain rfl : state = after := leaves
      exact reachable
  | unwind payload => cases returns
  | abort => cases returns
  | fault => cases returns
  | hang => cases returns
  | get next ih => exact ih state reachable returns leaves
  | set written next ih => exact ih reachable returns leaves
  | user callback next ih =>
      exact ih _ (.step reachable (.resume _ _ count (resumes ..) granted)) returns leaves
  | budget next ih => exact ih count reachable returns leaves

/-- An operation that is served is a step of a run in which its callbacks return. -/
theorem Served.reachable (served : Served system policy count op before after)
    (resumes : ∀ state op callback, policy.resume state op callback (.ok ()))
    (granted : policy.patience ≤ count) {start : σ} {frames : List (Frame σ κ ε ι)}
    (reachable : Reachable system policy start (.user before frames)) :
    Reachable system policy start (.user after frames) :=
  .finish resumes granted (.step reachable (.call op count served.legal served.allowed granted))
    served.returns served.leaves

/-! ### Simulation -/

/-- If each operation that the first system serves is served by the second one, and the relation
between their states is kept, then so it is with operations in turn. The relation may depend on the
number of operations to come. -/
theorem Serves.simulates {spec : System τ κ' ε' ι} {terms : Policy τ κ' ε' ι} {granted : Nat}
    (rel : Nat → σ → τ → Prop)
    (forward : ∀ left op before after abstract, rel (left + 1) before abstract →
      Served system policy count op before after →
      ∃ next, Served spec terms granted op abstract next ∧ rel left after next)
    (serves : Serves system policy count ops before after) {abstract : τ}
    (related : rel ops.length before abstract) :
    ∃ next, Serves spec terms granted ops abstract next ∧ rel 0 after next := by
  induction serves generalizing abstract with
  | nil => exact ⟨abstract, .nil, related⟩
  | cons first _ ih =>
      obtain ⟨middle, served, related⟩ := forward _ _ _ _ _ related first
      obtain ⟨next, serves, related⟩ := ih related
      exact ⟨next, .cons served serves, related⟩

/-- If the second system may also skip an operation, provided that the relation holds all the same,
then it serves some of the operations. -/
theorem Serves.simulates_skipping {spec : System τ κ' ε' ι} {terms : Policy τ κ' ε' ι}
    {granted : Nat} (rel : σ → τ → Prop)
    (forward : ∀ op before after abstract, rel before abstract →
      Served system policy count op before after →
      rel after abstract ∨ ∃ next, Served spec terms granted op abstract next ∧ rel after next)
    (serves : Serves system policy count ops before after) {abstract : τ}
    (related : rel before abstract) :
    ∃ kept next, kept.Sublist ops ∧ Serves spec terms granted kept abstract next ∧
      rel after next := by
  induction serves generalizing abstract with
  | nil => exact ⟨[], abstract, .refl _, .nil, related⟩
  | cons first _ ih =>
      rcases forward _ _ _ _ related first with skipped | ⟨middle, served, related⟩
      · obtain ⟨kept, next, sublist, serves, related⟩ := ih skipped
        exact ⟨kept, next, sublist.cons _, serves, related⟩
      · obtain ⟨kept, next, sublist, serves, related⟩ := ih related
        exact ⟨_ :: kept, next, sublist.cons_cons _, .cons served serves, related⟩

end System

end Reentrant
