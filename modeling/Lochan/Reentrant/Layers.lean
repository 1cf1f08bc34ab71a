import Lochan.Reentrant.Preserves

/-!
# Invariants in layers

Once a system is known to keep an invariant and a guarantee, a second invariant and a second
guarantee are proved on top of them. The second proof may rely on the first ones wherever user
code has just been in control, and owes nothing to them.
-/

namespace Reentrant

variable {σ κ ε α ι : Type}

/-- A contract that asks of user code what two contracts ask, and grants it what both grant. -/
structure Prog.Contract.Joins (lower upper both : Prog.Contract σ κ ε) : Prop where
  enter : ∀ callback state, lower.enter callback state → upper.enter callback state →
    both.enter callback state
  resume : ∀ callback before outcome after, both.resume callback before outcome after →
    lower.resume callback before outcome after ∧ upper.resume callback before outcome after
  abort : ∀ state, lower.abort state → upper.abort state → both.abort state
  hang : ∀ state, lower.hang state → upper.hang state → both.hang state
  grants : ∀ count, both.grants count → lower.grants count ∧ upper.grants count

/-- What a program does under each of two contracts it does under both at once. -/
theorem Prog.wp_and {lower upper both : Prog.Contract σ κ ε} (joins : lower.Joins upper both)
    {post post' : α → σ → Prop} {exc exc' : ε → σ → Prop} {prog : Prog σ κ ε α} {state : σ}
    (holds : prog.wp lower post exc state) (holds' : prog.wp upper post' exc' state) :
    prog.wp both (fun value after => post value after ∧ post' value after)
      (fun payload after => exc payload after ∧ exc' payload after) state := by
  induction prog generalizing state with
  | ret value => exact ⟨holds, holds'⟩
  | unwind payload => exact ⟨holds, holds'⟩
  | abort => exact joins.abort state holds holds'
  | fault => exact holds
  | hang => exact joins.hang state holds holds'
  | get next ih => exact ih state holds holds'
  | set written next ih => exact ih holds holds'
  | user callback next ih =>
      refine ⟨joins.enter callback state holds.1 holds'.1, fun outcome after left => ?_⟩
      obtain ⟨resumed, resumed'⟩ := joins.resume callback state outcome after left
      exact ih outcome (holds.2 outcome after resumed) (holds'.2 outcome after resumed')
  | budget next ih =>
      intro count granted
      obtain ⟨granted, granted'⟩ := joins.grants count granted
      exact ih count (holds count granted) (holds' count granted')

/-- What a program does under one contract it does under another one that grants as much, where
user code is entered with a property that every write of the program keeps, and keeps it too. -/
theorem Prog.wp_preserving {lower upper : Prog.Contract σ κ ε} {holds : σ → Prop}
    (enters : ∀ callback state, lower.enter callback state → holds state →
      upper.enter callback state)
    (resumes : ∀ callback before outcome after, holds before →
      upper.resume callback before outcome after →
      lower.resume callback before outcome after ∧ holds after)
    (aborts : ∀ state, lower.abort state → upper.abort state)
    (hangs : ∀ state, lower.hang state → upper.hang state)
    (grants : ∀ count, upper.grants count → lower.grants count)
    {post : α → σ → Prop} {exc : ε → σ → Prop} {prog : Prog σ κ ε α} {state : σ}
    (preserves : prog.Preserves holds) (below : prog.wp lower post exc state)
    (kept : holds state) :
    prog.wp upper (fun value after => post value after ∧ holds after)
      (fun payload after => exc payload after ∧ holds after) state := by
  induction prog generalizing state with
  | ret value => exact ⟨below, kept⟩
  | unwind payload => exact ⟨below, kept⟩
  | abort => exact aborts state below
  | fault => exact below
  | hang => exact hangs state below
  | get next ih => exact ih state (preserves state kept) below kept
  | set written next ih => exact ih preserves.2 below preserves.1
  | user callback next ih =>
      refine ⟨enters callback state below.1 kept, fun outcome after left => ?_⟩
      obtain ⟨resumed, kept'⟩ := resumes callback state outcome after kept left
      exact ih outcome (preserves outcome) (below.2 outcome after resumed) kept'
  | budget next ih =>
      exact fun count granted =>
        ih count (preserves count) (below count (grants count granted)) kept

namespace System

variable (policy : Policy σ κ ε ι)

/-- What an operation promises user code for the sake of the second invariant, and what it may
rely on: both invariants and both guarantees. -/
def above (invariant : σ → Prop) (guarantee : σ → σ → Prop) (second : σ → Prop)
    (relation : σ → σ → Prop) (op : ι) : Prog.Contract σ κ ε where
  enter _ state := second state
  resume callback before outcome after :=
    policy.resume after op callback outcome ∧ (invariant after ∧ guarantee before after) ∧
      second after ∧ relation before after
  abort _ := True
  hang _ := True
  grants count := policy.patience ≤ count

variable {system : System σ κ ε ι} {policy : Policy σ κ ε ι} {exits : Exits σ ι}
  {invariant second : σ → Prop} {guarantee relation : σ → σ → Prop}

/-- What an operation keeps of the second layer, it keeps on top of the first one. -/
theorem Keeps.and {op : ι} {before state : σ} {prog : Prog σ κ ε Unit}
    (keeps : Keeps policy exits invariant guarantee op before prog state)
    (keeps' : prog.leaves (above policy invariant guarantee second relation op)
      (fun after => second after ∧ relation before after) state) :
    Keeps policy exits (fun state => invariant state ∧ second state)
      (fun before after => guarantee before after ∧
        relation before after) op before prog state := by
  have joins : (contract policy exits invariant guarantee op).Joins
      (above policy invariant guarantee second relation op)
      (contract policy exits (fun state => invariant state ∧ second state)
        (fun before after => guarantee before after ∧ relation before after) op) := by
    refine ⟨fun _ _ enters enters' => ⟨enters, enters'⟩, ?_, fun _ allowed _ => allowed,
      fun _ allowed _ => allowed, fun _ granted => ⟨granted, granted⟩⟩
    rintro callback earlier outcome after ⟨allowed, ⟨kept, kept'⟩, guaranteed, guaranteed'⟩
    exact ⟨⟨allowed, kept, guaranteed⟩, allowed, ⟨kept, guaranteed⟩, kept', guaranteed'⟩
  unfold Keeps Prog.leaves
  refine Prog.wp_mono (Prog.wp_and joins keeps keeps') ?_ ?_
  · rintro _ after ⟨⟨kept, guaranteed⟩, kept', guaranteed'⟩
    exact ⟨⟨kept, kept'⟩, guaranteed, guaranteed'⟩
  · rintro _ after ⟨⟨kept, guaranteed⟩, kept', guaranteed'⟩
    exact ⟨⟨kept, kept'⟩, guaranteed, guaranteed'⟩

/-- The invariant rule in layers. -/
theorem Reachable.sound_above (reflexive : ∀ state, guarantee state state)
    (compose : ∀ first second third, guarantee first second → guarantee second third →
      guarantee first third)
    (reflexive' : ∀ state, relation state state)
    (compose' : ∀ first second third, relation first second → relation second third →
      relation first third)
    (keeps : ∀ op state, system.legal state op → policy.call state op → invariant state →
      Keeps policy exits invariant guarantee op state (system.prog op) state)
    (keeps' : ∀ op state, system.legal state op → policy.call state op → invariant state →
      second state → (system.prog op).leaves (above policy invariant guarantee second relation op)
        (fun after => second after ∧ relation state after) state)
    {start : σ} (initially : invariant start) (initially' : second start)
    {config : Config σ κ ε ι} (reachable : Reachable system policy start config) :
    ConfigSound policy exits (fun state => invariant state ∧ second state)
      (fun before after => guarantee before after ∧ relation before after) start config := by
  refine reachable.sound (fun state => ⟨reflexive state, reflexive' state⟩) ?_ ?_
    ⟨initially, initially'⟩
  · rintro first second third ⟨earlier, earlier'⟩ ⟨later, later'⟩
    exact ⟨compose _ _ _ earlier later, compose' _ _ _ earlier' later'⟩
  · rintro op state legal allowed ⟨kept, kept'⟩
    exact (keeps op state legal allowed kept).and (keeps' op state legal allowed kept kept')

end System

end Reentrant
