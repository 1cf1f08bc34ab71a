import Lochan.Reentrant.Machine

/-!
# Properties that no write breaks

A property of the shared state that every single write of every operation keeps holds at every
point of every run, also while operations are in progress. Nothing is asked of user code, which
writes through operations only. An operation may also break the property and restore it, as long
as it hands no control to user code in between. Nothing is asked of a program that is cut short.
-/

namespace Reentrant

variable {σ κ ε α β ι : Type}

namespace Prog

/-- Every write of the program keeps the property. -/
def Preserves (holds : σ → Prop) : Prog σ κ ε α → Prop
  | .get next => ∀ state, holds state → (next state).Preserves holds
  | .set state next => holds state ∧ next.Preserves holds
  | .user _ next => ∀ outcome, (next outcome).Preserves holds
  | .budget next => ∀ count, (next count).Preserves holds
  | _ => True

namespace Preserves

variable {holds : σ → Prop}

/-- One program after the other keeps what both keep. -/
theorem bind {prog : Prog σ κ ε α} {next : α → Prog σ κ ε β} (first : prog.Preserves holds)
    (later : ∀ value, (next value).Preserves holds) : (prog.bind next).Preserves holds := by
  induction prog with
  | ret value => exact later value
  | get rest ih => exact fun state kept => ih state (first state kept)
  | set state rest ih => exact ⟨first.1, ih first.2⟩
  | user callback rest ih => exact fun outcome => ih outcome (first outcome)
  | budget rest ih => exact fun count => ih count (first count)
  | _ => trivial

/-- Catching an unwind writes nothing. -/
theorem attempt {prog : Prog σ κ ε α} (preserves : prog.Preserves holds) :
    prog.attempt.Preserves holds := by
  induction prog with
  | get rest ih => exact fun state kept => ih state (preserves state kept)
  | set state rest ih => exact ⟨preserves.1, ih preserves.2⟩
  | user callback rest ih => exact fun outcome => ih outcome (preserves outcome)
  | budget rest ih => exact fun count => ih count (preserves count)
  | _ => trivial

/-- A clean-up on the way out keeps what it keeps elsewhere. -/
theorem unwinding {cleanup : Prog σ κ ε Unit} (cleans : cleanup.Preserves holds) (payload : ε) :
    (Prog.unwinding cleanup payload : Prog σ κ ε α).Preserves holds := by
  refine .bind cleans.attempt fun left => ?_
  cases left <;> trivial

/-- A program with a clean-up for the case that it unwinds keeps what both keep. -/
theorem guarded {prog : Prog σ κ ε α} {cleanup : Prog σ κ ε Unit}
    (preserves : prog.Preserves holds) (cleans : cleanup.Preserves holds) :
    (prog.guarded cleanup).Preserves holds := by
  induction prog with
  | unwind payload => exact .unwinding cleans payload
  | get rest ih => exact fun state kept => ih state (preserves state kept)
  | set state rest ih => exact ⟨preserves.1, ih preserves.2⟩
  | user callback rest ih => exact fun outcome => ih outcome (preserves outcome)
  | budget rest ih => exact fun count => ih count (preserves count)
  | _ => trivial

/-- Any number of turns keeps what the body keeps. -/
theorem iterate {body : Prog σ κ ε (Option α)} (preserves : body.Preserves holds) (count : Nat) :
    (Prog.iterate body count).Preserves holds := by
  induction count with
  | zero => trivial
  | succ count ih =>
      refine .bind preserves fun yielded => ?_
      cases yielded with
      | none => exact ih
      | some value => trivial

/-- A branch keeps what both sides keep. -/
theorem ite {condition : Prop} [Decidable condition] {yes no : Prog σ κ ε α}
    (left : yes.Preserves holds) (right : no.Preserves holds) :
    (if condition then yes else no).Preserves holds := by
  split
  · exact left
  · exact right

/-- A program keeps the property with its clean-up, however it is left. -/
theorem ensuring {prog : Prog σ κ ε α} {cleanup : Prog σ κ ε Unit}
    (preserves : prog.Preserves holds) (cleans : cleanup.Preserves holds) :
    (prog.ensuring cleanup).Preserves holds :=
  .bind (.guarded preserves cleans) fun _ => .bind cleans fun _ => trivial

/-- A loop keeps the property that its body keeps. -/
theorem loop {body : Prog σ κ ε (Option α)} (preserves : body.Preserves holds) :
    (Prog.loop body).Preserves holds :=
  .iterate preserves

end Preserves

/-! ### What a program yields -/

/-- The property holds where the program hands control to user code and where it unwinds, provided
that user code keeps it; where the program returns, `post` holds. In between the property may be
broken. -/
def Yields (holds : σ → Prop) (post : α → σ → Prop) : Prog σ κ ε α → σ → Prop
  | .ret value, state => post value state
  | .unwind _, state => holds state
  | .get next, state => (next state).Yields holds post state
  | .set state next, _ => next.Yields holds post state
  | .user _ next, state => holds state ∧
      ∀ outcome after, holds after → (next outcome).Yields holds post after
  | .budget next, state => ∀ count, (next count).Yields holds post state
  | _, _ => True

variable {holds : σ → Prop} {state : σ}

/-- A program that breaks the property nowhere yields it. -/
theorem Preserves.yields {prog : Prog σ κ ε α} (preserves : prog.Preserves holds)
    (kept : holds state) : prog.Yields holds (fun _ => holds) state := by
  induction prog generalizing state with
  | ret value => exact kept
  | unwind payload => exact kept
  | get next ih => exact ih state (preserves state kept) kept
  | set written next ih => exact ih preserves.2 preserves.1
  | user callback next ih =>
      exact ⟨kept, fun outcome _ kept' => ih outcome (preserves outcome) kept'⟩
  | budget next ih => exact fun count => ih count (preserves count) kept
  | _ => trivial

namespace Yields

/-- What is yielded is monotone in the postcondition. -/
theorem mono {post post' : α → σ → Prop} {prog : Prog σ κ ε α}
    (yields : prog.Yields holds post state)
    (returns : ∀ value after, post value after → post' value after) :
    prog.Yields holds post' state := by
  induction prog generalizing state with
  | ret value => exact returns value state yields
  | unwind payload => exact yields
  | get next ih => exact ih state yields
  | set written next ih => exact ih yields
  | user callback next ih =>
      exact ⟨yields.1, fun outcome after kept => ih outcome (yields.2 outcome after kept)⟩
  | budget next ih => exact fun count => ih count (yields count)
  | _ => trivial

/-- The rule for one program after the other. -/
theorem bind {post : β → σ → Prop} {prog : Prog σ κ ε α} {next : α → Prog σ κ ε β}
    (yields : prog.Yields holds (fun value after => (next value).Yields holds post after) state) :
    (prog.bind next).Yields holds post state := by
  induction prog generalizing state with
  | ret value => exact yields
  | unwind payload => exact yields
  | get rest ih => exact ih state yields
  | set written rest ih => exact ih yields
  | user callback rest ih =>
      exact ⟨yields.1, fun outcome after kept => ih outcome (yields.2 outcome after kept)⟩
  | budget rest ih => exact fun count => ih count (yields count)
  | _ => trivial

/-- The rule for a program after one that breaks the property nowhere. -/
theorem after {post : β → σ → Prop} {prog : Prog σ κ ε α} {next : α → Prog σ κ ε β}
    (preserves : prog.Preserves holds) (kept : holds state)
    (later : ∀ value after, holds after → (next value).Yields holds post after) :
    (prog.bind next).Yields holds post state :=
  .bind (.mono (preserves.yields kept) later)

/-- The rule for a branch. -/
theorem ite {post : α → σ → Prop} {condition : Prop} [Decidable condition] {yes no : Prog σ κ ε α}
    (left : yes.Yields holds post state) (right : no.Yields holds post state) :
    (if condition then yes else no).Yields holds post state := by
  split
  · exact left
  · exact right

/-- A caught unwind leaves the property holding. -/
theorem attempt {post : Except ε α → σ → Prop} {prog : Prog σ κ ε α}
    (yields : prog.Yields holds (fun value => post (.ok value)) state)
    (unwinds : ∀ payload after, holds after → post (.error payload) after) :
    prog.attempt.Yields holds post state := by
  induction prog generalizing state with
  | ret value => exact yields
  | unwind payload => exact unwinds payload state yields
  | get rest ih => exact ih state yields
  | set written rest ih => exact ih yields
  | user callback rest ih =>
      exact ⟨yields.1, fun outcome after kept => ih outcome (yields.2 outcome after kept)⟩
  | budget rest ih => exact fun count => ih count (yields count)
  | _ => trivial

/-- A clean-up that keeps the property may run on the way out. -/
theorem guarded {post : α → σ → Prop} {prog : Prog σ κ ε α} {cleanup : Prog σ κ ε Unit}
    (yields : prog.Yields holds post state) (cleans : cleanup.Preserves holds) :
    (prog.guarded cleanup).Yields holds post state := by
  induction prog generalizing state with
  | ret value => exact yields
  | unwind payload =>
      refine .bind (.mono ((cleans.attempt).yields yields) fun left after kept => ?_)
      cases left with
      | ok _ => exact kept
      | error _ => trivial
  | get rest ih => exact ih state yields
  | set written rest ih => exact ih yields
  | user callback rest ih =>
      exact ⟨yields.1, fun outcome after kept => ih outcome (yields.2 outcome after kept)⟩
  | budget rest ih => exact fun count => ih count (yields count)
  | _ => trivial

/-- A clean-up that keeps the property and the postcondition may run however the program is left. -/
theorem ensuring {post : α → σ → Prop} {prog : Prog σ κ ε α} {cleanup : Prog σ κ ε Unit}
    (yields : prog.Yields holds post state) (cleans : cleanup.Preserves holds)
    (cleaned : ∀ value after, post value after →
      cleanup.Yields holds (fun _ => post value) after) :
    (prog.ensuring cleanup).Yields holds post state :=
  .bind (.mono (yields.guarded cleans) fun value after kept => .bind (cleaned value after kept))

/-- The rule for a loop: every turn that goes round again leaves the property holding. -/
theorem loop {post : α → σ → Prop} {body : Prog σ κ ε (Option α)} (kept : holds state)
    (turns : ∀ before, holds before → body.Yields holds (fun yielded after => match yielded with
      | some value => post value after
      | none => holds after) before) : (Prog.loop body).Yields holds post state := by
  intro count
  induction count generalizing state with
  | zero => trivial
  | succ count ih =>
      refine .bind (.mono (turns state kept) fun yielded after left => ?_)
      cases yielded with
      | none => exact ih left
      | some value => exact left

/-- Up to its next stop a program leaves the property holding, and what is left of it yields as the
whole program does. -/
theorem exec {post : α → σ → Prop} {prog : Prog σ κ ε α} (yields : prog.Yields holds post state)
    (count : Nat) :
    match prog.exec count state with
    | .returned value after => post value after
    | .unwound _ after => holds after
    | .waiting _ after next => holds after ∧
        ∀ outcome later, holds later → (next outcome).Yields holds post later
    | _ => True := by
  induction prog generalizing state with
  | ret value => exact yields
  | unwind payload => exact yields
  | get rest ih => exact ih state yields
  | set written rest ih => exact ih yields
  | user callback rest _ => exact yields
  | budget rest ih => exact ih count (yields count)
  | _ => trivial

end Yields

end Prog

namespace System

variable {system : System σ κ ε ι} {policy : Policy σ κ ε ι} {holds : σ → Prop}

/-- The property holds, and what is left of the operations in progress yields it. -/
def ConfigHolds (holds : σ → Prop) : Config σ κ ε ι → Prop
  | .user state frames => holds state ∧ ∀ frame ∈ frames, ∀ outcome later, holds later →
      (frame.next outcome).Yields holds (fun _ => holds) later
  | _ => True

/-- What an operation yields holds in the configuration in which it stops. -/
theorem ConfigHolds.ofStop {op : ι} {frames : List (Frame σ κ ε ι)} {prog : Prog σ κ ε Unit}
    {state : σ} (yields : prog.Yields holds (fun _ => holds) state)
    (below : ∀ frame ∈ frames, ∀ outcome later, holds later →
      (frame.next outcome).Yields holds (fun _ => holds) later) (count : Nat) :
    ConfigHolds holds (.ofStop op frames (prog.exec count state)) := by
  have stops := yields.exec count
  revert stops
  cases prog.exec count state with
  | returned value after => exact fun kept => ⟨kept, below⟩
  | unwound payload after => exact fun kept => ⟨kept, below⟩
  | waiting callback after next =>
      rintro ⟨kept, rest⟩
      refine ⟨kept, fun frame member => ?_⟩
      rcases List.mem_cons.mp member with rfl | member
      · exact rest
      · exact below frame member
  | _ => exact fun _ => trivial

/-- A property that every operation yields holds whenever user code is in control. -/
theorem Reachable.yields (holds : σ → Prop)
    (ops : ∀ op state, holds state → (system.prog op).Yields holds (fun _ => holds) state)
    {start : σ} (initially : holds start) {config : Config σ κ ε ι}
    (reachable : Reachable system policy start config) : ConfigHolds holds config := by
  induction reachable with
  | start => exact ⟨initially, by rintro _ ⟨⟩⟩
  | step _ step ih =>
      cases step with
      | call op count => exact .ofStop (ops op _ ih.1) ih.2 count
      | resume frame outcome count =>
          exact .ofStop (ih.2 frame List.mem_cons_self outcome _ ih.1)
            (fun other member => ih.2 other (List.mem_cons_of_mem _ member)) count

/-- A property that every operation keeps with every write holds in every reachable state. -/
theorem Reachable.preserves (holds : σ → Prop)
    (ops : ∀ op, (system.prog op).Preserves holds) {start : σ} (initially : holds start)
    {config : Config σ κ ε ι}
    (reachable : Reachable system policy start config) : ConfigHolds holds config :=
  reachable.yields holds (fun op _ kept => (ops op).yields kept) initially

end System

end Reentrant
