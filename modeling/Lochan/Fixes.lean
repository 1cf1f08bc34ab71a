import Lochan.World
import Lochan.Reentrant.Preserves

/-!
# What the primitive actions leave as it is

The primitive actions keep every property that the calls of callbacks and the borrows have no
bearing on. A program fixes a view of the state if none of its writes changes what the view shows,
whatever user code does in its callbacks.
-/

/-! ### Indifferent properties -/

namespace Lochan

/-- A property on which callbacks, failed expectations and borrows have no bearing. -/
class Indifferent {χ ω ρ α : Type} (holds : World χ ω ρ α → Prop) : Prop where
  called : ∀ world code, holds world → holds (world.logged (.called code))
  panicked : ∀ world code, holds world → holds (world.logged (.panicked code))
  expectFailed : ∀ world text, holds world → holds (world.logged (.expectFailed text))
  held : ∀ (world : World χ ω ρ α) cells, holds world → holds { world with held := cells }

end Lochan

namespace Reentrant.Prog.Preserves

open Lochan

variable {χ ω ρ α β : Type} {holds : World χ ω ρ α → Prop}

/-- Reading the state writes nothing. -/
theorem read (value : χ → β) : (do return value (← getState) : Act χ ω ρ α β).Preserves holds :=
  fun _ _ => trivial

/-- Looking at the state writes nothing. -/
theorem getState : (getState : Act χ ω ρ α χ).Preserves holds := fun _ _ => trivial

/-- A write keeps a property that it keeps wherever the property holds. -/
theorem replace {update : χ → χ} (keeps : ∀ world, holds world → holds (world.onState update)) :
    (modifyState update : Act χ ω ρ α Unit).Preserves holds :=
  fun world kept => ⟨keeps world kept, trivial⟩

/-- An event keeps a property that it keeps wherever the property holds. -/
theorem emit {event : Event ω ρ α} (keeps : ∀ world, holds world → holds (world.logged event)) :
    (emit event : Act χ ω ρ α Unit).Preserves holds :=
  fun world kept => ⟨keeps world kept, trivial⟩

variable [Indifferent holds]

/-- Running user code writes what it was called for, and that it panicked. -/
theorem callback (code : Callback α) : (callback code : Act χ ω ρ α Unit).Preserves holds := by
  refine .bind (.emit (Indifferent.called · code)) fun _ outcome => ?_
  cases outcome with
  | ok _ => trivial
  | error payload => exact .bind (.emit (Indifferent.panicked · code)) fun _ => trivial

/-- An access keeps what it keeps without the borrow. -/
theorem borrowing {access : Act χ ω ρ α β} (cell : Cell) (preserves : access.Preserves holds) :
    (borrowing cell access).Preserves holds := by
  have borrows : ∀ update : List Cell → List Cell,
      (Prog.modify fun world => { world with held := update world.held } :
        Act χ ω ρ α Unit).Preserves holds :=
    fun update world kept => ⟨Indifferent.held world (update world.held) kept, trivial⟩
  refine .bind (fun _ _ => trivial) fun world => .ite trivial ?_
  exact .bind (borrows (cell :: ·)) fun _ => .ensuring preserves (borrows (·.erase cell))

/-- An expectation writes only that it failed. -/
theorem expect (text : String) (value : Option β) :
    (expect text value : Act χ ω ρ α β).Preserves holds := by
  cases value with
  | none => exact .bind (.emit (Indifferent.expectFailed · text)) fun _ => trivial
  | some value => trivial

omit [Indifferent holds] in
/-- Two destructors keep what each of them keeps. -/
theorem dropGlue {first rest : Act χ ω ρ α Unit} (preserves : first.Preserves holds)
    (preserves' : rest.Preserves holds) : (dropGlue first rest).Preserves holds :=
  .ensuring preserves preserves'

/-- Dropping items writes only what is called. -/
theorem dropItems (items : List α) : (dropItems items : Act χ ω ρ α Unit).Preserves holds := by
  induction items with
  | nil => trivial
  | cons item rest ih => exact .bind (.callback _) fun _ => ih

/-- Dropping wakers writes only what is called. -/
theorem dropWakers (wakers : List Waker) :
    (dropWakers wakers : Act χ ω ρ α Unit).Preserves holds := by
  induction wakers with
  | nil => trivial
  | cons waker rest ih => exact .dropGlue (.callback _) ih

/-- Disposing of a panic payload writes only what is called. -/
theorem dropPanicPayload (payload : Panic) :
    (dropPanicPayload payload : Act χ ω ρ α Unit).Preserves holds := by
  refine .bind (.attempt (.callback _)) fun left => ?_
  cases left with
  | ok _ => trivial
  | error inner => exact .callback _

/-- Waking tasks one after the other writes only what is called. -/
theorem wakeEach (side : Side) (wakers : List (UInt64 × Waker)) (firstPanic : Option Panic) :
    (wakeEach side wakers firstPanic : Act χ ω ρ α Unit).Preserves holds := by
  induction wakers generalizing firstPanic with
  | nil => cases firstPanic <;> trivial
  | cons entry rest ih =>
      refine .bind (.attempt (.callback _)) fun left => ?_
      cases left with
      | ok _ => exact ih firstPanic
      | error payload =>
          cases firstPanic with
          | none => exact ih (some payload)
          | some first =>
              refine .bind (.guarded (.dropPanicPayload payload) ?_) fun _ => ih (some first)
              exact .dropGlue (.dropWakers _) (.callback _)

/-- Waking every task writes only what is called. -/
theorem wakeAll (side : Side) (wakers : List (UInt64 × Waker)) :
    (wakeAll side wakers : Act χ ω ρ α Unit).Preserves holds := .wakeEach side wakers none

end Reentrant.Prog.Preserves

/-! ### Views -/

namespace Lochan

open Reentrant

variable {χ ω ρ α β γ : Type}

/-- The view shows this of the state. -/
def Shows (view : χ → γ) (shown : γ) (world : World χ ω ρ α) : Prop := view world.state = shown

instance (view : χ → γ) (shown : γ) :
    Indifferent (Shows view shown : World χ ω ρ α → Prop) where
  called _ _ kept := kept
  panicked _ _ kept := kept
  expectFailed _ _ kept := kept
  held _ _ kept := kept

/-- No write of the program changes what the view shows of the state. -/
def Fixes (view : χ → γ) (prog : Act χ ω ρ α β) : Prop :=
  ∀ shown, prog.Preserves (Shows view shown)

namespace Fixes

variable {view : χ → γ} {δ : Type}

/-- Returning writes nothing. -/
theorem pure (value : β) : Fixes view (Pure.pure value : Act χ ω ρ α β) := fun _ => trivial

/-- Unwinding writes nothing. -/
theorem unwind (payload : Panic) : Fixes view (Prog.unwind payload : Act χ ω ρ α β) :=
  fun _ => trivial

/-- Faulting writes nothing. -/
theorem fault : Fixes view (Prog.fault : Act χ ω ρ α β) := fun _ => trivial

/-- Hanging writes nothing. -/
theorem hang : Fixes view (Prog.hang : Act χ ω ρ α β) := fun _ => trivial

/-- One program after the other fixes what both fix. -/
theorem bind {prog : Act χ ω ρ α β} {next : β → Act χ ω ρ α δ} (first : Fixes view prog)
    (later : ∀ value, Fixes view (next value)) : Fixes view (prog >>= next) :=
  fun shown => .bind (first shown) fun value => later value shown

/-- A branch fixes what both sides fix. -/
theorem ite {condition : Prop} [Decidable condition] {yes no : Act χ ω ρ α β}
    (left : Fixes view yes) (right : Fixes view no) :
    Fixes view (if condition then yes else no) :=
  fun shown => .ite (left shown) (right shown)

/-- Catching an unwind writes nothing. -/
theorem attempt {prog : Act χ ω ρ α β} (fixes : Fixes view prog) : Fixes view prog.attempt :=
  fun shown => (fixes shown).attempt

/-- A clean-up for the case of an unwind fixes what the program and it fix. -/
theorem guarded {prog : Act χ ω ρ α β} {cleanup : Act χ ω ρ α Unit} (fixes : Fixes view prog)
    (cleans : Fixes view cleanup) : Fixes view (prog.guarded cleanup) :=
  fun shown => (fixes shown).guarded (cleans shown)

/-- A clean-up that always runs fixes what the program and it fix. -/
theorem ensuring {prog : Act χ ω ρ α β} {cleanup : Act χ ω ρ α Unit} (fixes : Fixes view prog)
    (cleans : Fixes view cleanup) : Fixes view (prog.ensuring cleanup) :=
  fun shown => .ensuring (fixes shown) (cleans shown)

/-- A program fixes a view if it does so with every budget. -/
theorem budget {next : Nat → Act χ ω ρ α β} (fixes : ∀ count, Fixes view (next count)) :
    Fixes view (Prog.budget next) :=
  fun shown count => fixes count shown

/-- A loop fixes what its body fixes. -/
theorem loop {body : Act χ ω ρ α (Option β)} (fixes : Fixes view body) :
    Fixes view (Prog.loop body) := fun shown => .loop (fixes shown)

/-! ### The primitive actions -/

/-- Looking at the state writes nothing. -/
theorem getState : Fixes view (getState : Act χ ω ρ α χ) := fun _ _ _ => trivial

/-- Reading the state writes nothing. -/
theorem read (value : χ → β) :
    Fixes view (do return value (← Lochan.getState) : Act χ ω ρ α β) := fun _ => .read value

/-- A write that may depend on what the view shows. -/
theorem replace {update : χ → χ} (same : ∀ state, view (update state) = view state) :
    Fixes view (modifyState update : Act χ ω ρ α Unit) :=
  fun _ => .replace fun world kept => (same world.state).trans kept

/-- An event writes only the log. -/
theorem emit (event : Event ω ρ α) : Fixes view (emit event : Act χ ω ρ α Unit) :=
  fun _ => .emit fun _ kept => kept

/-- Running user code writes only the log. -/
theorem callback (code : Callback α) : Fixes view (callback code : Act χ ω ρ α Unit) :=
  fun _ => .callback code

/-- An access fixes what it fixes without the borrow. -/
theorem borrowing {access : Act χ ω ρ α β} (cell : Cell) (fixes : Fixes view access) :
    Fixes view (borrowing cell access) := fun shown => .borrowing cell (fixes shown)

/-- A failed expectation writes only the log. -/
theorem expect (text : String) (value : Option β) :
    Fixes view (expect text value : Act χ ω ρ α β) := fun _ => .expect text value

/-- Two destructors fix what each of them fixes. -/
theorem dropGlue {first rest : Act χ ω ρ α Unit} (fixes : Fixes view first)
    (fixes' : Fixes view rest) : Fixes view (dropGlue first rest) := .ensuring fixes fixes'

/-- Dropping items writes only the log. -/
theorem dropItems (items : List α) : Fixes view (dropItems items : Act χ ω ρ α Unit) :=
  fun _ => .dropItems items

/-- Dropping wakers writes only the log. -/
theorem dropWakers (wakers : List Waker) : Fixes view (dropWakers wakers : Act χ ω ρ α Unit) :=
  fun _ => .dropWakers wakers

/-- Waking tasks writes only the log. -/
theorem wakeAll (side : Side) (wakers : List (UInt64 × Waker)) :
    Fixes view (wakeAll side wakers : Act χ ω ρ α Unit) := fun _ => .wakeAll side wakers

/-- Disposing of a panic payload writes only the log. -/
theorem dropPanicPayload (payload : Panic) :
    Fixes view (dropPanicPayload payload : Act χ ω ρ α Unit) := fun _ => .dropPanicPayload payload

end Fixes

end Lochan
