import Lochan.World

/-!
# Rules for the primitive actions

The weakest preconditions of the primitive actions, and the rules for the actions
that run user code: what they keep for an invariant and a guarantee that user code
keeps as well. Under `Calm` panics no disposal of a panic payload unwinds, so that
waking a list of tasks reaches every one of them.
-/

namespace Lochan

open Reentrant

variable {χ ω ρ α β : Type}

section Primitives

variable {contract : Prog.Contract (World χ ω ρ α) (Callback α) Panic}
  {exc : Panic → World χ ω ρ α → Prop} {world : World χ ω ρ α}

/-- The rule for an event. -/
@[simp] theorem wp_emit {post : Unit → World χ ω ρ α → Prop} (event : Event ω ρ α) :
    (emit event : Act χ ω ρ α Unit).wp contract post exc =
      fun world => post () (world.logged event) := rfl

/-- The rule for looking at the state. -/
@[simp] theorem wp_getState {post : χ → World χ ω ρ α → Prop} :
    (getState : Act χ ω ρ α χ).wp contract post exc =
      fun world => post world.state world := rfl

/-- The rule for a write of the state. -/
@[simp] theorem wp_modifyState {post : Unit → World χ ω ρ α → Prop} (update : χ → χ) :
    (modifyState update : Act χ ω ρ α Unit).wp contract post exc =
      fun world => post () (world.onState update) := rfl

/-- Unwrapping a value that is there returns it. -/
@[simp] theorem wp_expect_some {post : β → World χ ω ρ α → Prop} (text : String) (value : β) :
    (expect text (some value) : Act χ ω ρ α β).wp contract post exc = post value := rfl

/-- An access from outside every borrow. -/
theorem wp_borrowing {post : β → World χ ω ρ α → Prop} (cell : Cell) (access : Act χ ω ρ α β)
    (clear : world.held = []) :
    (borrowing cell access).wp contract post exc world =
      access.wp contract (fun value after =>
        post value { after with held := after.held.erase cell })
        (fun payload after => exc payload { after with held := after.held.erase cell })
        { world with held := [cell] } := by
  simp [borrowing, clear]

/-- An access that reads a value of the state. -/
theorem wp_borrowing_read {post : β → World χ ω ρ α → Prop} (cell : Cell) (value : χ → β)
    (clear : world.held = []) :
    (borrowing cell (do return value (← getState)) : Act χ ω ρ α β).wp contract post exc world =
      post (value world.state) world := by
  obtain ⟨state, held, log⟩ := world
  subst clear
  simp [wp_borrowing]

/-- An access that takes a value out of the state. -/
theorem wp_borrowing_take {post : β → World χ ω ρ α → Prop} (cell : Cell) (value : χ → β)
    (update : χ → χ) (clear : world.held = []) :
    (borrowing cell (do
      let taken := value (← getState)
      modifyState update
      return taken) : Act χ ω ρ α β).wp contract post exc world =
      post (value world.state) (world.onState update) := by
  obtain ⟨state, held, log⟩ := world
  subst clear
  simp [wp_borrowing, World.onState]

end Primitives

/-! ### User code -/

/-- What a program may rely on: user code is entered where the invariant holds, and
leaves it holding and the guarantee kept; it panics as `admits` says. -/
structure Relies (contract : Prog.Contract (World χ ω ρ α) (Callback α) Panic)
    (invariant : World χ ω ρ α → Prop) (guarantee : World χ ω ρ α → World χ ω ρ α → Prop)
    (admits : Callback α → Panic → World χ ω ρ α → Prop) : Prop where
  enter : ∀ code world, invariant world → contract.enter code world
  resume : ∀ code before outcome after, contract.resume code before outcome after →
    invariant after ∧ guarantee before after
  panics : ∀ code before payload after, contract.resume code before (.error payload) after →
    admits code payload after

/-- A callback that a program runs may panic. -/
def Raised (admits : Callback α → Panic → World χ ω ρ α → Prop)
    (codes : Callback α → Prop) : Prop :=
  ∃ code payload world, codes code ∧ admits code payload world

/-- A callback panicked on the way to a state that a guarantee leads to. -/
def Interrupted (guarantee : World χ ω ρ α → World χ ω ρ α → Prop)
    (admits : Callback α → Panic → World χ ω ρ α → Prop) (codes : Callback α → Prop)
    (after : World χ ω ρ α) : Prop :=
  ∃ code payload left, codes code ∧ admits code payload left ∧ guarantee left after

/-- A callback panicked in a state that a guarantee leads to. -/
def Threw (invariant : World χ ω ρ α → Prop) (guarantee : World χ ω ρ α → World χ ω ρ α → Prop)
    (admits : Callback α → Panic → World χ ω ρ α → Prop) (codes : Callback α → Prop)
    (world : World χ ω ρ α) : Prop :=
  ∃ code payload left, codes code ∧ invariant left ∧ guarantee world left ∧
    admits code payload left

/-- Disposing of the panic payload does not unwind: the payload of a panic in its destructor
has a destructor that does not panic. -/
def Disposable (admits : Callback α → Panic → World χ ω ρ α → Prop) (payload : Panic) : Prop :=
  ∀ inner world, admits (.dropPanic payload) inner world →
    ∀ last after, ¬ admits (.dropPanic inner) last after

/-- Every panic payload can be disposed of. -/
def Calm (admits : Callback α → Panic → World χ ω ρ α → Prop) : Prop :=
  ∀ code payload world, admits code payload world → Disposable admits payload

/-- The events of a callback that change nothing but the log: all but the destruction of
a queued item. -/
def Event.Idle : Event ω ρ α → Prop
  | .called (.dropQueued _) => False
  | .called _ | .panicked _ => True
  | _ => False

/-- An invariant and a guarantee that the events of callbacks keep. -/
structure Carries (invariant : World χ ω ρ α → Prop)
    (guarantee : World χ ω ρ α → World χ ω ρ α → Prop) : Prop where
  refl : ∀ world, guarantee world world
  trans : ∀ first second third, guarantee first second → guarantee second third →
    guarantee first third
  logged : ∀ world event, event.Idle → invariant world →
    invariant (world.logged event) ∧ guarantee world (world.logged event)

/-- The tasks of a list are woken one after the other on the way between two states. -/
def Woken (guarantee : World χ ω ρ α → World χ ω ρ α → Prop) (side : Side) :
    List (UInt64 × Waker) → World χ ω ρ α → World χ ω ρ α → Prop
  | [], before, after => guarantee before after
  | (_, waker) :: rest, before, after => ∃ world, guarantee before world ∧
      Woken guarantee side rest (world.logged (.called (.wake side waker))) after

section Woken

variable {invariant : World χ ω ρ α → Prop} {guarantee : World χ ω ρ α → World χ ω ρ α → Prop}
  {side : Side} {first second third : World χ ω ρ α}

/-- What happens before the tasks are woken does not count against them. -/
theorem Woken.before (carries : Carries invariant guarantee) {entries : List (UInt64 × Waker)}
    (earlier : guarantee first second) (woken : Woken guarantee side entries second third) :
    Woken guarantee side entries first third := by
  cases entries with
  | nil => exact carries.trans _ _ _ earlier woken
  | cons entry rest =>
      obtain ⟨world, reached, later⟩ := woken
      exact ⟨world, carries.trans _ _ _ earlier reached, later⟩

variable (calls : ∀ (world : World χ ω ρ α) (side : Side) (waker : Waker),
  guarantee world (world.logged (.called (.wake side waker))))
include calls

/-- Waking tasks is something that callbacks may do. -/
theorem Woken.guaranteed (carries : Carries invariant guarantee) {entries : List (UInt64 × Waker)}
    (woken : Woken guarantee side entries first second) : guarantee first second := by
  induction entries generalizing first with
  | nil => exact woken
  | cons entry rest ih =>
      obtain ⟨world, reached, rest⟩ := woken
      exact carries.trans _ _ _ (carries.trans _ _ _ reached (calls _ _ _)) (ih rest)

/-- Every task of the list is woken on the way. -/
theorem Woken.invoked (carries : Carries invariant guarantee) {entries : List (UInt64 × Waker)}
    (woken : Woken guarantee side entries first second) {entry : UInt64 × Waker}
    (member : entry ∈ entries) :
    ∃ world, guarantee first world ∧
      guarantee (world.logged (.called (.wake side entry.2))) second := by
  induction entries generalizing first with
  | nil => cases member
  | cons head rest ih =>
      obtain ⟨world, reached, later⟩ := woken
      rcases List.mem_cons.mp member with rfl | inside
      · exact ⟨world, reached, later.guaranteed calls carries⟩
      · obtain ⟨mid, reached', later'⟩ := ih later inside
        exact ⟨mid, carries.trans _ _ _
          (carries.trans _ _ _ reached (calls _ _ _)) reached', later'⟩

end Woken

section UserCode

variable {contract : Prog.Contract (World χ ω ρ α) (Callback α) Panic}
  {invariant : World χ ω ρ α → Prop} {guarantee : World χ ω ρ α → World χ ω ρ α → Prop}
  {admits : Callback α → Panic → World χ ω ρ α → Prop} {world : World χ ω ρ α}

/-- A callback is entered in a state that satisfies the invariant, and leaves such a state. -/
theorem Relies.enters (relies : Relies contract invariant guarantee admits)
    {post : Unit → World χ ω ρ α → Prop} {exc : Panic → World χ ω ρ α → Prop}
    (code : Callback α) (entered : invariant (world.logged (.called code)))
    (returns : ∀ after, invariant after → guarantee (world.logged (.called code)) after →
      post () after)
    (unwinds : ∀ payload after, invariant after → guarantee (world.logged (.called code)) after →
      admits code payload after → exc payload (after.logged (.panicked code))) :
    (callback code).wp contract post exc world := by
  simp only [callback, Prog.wp_bind, wp_emit, Prog.wp_user]
  refine ⟨relies.enter _ _ entered, fun outcome after left => ?_⟩
  obtain ⟨kept, guaranteed⟩ := relies.resume _ _ _ _ left
  cases outcome with
  | ok _ => exact returns after kept guaranteed
  | error payload => exact unwinds payload after kept guaranteed (relies.panics _ _ _ _ left)

variable (relies : Relies contract invariant guarantee admits)
  (carries : Carries invariant guarantee)
include relies carries

/-- A callback whose events keep the invariant keeps the guarantee. -/
theorem Relies.runs (code : Callback α) (idle : (Event.called code : Event ω ρ α).Idle)
    (holds : invariant world) :
    (callback code).wp contract (fun _ after => invariant after ∧ guarantee world after)
      (fun payload after => invariant after ∧ guarantee world after ∧
        ∃ left, invariant left ∧ guarantee world left ∧ admits code payload left) world := by
  obtain ⟨entered, logged⟩ := carries.logged world _ idle holds
  refine relies.enters code entered ?_ ?_
  · intro after kept guaranteed
    exact ⟨kept, carries.trans _ _ _ logged guaranteed⟩
  · intro payload after kept guaranteed admitted
    obtain ⟨kept', last⟩ := carries.logged after (.panicked code) trivial kept
    have guaranteed := carries.trans _ _ _ logged guaranteed
    exact ⟨kept', carries.trans _ _ _ guaranteed last, after, kept, guaranteed, admitted⟩

/-- Dropping items keeps the invariant and the guarantee. -/
theorem Relies.dropItems (items : List α) (holds : invariant world) :
    (dropItems items).wp contract (fun _ after => invariant after ∧ guarantee world after)
      (fun _ after => invariant after ∧ guarantee world after) world := by
  induction items generalizing world with
  | nil => exact ⟨holds, carries.refl world⟩
  | cons item rest ih =>
      simp only [Lochan.dropItems, Prog.wp_bind]
      refine Prog.wp_mono (relies.runs carries (.dropItem item) trivial holds) ?_ ?_
      · rintro _ middle ⟨kept, guaranteed⟩
        refine Prog.wp_mono (ih kept) ?_ ?_
        · rintro _ after ⟨kept', guaranteed'⟩
          exact ⟨kept', carries.trans _ _ _ guaranteed guaranteed'⟩
        · rintro _ after ⟨kept', guaranteed'⟩
          exact ⟨kept', carries.trans _ _ _ guaranteed guaranteed'⟩
      · rintro _ after ⟨kept, guaranteed, -⟩
        exact ⟨kept, guaranteed⟩

/-- Dropping wakers keeps the invariant and the guarantee, and unwinds or aborts only if
the destructor of one panics. -/
theorem Relies.dropWakers (wakers : List Waker)
    (aborts : Threw invariant guarantee admits (∃ waker, · = .dropWaker waker) world →
      ∀ after, guarantee world after → contract.abort after) (holds : invariant world) :
    (dropWakers wakers).wp contract (fun _ after => invariant after ∧ guarantee world after)
      (fun _ after => invariant after ∧ guarantee world after ∧
        Threw invariant guarantee admits (∃ waker, · = .dropWaker waker) world) world := by
  induction wakers generalizing world with
  | nil => exact ⟨holds, carries.refl world⟩
  | cons waker rest ih =>
      simp only [Lochan.dropWakers, dropGlue, Prog.wp_ensuring]
      have earlier : ∀ {middle}, guarantee world middle →
          Threw invariant guarantee admits (∃ waker, · = .dropWaker waker) middle →
          Threw invariant guarantee admits (∃ waker, · = .dropWaker waker) world := by
        rintro middle reached ⟨code, payload, left, drops, kept, guaranteed, admitted⟩
        exact ⟨code, payload, left, drops, kept, carries.trans _ _ _ reached guaranteed, admitted⟩
      have later : ∀ {middle}, guarantee world middle →
          Threw invariant guarantee admits (∃ waker, · = .dropWaker waker) middle →
          ∀ after, guarantee middle after → contract.abort after :=
        fun reached threw after left =>
          aborts (earlier reached threw) after (carries.trans _ _ _ reached left)
      refine Prog.wp_mono (relies.runs carries (.dropWaker waker) trivial holds) ?_ ?_
      · rintro _ middle ⟨kept, guaranteed⟩
        refine Prog.wp_mono (ih (later guaranteed) kept) ?_ ?_
        · rintro _ after ⟨kept', guaranteed'⟩
          exact ⟨kept', carries.trans _ _ _ guaranteed guaranteed'⟩
        · rintro _ after ⟨kept', guaranteed', threw⟩
          exact ⟨kept', carries.trans _ _ _ guaranteed guaranteed', earlier guaranteed threw⟩
      · rintro payload middle ⟨kept, guaranteed, left, kept', guaranteed', admitted⟩
        have threw : Threw invariant guarantee admits (∃ waker, · = .dropWaker waker) world :=
          ⟨_, payload, left, ⟨waker, rfl⟩, kept', guaranteed', admitted⟩
        refine Prog.wp_mono (ih (later guaranteed) kept) ?_ ?_
        · rintro _ after ⟨kept', guaranteed'⟩
          exact ⟨kept', carries.trans _ _ _ guaranteed guaranteed', threw⟩
        · rintro _ after ⟨-, guaranteed', threw⟩
          exact later guaranteed threw after guaranteed'

/-- Disposing of a panic payload keeps the invariant and the guarantee, and unwinds only
if the payload cannot be disposed of. -/
theorem Relies.dropPanicPayload {payload : Panic} (holds : invariant world) :
    (dropPanicPayload payload).wp contract
      (fun _ after => invariant after ∧ guarantee world after)
      (fun _ after => invariant after ∧ guarantee world after ∧
        ¬ Disposable admits payload) world := by
  simp only [Lochan.dropPanicPayload, Prog.wp_bind, Prog.wp_attempt]
  refine Prog.wp_mono (relies.runs carries (.dropPanic payload) trivial holds) ?_ ?_
  · exact fun _ _ kept => kept
  · rintro inner middle ⟨kept, guaranteed, left, -, -, admitted⟩
    refine Prog.wp_mono (relies.runs carries (.dropPanic inner) trivial kept) ?_ ?_
    · rintro _ after ⟨kept', guaranteed'⟩
      exact ⟨kept', carries.trans _ _ _ guaranteed guaranteed'⟩
    · rintro last after ⟨kept', guaranteed', left', -, -, admitted'⟩
      exact ⟨kept', carries.trans _ _ _ guaranteed guaranteed',
        fun disposable => disposable _ _ admitted _ _ admitted'⟩

/-- The loop over a list of parked tasks: if it returns, or panics are calm, every task
has been woken; it unwinds only if waking one panicked. -/
theorem Relies.wakeEach (side : Side) (entries : List (UInt64 × Waker)) (firstPanic : Option Panic)
    (aborts : (Calm admits ∧ ∀ payload ∈ firstPanic, Disposable admits payload) ∨
      ∀ world, contract.abort world) (holds : invariant world) :
    (wakeEach side entries firstPanic).wp contract
      (fun _ after => invariant after ∧ guarantee world after ∧
        Woken guarantee side entries world after)
      (fun payload after => invariant after ∧ guarantee world after ∧
        (firstPanic = none → Interrupted guarantee admits
          (fun code => ∃ entry ∈ entries, code = .wake side entry.2) after) ∧
        (Calm admits → (∀ payload ∈ firstPanic, Disposable admits payload) →
          Woken guarantee side entries world after ∧ Disposable admits payload)) world := by
  induction entries generalizing world firstPanic with
  | nil =>
      cases firstPanic with
      | none => exact ⟨holds, carries.refl world, carries.refl world⟩
      | some payload =>
          exact ⟨holds, carries.refl world, nofun, fun _ disposable =>
            ⟨carries.refl world, disposable payload rfl⟩⟩
  | cons entry rest ih =>
      obtain ⟨id, waker⟩ := entry
      obtain ⟨entered, logged⟩ := carries.logged world (.called (.wake side waker)) trivial holds
      simp only [Lochan.wakeEach, Prog.wp_bind, Prog.wp_attempt]
      refine relies.enters (.wake side waker) entered ?_ ?_
      · intro middle kept guaranteed
        refine Prog.wp_mono (ih firstPanic aborts kept) ?_ ?_
        · rintro _ after ⟨kept', guaranteed', woken⟩
          exact ⟨kept', carries.trans _ _ _ logged (carries.trans _ _ _ guaranteed guaranteed'),
            world, carries.refl world, woken.before carries guaranteed⟩
        · rintro payload after ⟨kept', guaranteed', raised, reached⟩
          refine ⟨kept', carries.trans _ _ _ logged (carries.trans _ _ _ guaranteed guaranteed'),
            fun none => ?_, fun calm disposable => ?_⟩
          · obtain ⟨code, payload, left, ⟨entry, member, same⟩, thrown⟩ := raised none
            exact ⟨code, payload, left, ⟨entry, List.mem_cons_of_mem _ member, same⟩, thrown⟩
          · obtain ⟨woken, disposable'⟩ := reached calm disposable
            exact ⟨⟨world, carries.refl world, woken.before carries guaranteed⟩, disposable'⟩
      · intro payload middle kept guaranteed admitted
        obtain ⟨kept, last⟩ := carries.logged middle (.panicked (.wake side waker)) trivial kept
        have raised : ∀ {after}, guarantee (middle.logged (.panicked (.wake side waker))) after →
            Interrupted guarantee admits
              (fun code => ∃ entry ∈ (id, waker) :: rest, code = .wake side entry.2) after :=
          fun later => ⟨_, payload, middle, ⟨(id, waker), List.mem_cons_self, rfl⟩, admitted,
            carries.trans _ _ _ last later⟩
        have guaranteed := carries.trans _ _ _ guaranteed last
        cases firstPanic with
        | none =>
            have aborts' : (Calm admits ∧ ∀ inner ∈ some payload, Disposable admits inner) ∨
                ∀ world, contract.abort world := by
              refine aborts.imp_left fun calm => ⟨calm.1, ?_⟩
              rintro inner ⟨⟩
              exact calm.1 _ _ _ admitted
            refine Prog.wp_mono (ih (some payload) aborts' kept) ?_ ?_
            · rintro _ after ⟨kept', guaranteed', woken⟩
              exact ⟨kept', carries.trans _ _ _ logged (carries.trans _ _ _ guaranteed guaranteed'),
                world, carries.refl world, woken.before carries guaranteed⟩
            · rintro resumed after ⟨kept', guaranteed', -, reached⟩
              refine ⟨kept', carries.trans _ _ _ logged
                (carries.trans _ _ _ guaranteed guaranteed'),
                fun _ => raised guaranteed', fun calm _ => ?_⟩
              obtain ⟨woken, disposable⟩ := reached calm (by
                rintro inner ⟨⟩
                exact calm _ _ _ admitted)
              exact ⟨⟨world, carries.refl world, woken.before carries guaranteed⟩, disposable⟩
        | some first =>
            simp only [Prog.wp_bind, Prog.wp_guarded]
            refine Prog.wp_mono (relies.dropPanicPayload carries kept) ?_ ?_
            · rintro _ disposed ⟨kept', guaranteed'⟩
              have guaranteed := carries.trans _ _ _ guaranteed guaranteed'
              refine Prog.wp_mono (ih (some first) aborts kept') ?_ ?_
              · rintro _ after ⟨kept', guaranteed', woken⟩
                exact ⟨kept', carries.trans _ _ _ logged
                  (carries.trans _ _ _ guaranteed guaranteed'),
                  world, carries.refl world, woken.before carries guaranteed⟩
              · rintro resumed after ⟨kept', guaranteed', -, reached⟩
                refine ⟨kept', carries.trans _ _ _ logged
                  (carries.trans _ _ _ guaranteed guaranteed'), nofun, fun calm disposable => ?_⟩
                obtain ⟨woken, disposable'⟩ := reached calm disposable
                exact ⟨⟨world, carries.refl world, woken.before carries guaranteed⟩, disposable'⟩
            · rintro inner disposed ⟨kept', guaranteed', toxic⟩
              -- Only a payload that cannot be disposed of gets here, so the clean-up may abort.
              have noisy : ¬ Calm admits := fun calm =>
                toxic (calm _ _ _ admitted)
              have aborts := aborts.resolve_left fun calm => noisy calm.1
              have guaranteed := carries.trans _ _ _ guaranteed guaranteed'
              simp only [dropGlue, Prog.wp_ensuring]
              refine Prog.wp_mono (relies.dropWakers carries _ (fun _ _ _ => aborts _) kept') ?_ ?_
              · rintro _ dropped ⟨kept', guaranteed'⟩
                have guaranteed := carries.trans _ _ _ guaranteed guaranteed'
                refine Prog.wp_mono (relies.runs carries (.dropPanic first) trivial kept') ?_
                  (fun _ after _ => aborts after)
                rintro _ after ⟨kept', guaranteed'⟩
                exact ⟨kept', carries.trans _ _ _ logged
                  (carries.trans _ _ _ guaranteed guaranteed'), nofun, fun calm =>
                    absurd calm noisy⟩
              · rintro _ dropped ⟨kept', -⟩
                refine Prog.wp_mono (relies.runs carries (.dropPanic first) trivial kept') ?_ ?_
                · exact fun _ after _ => aborts after
                · exact fun _ after _ => aborts after

/-- Waking a list of parked tasks keeps the invariant and the guarantee; every task has
been woken if it returns, or if panics are calm. -/
theorem Relies.wakeAll (side : Side) (entries : List (UInt64 × Waker))
    (aborts : Calm admits ∨ ∀ world, contract.abort world) (holds : invariant world) :
    (wakeAll side entries).wp contract
      (fun _ after => invariant after ∧ guarantee world after ∧
        Woken guarantee side entries world after)
      (fun payload after => invariant after ∧ guarantee world after ∧
        Interrupted guarantee admits (fun code => ∃ entry ∈ entries, code = .wake side entry.2)
          after ∧
        (Calm admits → Woken guarantee side entries world after ∧ Disposable admits payload))
      world := by
  have aborts' : (Calm admits ∧ ∀ payload ∈ (none : Option Panic), Disposable admits payload) ∨
      ∀ world, contract.abort world := aborts.imp_left fun calm => ⟨calm, nofun⟩
  refine Prog.wp_mono (relies.wakeEach carries side entries none aborts' holds)
    (fun _ _ kept => kept) ?_
  rintro payload after ⟨kept, guaranteed, raised, reached⟩
  exact ⟨kept, guaranteed, raised rfl, fun calm => reached calm nofun⟩

end UserCode

end Lochan
