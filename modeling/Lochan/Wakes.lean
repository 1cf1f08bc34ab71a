import Lochan.Reentrant.Outcome
import Lochan.Rules

/-!
# Waking lists of tasks

What waking a list of tasks does against given user code, where every waker may panic with
any payload: which wakers are woken, which payloads are dropped, and how it ends. Without
`catch_unwind` a guard wakes the rest of a list on an unwind; the functions of that build are
in the namespace `NoStd`.
-/

namespace Lochan

open Reentrant

variable {χ ω ρ α β : Type}

namespace Panic

/-- The panic of the destructor of a payload. -/
def destructor : Panic → Option Panic
  | .message _ => none
  | .toxic inner => some inner

/-- How many destructors panic one after the other. -/
def depth : Panic → Nat
  | .message _ => 0
  | .toxic inner => inner.depth + 1

/-- A payload whose destructor does not panic has no more than one layer. -/
theorem depth_of_destructor {payload : Panic} (harmless : payload.destructor = none) :
    payload.depth ≤ 1 := by
  cases payload with
  | message text => exact Nat.zero_le _
  | toxic inner => cases harmless

end Panic

/-- User code that panics in the wakers it is asked to, with the payloads it is asked to. It
may change the channel in any way, but cannot borrow a cell beyond a callback. -/
structure UserCode (χ ω ρ α : Type) where
  answer : Callback α → World χ ω ρ α → Except Panic Unit × World χ ω ρ α
  panics : Side → Waker → Option Panic
  wakes : ∀ side waker world, (answer (.wake side waker) world).1 = leaving (panics side waker)
  destroys : ∀ payload world, (answer (.dropPanic payload) world).1 = leaving payload.destructor
  unborrowed : ∀ code world, (answer code world).2.held = world.held

/-- User code that leaves the channel alone. -/
def UserCode.inert (panics : Side → Waker → Option Panic) : UserCode χ ω ρ α where
  answer
    | .wake side waker, world => (leaving (panics side waker), world)
    | .dropPanic payload, world => (leaving payload.destructor, world)
    | _, world => (.ok (), world)
  panics := panics
  wakes _ _ _ := rfl
  destroys _ _ := rfl
  unborrowed code _ := by cases code <;> rfl

/-- The outcome of a program of a channel. -/
abbrev Ran (χ ω ρ α β : Type) := Outcome (World χ ω ρ α) (Callback α) Panic β

/-- The callbacks that a program ran, and how each was left. -/
abbrev Calls (α : Type) := List (Callback α × Except Panic Unit)

/-- The wakers that were woken, in order. -/
def Calls.woken (calls : Calls α) : List (Side × Waker) :=
  calls.filterMap fun
    | (.wake side waker, _) => some (side, waker)
    | _ => none

/-- The panic payloads that were dropped, in order. -/
def Calls.dropped (calls : Calls α) : List Panic :=
  calls.filterMap fun
    | (.dropPanic payload, _) => some payload
    | _ => none

/-- Nothing but the payloads of panics was dropped, and each of them can be disposed of. -/
def Calls.Disposals (calls : Calls α) : Prop :=
  ∀ call ∈ calls, ∃ payload : Panic, call.1 = .dropPanic payload ∧ payload.depth ≤ 1

/-- Wakes in two parts of a run are those of the one and then those of the other. -/
theorem Calls.woken_append (first second : Calls α) :
    Calls.woken (first ++ second) = first.woken ++ second.woken := List.filterMap_append ..

/-- Payloads dropped in two parts of a run are those of the one and then those of the other. -/
theorem Calls.dropped_append (first second : Calls α) :
    Calls.dropped (first ++ second) = first.dropped ++ second.dropped := List.filterMap_append ..

/-- A wake is the first of those that are left. -/
theorem Calls.woken_wake (side : Side) (waker : Waker) (outcome : Except Panic Unit)
    (calls : Calls α) :
    Calls.woken ((.wake side waker, outcome) :: calls) = (side, waker) :: calls.woken := rfl

/-- A wake drops no payload. -/
theorem Calls.dropped_wake (side : Side) (waker : Waker) (outcome : Except Panic Unit)
    (calls : Calls α) :
    Calls.dropped ((.wake side waker, outcome) :: calls) = calls.dropped := rfl

/-- Disposing of payloads wakes nobody. -/
theorem Calls.Disposals.woken {calls : Calls α} (disposals : calls.Disposals) :
    calls.woken = [] := by
  refine List.filterMap_eq_nil_iff.mpr fun call member => ?_
  obtain ⟨payload, same, -⟩ := disposals call member
  obtain ⟨callback, outcome⟩ := call
  cases same
  rfl

/-- Only payloads that can be disposed of are dropped in a disposal. -/
theorem Calls.Disposals.dropped {calls : Calls α} (disposals : calls.Disposals) :
    ∀ payload ∈ calls.dropped, payload.depth ≤ 1 := by
  intro payload member
  obtain ⟨⟨callback, outcome⟩, inside, drops⟩ := List.mem_filterMap.mp member
  obtain ⟨dropped, same, shallow⟩ := disposals _ inside
  cases same
  cases drops
  exact shallow

/-- The tasks of a list, as tasks of a side. -/
def tasks (side : Side) (entries : List (UInt64 × Waker)) : List (Side × Waker) :=
  entries.map fun entry => (side, entry.2)

namespace UserCode

variable (code : UserCode χ ω ρ α)

/-- Runs a program that has no loops. -/
def run (prog : Act χ ω ρ α β) (world : World χ ω ρ α) : Ran χ ω ρ α β :=
  prog.run code.answer 0 world

/-- The panics of some wakers, in the order of the list. -/
def raised (side : Side) (entries : List (UInt64 × Waker)) : List Panic :=
  entries.filterMap fun entry => code.panics side entry.2

/-- No waker panics with a payload whose own destructor panics. -/
def Harmless : Prop :=
  ∀ side waker payload, code.panics side waker = some payload → payload.destructor = none

/-- Harmless user code raises only payloads whose destructors do not panic. -/
theorem harmless_raised (harmless : code.Harmless) {side : Side}
    {entries : List (UInt64 × Waker)} :
    ∀ payload ∈ code.raised side entries, payload.destructor = none := by
  intro payload member
  obtain ⟨entry, -, panics⟩ := List.mem_filterMap.mp member
  exact harmless side entry.2 payload panics

/-- `dropPanicPayload` returns normally. -/
def Disposes (payload : Panic) : Prop :=
  ∀ world, (code.run (dropPanicPayload payload) world).ending = .returned ()

/-- The channel after a callback that panics with a payload, or does not. -/
def left (callback : Callback α) (panic : Option Panic) (world : World χ ω ρ α) : World χ ω ρ α :=
  let after := (code.answer callback (world.logged (.called callback))).2
  match panic with
  | none => after
  | some _ => after.logged (.panicked callback)

/-- Leaving a callback borrows no cell. -/
theorem left_held (callback : Callback α) (panic : Option Panic) (world : World χ ω ρ α) :
    (code.left callback panic world).held = world.held := by
  cases panic <;> exact code.unborrowed ..

/-- A callback is run by answering it first. -/
theorem run_called (callback : Callback α) (world : World χ ω ρ α) :
    code.run (Lochan.callback callback) world =
      ((match (code.answer callback (world.logged (.called callback))).1 with
        | .ok _ => .ret ()
        | .error payload => do
          emit (.panicked callback)
          Prog.unwind payload : Act χ ω ρ α Unit).run code.answer 0
        (code.answer callback (world.logged (.called callback))).2).after
          (callback, (code.answer callback (world.logged (.called callback))).1) := rfl

/-- A callback leaves with the panic that user code answers, if there is one. -/
theorem run_callback {callback : Callback α} {world : World χ ω ρ α} {panic : Option Panic}
    (leaves : (code.answer callback (world.logged (.called callback))).1 = leaving panic) :
    code.run (Lochan.callback callback) world =
      ⟨[(callback, leaving panic)], .resuming panic, code.left callback panic world⟩ := by
  rw [run_called, leaves]
  cases panic <;> rfl

/-- A wake leaves with the panic of its waker, if there is one. -/
theorem run_wake (side : Side) (waker : Waker) (world : World χ ω ρ α) :
    code.run (callback (.wake side waker)) world =
      ⟨[(.wake side waker, leaving (code.panics side waker))],
        .resuming (code.panics side waker),
        code.left (.wake side waker) (code.panics side waker) world⟩ :=
  code.run_callback (code.wakes side waker _)

/-- Dropping a payload leaves with the panic of its destructor, if there is one. -/
theorem run_dropPanic (payload : Panic) (world : World χ ω ρ α) :
    code.run (callback (.dropPanic payload)) world =
      ⟨[(.dropPanic payload, leaving payload.destructor)], .resuming payload.destructor,
        code.left (.dropPanic payload) payload.destructor world⟩ :=
  code.run_callback (code.destroys payload _)

/-- A run of one program after the other. -/
theorem run_bind (prog : Act χ ω ρ α β) {γ : Type} (next : β → Act χ ω ρ α γ)
    (world : World χ ω ρ α) :
    code.run (prog >>= next) world =
      (code.run prog world).andThen fun value => code.run (next value) :=
  Prog.run_bind prog next world

/-- A run of a program whose unwind is caught. -/
theorem run_attempt (prog : Act χ ω ρ α β) (world : World χ ω ρ α) :
    code.run prog.attempt world = (code.run prog world).caught :=
  Prog.run_attempt prog world

/-- A run of a program with a clean-up for the case that it unwinds. -/
theorem run_guarded (prog : Act χ ω ρ α β) (cleanup : Act χ ω ρ α Unit)
    (world : World χ ω ρ α) :
    code.run (prog.guarded cleanup) world = (code.run prog world).cleaned (code.run cleanup) :=
  Prog.run_guarded prog cleanup world

/-! ### Disposing of panic payloads -/

/-- What disposing of a payload does, where its destructor panics at most once. -/
theorem run_dropPanicPayload {payload : Panic} (shallow : payload.depth ≤ 1)
    (world : World χ ω ρ α) :
    ∃ calls after, code.run (dropPanicPayload payload) world = ⟨calls, .returned (), after⟩ ∧
      after.held = world.held ∧ Calls.Disposals calls := by
  simp only [dropPanicPayload, run_bind, run_attempt, run_dropPanic]
  cases payload with
  | message text =>
      refine ⟨[(.dropPanic (.message text), .ok ())],
        code.left (.dropPanic (.message text)) none world, rfl, code.left_held .., ?_⟩
      intro call member
      obtain rfl := List.mem_singleton.mp member
      exact ⟨_, rfl, shallow⟩
  | toxic inner =>
      cases inner with
      | toxic innermost => exact absurd shallow (by simp [Panic.depth])
      | message text =>
          refine ⟨[(.dropPanic (.toxic (.message text)), .error (.message text)),
            (.dropPanic (.message text), .ok ())],
            code.left (.dropPanic (.message text)) none
              (code.left (.dropPanic (.toxic (.message text))) (some (.message text)) world),
            ?_, ?_, ?_⟩
          · simp only [Panic.destructor, Ending.resuming, Outcome.caught, Outcome.andThen,
              run_dropPanic]
            rfl
          · exact (code.left_held ..).trans (code.left_held ..)
          · intro call member
            rcases List.mem_cons.mp member with rfl | last
            · exact ⟨_, rfl, shallow⟩
            · obtain rfl := List.mem_singleton.mp last
              exact ⟨_, rfl, Nat.zero_le _⟩

/-- Disposing of a payload returns normally if and only if its destructor panics at most
once. -/
theorem dropPanicPayload_returns {payload : Panic} (world : World χ ω ρ α) :
    (code.run (dropPanicPayload payload) world).ending = .returned () ↔ payload.depth ≤ 1 := by
  constructor
  · intro returns
    simp only [dropPanicPayload, run_bind, run_attempt, run_dropPanic] at returns
    cases payload with
    | message text => exact Nat.zero_le _
    | toxic inner =>
        cases inner with
        | message text => exact Nat.le_refl _
        | toxic innermost =>
            simp only [Panic.destructor, Ending.resuming, Outcome.caught, Outcome.andThen,
              run_dropPanic] at returns
            cases returns
  · intro shallow
    obtain ⟨calls, after, runs, -⟩ := code.run_dropPanicPayload shallow world
    rw [runs]

/-- The payload itself is dropped when it is disposed of. -/
theorem dropped_dropPanicPayload (payload : Panic) (world : World χ ω ρ α) :
    payload ∈ Calls.dropped (code.run (dropPanicPayload payload) world).calls := by
  simp only [dropPanicPayload, run_bind, run_attempt, run_dropPanic]
  cases payload <;> exact List.mem_cons_self

/-- A payload can be disposed of if and only if it has no more than one layer. -/
theorem disposes_iff {payload : Panic} (world : World χ ω ρ α) :
    code.Disposes payload ↔ payload.depth ≤ 1 :=
  ⟨fun disposes => (code.dropPanicPayload_returns world).mp (disposes world),
    fun shallow world => (code.dropPanicPayload_returns world).mpr shallow⟩

/-! ### The loop over a list of tasks -/

/-- Every task of a list is woken, in order, the panic raised first is resumed, and every
payload that is dropped can be disposed of. -/
structure Shielded (woken : List (Side × Waker)) (raised : List Panic)
    (outcome : Ran χ ω ρ α Unit) : Prop where
  disposes : ∀ payload ∈ Calls.dropped outcome.calls, code.Disposes payload
  woken : Calls.woken outcome.calls = woken
  ending : outcome.ending = .resuming raised.head?

/-- What a program does that wakes some tasks, which raise some panics: where all panics but
the first can be disposed of, it reaches every task, and otherwise it drops one that cannot. -/
structure Sweeps (prog : Act χ ω ρ α Unit) (woken : List (Side × Waker)) (raised : List Panic)
    (world : World χ ω ρ α) : Prop where
  reaches : (∀ payload ∈ raised.tail, payload.depth ≤ 1) →
    ∃ calls after, code.run prog world = ⟨calls, .resuming raised.head?, after⟩ ∧
      after.held = world.held ∧ Calls.woken calls = woken ∧
      ∀ payload ∈ Calls.dropped calls, payload.depth ≤ 1
  shallow : (∀ payload ∈ Calls.dropped (code.run prog world).calls, payload.depth ≤ 1) →
    ∀ payload ∈ raised.tail, payload.depth ≤ 1

/-- A program shields the tasks that it wakes if and only if the destructor of every payload
but the first panics at most once. -/
def ShieldsIff (prog : Act χ ω ρ α Unit) (woken : List (Side × Waker)) (raised : List Panic)
    (world : World χ ω ρ α) : Prop :=
  code.Shielded woken raised (code.run prog world) ↔ ∀ payload ∈ raised.tail, payload.depth ≤ 1

/-- A program that sweeps shields its tasks if and only if the payloads allow for it. -/
theorem Sweeps.shielded_iff {code : UserCode χ ω ρ α} {prog : Act χ ω ρ α Unit}
    {woken : List (Side × Waker)} {raised : List Panic} {world : World χ ω ρ α}
    (sweeps : code.Sweeps prog woken raised world) : code.ShieldsIff prog woken raised world := by
  constructor
  · intro shielded
    refine sweeps.shallow fun payload member => ?_
    exact (code.disposes_iff world).mp (shielded.disposes payload member)
  · intro shallow
    obtain ⟨calls, after, runs, -, wakes, dropped⟩ := sweeps.reaches shallow
    rw [runs]
    exact ⟨fun payload member => (code.disposes_iff world).mpr (dropped payload member), wakes, rfl⟩

variable {code}

/-- The first waker raises the first payload. -/
theorem raised_cons {side : Side} {id : UInt64} {waker : Waker} {rest : List (UInt64 × Waker)} :
    code.raised side ((id, waker) :: rest) =
      (code.panics side waker).toList ++ code.raised side rest := by
  cases panics : code.panics side waker <;> simp [raised, panics]

/-- A turn of the loop, where the payloads that are disposed of can be. -/
theorem run_wakeEach_cons {side : Side} (id : UInt64) {waker : Waker}
    (rest : List (UInt64 × Waker)) {firstPanic : Option Panic} (world : World χ ω ρ α)
    (shallow : ∀ payload, firstPanic.isSome → code.panics side waker = some payload →
      payload.depth ≤ 1) :
    ∃ calls middle,
      code.run (wakeEach side ((id, waker) :: rest) firstPanic) world =
        (code.run (wakeEach side rest (firstPanic.or (code.panics side waker))) middle).afterAll
          ((.wake side waker, leaving (code.panics side waker)) :: calls) ∧
      middle.held = world.held ∧ Calls.Disposals calls := by
  simp only [wakeEach, run_bind, run_attempt, run_wake]
  cases panics : code.panics side waker with
  | none =>
      refine ⟨[], code.left (.wake side waker) none world, ?_, code.left_held .., by rintro _ ⟨⟩⟩
      simp [Ending.resuming, Outcome.caught, Outcome.andThen, Outcome.afterAll]
  | some payload =>
      cases firstPanic with
      | none =>
          refine ⟨[], code.left (.wake side waker) (some payload) world, ?_,
            code.left_held .., by rintro _ ⟨⟩⟩
          simp [Ending.resuming, Outcome.caught, Outcome.andThen, Outcome.afterAll]
      | some first =>
          obtain ⟨calls, after, runs, held, drops⟩ := code.run_dropPanicPayload
            (shallow payload rfl panics) (code.left (.wake side waker) (some payload) world)
          refine ⟨calls, after, ?_, held.trans (code.left_held ..), drops⟩
          simp [Ending.resuming, Outcome.caught, Outcome.andThen, Outcome.afterAll, run_bind,
            run_guarded, runs, Outcome.cleaned]

/-- The loop wakes every task of the list, and resumes the panic raised first. -/
theorem run_wakeEach {side : Side} {entries : List (UInt64 × Waker)} (firstPanic : Option Panic)
    (shallow : ∀ payload ∈ (firstPanic.toList ++ code.raised side entries).tail,
      payload.depth ≤ 1) (world : World χ ω ρ α) :
    ∃ calls after, code.run (wakeEach side entries firstPanic) world =
        ⟨calls, .resuming (firstPanic.toList ++ code.raised side entries).head?, after⟩ ∧
      after.held = world.held ∧ Calls.woken calls = tasks side entries ∧
      ∀ payload ∈ Calls.dropped calls, payload.depth ≤ 1 := by
  induction entries generalizing firstPanic world with
  | nil =>
      refine ⟨[], world, ?_, rfl, rfl, nofun⟩
      cases firstPanic <;> rfl
  | cons entry rest ih =>
      obtain ⟨id, waker⟩ := entry
      rw [raised_cons] at shallow ⊢
      have head : ∀ payload, firstPanic.isSome → code.panics side waker = some payload →
          payload.depth ≤ 1 := by
        intro payload some panics
        refine shallow payload ?_
        obtain ⟨first, rfl⟩ := Option.isSome_iff_exists.mp some
        simp [panics]
      have tail : ∀ payload ∈ ((firstPanic.or (code.panics side waker)).toList ++
          code.raised side rest).tail, payload.depth ≤ 1 := by
        intro payload member
        refine shallow payload ?_
        cases firstPanic <;> cases panics : code.panics side waker <;>
          simp_all
      obtain ⟨disposals, middle, runs, held, disposed⟩ := run_wakeEach_cons id rest world head
      obtain ⟨calls, after, runs', held', woken, dropped⟩ := ih _ tail middle
      rw [runs, runs']
      refine ⟨((.wake side waker, leaving (code.panics side waker)) :: disposals) ++ calls, after,
        ?_, held'.trans held, ?_, ?_⟩
      · cases firstPanic <;> cases code.panics side waker <;> rfl
      · rw [Calls.woken_append, Calls.woken_wake, disposed.woken, woken]
        rfl
      · intro payload member
        rw [Calls.dropped_append, Calls.dropped_wake] at member
        rcases List.mem_append.mp member with first | later
        · exact disposed.dropped payload first
        · exact dropped payload later

/-- The payload of a later panic is disposed of at once. -/
theorem run_wakeEach_later {side : Side} (id : UInt64) {waker : Waker}
    (rest : List (UInt64 × Waker)) (first : Panic) {payload : Panic} (world : World χ ω ρ α)
    (panics : code.panics side waker = some payload) :
    ∃ last, (code.run (wakeEach side ((id, waker) :: rest) (some first)) world).calls =
      (.wake side waker, .error payload) ::
        ((code.run (dropPanicPayload payload)
          (code.left (.wake side waker) (some payload) world)).calls ++ last) := by
  have turn : code.run (wakeEach side ((id, waker) :: rest) (some first)) world =
      (code.run (do
          (dropPanicPayload payload).guarded
            (dropGlue (dropWakers (rest.map Prod.snd)) (callback (.dropPanic first)))
          wakeEach side rest (some first))
        (code.left (.wake side waker) (some payload) world)).afterAll
          [(.wake side waker, .error payload)] := by
    rw [wakeEach, run_bind, run_attempt, run_wake, panics]
    rfl
  rw [turn, run_bind, run_guarded]
  obtain ⟨cleanup, cleaned⟩ := Outcome.calls_cleaned
    (code.run (dropPanicPayload payload) (code.left (.wake side waker) (some payload) world))
    (code.run (dropGlue (dropWakers (rest.map Prod.snd)) (callback (.dropPanic first))))
  obtain ⟨later, calls⟩ := Outcome.calls_andThen
    ((code.run (dropPanicPayload payload)
      (code.left (.wake side waker) (some payload) world)).cleaned
      (code.run (dropGlue (dropWakers (rest.map Prod.snd)) (callback (.dropPanic first)))))
    fun _ => code.run (wakeEach side rest (some first))
  exact ⟨cleanup ++ later, by simp [Outcome.afterAll, calls, cleaned]⟩

/-- The loop drops every payload but the one raised first, where all that it drops can be
disposed of. -/
theorem wakeEach_shallow {side : Side} {entries : List (UInt64 × Waker)}
    (firstPanic : Option Panic) {world : World χ ω ρ α}
    (only : ∀ payload ∈ Calls.dropped (code.run (wakeEach side entries firstPanic) world).calls,
      payload.depth ≤ 1) :
    ∀ payload ∈ (firstPanic.toList ++ code.raised side entries).tail, payload.depth ≤ 1 := by
  induction entries generalizing firstPanic world with
  | nil => cases firstPanic <;> exact nofun
  | cons entry rest ih =>
      obtain ⟨id, waker⟩ := entry
      have head : ∀ payload, firstPanic.isSome → code.panics side waker = some payload →
          payload.depth ≤ 1 := by
        intro payload later panics
        obtain ⟨first, rfl⟩ := Option.isSome_iff_exists.mp later
        obtain ⟨last, calls⟩ := run_wakeEach_later id rest first world panics
        refine only payload ?_
        rw [calls, Calls.dropped_wake, Calls.dropped_append]
        exact List.mem_append_left _ (code.dropped_dropPanicPayload ..)
      obtain ⟨disposals, middle, runs, held, disposed⟩ := run_wakeEach_cons id rest world head
      have kept : ∀ payload ∈ Calls.dropped
          (code.run (wakeEach side rest (firstPanic.or (code.panics side waker))) middle).calls,
          payload.depth ≤ 1 := by
        intro payload member
        refine only payload ?_
        rw [runs]
        show payload ∈ Calls.dropped (_ ++ _)
        rw [Calls.dropped_append]
        exact List.mem_append_right _ member
      have later := ih _ kept
      rw [raised_cons]
      intro payload member
      cases firstPanic with
      | none =>
          refine later payload ?_
          cases panics : code.panics side waker <;> simpa [panics] using member
      | some first =>
          cases panics : code.panics side waker with
          | none => exact later payload (by simpa [panics] using member)
          | some raised =>
              rcases List.mem_cons.mp (by simpa [panics] using member) with rfl | inside
              · exact head payload rfl panics
              · exact later payload inside

/-- Waking all tasks wakes each of them once, and raises the first payload again. -/
theorem sweeps_wakeAll (code : UserCode χ ω ρ α) (side : Side) (entries : List (UInt64 × Waker))
    (world : World χ ω ρ α) :
    code.Sweeps (wakeAll side entries) (tasks side entries) (code.raised side entries) world where
  reaches shallow := run_wakeEach none shallow world
  shallow only := wakeEach_shallow none only

/-- Resumes the panic of the first of two programs that panicked. -/
def conclude : Except Panic Unit → Except Panic Unit → Act χ ω ρ α Unit
  | .error payload, .error other => do
    (dropPanicPayload other).guarded (callback (.dropPanic payload))
    Prog.unwind payload
  | .error payload, .ok _ => Prog.unwind payload
  | .ok _, .error payload => Prog.unwind payload
  | .ok _, .ok _ => return

/-- Runs two programs, also when the first one panics. -/
def both (first second : Act χ ω ρ α Unit) : Act χ ω ρ α Unit := do
  let earlier ← first.attempt
  let later ← second.attempt
  conclude earlier later

/-- The second program follows on the first, however that is left. -/
theorem run_both_first {first : Act χ ω ρ α Unit} (second : Act χ ω ρ α Unit)
    {world middle : World χ ω ρ α} {earlier : Calls α} {panic : Option Panic}
    (runs : code.run first world = ⟨earlier, .resuming panic, middle⟩) :
    code.run (both first second) world =
      ((code.run second middle).caught.andThen fun later =>
        code.run (conclude (leaving panic) later)).afterAll earlier := by
  rw [both, run_bind, run_attempt, runs]
  have next : code.run (second.attempt >>= conclude (leaving panic)) middle =
      (code.run second middle).caught.andThen fun later =>
        code.run (conclude (leaving panic) later) := by rw [run_bind, run_attempt]
  rw [← next]
  cases panic <;> rfl

/-- The two programs one after the other, where the panics can be disposed of. -/
theorem run_both {first second : Act χ ω ρ α Unit} {world middle after : World χ ω ρ α}
    {earlier later : Calls α} {panic other : Option Panic}
    (runs : code.run first world = ⟨earlier, .resuming panic, middle⟩)
    (runs' : code.run second middle = ⟨later, .resuming other, after⟩)
    (shallow : ∀ payload, panic.isSome → other = some payload → payload.depth ≤ 1) :
    ∃ disposals last, code.run (both first second) world =
        ⟨earlier ++ later ++ disposals, .resuming (panic.or other), last⟩ ∧
      last.held = after.held ∧ Calls.Disposals disposals := by
  rw [run_both_first second runs, runs']
  cases panic with
  | none =>
      refine ⟨[], after, ?_, rfl, nofun⟩
      cases other <;>
        simp [Ending.resuming, Outcome.caught, Outcome.andThen, Outcome.afterAll,
          conclude, leaving] <;>
        exact ⟨rfl, rfl, rfl⟩
  | some payload =>
      cases other with
      | none =>
          refine ⟨[], after, ?_, rfl, nofun⟩
          simp [Ending.resuming, Outcome.caught, Outcome.andThen, Outcome.afterAll,
            conclude, leaving]
          exact ⟨rfl, rfl, rfl⟩
      | some last =>
          obtain ⟨calls, disposed, disposes, held, disposals⟩ :=
            code.run_dropPanicPayload (shallow last rfl rfl) after
          refine ⟨calls, disposed, ?_, held, disposals⟩
          simp [Ending.resuming, Outcome.caught, Outcome.andThen, Outcome.afterAll,
            conclude, leaving, run_bind, run_guarded, disposes, Outcome.cleaned]
          exact ⟨rfl, rfl, rfl⟩

/-- The callbacks of the first program come first. -/
theorem calls_both (first second : Act χ ω ρ α Unit) (world : World χ ω ρ α) :
    ∃ later, (code.run (both first second) world).calls =
      (code.run first world).calls ++ later := by
  rw [both, run_bind, run_attempt]
  obtain ⟨later, calls⟩ := Outcome.calls_andThen (code.run first world).caught _
  exact ⟨later, calls.trans (by rw [Outcome.calls_caught])⟩

/-- What follows on the disposal of a payload does not undo it. -/
theorem dropped_guarded (payload : Panic) (cleanup : Act χ ω ρ α Unit) (next : Act χ ω ρ α β)
    (world : World χ ω ρ α) :
    payload ∈ Calls.dropped (code.run (do
      (dropPanicPayload payload).guarded cleanup
      next) world).calls := by
  rw [run_bind, run_guarded]
  obtain ⟨cleaned, calls⟩ := Outcome.calls_cleaned (code.run (dropPanicPayload payload) world)
    (code.run cleanup)
  obtain ⟨later, calls'⟩ := Outcome.calls_andThen
    ((code.run (dropPanicPayload payload) world).cleaned (code.run cleanup)) fun _ => code.run next
  rw [calls', calls, Calls.dropped_append, Calls.dropped_append]
  exact List.mem_append_left _ (List.mem_append_left _ (code.dropped_dropPanicPayload ..))

/-- The callbacks of the second program come next; where both panic, the second payload is
disposed of. -/
theorem calls_both_next {first : Act χ ω ρ α Unit} (second : Act χ ω ρ α Unit)
    {world middle : World χ ω ρ α} {earlier : Calls α} {panic : Option Panic}
    (runs : code.run first world = ⟨earlier, .resuming panic, middle⟩) :
    ∃ later, (code.run (both first second) world).calls =
        earlier ++ (code.run second middle).calls ++ later ∧
      ∀ payload, panic.isSome → (code.run second middle).ending = .unwound payload →
        payload ∈ Calls.dropped later := by
  rw [run_both_first second runs]
  obtain ⟨calls, ending, after⟩ := code.run second middle
  cases ending with
  | returned value =>
      exact ⟨(code.run (conclude (leaving panic) (.ok value)) after).calls,
        (List.append_assoc ..).symm, by rintro _ _ ⟨⟩⟩
  | unwound payload =>
      refine ⟨(code.run (conclude (leaving panic) (.error payload)) after).calls,
        (List.append_assoc ..).symm, ?_⟩
      rintro _ some ⟨⟩
      obtain ⟨first, rfl⟩ := Option.isSome_iff_exists.mp some
      exact dropped_guarded ..
  | _ => exact ⟨[], by simp [Outcome.caught, Outcome.andThen, Outcome.afterAll], by rintro _ _ ⟨⟩⟩

/-- A payload behind the first one is in either part, or it is the first of the second part. -/
theorem mem_tail_append {first second : List Panic} {payload : Panic}
    (member : payload ∈ (first ++ second).tail) :
    payload ∈ first.tail ∨ payload ∈ second.tail ∨
      first.head?.isSome ∧ second.head? = some payload := by
  cases first with
  | nil => exact .inr (.inl member)
  | cons head tail =>
      rcases List.mem_append.mp member with inside | inside
      · exact .inl inside
      · cases second with
        | nil => cases inside
        | cons next rest =>
            rcases List.mem_cons.mp inside with rfl | later
            · exact .inr (.inr ⟨rfl, rfl⟩)
            · exact .inr (.inl later)

/-- The parts make up all payloads behind the first one. -/
theorem tail_append_mem {first second : List Panic} {payload : Panic}
    (member : payload ∈ first.tail ∨ payload ∈ second.tail ∨
      first.head?.isSome ∧ second.head? = some payload) :
    payload ∈ (first ++ second).tail := by
  cases first with
  | nil => simpa using member
  | cons head tail =>
      rcases member with inside | inside | ⟨-, next⟩
      · exact List.mem_append_left _ inside
      · exact List.mem_append_right _ (List.mem_of_mem_tail inside)
      · exact List.mem_append_right _ (List.mem_of_mem_head? next)

/-- Two programs that wake tasks, one after the other. -/
theorem Sweeps.both {first second : Act χ ω ρ α Unit} {woken woken' : List (Side × Waker)}
    {raised raised' : List Panic} {world : World χ ω ρ α}
    (sweeps : code.Sweeps first woken raised world)
    (next : (code.run first world).state.held = world.held →
      code.Sweeps second woken' raised' (code.run first world).state) :
    code.Sweeps (UserCode.both first second) (woken ++ woken') (raised ++ raised') world where
  reaches shallow := by
    obtain ⟨earlier, middle, runs, held, wakes, dropped⟩ := sweeps.reaches
      fun payload member => shallow payload (tail_append_mem (.inl member))
    rw [runs] at next
    obtain ⟨later, after, runs', held', wakes', dropped'⟩ := (next held).reaches
      fun payload member => shallow payload (tail_append_mem (.inr (.inl member)))
    obtain ⟨disposals, last, ran, kept, disposed⟩ := run_both runs runs'
      fun payload some other => shallow payload (tail_append_mem (.inr (.inr ⟨some, other⟩)))
    refine ⟨earlier ++ later ++ disposals, last, ran.trans ?_,
      kept.trans (held'.trans held), ?_, ?_⟩
    · cases raised <;> rfl
    · rw [Calls.woken_append, Calls.woken_append, wakes, wakes', disposed.woken, List.append_nil]
    · intro payload member
      rw [Calls.dropped_append, Calls.dropped_append] at member
      rcases List.mem_append.mp member with either | last
      · exact (List.mem_append.mp either).elim (dropped payload) (dropped' payload)
      · exact disposed.dropped payload last
  shallow only := by
    obtain ⟨later, calls⟩ := code.calls_both first second world
    have tail := sweeps.shallow fun payload member => only payload (by
      rw [calls, Calls.dropped_append]
      exact List.mem_append_left _ member)
    obtain ⟨earlier, middle, runs, held, -, -⟩ := sweeps.reaches tail
    rw [runs] at next
    obtain ⟨last, calls, drops⟩ := calls_both_next second runs
    have tail' := (next held).shallow fun payload member => only payload (by
      rw [calls, Calls.dropped_append, Calls.dropped_append]
      exact List.mem_append_left _ (List.mem_append_right _ member))
    intro payload member
    rcases mem_tail_append member with inside | inside | ⟨some, head⟩
    · exact tail payload inside
    · exact tail' payload inside
    · obtain ⟨later, after, runs', -⟩ := (next held).reaches tail'
      refine only payload ?_
      rw [calls, Calls.dropped_append]
      exact List.mem_append_right _ (drops payload some (by rw [runs', head]; rfl))

end UserCode

/-! ### Taking a list out -/

/-- Takes a list of tasks out of its cell, and wakes them outside the borrow. -/
def sweep (cell : Cell) (entries : χ → List (UInt64 × Waker)) (clear : χ → χ)
    (wake : List (UInt64 × Waker) → Act χ ω ρ α Unit) : Act χ ω ρ α Unit := do
  if ← borrowing cell do return (entries (← getState)).isEmpty then return
  else
    let wakers ← borrowing cell do
      let wakers := entries (← getState)
      modifyState clear
      return wakers
    wake wakers

/-- A sweep takes the wakers out and then wakes them. -/
theorem UserCode.run_sweep (code : UserCode χ ω ρ α) (cell : Cell)
    (entries : χ → List (UInt64 × Waker)) (clear : χ → χ)
    (wake : List (UInt64 × Waker) → Act χ ω ρ α Unit) {world : World χ ω ρ α}
    (unborrowed : world.held = [])
    (same : entries world.state = [] → clear world.state = world.state) (none : wake [] = return) :
    code.run (sweep cell entries clear wake) world =
      code.run (wake (entries world.state)) (world.onState clear) := by
  obtain ⟨state, held, log⟩ := world
  subst unborrowed
  cases parked : entries state with
  | nil =>
      rw [none]
      simp [sweep, borrowing, run, parked, Prog.ensuring, getState, modifyState, Outcome.andThen,
        Outcome.afterAll, Outcome.cleaned, World.onState, same parked]
  | cons entry rest =>
      simp [sweep, borrowing, run, parked, Prog.ensuring, getState, modifyState, Outcome.andThen,
        Outcome.afterAll, Outcome.cleaned, World.onState]

/-- A program that runs as another one does sweeps as it does. -/
theorem UserCode.Sweeps.of_run {code : UserCode χ ω ρ α} {prog other : Act χ ω ρ α Unit}
    {woken : List (Side × Waker)} {raised : List Panic} {world before : World χ ω ρ α}
    (sweeps : code.Sweeps other woken raised before)
    (same : code.run prog world = code.run other before) (held : before.held = world.held) :
    code.Sweeps prog woken raised world where
  reaches shallow := by
    obtain ⟨calls, after, runs, kept, wakes⟩ := sweeps.reaches shallow
    exact ⟨calls, after, same.trans runs, kept.trans held, wakes⟩
  shallow only := sweeps.shallow (same ▸ only)

/-- Sweeping with the loop wakes each registered task once. -/
theorem UserCode.sweeps_sweep (code : UserCode χ ω ρ α) (cell : Cell)
    (entries : χ → List (UInt64 × Waker)) (clear : χ → χ) (side : Side) {world : World χ ω ρ α}
    (unborrowed : world.held = [])
    (same : entries world.state = [] → clear world.state = world.state) :
    code.Sweeps (sweep cell entries clear (wakeAll side)) (tasks side (entries world.state))
      (code.raised side (entries world.state)) world :=
  (code.sweeps_wakeAll side _ _).of_run
    (code.run_sweep cell entries clear (wakeAll side) unborrowed same rfl) rfl

/-- Waking one task. -/
theorem UserCode.sweeps_wake (code : UserCode χ ω ρ α) (side : Side) (waker : Waker)
    (world : World χ ω ρ α) :
    code.Sweeps (callback (.wake side waker)) [(side, waker)] (code.panics side waker).toList
      world where
  reaches _ := by
    rw [code.run_wake, Option.head?_toList]
    exact ⟨_, _, rfl, code.left_held .., rfl, nofun⟩
  shallow _ := by cases code.panics side waker <;> exact nofun

/-! ### Without `catch_unwind` -/

namespace NoStd

/-- The destructor of the guard: it wakes the tasks that are left. -/
def wakeRest (side : Side) : List (UInt64 × Waker) → Act χ ω ρ α Unit
  | [] => return
  | (_, waker) :: rest => do
    (callback (.wake side waker)).guarded (dropWakers (rest.map Prod.snd))
    wakeRest side rest

/-- Wakes the tasks of a list that is given from its back; on an unwind the guard wakes the
ones that are left. -/
def wakeBack (side : Side) : List (UInt64 × Waker) → Act χ ω ρ α Unit
  | [] => return
  | (_, waker) :: rest => do
    (callback (.wake side waker)).guarded (wakeRest side rest.reverse)
    wakeBack side rest

/-- Wakes every waker in `wakers`, popping one after the other. -/
def wakeAll (side : Side) (wakers : List (UInt64 × Waker)) : Act χ ω ρ α Unit :=
  wakeBack side wakers.reverse

end NoStd

namespace UserCode

/-- Every task of a list is woken, in some order, and the panic is resumed. -/
structure Recovered (woken : List (Side × Waker)) (raised : List Panic)
    (outcome : Ran χ ω ρ α Unit) : Prop where
  woken : (Calls.woken outcome.calls).Perm woken
  ending : outcome.ending = .resuming raised.head?

/-- What a program does that wakes some tasks, where no more than one panics. -/
def Recovers (code : UserCode χ ω ρ α) (prog : Act χ ω ρ α Unit) (woken : List (Side × Waker))
    (raised : List Panic) (world : World χ ω ρ α) : Prop :=
  raised.length ≤ 1 → ∃ calls after,
    code.run prog world = ⟨calls, .resuming raised.head?, after⟩ ∧
      after.held = world.held ∧ (Calls.woken calls).Perm woken

variable {code : UserCode χ ω ρ α}

/-- A program recovers from a single panic. -/
theorem Recovers.recovered {prog : Act χ ω ρ α Unit} {woken : List (Side × Waker)}
    {raised : List Panic} {world : World χ ω ρ α}
    (recovers : code.Recovers prog woken raised world) (single : raised.length ≤ 1) :
    Recovered woken raised (code.run prog world) := by
  obtain ⟨calls, after, runs, -, wakes⟩ := recovers single
  rw [runs]
  exact ⟨wakes, rfl⟩

/-- A program that runs as another one does recovers as it does. -/
theorem Recovers.of_run {prog other : Act χ ω ρ α Unit} {woken : List (Side × Waker)}
    {raised : List Panic} {world before : World χ ω ρ α}
    (recovers : code.Recovers other woken raised before)
    (same : code.run prog world = code.run other before) (held : before.held = world.held) :
    code.Recovers prog woken raised world := by
  intro single
  obtain ⟨calls, after, runs, kept, wakes⟩ := recovers single
  exact ⟨calls, after, same.trans runs, kept.trans held, wakes⟩

/-- Where nothing panics the rest of the tasks is woken. -/
theorem run_wakeRest {side : Side} {entries : List (UInt64 × Waker)}
    (calm : code.raised side entries = []) (world : World χ ω ρ α) :
    ∃ calls after, code.run (NoStd.wakeRest side entries) world = ⟨calls, .returned (), after⟩ ∧
      after.held = world.held ∧ Calls.woken calls = tasks side entries := by
  induction entries generalizing world with
  | nil => exact ⟨[], world, rfl, rfl, rfl⟩
  | cons entry rest ih =>
      obtain ⟨id, waker⟩ := entry
      rw [raised_cons] at calm
      obtain ⟨none, calm⟩ := List.append_eq_nil_iff.mp calm
      rw [Option.toList_eq_nil_iff] at none
      obtain ⟨calls, after, runs, held, woken⟩ := ih calm (code.left (.wake side waker) .none world)
      refine ⟨(.wake side waker, .ok ()) :: calls, after, ?_, held.trans (code.left_held ..), ?_⟩
      · rw [NoStd.wakeRest, run_bind, run_guarded, run_wake, none]
        simp [Ending.resuming, Outcome.cleaned, Outcome.andThen, Outcome.afterAll, runs, leaving]
      · rw [Calls.woken_wake, woken]
        rfl

/-- Waking in the reverse order raises the payloads in the reverse order. -/
theorem raised_reverse {side : Side} {entries : List (UInt64 × Waker)} :
    code.raised side entries.reverse = (code.raised side entries).reverse := by
  simp [raised, List.filterMap_reverse]

/-- Waking from the back wakes every task if no more than one panics. -/
theorem recovers_wakeBack (code : UserCode χ ω ρ α) (side : Side)
    (entries : List (UInt64 × Waker)) (world : World χ ω ρ α) :
    code.Recovers (NoStd.wakeBack side entries) (tasks side entries) (code.raised side entries)
      world := by
  intro single
  induction entries generalizing world with
  | nil => exact ⟨[], world, rfl, rfl, .nil⟩
  | cons entry rest ih =>
      obtain ⟨id, waker⟩ := entry
      rw [raised_cons] at single ⊢
      rw [NoStd.wakeBack, run_bind, run_guarded, run_wake]
      cases panics : code.panics side waker with
      | none =>
          rw [panics] at single
          obtain ⟨calls, after, runs, held, woken⟩ :=
            ih (code.left (.wake side waker) none world) single
          refine ⟨(.wake side waker, .ok ()) :: calls, after, ?_,
            held.trans (code.left_held ..), ?_⟩
          · simp [Ending.resuming, Outcome.cleaned, Outcome.andThen, Outcome.afterAll,
              runs, leaving]
          · rw [Calls.woken_wake]
            exact woken.cons _
      | some payload =>
          have calm : code.raised side rest = [] := by
            rw [panics] at single
            simpa using single
          have calm' : code.raised side rest.reverse = [] := by rw [raised_reverse, calm]; rfl
          obtain ⟨calls, after, runs, held, woken⟩ :=
            run_wakeRest calm' (code.left (.wake side waker) (some payload) world)
          refine ⟨(.wake side waker, .error payload) :: calls, after, ?_,
            held.trans (code.left_held ..), ?_⟩
          · simp [Ending.resuming, Outcome.cleaned, Outcome.andThen, runs, leaving]
          · rw [Calls.woken_wake, woken]
            exact ((List.reverse_perm rest).map _).cons _

/-- Waking with guards wakes every task if no more than one panics. -/
theorem recovers_wakeAll (code : UserCode χ ω ρ α) (side : Side)
    (entries : List (UInt64 × Waker)) (world : World χ ω ρ α) :
    code.Recovers (NoStd.wakeAll side entries) (tasks side entries) (code.raised side entries)
      world := by
  intro single
  have same : code.raised side entries.reverse = code.raised side entries := by
    rw [raised_reverse]
    cases panics : code.raised side entries with
    | nil => rfl
    | cons payload rest =>
        rw [panics] at single
        obtain rfl : rest = [] := List.length_eq_zero_iff.mp (by simpa using single)
        rfl
  obtain ⟨calls, after, runs, held, woken⟩ :=
    recovers_wakeBack code side entries.reverse world (same.symm ▸ single)
  rw [same] at runs
  exact ⟨calls, after, runs, held, woken.trans ((List.reverse_perm entries).map _)⟩

/-- Sweeping with guards wakes every registered task if no more than one panics. -/
theorem recovers_sweep (code : UserCode χ ω ρ α) (cell : Cell)
    (entries : χ → List (UInt64 × Waker)) (clear : χ → χ) (side : Side) {world : World χ ω ρ α}
    (unborrowed : world.held = [])
    (same : entries world.state = [] → clear world.state = world.state) :
    code.Recovers (sweep cell entries clear (NoStd.wakeAll side)) (tasks side (entries world.state))
      (code.raised side (entries world.state)) world :=
  (recovers_wakeAll code side _ _).of_run
    (code.run_sweep cell entries clear (NoStd.wakeAll side) unborrowed same rfl) rfl

/-- A program that wakes at most one task recovers it. -/
theorem Sweeps.recovers {prog : Act χ ω ρ α Unit} {woken : List (Side × Waker)}
    {raised : List Panic} {world : World χ ω ρ α}
    (sweeps : code.Sweeps prog woken raised world) : code.Recovers prog woken raised world := by
  intro single
  have shallow : raised.tail = [] := List.length_eq_zero_iff.mp (by simp; omega)
  obtain ⟨calls, after, runs, held, wakes, -⟩ := sweeps.reaches (by simp [shallow])
  exact ⟨calls, after, runs, held, wakes ▸ .refl _⟩

/-- Two programs that wake tasks, the second one also on an unwind of the first. -/
theorem Recovers.both {first second : Act χ ω ρ α Unit} {woken woken' : List (Side × Waker)}
    {raised raised' : List Panic} {world : World χ ω ρ α}
    (recovers : code.Recovers first woken raised world)
    (next : (code.run first world).state.held = world.held →
      code.Recovers second woken' raised' (code.run first world).state) :
    code.Recovers (do first.guarded second; second) (woken ++ woken')
      (raised ++ raised') world := by
  intro single
  rw [List.length_append] at single
  obtain ⟨earlier, middle, runs, held, wakes⟩ := recovers (by omega)
  rw [runs] at next
  obtain ⟨later, after, runs', held', wakes'⟩ := next held (by omega)
  rw [run_bind, run_guarded, runs]
  refine ⟨earlier ++ later, after, ?_, held'.trans held, ?_⟩
  · cases raised with
    | nil => simp [Ending.resuming, Outcome.cleaned, Outcome.andThen, Outcome.afterAll, runs']
    | cons payload rest =>
        obtain rfl : raised' = [] := List.length_eq_zero_iff.mp (by simp at single; omega)
        simp [Ending.resuming, Outcome.cleaned, Outcome.andThen, runs']
  · rw [Calls.woken_append]
    exact wakes.append wakes'

/-! ### What lasts -/

/-- A property of the channel that lasts, with no cell borrowed. -/
def Lasts (lasting : χ → Prop) (world : World χ ω ρ α) : Prop :=
  lasting world.state ∧ world.held = []

/-- The contract with user code that keeps a property of the channel. -/
def lasts (lasting : χ → Prop) : Prog.Contract (World χ ω ρ α) (Callback α) Panic where
  enter _ := Lasts lasting
  resume _ _ _ after := Lasts lasting after
  abort _ := True
  hang _ := False
  grants _ := True

section Lasts

variable {lasting : χ → Prop} {world : World χ ω ρ α}

/-- What lasts under user code lasts while a program runs, unless the process aborts. -/
theorem run_lasts (lasting : χ → Prop) {prog : Act χ ω ρ α Unit} {world : World χ ω ρ α}
    (keeps : ∀ callback world, lasting world.state → lasting (code.answer callback world).2.state)
    (holds : prog.leaves (lasts lasting) (Lasts lasting) world) :
    (code.run prog world).ending ≠ .aborted → Lasts lasting (code.run prog world).state := by
  have meets : (code.run prog world).Meets (lasts lasting) (fun _ => Lasts lasting)
      fun _ => Lasts lasting :=
    holds.run_meets trivial fun callback before lasts => ⟨keeps callback before lasts.1,
      (code.unborrowed callback before).trans lasts.2⟩
  revert meets
  unfold Outcome.Meets run
  cases (Prog.run code.answer 0 prog world).ending with
  | returned _ => exact fun kept _ => kept
  | unwound _ => exact fun kept _ => kept
  | aborted => exact fun _ alive => absurd rfl alive
  | faulted => exact fun impossible _ => impossible.elim
  | hung => exact fun impossible _ => impossible.elim

/-- User code may be relied on to keep what lasts. -/
theorem relies_lasts : Relies (lasts lasting) (Lasts lasting)
    (fun (_ _ : World χ ω ρ α) => True) fun _ _ _ => True where
  enter _ _ lasts := lasts
  resume _ _ _ _ lasts := ⟨lasts, trivial⟩
  panics _ _ _ _ _ := trivial

/-- What lasts is carried on by callbacks. -/
theorem carries_lasts : Carries (Lasts lasting) fun (_ _ : World χ ω ρ α) => True where
  refl _ := trivial
  trans _ _ _ _ _ := trivial
  logged _ _ _ lasts := ⟨lasts, trivial⟩

/-- A callback keeps what lasts. -/
theorem callback_lasts {callback : Callback α}
    (idle : (Event.called callback : Event ω ρ α).Idle) (holds : Lasts lasting world) :
    (Lochan.callback callback).leaves (lasts lasting) (Lasts lasting) world :=
  Prog.wp_mono (relies_lasts.runs carries_lasts callback idle holds) (fun _ _ kept => kept.1)
    fun _ _ kept => kept.1

/-- Dropping wakers keeps what lasts. -/
theorem dropWakers_lasts {wakers : List Waker} (holds : Lasts lasting world) :
    (dropWakers wakers).leaves (lasts lasting) (Lasts lasting) world :=
  Prog.wp_mono (relies_lasts.dropWakers carries_lasts wakers (fun _ _ _ => trivial) holds)
    (fun _ _ kept => kept.1) fun _ _ kept => kept.1

/-- Waking tasks keeps what lasts. -/
theorem wakeAll_lasts {side : Side} {entries : List (UInt64 × Waker)}
    (holds : Lasts lasting world) :
    (wakeAll side entries).leaves (lasts lasting) (Lasts lasting) world :=
  Prog.wp_mono (relies_lasts.wakeAll carries_lasts side entries (.inr fun _ => trivial) holds)
    (fun _ _ kept => kept.1) fun _ _ kept => kept.1

/-- Waking the rest of the tasks keeps what lasts. -/
theorem wakeRest_lasts {side : Side} {entries : List (UInt64 × Waker)}
    (holds : Lasts lasting world) :
    (NoStd.wakeRest side entries).leaves (lasts lasting) (Lasts lasting) world := by
  induction entries generalizing world with
  | nil => exact holds
  | cons entry rest ih =>
      simp only [Prog.leaves, NoStd.wakeRest, Prog.wp_bind, Prog.wp_guarded]
      refine Prog.wp_mono (callback_lasts trivial holds) ?_ ?_
      · exact fun _ after kept => ih kept
      · exact fun _ after kept => Prog.wp_mono (dropWakers_lasts kept) (fun _ _ kept => kept)
          fun _ _ _ => trivial

/-- Waking tasks from the back keeps what lasts. -/
theorem wakeBack_lasts {side : Side} {entries : List (UInt64 × Waker)}
    (holds : Lasts lasting world) :
    (NoStd.wakeBack side entries).leaves (lasts lasting) (Lasts lasting) world := by
  induction entries generalizing world with
  | nil => exact holds
  | cons entry rest ih =>
      simp only [Prog.leaves, NoStd.wakeBack, Prog.wp_bind, Prog.wp_guarded]
      refine Prog.wp_mono (callback_lasts trivial holds) ?_ ?_
      · exact fun _ after kept => ih kept
      · exact fun _ after kept => Prog.wp_mono (wakeRest_lasts kept) (fun _ _ kept => kept)
          fun _ _ _ => trivial

/-- A sweep keeps what its write and its wakes keep. -/
theorem sweep_lasts (cell : Cell) (entries : χ → List (UInt64 × Waker)) (clear : χ → χ)
    (wake : List (UInt64 × Waker) → Act χ ω ρ α Unit)
    (clears : ∀ state, lasting state → lasting (clear state))
    (wakes : ∀ entries world, Lasts lasting world →
      (wake entries).leaves (lasts lasting) (Lasts lasting) world)
    (holds : Lasts lasting world) :
    (sweep cell entries clear wake).leaves (lasts lasting) (Lasts lasting) world := by
  obtain ⟨state, held, log⟩ := world
  obtain ⟨holds, rfl⟩ := holds
  simp only [Prog.leaves, sweep, Prog.wp_bind]
  rw [wp_borrowing_read cell (fun state => (entries state).isEmpty) rfl]
  simp only [Prog.wp_ite]
  split
  · exact ⟨holds, rfl⟩
  · simp only [Prog.wp_bind]
    rw [wp_borrowing_take cell entries clear rfl]
    exact wakes _ _ ⟨clears state holds, rfl⟩

/-- Two sweeps keep what each of them keeps. -/
theorem both_lasts {first second : Act χ ω ρ α Unit}
    (earlier : ∀ world, Lasts lasting world →
      first.leaves (lasts lasting) (Lasts lasting) world)
    (later : ∀ world, Lasts lasting world →
      second.leaves (lasts lasting) (Lasts lasting) world)
    (holds : Lasts lasting world) :
    (both first second).leaves (lasts lasting) (Lasts lasting) world := by
  simp only [Prog.leaves, both, Prog.wp_bind, Prog.wp_attempt]
  have concludes : ∀ (panic other : Except Panic Unit) (after : World χ ω ρ α),
      Lasts lasting after →
        (conclude panic other).leaves (lasts lasting) (Lasts lasting) after := by
    intro panic other after kept
    cases panic <;> cases other <;> try exact kept
    simp only [Prog.leaves, conclude, Prog.wp_bind, Prog.wp_guarded]
    refine Prog.wp_mono (relies_lasts.dropPanicPayload carries_lasts kept) ?_ ?_
    · exact fun _ _ kept => kept.1
    · rintro _ disposed ⟨kept, -⟩
      exact Prog.wp_mono (callback_lasts trivial kept) (fun _ _ kept => kept) fun _ _ _ => trivial
  refine Prog.wp_mono (earlier world holds) ?_ ?_ <;> intro _ middle kept <;>
    refine Prog.wp_mono (later middle kept) ?_ ?_ <;> intro _ after kept' <;>
    exact concludes _ _ after kept'

/-- A sweep with another one as its guard keeps what both keep. -/
theorem recovering_lasts {first second : Act χ ω ρ α Unit}
    (earlier : ∀ world, Lasts lasting world →
      first.leaves (lasts lasting) (Lasts lasting) world)
    (later : ∀ world, Lasts lasting world →
      second.leaves (lasts lasting) (Lasts lasting) world)
    (holds : Lasts lasting world) :
    (do first.guarded second; second : Act χ ω ρ α Unit).leaves (lasts lasting) (Lasts lasting)
      world := by
  simp only [Prog.leaves, Prog.wp_bind, Prog.wp_guarded]
  refine Prog.wp_mono (earlier world holds) ?_ ?_
  · exact fun _ middle kept => later middle kept
  · exact fun _ middle kept => Prog.wp_mono (later middle kept) (fun _ _ kept => kept)
      fun _ _ _ => trivial

end Lasts

end UserCode

end Lochan
