import Lochan.Wakes
import Lochan.Mpmc.System
import Lochan.Mpsc.System

/-!
# Wake isolation

Waking the parked tasks of a channel, and closing it, reach every task whatever its waker
does, and resume the first panic. The functions of a build without `catch_unwind` are modelled
next to the ones they replace.
-/

namespace Lochan

open Reentrant

variable {α : Type}

namespace Mpmc

/-- Wakes every parked receiver, without `catch_unwind`. -/
def NoStd.wakeReceivers : M α Unit := do
  if ← borrowing .recvWakers do return (← getChan).recvWakers.isEmpty then return
  else
    let wakers ← borrowing .recvWakers do
      let wakers := (← getChan).recvWakers
      modifyChan fun chan => { chan with recvWakers := [] }
      return wakers
    Lochan.NoStd.wakeAll .receivers wakers

/-- Wakes every parked sender, without `catch_unwind`. -/
def NoStd.wakeSenders : M α Unit := do
  if ← borrowing .sendWakers do return (← getChan).sendWakers.isEmpty then return
  else
    let wakers ← borrowing .sendWakers do
      let wakers := (← getChan).sendWakers
      modifyChan fun chan => { chan with sendWakers := [] }
      return wakers
    Lochan.NoStd.wakeAll .senders wakers

/-- Marks the channel closed and wakes both halves; a guard wakes the senders if waking the
receivers unwinds. -/
def NoStd.close : M α Unit := do
  let chan ← getChan
  modifyChan fun chan => { chan with closed := true }
  if chan.closed then return
  else
    emit (.closed chan.contents)
    NoStd.wakeReceivers.guarded NoStd.wakeSenders
    NoStd.wakeSenders

section

variable (code : UserCode (State α) (Op α) (Result α) α)
  (channel : World (State α) (Op α) (Result α) α)

/-- The channel that a close has marked. -/
def closing : World (State α) (Op α) (Result α) α :=
  (channel.onState (·.onChan fun chan => { chan with closed := true })).logged
    (.closed channel.state.chan.contents)

/-- The senders that are parked once a close has woken the receivers. -/
def lateSenders (wake : M α Unit) : List (UInt64 × Waker) :=
  (code.run wake (closing channel)).state.state.chan.sendWakers

variable {channel}

/-- Waking the mpmc receivers sweeps over all of them. -/
theorem sweeps_wakeReceivers (clear : channel.held = []) :
    code.Sweeps wakeReceivers (tasks .receivers channel.state.chan.recvWakers)
      (code.raised .receivers channel.state.chan.recvWakers) channel := by
  refine code.sweeps_sweep .recvWakers (fun state => state.chan.recvWakers)
    (·.onChan fun chan => { chan with recvWakers := [] }) .receivers clear fun none => ?_
  obtain ⟨⟨chan, strong, senders, receivers, stream, recvs, sends, fresh, uses⟩,
    held, log⟩ := channel
  simp [State.onChan, ← none]

/-- Waking the mpmc senders sweeps over all of them. -/
theorem sweeps_wakeSenders (clear : channel.held = []) :
    code.Sweeps wakeSenders (tasks .senders channel.state.chan.sendWakers)
      (code.raised .senders channel.state.chan.sendWakers) channel := by
  refine code.sweeps_sweep .sendWakers (fun state => state.chan.sendWakers)
    (·.onChan fun chan => { chan with sendWakers := [] }) .senders clear fun none => ?_
  obtain ⟨⟨chan, strong, senders, receivers, stream, recvs, sends, fresh, uses⟩,
    held, log⟩ := channel
  simp [State.onChan, ← none]

/-- Without `std`, waking the mpmc receivers recovers from one panic. -/
theorem recovers_wakeReceivers (clear : channel.held = []) :
    code.Recovers NoStd.wakeReceivers (tasks .receivers channel.state.chan.recvWakers)
      (code.raised .receivers channel.state.chan.recvWakers) channel := by
  refine UserCode.recovers_sweep code .recvWakers (fun state => state.chan.recvWakers)
    (·.onChan fun chan => { chan with recvWakers := [] }) .receivers clear fun none => ?_
  obtain ⟨⟨chan, strong, senders, receivers, stream, recvs, sends, fresh, uses⟩,
    held, log⟩ := channel
  simp [State.onChan, ← none]

/-- Without `std`, waking the mpmc senders recovers from one panic. -/
theorem recovers_wakeSenders (clear : channel.held = []) :
    code.Recovers NoStd.wakeSenders (tasks .senders channel.state.chan.sendWakers)
      (code.raised .senders channel.state.chan.sendWakers) channel := by
  refine UserCode.recovers_sweep code .sendWakers (fun state => state.chan.sendWakers)
    (·.onChan fun chan => { chan with sendWakers := [] }) .senders clear fun none => ?_
  obtain ⟨⟨chan, strong, senders, receivers, stream, recvs, sends, fresh, uses⟩,
    held, log⟩ := channel
  simp [State.onChan, ← none]

/-- Marks the channel closed, and goes on if it was not closed before. -/
def shutting (wakes : M α Unit) : M α Unit := do
  let chan ← getChan
  modifyChan fun chan => { chan with closed := true }
  if chan.closed then return
  else
    emit (.closed chan.contents)
    wakes

/-- The first close of an mpmc channel marks it and then wakes. -/
theorem run_shutting (isOpen : channel.state.chan.closed = false) (wakes : M α Unit) :
    code.run (shutting wakes) channel = code.run wakes (closing channel) := by
  have turn : code.run (shutting wakes) channel =
      code.run (if channel.state.chan.closed then return else do
        emit (.closed channel.state.chan.contents)
        wakes)
        (channel.onState (·.onChan fun chan => { chan with closed := true })) := rfl
  rw [turn, isOpen]
  rfl

/-- A later close of an mpmc channel wakes nobody. -/
theorem run_shutting_closed (is_closed : channel.state.chan.closed = true) (wakes : M α Unit) :
    code.run (shutting wakes) channel =
      ⟨[], .returned (), channel.onState (·.onChan fun chan => { chan with closed := true })⟩ := by
  have turn : code.run (shutting wakes) channel =
      code.run (if channel.state.chan.closed then return else do
        emit (.closed channel.state.chan.contents)
        wakes)
        (channel.onState (·.onChan fun chan => { chan with closed := true })) := rfl
  rw [turn, is_closed]
  rfl

/-- The first close of an mpmc channel sweeps over the receivers, and then over the senders. -/
theorem sweeps_close (clear : channel.held = []) (isOpen : channel.state.chan.closed = false) :
    code.Sweeps close
      (tasks .receivers channel.state.chan.recvWakers ++
        tasks .senders (lateSenders code channel wakeReceivers))
      (code.raised .receivers channel.state.chan.recvWakers ++
        code.raised .senders (lateSenders code channel wakeReceivers)) channel := by
  have clear : (closing channel).held = [] := clear
  exact ((sweeps_wakeReceivers code clear).both fun held =>
    sweeps_wakeSenders code (held.trans clear)).of_run (run_shutting code isOpen _) rfl

/-- Without `std`, the first close of an mpmc channel recovers from one panic. -/
theorem recovers_close (clear : channel.held = []) (isOpen : channel.state.chan.closed = false) :
    code.Recovers NoStd.close
      (tasks .receivers channel.state.chan.recvWakers ++
        tasks .senders (lateSenders code channel NoStd.wakeReceivers))
      (code.raised .receivers channel.state.chan.recvWakers ++
        code.raised .senders (lateSenders code channel NoStd.wakeReceivers)) channel := by
  have clear : (closing channel).held = [] := clear
  exact ((recovers_wakeReceivers code clear).both fun held =>
    recovers_wakeSenders code (held.trans clear)).of_run (run_shutting code isOpen _) rfl

/-- The channel is closed. -/
def IsClosed (state : State α) : Prop := state.chan.closed = true

/-- A close leaves an mpmc channel closed, if code never reopens one. -/
theorem shutting_closes (keeps : ∀ callback channel, IsClosed channel.state →
      IsClosed (code.answer callback channel).2.state)
    (clear : channel.held = []) {wakes : M α Unit}
    (kept : ∀ after, UserCode.Lasts IsClosed after →
      wakes.leaves (UserCode.lasts IsClosed) (UserCode.Lasts IsClosed) after) :
    (code.run (shutting wakes) channel).ending ≠ .aborted →
      IsClosed (code.run (shutting wakes) channel).state.state := by
  intro alive
  refine (UserCode.run_lasts IsClosed keeps ?_ alive).1
  show (if channel.state.chan.closed = true then pure () else do
    emit (.closed channel.state.chan.contents)
    wakes : M α Unit).leaves _ _
      (channel.onState (·.onChan fun chan => { chan with closed := true }))
  simp only [Prog.leaves, Prog.wp_ite]
  split
  · exact ⟨rfl, clear⟩
  · exact kept (closing channel) ⟨rfl, clear⟩

/-- A close that does not abort leaves the channel closed. -/
theorem close_closes (keeps : ∀ callback channel, IsClosed channel.state →
      IsClosed (code.answer callback channel).2.state) (clear : channel.held = []) :
    ((code.run close channel).ending ≠ .aborted →
      IsClosed (code.run close channel).state.state) ∧
    ((code.run NoStd.close channel).ending ≠ .aborted →
      IsClosed (code.run NoStd.close channel).state.state) := by
  have receivers : ∀ (wake : List (UInt64 × Waker) → M α Unit) (after),
      (∀ entries after, UserCode.Lasts IsClosed after →
        (wake entries).leaves (UserCode.lasts IsClosed) (UserCode.Lasts IsClosed) after) →
      UserCode.Lasts IsClosed after →
      (sweep .recvWakers (fun state : State α => state.chan.recvWakers)
        (·.onChan fun chan => { chan with recvWakers := [] }) wake).leaves
          (UserCode.lasts IsClosed) (UserCode.Lasts IsClosed) after :=
    fun wake after wakes => UserCode.sweep_lasts _ _ _ wake (fun _ => id) wakes
  have senders : ∀ (wake : List (UInt64 × Waker) → M α Unit) (after),
      (∀ entries after, UserCode.Lasts IsClosed after →
        (wake entries).leaves (UserCode.lasts IsClosed) (UserCode.Lasts IsClosed) after) →
      UserCode.Lasts IsClosed after →
      (sweep .sendWakers (fun state : State α => state.chan.sendWakers)
        (·.onChan fun chan => { chan with sendWakers := [] }) wake).leaves
          (UserCode.lasts IsClosed) (UserCode.Lasts IsClosed) after :=
    fun wake after wakes => UserCode.sweep_lasts _ _ _ wake (fun _ => id) wakes
  refine ⟨shutting_closes code keeps clear fun after closed => UserCode.both_lasts ?_ ?_ closed,
    shutting_closes code keeps clear fun after closed => ?_⟩
  · exact fun world => receivers _ world fun _ _ => UserCode.wakeAll_lasts
  · exact fun world => senders _ world fun _ _ => UserCode.wakeAll_lasts
  · refine UserCode.recovering_lasts ?_ ?_ closed
    · exact fun world => receivers _ world fun _ _ => UserCode.wakeBack_lasts
    · exact fun world => senders _ world fun _ _ => UserCode.wakeBack_lasts

variable (channel)

/-- What waking the parked tasks and closing the channel do, with `catch_unwind` and without:
they wake exactly the tasks of the lists they take, and resume the first panic. Without it
this takes that no more than one waker panics. -/
structure Isolated : Prop where
  senders : code.Shielded (tasks .senders channel.state.chan.sendWakers)
    (code.raised .senders channel.state.chan.sendWakers) (code.run wakeSenders channel)
  receivers : code.Shielded (tasks .receivers channel.state.chan.recvWakers)
    (code.raised .receivers channel.state.chan.recvWakers) (code.run wakeReceivers channel)
  close : channel.state.chan.closed = false → code.Shielded
    (tasks .receivers channel.state.chan.recvWakers ++
      tasks .senders (lateSenders code channel wakeReceivers))
    (code.raised .receivers channel.state.chan.recvWakers ++
      code.raised .senders (lateSenders code channel wakeReceivers)) (code.run Mpmc.close channel)
  guardedSenders : (code.raised .senders channel.state.chan.sendWakers).length ≤ 1 →
    UserCode.Recovered (tasks .senders channel.state.chan.sendWakers)
      (code.raised .senders channel.state.chan.sendWakers) (code.run NoStd.wakeSenders channel)
  guardedReceivers : (code.raised .receivers channel.state.chan.recvWakers).length ≤ 1 →
    UserCode.Recovered (tasks .receivers channel.state.chan.recvWakers)
      (code.raised .receivers channel.state.chan.recvWakers) (code.run NoStd.wakeReceivers channel)
  guardedClose : channel.state.chan.closed = false →
    (code.raised .receivers channel.state.chan.recvWakers ++
      code.raised .senders (lateSenders code channel NoStd.wakeReceivers)).length ≤ 1 →
    UserCode.Recovered
      (tasks .receivers channel.state.chan.recvWakers ++
        tasks .senders (lateSenders code channel NoStd.wakeReceivers))
      (code.raised .receivers channel.state.chan.recvWakers ++
        code.raised .senders (lateSenders code channel NoStd.wakeReceivers))
      (code.run NoStd.close channel)
  /-- Both builds do the same, where waking the receivers leaves the same senders parked. -/
  agree : channel.state.chan.closed = false →
    lateSenders code channel NoStd.wakeReceivers = lateSenders code channel wakeReceivers →
    (code.raised .receivers channel.state.chan.recvWakers ++
      code.raised .senders (lateSenders code channel wakeReceivers)).length ≤ 1 →
    (Calls.woken (code.run NoStd.close channel).calls).Perm
        (Calls.woken (code.run Mpmc.close channel).calls) ∧
      (code.run NoStd.close channel).ending = (code.run Mpmc.close channel).ending
  again : (∀ callback channel, IsClosed channel.state →
      IsClosed (code.answer callback channel).2.state) →
    (code.run Mpmc.close (code.run Mpmc.close channel).state).calls = [] ∧
      ((code.run NoStd.close channel).ending ≠ .aborted →
        (code.run NoStd.close (code.run NoStd.close channel).state).calls = [])

variable {channel}

/-- Panics whose payloads do no harm are isolated. -/
theorem isolated (harmless : code.Harmless) (clear : channel.held = []) :
    Isolated code channel := by
  have shields : ∀ {prog : M α Unit} {woken : List (Side × Waker)} {raised : List Panic},
      code.Sweeps prog woken raised channel → (∀ payload ∈ raised, payload.destructor = none) →
      code.Shielded woken raised (code.run prog channel) :=
    fun sweeps calm => sweeps.shielded_iff.mpr fun payload member =>
      Panic.depth_of_destructor (calm payload (List.mem_of_mem_tail member))
  have shut : ∀ {wakes : M α Unit} {after : World (State α) (Op α) (Result α) α},
      IsClosed after.state → (code.run (shutting wakes) after).calls = [] :=
    fun closed => congrArg Outcome.calls (run_shutting_closed code closed _)
  have closes : channel.state.chan.closed = false → code.Shielded
      (tasks .receivers channel.state.chan.recvWakers ++
        tasks .senders (lateSenders code channel wakeReceivers))
      (code.raised .receivers channel.state.chan.recvWakers ++
        code.raised .senders (lateSenders code channel wakeReceivers))
      (code.run Mpmc.close channel) :=
    fun isOpen => shields (sweeps_close code clear isOpen) fun payload member =>
      (List.mem_append.mp member).elim (code.harmless_raised harmless payload)
        (code.harmless_raised harmless payload)
  have alive : (code.run Mpmc.close channel).ending ≠ .aborted := by
    cases closing : channel.state.chan.closed with
    | true => exact fun aborted => nomatch (congrArg Outcome.ending
        (run_shutting_closed code closing _)).symm.trans aborted
    | false =>
        rw [(closes closing).ending]
        exact Ending.resuming_ne_aborted
  exact {
    senders := shields (sweeps_wakeSenders code clear) (code.harmless_raised harmless)
    receivers := shields (sweeps_wakeReceivers code clear) (code.harmless_raised harmless)
    close := closes
    guardedSenders := (recovers_wakeSenders code clear).recovered
    guardedReceivers := (recovers_wakeReceivers code clear).recovered
    guardedClose := fun isOpen => (recovers_close code clear isOpen).recovered
    agree := fun isOpen same single => by
      have guarded := (recovers_close code clear isOpen).recovered (same.symm ▸ single)
      rw [same] at guarded
      rw [(closes isOpen).woken, (closes isOpen).ending]
      exact ⟨guarded.woken, guarded.ending⟩
    again := fun keeps => by
      obtain ⟨closes, closes'⟩ := close_closes code keeps clear
      exact ⟨shut (closes alive), fun alive => shut (closes' alive)⟩ }

end

end Mpmc

namespace Mpsc

/-- Wakes every parked sender, without `catch_unwind`. -/
def NoStd.wakeSenders : M α Unit := do
  if ← borrowing .sendWakers do return (← getChan).sendWakers.isEmpty then return
  else
    let wakers ← borrowing .sendWakers do
      let wakers := (← getChan).sendWakers
      modifyChan fun chan => { chan with sendWakers := [] }
      return wakers
    Lochan.NoStd.wakeAll .senders wakers

/-- Marks the channel closed and wakes both halves; a guard wakes the senders if waking the
receiver unwinds. -/
def NoStd.close : M α Unit := do
  let chan ← getChan
  modifyChan fun chan => { chan with closed := true }
  if chan.closed then return
  else
    emit (.closed chan.contents)
    wakeReceiver.guarded NoStd.wakeSenders
    NoStd.wakeSenders

section

variable (code : UserCode (State α) (Op α) (Result α) α)
  (channel : World (State α) (Op α) (Result α) α)

/-- The channel that a close has marked. -/
def closing : World (State α) (Op α) (Result α) α :=
  (channel.onState (·.onChan fun chan => { chan with closed := true })).logged
    (.closed channel.state.chan.contents)

/-- The senders that are parked once a close has woken the receiver. -/
def lateSenders : List (UInt64 × Waker) :=
  (code.run wakeReceiver (closing channel)).state.state.chan.sendWakers

/-- The receiver, if it is parked. -/
def parkedReceiver : List (Side × Waker) :=
  channel.state.chan.recvWaker.toList.map fun waker => (.receivers, waker)

/-- The panic of the receiver's waker. -/
def receiverRaised : List Panic :=
  channel.state.chan.recvWaker.toList.filterMap (code.panics .receivers)

variable {channel}

/-- Waking the mpsc receiver sweeps over the slot. -/
theorem sweeps_wakeReceiver (clear : channel.held = []) :
    code.Sweeps wakeReceiver (parkedReceiver channel) (receiverRaised code channel) channel := by
  obtain ⟨state, held, log⟩ := channel
  subst clear
  cases parked : state.chan.recvWaker with
  | none =>
      have runs : code.run wakeReceiver ⟨state, [], log⟩ =
          ⟨[], .returned (), ⟨state, [], log⟩⟩ := by
        simp [wakeReceiver, borrowing, UserCode.run, parked, Prog.ensuring, getChan, getState,
          Outcome.andThen, Outcome.afterAll, Outcome.cleaned]
      have none : parkedReceiver ⟨state, [], log⟩ = [] := by simp [parkedReceiver, parked]
      have calm : receiverRaised code ⟨state, [], log⟩ = [] := by simp [receiverRaised, parked]
      rw [none, calm]
      exact ⟨fun _ => ⟨[], _, runs, rfl, rfl, by rintro _ ⟨⟩⟩, fun _ => (by rintro _ ⟨⟩)⟩
  | some waker =>
      have same : code.run wakeReceiver ⟨state, [], log⟩ =
          code.run (callback (.wake .receivers waker))
          ⟨state.onChan fun chan => { chan with recvWaker := none }, [], log⟩ := by
        simp [wakeReceiver, takeRecvWaker, borrowing, UserCode.run, parked, Prog.ensuring, getChan,
          getState, modifyChan, modifyState, Outcome.andThen, Outcome.afterAll, Outcome.cleaned,
          World.onState]
      have one : parkedReceiver ⟨state, [], log⟩ = [(.receivers, waker)] := by
        simp [parkedReceiver, parked]
      have raised : receiverRaised code ⟨state, [], log⟩ =
          (code.panics .receivers waker).toList := by
        cases panics : code.panics .receivers waker <;> simp [receiverRaised, parked, panics]
      rw [one, raised]
      exact (code.sweeps_wake .receivers waker _).of_run same rfl

/-- Waking the mpsc senders sweeps over all of them. -/
theorem sweeps_wakeSenders (clear : channel.held = []) :
    code.Sweeps wakeSenders (tasks .senders channel.state.chan.sendWakers)
      (code.raised .senders channel.state.chan.sendWakers) channel := by
  refine code.sweeps_sweep .sendWakers (fun state => state.chan.sendWakers)
    (·.onChan fun chan => { chan with sendWakers := [] }) .senders clear fun none => ?_
  obtain ⟨⟨chan, strong, senders, receiver, recvs, sends, fresh, uses⟩, held, log⟩ := channel
  simp [State.onChan, ← none]

/-- Without `std`, waking the mpsc senders recovers from one panic. -/
theorem recovers_wakeSenders (clear : channel.held = []) :
    code.Recovers NoStd.wakeSenders (tasks .senders channel.state.chan.sendWakers)
      (code.raised .senders channel.state.chan.sendWakers) channel := by
  refine UserCode.recovers_sweep code .sendWakers (fun state => state.chan.sendWakers)
    (·.onChan fun chan => { chan with sendWakers := [] }) .senders clear fun none => ?_
  obtain ⟨⟨chan, strong, senders, receiver, recvs, sends, fresh, uses⟩, held, log⟩ := channel
  simp [State.onChan, ← none]

/-- Marks the channel closed, and goes on if it was not closed before. -/
def shutting (wakes : M α Unit) : M α Unit := do
  let chan ← getChan
  modifyChan fun chan => { chan with closed := true }
  if chan.closed then return
  else
    emit (.closed chan.contents)
    wakes

/-- The first close of an mpsc channel marks it and then wakes. -/
theorem run_shutting (isOpen : channel.state.chan.closed = false) (wakes : M α Unit) :
    code.run (shutting wakes) channel = code.run wakes (closing channel) := by
  have turn : code.run (shutting wakes) channel =
      code.run (if channel.state.chan.closed then return else do
        emit (.closed channel.state.chan.contents)
        wakes)
        (channel.onState (·.onChan fun chan => { chan with closed := true })) := rfl
  rw [turn, isOpen]
  rfl

/-- A later close of an mpsc channel wakes nobody. -/
theorem run_shutting_closed (is_closed : channel.state.chan.closed = true) (wakes : M α Unit) :
    code.run (shutting wakes) channel =
      ⟨[], .returned (), channel.onState (·.onChan fun chan => { chan with closed := true })⟩ := by
  have turn : code.run (shutting wakes) channel =
      code.run (if channel.state.chan.closed then return else do
        emit (.closed channel.state.chan.contents)
        wakes)
        (channel.onState (·.onChan fun chan => { chan with closed := true })) := rfl
  rw [turn, is_closed]
  rfl

/-- The first close of an mpsc channel sweeps over the receiver, and then over the senders. -/
theorem sweeps_close (clear : channel.held = []) (isOpen : channel.state.chan.closed = false) :
    code.Sweeps close (parkedReceiver channel ++ tasks .senders (lateSenders code channel))
      (receiverRaised code channel ++ code.raised .senders (lateSenders code channel)) channel := by
  have clear : (closing channel).held = [] := clear
  exact ((sweeps_wakeReceiver code clear).both fun held =>
    sweeps_wakeSenders code (held.trans clear)).of_run (run_shutting code isOpen _) rfl

/-- Without `std`, the first close of an mpsc channel recovers from one panic. -/
theorem recovers_close (clear : channel.held = []) (isOpen : channel.state.chan.closed = false) :
    code.Recovers NoStd.close
      (parkedReceiver channel ++ tasks .senders (lateSenders code channel))
      (receiverRaised code channel ++ code.raised .senders (lateSenders code channel)) channel := by
  have clear : (closing channel).held = [] := clear
  exact ((sweeps_wakeReceiver code clear).recovers.both fun held =>
    recovers_wakeSenders code (held.trans clear)).of_run (run_shutting code isOpen _) rfl

/-- The channel is closed. -/
def IsClosed (state : State α) : Prop := state.chan.closed = true

/-- A close leaves an mpsc channel closed, if code never reopens one. -/
theorem shutting_closes (keeps : ∀ callback channel, IsClosed channel.state →
      IsClosed (code.answer callback channel).2.state)
    (clear : channel.held = []) {wakes : M α Unit}
    (kept : ∀ after, UserCode.Lasts IsClosed after →
      wakes.leaves (UserCode.lasts IsClosed) (UserCode.Lasts IsClosed) after) :
    (code.run (shutting wakes) channel).ending ≠ .aborted →
      IsClosed (code.run (shutting wakes) channel).state.state := by
  intro alive
  refine (UserCode.run_lasts IsClosed keeps ?_ alive).1
  show (if channel.state.chan.closed = true then pure () else do
    emit (.closed channel.state.chan.contents)
    wakes : M α Unit).leaves _ _
      (channel.onState (·.onChan fun chan => { chan with closed := true }))
  simp only [Prog.leaves, Prog.wp_ite]
  split
  · exact ⟨rfl, clear⟩
  · exact kept (closing channel) ⟨rfl, clear⟩

/-- Waking the mpsc receiver leaves the channel closed, if code never reopens one. -/
theorem wakeReceiver_lasts (closed : UserCode.Lasts IsClosed channel) :
    wakeReceiver.leaves (UserCode.lasts IsClosed) (UserCode.Lasts IsClosed) channel := by
  obtain ⟨state, held, log⟩ := channel
  obtain ⟨closed, rfl⟩ := closed
  cases parked : state.chan.recvWaker with
  | none =>
      simp [wakeReceiver, wp_borrowing, getChan, parked]
      exact ⟨closed, rfl⟩
  | some waker =>
      simp [wakeReceiver, takeRecvWaker, wp_borrowing, getChan, modifyChan, parked]
      exact UserCode.callback_lasts trivial ⟨closed, rfl⟩

/-- A close that does not abort leaves the channel closed. -/
theorem close_closes (keeps : ∀ callback channel, IsClosed channel.state →
      IsClosed (code.answer callback channel).2.state) (clear : channel.held = []) :
    ((code.run close channel).ending ≠ .aborted →
      IsClosed (code.run close channel).state.state) ∧
    ((code.run NoStd.close channel).ending ≠ .aborted →
      IsClosed (code.run NoStd.close channel).state.state) := by
  have senders : ∀ (wake : List (UInt64 × Waker) → M α Unit) (after),
      (∀ entries after, UserCode.Lasts IsClosed after →
        (wake entries).leaves (UserCode.lasts IsClosed) (UserCode.Lasts IsClosed) after) →
      UserCode.Lasts IsClosed after →
      (sweep .sendWakers (fun state : State α => state.chan.sendWakers)
        (·.onChan fun chan => { chan with sendWakers := [] }) wake).leaves
          (UserCode.lasts IsClosed) (UserCode.Lasts IsClosed) after :=
    fun wake after wakes => UserCode.sweep_lasts _ _ _ wake (fun _ => id) wakes
  refine ⟨shutting_closes code keeps clear fun after closed => UserCode.both_lasts ?_ ?_ closed,
    shutting_closes code keeps clear fun after closed => UserCode.recovering_lasts ?_ ?_ closed⟩
  · exact fun world => wakeReceiver_lasts
  · exact fun world => senders _ world fun _ _ => UserCode.wakeAll_lasts
  · exact fun world => wakeReceiver_lasts
  · exact fun world => senders _ world fun _ _ => UserCode.wakeBack_lasts

variable (channel)

/-- What waking the parked senders and closing the channel do, with `catch_unwind` and without:
they wake exactly the tasks of the lists they take, and resume the first panic. Without it
this takes that no more than one waker panics. -/
structure Isolated : Prop where
  senders : code.Shielded (tasks .senders channel.state.chan.sendWakers)
    (code.raised .senders channel.state.chan.sendWakers) (code.run wakeSenders channel)
  close : channel.state.chan.closed = false →
    code.Shielded (parkedReceiver channel ++ tasks .senders (lateSenders code channel))
      (receiverRaised code channel ++ code.raised .senders (lateSenders code channel))
      (code.run Mpsc.close channel)
  guardedSenders : (code.raised .senders channel.state.chan.sendWakers).length ≤ 1 →
    UserCode.Recovered (tasks .senders channel.state.chan.sendWakers)
      (code.raised .senders channel.state.chan.sendWakers) (code.run NoStd.wakeSenders channel)
  guardedClose : channel.state.chan.closed = false →
    (receiverRaised code channel ++ code.raised .senders (lateSenders code channel)).length ≤ 1 →
    UserCode.Recovered (parkedReceiver channel ++ tasks .senders (lateSenders code channel))
      (receiverRaised code channel ++ code.raised .senders (lateSenders code channel))
      (code.run NoStd.close channel)
  again : (∀ callback channel, IsClosed channel.state →
      IsClosed (code.answer callback channel).2.state) →
    (code.run Mpsc.close (code.run Mpsc.close channel).state).calls = [] ∧
      ((code.run NoStd.close channel).ending ≠ .aborted →
        (code.run NoStd.close (code.run NoStd.close channel).state).calls = [])

variable {channel}

/-- Where no panic has a destructor, neither has that of the receiver's wake. -/
theorem harmless_receiverRaised (harmless : code.Harmless) :
    ∀ payload ∈ receiverRaised code channel, payload.destructor = none := by
  intro payload member
  obtain ⟨waker, -, panics⟩ := List.mem_filterMap.mp member
  exact harmless .receivers waker payload panics

/-- Panics whose payloads do no harm are isolated. -/
theorem isolated (harmless : code.Harmless) (clear : channel.held = []) :
    Isolated code channel := by
  have shields : ∀ {prog : M α Unit} {woken : List (Side × Waker)} {raised : List Panic},
      code.Sweeps prog woken raised channel → (∀ payload ∈ raised, payload.destructor = none) →
      code.Shielded woken raised (code.run prog channel) :=
    fun sweeps calm => sweeps.shielded_iff.mpr fun payload member =>
      Panic.depth_of_destructor (calm payload (List.mem_of_mem_tail member))
  have shut : ∀ {wakes : M α Unit} {after : World (State α) (Op α) (Result α) α},
      IsClosed after.state → (code.run (shutting wakes) after).calls = [] :=
    fun closed => congrArg Outcome.calls (run_shutting_closed code closed _)
  have closes : channel.state.chan.closed = false →
      code.Shielded (parkedReceiver channel ++ tasks .senders (lateSenders code channel))
        (receiverRaised code channel ++ code.raised .senders (lateSenders code channel))
        (code.run Mpsc.close channel) :=
    fun isOpen => shields (sweeps_close code clear isOpen) fun payload member =>
      (List.mem_append.mp member).elim (harmless_receiverRaised code harmless payload)
        (code.harmless_raised harmless payload)
  have alive : (code.run Mpsc.close channel).ending ≠ .aborted := by
    cases closing : channel.state.chan.closed with
    | true => exact fun aborted => nomatch (congrArg Outcome.ending
        (run_shutting_closed code closing _)).symm.trans aborted
    | false =>
        rw [(closes closing).ending]
        exact Ending.resuming_ne_aborted
  exact {
    senders := shields (sweeps_wakeSenders code clear) (code.harmless_raised harmless)
    close := closes
    guardedSenders := (recovers_wakeSenders code clear).recovered
    guardedClose := fun isOpen => (recovers_close code clear isOpen).recovered
    again := fun keeps => by
      obtain ⟨closes, closes'⟩ := close_closes code keeps clear
      exact ⟨shut (closes alive), fun alive => shut (closes' alive)⟩ }

end

end Mpsc

/-- In both channels and both builds, waking the parked tasks and closing reach every task that
was parked, none else, and resume the first panic, where payloads do no harm. -/
theorem wakes_are_isolated :
    (∀ (code : UserCode (Mpmc.State α) (Op α) (Result α) α) channel, code.Harmless →
      channel.held = [] → Mpmc.Isolated code channel) ∧
    (∀ (code : UserCode (Mpsc.State α) (Op α) (Result α) α) channel, code.Harmless →
      channel.held = [] → Mpsc.Isolated code channel) :=
  ⟨fun code _ => Mpmc.isolated code, fun code _ => Mpsc.isolated code⟩

/-- An mpmc channel with three parked senders. -/
def parkedSenders : World (Mpmc.State α) (Op α) (Result α) α :=
  Mpmc.unbounded.onState (·.onChan fun chan => { chan with sendWakers := [(0, 0), (1, 1), (2, 2)] })

/-- An mpsc channel with a parked receiver and a parked sender. -/
def parkedBoth : World (Mpsc.State α) (Op α) (Result α) α :=
  Mpsc.unbounded.onState
    (·.onChan fun chan => { chan with recvWaker := some 0, sendWakers := [(0, 1)] })

/-- User code where the first two wakers panic with these payloads. -/
def panicking (first second : Panic) {χ : Type} : UserCode χ (Op α) (Result α) α :=
  .inert fun _ waker => if waker = 0 then some first else if waker = 1 then some second else none

/-- Panics that are mere messages are harmless. -/
theorem panicking_harmless {first second : Panic} {χ : Type} (calm : first.destructor = none)
    (calm' : second.destructor = none) :
    (panicking first second : UserCode χ (Op α) (Result α) α).Harmless := by
  intro side waker payload panics
  simp only [panicking, UserCode.inert] at panics
  split at panics
  · exact Option.some.inj panics ▸ calm
  · split at panics
    · exact Option.some.inj panics ▸ calm'
    · cases panics

/-- Three senders are parked, or the receiver and a sender, and the first two wakers panic. -/
theorem wakes_are_isolated_parked :
    Mpmc.Isolated (panicking (.message "first") (.message "second")) (parkedSenders (α := Nat)) ∧
      Mpsc.Isolated (panicking (.message "first") (.message "second")) (parkedBoth (α := Nat)) :=
  ⟨wakes_are_isolated.1 _ _ (panicking_harmless rfl rfl) rfl,
    wakes_are_isolated.2 _ _ (panicking_harmless rfl rfl) rfl⟩

/-- Disposing of a panic payload returns normally if and only if its destructor panics at most
once. Waking the parked tasks and closing shield every task if and only if that holds of all
payloads but the first. -/
theorem payloads_are_disposed_of :
    (∀ (code : UserCode (Mpmc.State α) (Op α) (Result α) α) channel, channel.held = [] →
      (∀ payload, (code.run (dropPanicPayload payload) channel).ending = .returned () ↔
        payload.depth ≤ 1) ∧
      (∀ side entries, code.ShieldsIff (wakeAll side entries) (tasks side entries)
        (code.raised side entries) channel) ∧
      code.ShieldsIff Mpmc.wakeSenders (tasks .senders channel.state.chan.sendWakers)
        (code.raised .senders channel.state.chan.sendWakers) channel ∧
      code.ShieldsIff Mpmc.wakeReceivers (tasks .receivers channel.state.chan.recvWakers)
        (code.raised .receivers channel.state.chan.recvWakers) channel ∧
      (channel.state.chan.closed = false → code.ShieldsIff Mpmc.close
        (tasks .receivers channel.state.chan.recvWakers ++
          tasks .senders (Mpmc.lateSenders code channel Mpmc.wakeReceivers))
        (code.raised .receivers channel.state.chan.recvWakers ++
          code.raised .senders (Mpmc.lateSenders code channel Mpmc.wakeReceivers)) channel)) ∧
    (∀ (code : UserCode (Mpsc.State α) (Op α) (Result α) α) channel, channel.held = [] →
      (∀ payload, (code.run (dropPanicPayload payload) channel).ending = .returned () ↔
        payload.depth ≤ 1) ∧
      code.ShieldsIff Mpsc.wakeSenders (tasks .senders channel.state.chan.sendWakers)
        (code.raised .senders channel.state.chan.sendWakers) channel ∧
      (channel.state.chan.closed = false → code.ShieldsIff Mpsc.close
        (Mpsc.parkedReceiver channel ++ tasks .senders (Mpsc.lateSenders code channel))
        (Mpsc.receiverRaised code channel ++
          code.raised .senders (Mpsc.lateSenders code channel)) channel)) :=
  ⟨fun code channel clear => ⟨fun _ => code.dropPanicPayload_returns channel,
      fun side entries => (code.sweeps_wakeAll side entries channel).shielded_iff,
      (Mpmc.sweeps_wakeSenders code clear).shielded_iff,
      (Mpmc.sweeps_wakeReceivers code clear).shielded_iff,
      fun isOpen => (Mpmc.sweeps_close code clear isOpen).shielded_iff⟩,
    fun code channel clear => ⟨fun _ => code.dropPanicPayload_returns channel,
      (Mpsc.sweeps_wakeSenders code clear).shielded_iff,
      fun isOpen => (Mpsc.sweeps_close code clear isOpen).shielded_iff⟩⟩

/-- Three senders are parked, or the receiver and a sender; the first two wakers panic, the second
with a payload that panics when it is dropped. -/
theorem payloads_are_disposed_of_parked :
    (panicking (.message "first") (.toxic (.message "second"))).ShieldsIff Mpmc.close
        [(.senders, 0), (.senders, 1), (.senders, 2)]
        [.message "first", .toxic (.message "second")] (parkedSenders (α := Nat)) ∧
      (panicking (.message "first") (.toxic (.message "second"))).ShieldsIff Mpsc.close
        [(.receivers, 0), (.senders, 1)]
        [.message "first", .toxic (.message "second")] (parkedBoth (α := Nat)) :=
  ⟨(payloads_are_disposed_of.1 (panicking (.message "first") (.toxic (.message "second")))
      parkedSenders rfl).2.2.2.2 rfl,
    (payloads_are_disposed_of.2 (panicking (.message "first") (.toxic (.message "second")))
      parkedBoth rfl).2.2 rfl⟩

/-- A payload whose destructor panics twice escapes, and leaves the last task parked. -/
theorem toxic_payload_escapes :
    ((panicking (.message "first") (.toxic (.toxic (.message "second")))).run
        (dropPanicPayload (.toxic (.toxic (.message "second"))))
          (parkedSenders (α := Nat))).ending =
      .unwound (.message "second") ∧
    Calls.woken ((panicking (.message "first") (.toxic (.toxic (.message "second")))).run
        Mpmc.wakeSenders (parkedSenders (α := Nat))).calls = [(.senders, 0), (.senders, 1)] ∧
    ¬ (panicking (.message "first") (.toxic (.toxic (.message "second")))).Shielded
        [(.senders, 0), (.senders, 1), (.senders, 2)]
        [.message "first", .toxic (.toxic (.message "second"))]
        ((panicking (.message "first") (.toxic (.toxic (.message "second")))).run Mpmc.wakeSenders
          (parkedSenders (α := Nat))) :=
  ⟨rfl, rfl, fun shielded => nomatch shielded.woken⟩

end Lochan
