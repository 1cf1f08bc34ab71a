import Lochan.Mpsc.Polls

/-!
# The runs of an mpsc channel

Every operation keeps the invariant and the guarantee, so every configuration of every run is
sound. The manners that user code keeps are read off the policy of the run.
-/

namespace Lochan.Mpsc

open Reentrant Queue

variable {α : Type}

/-! ### Manners of a policy -/

section Policy

variable (policy : Policy (Channel α) (Callback α) Panic (Op α))

/-- The panics that a policy admits in the callbacks of an operation. -/
def Admits (op : Op α) : Callback α → Panic → Channel α → Prop :=
  fun code payload after => policy.resume after op code (.error payload)

/-- No parked sender panics when a receive wakes it. -/
def Quiet : Prop :=
  ∀ op owner, Receiving op owner → ∀ waker payload after,
    ¬ Admits policy op (.wake .senders waker) payload after

/-- No parked sender panics when the drop of the receiver wakes it, unless no waker is
registered for the receiver at that time. -/
def Tidy : Prop :=
  ∀ receiver waker payload after,
    Admits policy (.dropReceiver receiver) (.wake .senders waker) payload after →
      after.state.chan.recvWaker = none

/-- Nothing panics in a poll of a send future that has committed. -/
def Faithful : Prop :=
  ∀ future waker code payload after, Admits policy (.pollSend future waker) code payload after →
    ¬ Committed future after.log

/-- While a send future owes the receiver a wake, dropping its own waker does not panic, and
leaves the waker of the receiver registered. -/
def KeepsWatch : Prop :=
  ∀ future waker own outcome after awaited,
    policy.resume after (.pollSend future waker) (.dropWaker own) outcome →
    owed future after.log = some awaited →
      outcome = .ok () ∧ after.state.chan.recvWaker = some awaited

/-- Nothing panics, and no receive future is dropped before it completes while the receiver
waits as a stream. -/
structure Orderly : Prop where
  panicFree : ∀ op code payload after, ¬ Admits policy op code payload after
  keepsStream : ∀ channel future, policy.call channel (.dropRecv future) →
    ∀ this, channel.state.recvs future = some this → this.done = false →
      ∀ receiver waker, expecting channel.log ≠ some (.stream receiver, waker)

/-- What user code refrains from under a policy. -/
def Manners.of : Manners where
  quiet := Quiet policy
  tidy := Tidy policy
  faithful := Faithful policy
  prompt := KeepsWatch policy
  orderly := Orderly policy
  calmDrop receiver := SinglePanic Freed (Admits policy (.dropReceiver receiver))

/-- All operations may abort the process but the drop of the receiver with a single kind of
panic. An operation uses up the budget of a loop only where as many items have been accepted. -/
def exits : Exits (Channel α) (Op α) where
  abort op _ := ∀ receiver, op = .dropReceiver receiver →
    ¬ SinglePanic Freed (Admits policy (.dropReceiver receiver))
  hang _ channel := policy.patience ≤ (accepted channel.log).length

/-- What user code does for an operation under the policy, and how the operation may end. -/
abbrev Terms (op : Op α) : Prog.Contract (Channel α) (Callback α) Panic :=
  System.contract policy (exits policy) (Inv (.of policy)) (Guarantee (.of policy) none) op

end Policy

/-! ### Every operation -/

section Run

variable {policy : Policy (Channel α) (Callback α) Panic (Op α)} {op : Op α}
  {fresh channel : Channel α}

/-- A policy that lets an operation abort, or raises calm panics only, is a setting for it. -/
theorem setting (aborts : Calm (Admits policy op) ∨ ∀ channel, (Terms policy op).abort channel) :
    Setting (.of policy) (Terms policy op) (Admits policy op) where
  relies :=
    { enter := fun _ _ inv => inv
      resume := fun _ _ _ _ left => left.2
      panics := fun _ _ _ _ left => left.1 }
  orderly orderly code payload after := orderly.panicFree op code payload after
  aborts := aborts

/-- A policy that lets a drop abort, or raises one panic at a time, is a setting for it. -/
theorem dropSetting (single : SinglePanic Freed (Admits policy op) ∨
    ∀ channel, (Terms policy op).abort channel) :
    DropSetting (.of policy) (Terms policy op) (Admits policy op) where
  toSetting := setting (single.imp_left SinglePanic.calm)
  single := single
  hangs _ _ granted enough := Nat.le_trans granted enough

/-- A policy that lets a receive abort is a setting for it. -/
theorem recvSetting {owner : Owner} (receiving : Receiving op owner)
    (aborts : ∀ channel, (Terms policy op).abort channel) :
    RecvSetting (.of policy) (Terms policy op) (Admits policy op) where
  toSetting := setting (.inr aborts)
  quiet quiet := quiet op owner receiving
  noisy := aborts

/-- A policy that lets a poll of a send abort is a setting for it. -/
theorem sendSetting {future : Nat} {waker : Waker}
    (aborts : ∀ channel, (Terms policy (.pollSend future waker)).abort channel) :
    SendSetting (.of policy) (Terms policy (.pollSend future waker))
      (Admits policy (.pollSend future waker)) future where
  toSetting := setting (.inr aborts)
  faithful faithful := faithful future waker
  prompt prompt own _ outcome after awaited left :=
    prompt future waker own outcome after awaited left.1

/-- Every operation that user code may start keeps the invariant and the guarantee. -/
theorem perform_keeps (legal : channel.state.Legal op) (allowed : policy.call channel op)
    (inv : Inv (.of policy) channel) :
    System.Keeps policy (exits policy) (Inv (.of policy)) (Guarantee (.of policy) none) op channel
      (perform op) channel := by
  show (perform op).leaves (Terms policy op) (Kept (.of policy) channel) channel
  have aborts : (∀ receiver, op ≠ .dropReceiver receiver) →
      ∀ channel, (Terms policy op).abort channel :=
    fun other _ receiver same => absurd same (other receiver)
  cases op with
  | trySend sender item => exact trySend_keeps (setting (.inr (aborts nofun))) inv legal
  | cloneSender sender => exact cloneSender_keeps inv legal
  | dropSender sender => exact dropSender_keeps (dropSetting (.inr (aborts nofun))) inv legal
  | closeSender sender => exact closeSender_keeps (setting (.inr (aborts nofun))) inv legal
  | send sender item => exact send_keeps inv legal
  | pollSend future waker => exact pollSend_keeps (sendSetting (aborts nofun)) inv legal
  | sendIsTerminated future => exact sendIsTerminated_keeps inv legal
  | dropSend future =>
      exact dropSend_keeps (setting (.inr (aborts nofun))) (aborts nofun) inv legal
  | tryRecv receiver =>
      exact tryRecv_keeps (recvSetting (.tryRecv receiver) (aborts nofun)) inv legal
  | tryIterNext receiver =>
      exact tryIterNext_keeps (recvSetting (.tryIterNext receiver) (aborts nofun)) inv legal
  | pollNext receiver waker =>
      exact pollNext_keeps (recvSetting (.pollNext receiver waker) (aborts nofun)) inv legal
  | cloneReceiver receiver => exact legal.elim
  | dropReceiver receiver =>
      have tidy : (Manners.of policy).tidy → ∀ waker payload channel,
          Admits policy (.dropReceiver receiver) (.wake .senders waker) payload channel →
            channel.state.chan.recvWaker = none :=
        fun tidy => tidy receiver
      by_cases single : SinglePanic Freed (Admits policy (.dropReceiver receiver))
      · exact dropReceiver_keeps (dropSetting (.inl single)) (fun _ => single.calm) tidy inv legal
      · have aborts : ∀ channel, (Terms policy (.dropReceiver receiver)).abort channel := by
          rintro _ _ ⟨⟩
          exact single
        exact dropReceiver_keeps (dropSetting (.inr aborts)) (fun single' => absurd single' single)
          tidy inv legal
  | closeReceiver receiver => exact closeReceiver_keeps (setting (.inr (aborts nofun))) inv legal
  | streamIsTerminated receiver => exact streamIsTerminated_keeps inv
  | recv receiver => exact recv_keeps inv legal
  | pollRecv future waker =>
      exact pollRecv_keeps (recvSetting (.pollRecv future waker) (aborts nofun)) inv legal
  | dropRecv future =>
      exact dropRecv_keeps (setting (.inr (aborts nofun))) inv legal
        fun orderly => orderly.keepsStream channel future allowed
  | _ => exact observes_keeps trivial legal inv

/-! ### Every run -/

/-- A new channel satisfies the invariant. -/
theorem Inv.initial {manners : Manners} {flavor : Flavor α} (empty : flavor.toList = []) :
    Inv manners (Mpsc.start flavor) := by
  have contents : (Mpsc.start flavor).state.chan.contents = [] := empty
  refine ⟨rfl, ?_, ?_, ?_, ?_⟩
  · exact
      { fifo := by rw [contents]; rfl
        undrained := fun _ => rfl
        shut := iff_of_false id (by rintro ⟨⟩)
        last := by rintro _ ⟨⟩
        sole := by rintro _ _ ⟨⟩
        released := by rintro ⟨⟩
        observed := by rintro ⟨⟩
        terminal := by rintro _ ⟨⟩
        lawful := trivial
        drains := by rintro _ _ ⟨⟩
        received := fun _ _ => rfl
        notified := fun _ => trivial }
  · exact
      { senders := rfl
        receiver := rfl
        below := by rintro _ ⟨⟩; exact Nat.one_lt_two
        send := by rintro _ _ ⟨⟩
        recv := by rintro _ _ ⟨⟩
        single := by rintro _ _ ⟨⟩
        unborrowed := by rintro _ ⟨⟩
        uses := by rintro _ ⟨⟩
        strong := Nat.le_refl 2
        settled := by rintro _ ⟨⟩
        expecting := by rintro _ _ ⟨⟩ }
  · exact
      { unsent := by rintro _ _ ⟨⟩
        sent := by rintro _ _ ⟨⟩
        outcome := by rintro _ _ _ ⟨⟩
        pushed := by rintro _ ⟨⟩
        resolved := by rintro _ ⟨⟩
        answered := by rintro _ _ ⟨⟩
        created := by rintro _ _ ⟨⟩
        committed := by rintro _ ⟨⟩
        faithful := by rintro _ _ _ ⟨⟩
        notified := fun _ _ _ => rfl }
  · refine ⟨rfl, fun _ => ?_, by rintro _ _ ⟨⟩⟩
    exact .initial _ fun _ => rfl

/-- A new channel satisfies the invariant. -/
theorem New.inv {manners : Manners} (new : New fresh) : Inv manners fresh := by
  cases new with
  | bounded cap positive => exact .initial (Flavor.mkBounded_toList positive)
  | unbounded => exact .initial Flavor.mkUnbounded_toList

/-- The configurations of the runs of a channel under a policy. -/
abbrev Runs (policy : Policy (Channel α) (Callback α) Panic (Op α)) (fresh : Channel α) :
    Config (Channel α) (Callback α) Panic (Op α) → Prop :=
  System.Reachable (system α) policy fresh

/-- Every configuration of every run is sound. -/
theorem Runs.sound (new : New fresh) {config : Config (Channel α) (Callback α) Panic (Op α)}
    (runs : Runs policy fresh config) :
    System.ConfigSound policy (exits policy) (Inv (.of policy)) (Guarantee (.of policy) none)
      fresh config := by
  have keeps : ∀ op channel, (system α).legal channel op → policy.call channel op →
      Inv (.of policy) channel → System.Keeps policy (exits policy) (Inv (.of policy))
        (Guarantee (.of policy) none) op channel ((system α).prog op) channel :=
    fun op channel legal allowed inv => perform_keeps legal allowed inv
  exact System.Reachable.sound Guarantee.refl (fun _ _ _ => Guarantee.trans) keeps new.inv runs

/-- Whenever user code is in control of a run, the invariant holds. -/
theorem Runs.inv (new : New fresh) {frames} (runs : Runs policy fresh (.user channel frames)) :
    Inv (.of policy) channel :=
  (runs.sound new).1

/-- Between operations nothing has happened since the start but what operations do. -/
theorem Runs.quiescent (new : New fresh) (runs : Runs policy fresh (.user channel [])) :
    Guarantee (.of policy) none fresh channel :=
  (runs.sound new).quiescent

end Run

end Lochan.Mpsc
