import Lochan.Reentrant.Prog

/-!
# The machine that runs re-entrant programs

User code starts operations on the shared state. An operation runs until it
returns, unwinds or enters a callback; inside the callback user code is in control
again and may start further operations, so the operations in progress form a
stack. `System.Reachable` collects the configurations of all such runs, whatever
user code does within a policy, and `System.Reachable.sound` is the invariant rule
for them.
-/

namespace Reentrant

variable {σ κ ε α ι : Type}

/-- Where a program stops: it is over, or it waits for a callback. -/
inductive Stop (σ κ ε α : Type) where
  | returned (value : α) (state : σ)
  | unwound (payload : ε) (state : σ)
  | aborted (state : σ)
  | faulted (state : σ)
  | hung (state : σ)
  | waiting (callback : κ) (state : σ) (next : Except ε Unit → Prog σ κ ε α)

/-- Runs a program up to its next stop, granting `count` iterations to every loop
entered on the way. -/
def Prog.exec (count : Nat) : Prog σ κ ε α → σ → Stop σ κ ε α
  | .ret value, state => .returned value state
  | .unwind payload, state => .unwound payload state
  | .abort, state => .aborted state
  | .fault, state => .faulted state
  | .hang, state => .hung state
  | .get next, state => (next state).exec count state
  | .set state next, _ => next.exec count state
  | .user callback next, state => .waiting callback state next
  | .budget next, state => (next count).exec count state

/-- What a stop has to satisfy under a contract. -/
def Stop.Meets (contract : Prog.Contract σ κ ε) (post : α → σ → Prop) (exc : ε → σ → Prop) :
    Stop σ κ ε α → Prop
  | .returned value state => post value state
  | .unwound payload state => exc payload state
  | .aborted state => contract.abort state
  | .faulted _ => False
  | .hung state => contract.hang state
  | .waiting callback state next => contract.enter callback state ∧
      ∀ outcome after, contract.resume callback state outcome after →
        (next outcome).wp contract post exc after

/-- A program that satisfies its weakest precondition stops as that promises. -/
theorem Prog.wp.exec_meets {contract : Prog.Contract σ κ ε} {post : α → σ → Prop}
    {exc : ε → σ → Prop} {prog : Prog σ κ ε α} {state : σ}
    (holds : prog.wp contract post exc state) {count : Nat} (granted : contract.grants count) :
    (prog.exec count state).Meets contract post exc := by
  induction prog generalizing state with
  | ret value => exact holds
  | unwind payload => exact holds
  | abort => exact holds
  | fault => exact holds
  | hang => exact holds
  | get next ih => exact ih state holds
  | set written next ih => exact ih holds
  | user callback next _ => exact holds
  | budget next ih => exact ih count (holds count granted)

/-- The contract of a program that runs no user code and is not cut short. -/
def Prog.Contract.quiet : Prog.Contract σ κ ε where
  enter _ _ := False
  resume _ _ _ _ := False
  abort _ := False
  hang _ := False
  grants _ := True

/-- A program that returns without running user code. -/
theorem Prog.exec_quiet {prog : Prog σ κ ε α} {state after : σ} {value : α}
    (holds : prog.wp .quiet (fun returned left => returned = value ∧ left = after)
      (fun _ _ => False) state) (count : Nat) : prog.exec count state = .returned value after := by
  have meets : (prog.exec count state).Meets _ _ _ := Prog.wp.exec_meets holds trivial
  revert meets
  cases prog.exec count state with
  | returned returned left =>
      rintro ⟨rfl, rfl⟩
      rfl
  | unwound payload left => exact False.elim
  | aborted left => exact False.elim
  | faulted left => exact False.elim
  | hung left => exact False.elim
  | waiting callback left next => exact fun meets => meets.1.elim

/-- The operations `ι` that user code may start on the shared state. -/
structure System (σ κ ε ι : Type) where
  /-- Whether user code can start the operation at all. -/
  legal : σ → ι → Prop
  prog : ι → Prog σ κ ε Unit

/-- A restriction on runs: which operations user code starts, how it leaves the callbacks
of which operations, and how many iterations every loop is granted at least. -/
structure Policy (σ κ ε ι : Type) where
  call : σ → ι → Prop
  resume : σ → ι → κ → Except ε Unit → Prop
  patience : Nat

/-- The policy under which user code does anything. -/
def Policy.any : Policy σ κ ε ι where
  call _ _ := True
  resume _ _ _ _ := True
  patience := 0

/-- User code does anything, and every loop is granted some iterations. -/
def Policy.patient (count : Nat) : Policy σ κ ε ι := { Policy.any with patience := count }

/-- The policy under which no callback panics. -/
def Policy.panicFree : Policy σ κ ε ι where
  call _ _ := True
  resume _ _ _ outcome := outcome = .ok ()
  patience := 0

/-- The states in which operations may abort the process, and those in which they may use
up the budget of a loop. -/
structure Exits (σ ι : Type) where
  abort : ι → σ → Prop
  hang : ι → σ → Prop

/-- An operation that waits for a callback. -/
structure Frame (σ κ ε ι : Type) where
  op : ι
  callback : κ
  next : Except ε Unit → Prog σ κ ε Unit

/-- A configuration of a run. -/
inductive Config (σ κ ε ι : Type) where
  /-- User code is in control: between operations when no frame is left, and
  inside the callback of the first frame otherwise. -/
  | user (state : σ) (frames : List (Frame σ κ ε ι))
  /-- An operation aborted the process. -/
  | aborted (op : ι) (state : σ)
  | faulted (op : ι) (state : σ)
  | hung (op : ι) (state : σ)

/-- The configuration in which an operation leaves the run when it stops. -/
def Config.ofStop (op : ι) (frames : List (Frame σ κ ε ι)) : Stop σ κ ε Unit → Config σ κ ε ι
  | .returned _ state => .user state frames
  | .unwound _ state => .user state frames
  | .aborted state => .aborted op state
  | .faulted state => .faulted op state
  | .hung state => .hung op state
  | .waiting callback state next => .user state (⟨op, callback, next⟩ :: frames)

namespace System

variable (system : System σ κ ε ι) (policy : Policy σ κ ε ι)

/-- One step of user code under a policy, followed by the operation it starts or
resumes up to its next stop. -/
inductive Step : Config σ κ ε ι → Config σ κ ε ι → Prop where
  | call {state frames} (op : ι) (count : Nat) (legal : system.legal state op)
      (allowed : policy.call state op) (granted : policy.patience ≤ count) :
      Step (.user state frames) (.ofStop op frames ((system.prog op).exec count state))
  | resume {state frames} (frame : Frame σ κ ε ι) (outcome : Except ε Unit) (count : Nat)
      (allowed : policy.resume state frame.op frame.callback outcome)
      (granted : policy.patience ≤ count) :
      Step (.user state (frame :: frames))
        (.ofStop frame.op frames ((frame.next outcome).exec count state))

/-- The configurations that runs from a state reach. -/
inductive Reachable (start : σ) : Config σ κ ε ι → Prop where
  | start : Reachable start (.user start [])
  | step {before after} : Reachable start before → Step system policy before after →
      Reachable start after

/-- What an operation under an invariant and a guarantee promises user code, and
may rely on: user code keeps the invariant and the guarantee as well, since it
acts through operations only. -/
def contract (exits : Exits σ ι) (invariant : σ → Prop) (guarantee : σ → σ → Prop) (op : ι) :
    Prog.Contract σ κ ε where
  enter _ state := invariant state
  resume callback before outcome after :=
    policy.resume after op callback outcome ∧ invariant after ∧ guarantee before after
  abort := exits.abort op
  hang := exits.hang op
  grants count := policy.patience ≤ count

/-- An operation started in a state keeps the invariant, and the guarantee from
that state on. -/
def Keeps (exits : Exits σ ι) (invariant : σ → Prop) (guarantee : σ → σ → Prop) (op : ι)
    (before : σ) (prog : Prog σ κ ε Unit) : σ → Prop :=
  prog.leaves (contract policy exits invariant guarantee op)
    fun after => invariant after ∧ guarantee before after

/-- The stack of a sound configuration: every frame resumes soundly from where it
stopped, and the guarantee holds across each callback in progress. -/
inductive FramesSound (exits : Exits σ ι) (invariant : σ → Prop)
    (guarantee : σ → σ → Prop) (start : σ) :
    σ → List (Frame σ κ ε ι) → Prop where
  | nil {state} : guarantee start state → FramesSound exits invariant guarantee start state []
  | cons {state before stopped frame frames} :
      FramesSound exits invariant guarantee start before frames →
      guarantee stopped state →
      (∀ outcome after,
        (contract policy exits invariant guarantee frame.op).resume frame.callback stopped
          outcome after →
        Keeps policy exits invariant guarantee frame.op before (frame.next outcome) after) →
      FramesSound exits invariant guarantee start state (frame :: frames)

/-- What every reachable configuration satisfies. -/
def ConfigSound (exits : Exits σ ι) (invariant : σ → Prop) (guarantee : σ → σ → Prop)
    (start : σ) : Config σ κ ε ι → Prop
  | .user state frames => invariant state ∧
      FramesSound policy exits invariant guarantee start state frames
  | .aborted op state => exits.abort op state
  | .faulted _ _ => False
  | .hung op state => exits.hang op state

variable {system policy} {exits : Exits σ ι} {invariant : σ → Prop} {guarantee : σ → σ → Prop}

/-- A guarantee that composes carries the soundness of a stack along. -/
theorem FramesSound.trans
    (compose : ∀ first second third, guarantee first second → guarantee second third →
      guarantee first third)
    {start state after : σ} {frames : List (Frame σ κ ε ι)}
    (sound : FramesSound policy exits invariant guarantee start state frames)
    (later : guarantee state after) :
    FramesSound policy exits invariant guarantee start after frames := by
  cases sound with
  | nil kept => exact .nil (compose _ _ _ kept later)
  | cons below kept resumes => exact .cons below (compose _ _ _ kept later) resumes

/-- Where an operation stops, the configuration is sound again. -/
theorem ConfigSound.ofStop (reflexive : ∀ state, guarantee state state)
    (compose : ∀ first second third, guarantee first second → guarantee second third →
      guarantee first third)
    {start before state : σ} {op : ι} {frames : List (Frame σ κ ε ι)} {prog : Prog σ κ ε Unit}
    (below : FramesSound policy exits invariant guarantee start before frames)
    (keeps : Keeps policy exits invariant guarantee op before prog state) {count : Nat}
    (granted : policy.patience ≤ count) :
    ConfigSound policy exits invariant guarantee start
      (.ofStop op frames (prog.exec count state)) := by
  have meets := Prog.wp.exec_meets keeps granted
  revert meets
  cases prog.exec count state with
  | returned value after => exact fun kept => ⟨kept.1, below.trans compose kept.2⟩
  | unwound payload after => exact fun kept => ⟨kept.1, below.trans compose kept.2⟩
  | aborted after => exact fun allowed => allowed
  | faulted after => exact fun impossible => impossible
  | hung after => exact fun allowed => allowed
  | waiting callback after next =>
      exact fun kept => ⟨kept.1, .cons below (reflexive after) kept.2⟩

/-- The invariant rule. If every operation keeps the invariant and a guarantee that
is reflexive and composes, relying on the callbacks it runs to keep both, then
every reachable configuration is sound: the invariant holds whenever user code is
in control, and nothing ever faults. -/
theorem Reachable.sound (reflexive : ∀ state, guarantee state state)
    (compose : ∀ first second third, guarantee first second → guarantee second third →
      guarantee first third)
    (keeps : ∀ op state, system.legal state op → policy.call state op → invariant state →
      Keeps policy exits invariant guarantee op state (system.prog op) state)
    {start : σ} (initially : invariant start) {config : Config σ κ ε ι}
    (reachable : Reachable system policy start config) :
    ConfigSound policy exits invariant guarantee start config := by
  induction reachable with
  | start => exact ⟨initially, .nil (reflexive start)⟩
  | step _ step ih =>
      cases step with
      | call op count legal allowed granted =>
          exact ConfigSound.ofStop reflexive compose ih.2 (keeps op _ legal allowed ih.1) granted
      | resume frame outcome count allowed granted =>
          obtain ⟨holds, sound⟩ := ih
          cases sound with
          | cons below kept resumes =>
              exact ConfigSound.ofStop reflexive compose below
                (resumes outcome _ ⟨allowed, holds, kept⟩) granted

/-- Between operations the guarantee holds from the start of the run. -/
theorem ConfigSound.quiescent {start state : σ}
    (sound : ConfigSound policy exits invariant guarantee start (.user state [])) :
    guarantee start state := by
  obtain ⟨_, nil⟩ := sound
  cases nil with
  | nil kept => exact kept

/-! ### Playing a run -/

end System

/-- A move of user code. -/
inductive Move (ε ι : Type) where
  | call (op : ι)
  /-- Leaves the callback it is in. -/
  | leave (outcome : Except ε Unit)

namespace System

variable (system : System σ κ ε ι) [∀ state op, Decidable (system.legal state op)] (count : Nat)

/-- The configuration after one move, with `count` iterations for every loop. -/
def next : Config σ κ ε ι → Move ε ι → Option (Config σ κ ε ι)
  | .user state frames, .call op =>
    if system.legal state op then some (.ofStop op frames ((system.prog op).exec count state))
    else none
  | .user state (frame :: frames), .leave outcome =>
    some (.ofStop frame.op frames ((frame.next outcome).exec count state))
  | _, _ => none

/-- The configuration after some moves. -/
def play : List (Move ε ι) → Config σ κ ε ι → Option (Config σ κ ε ι)
  | [], config => some config
  | move :: moves, config => (system.next count config move).bind (play moves)

/-- The callbacks that moves leave, with the state that each leaves behind, the operation that runs
it, and how it is left. -/
def departures : List (Move ε ι) → Config σ κ ε ι → List (σ × ι × κ × Except ε Unit)
  | .call op :: moves, config =>
    ((system.next count config (.call op)).map (departures moves)).getD []
  | .leave outcome :: moves, .user state (frame :: frames) =>
    (state, frame.op, frame.callback, outcome) ::
      ((system.next count (.user state (frame :: frames)) (.leave outcome)).map
        (departures moves)).getD []
  | _, _ => []

variable {system count} {policy : Policy σ κ ε ι}

/-- What is played under a policy is reachable: the policy allows the calls, and the way in which
each callback is left. -/
theorem Reachable.play {start : σ} {before after : Config σ κ ε ι} {moves : List (Move ε ι)}
    (reachable : Reachable system policy start before)
    (played : system.play count moves before = some after)
    (calls : ∀ state op, .call op ∈ moves → policy.call state op)
    (leaves : ∀ left ∈ system.departures count moves before,
      policy.resume left.1 left.2.1 left.2.2.1 left.2.2.2)
    (granted : policy.patience ≤ count) : Reachable system policy start after := by
  induction moves generalizing before with
  | nil =>
      obtain rfl : before = after := Option.some.inj played
      exact reachable
  | cons move moves ih =>
      obtain ⟨middle, moved, rest⟩ := Option.bind_eq_some_iff.mp played
      have calls' : ∀ state op, .call op ∈ moves → policy.call state op :=
        fun state op member => calls state op (List.mem_cons_of_mem _ member)
      cases move with
      | call op =>
          simp only [departures, moved, Option.map_some, Option.getD_some] at leaves
          refine ih (.step reachable ?_) rest calls' leaves
          cases before with
          | user state frames =>
              by_cases legal : system.legal state op
              · simp only [next, if_pos legal, Option.some.injEq] at moved
                exact moved ▸ .call op count legal (calls state op List.mem_cons_self) granted
              · simp [next, if_neg legal] at moved
          | aborted op state => cases moved
          | faulted op state => cases moved
          | hung op state => cases moved
      | leave outcome =>
          cases before with
          | user state frames =>
              cases frames with
              | nil => cases moved
              | cons frame frames =>
                  simp only [departures, moved, Option.map_some, Option.getD_some] at leaves
                  have leaves' : ∀ left ∈ system.departures count moves middle,
                      policy.resume left.1 left.2.1 left.2.2.1 left.2.2.2 :=
                    fun left member => leaves left (List.mem_cons_of_mem _ member)
                  refine ih (.step reachable ?_) rest calls' leaves'
                  obtain rfl := Option.some.inj moved
                  exact .resume frame outcome count (leaves _ List.mem_cons_self) granted
          | aborted op state => cases moved
          | faulted op state => cases moved
          | hung op state => cases moved

/-- A callback is left the way a move says. -/
theorem departures_leave {moves : List (Move ε ι)} {config : Config σ κ ε ι}
    {left : σ × ι × κ × Except ε Unit} (member : left ∈ system.departures count moves config) :
    .leave left.2.2.2 ∈ moves := by
  induction moves generalizing config with
  | nil => cases member
  | cons move moves ih =>
      have later : ∀ {config' : Option (Config σ κ ε ι)},
          left ∈ (config'.map (system.departures count moves)).getD [] →
          .leave left.2.2.2 ∈ move :: moves := by
        intro config' member
        cases config' with
        | none => cases member
        | some config' => exact List.mem_cons_of_mem _ (ih member)
      cases move with
      | call op => exact later member
      | leave outcome =>
          cases config with
          | user state frames =>
              cases frames with
              | nil => cases member
              | cons frame frames =>
                  rcases List.mem_cons.mp member with rfl | member
                  · exact List.mem_cons_self
                  · exact later member
          | aborted op state => cases member
          | faulted op state => cases member
          | hung op state => cases member

/-- Moves that leave no callback with a panic can be played where nothing panics. -/
theorem Reachable.playedCalm {start : σ} {after : Config σ κ ε ι} {moves : List (Move ε ι)}
    (played : system.play count moves (.user start []) = some after)
    (calm : ∀ outcome, .leave outcome ∈ moves → outcome = .ok ()) :
    Reachable system .panicFree start after :=
  .play .start played (fun _ _ _ => trivial)
    (fun _ member => calm _ (departures_leave member)) (Nat.zero_le _)

/-- Any user code may play any moves. -/
theorem Reachable.played {start : σ} {after : Config σ κ ε ι} (moves : List (Move ε ι))
    (played : system.play count moves (.user start []) = some after) :
    Reachable system .any start after :=
  .play .start played (fun _ _ _ => trivial) (fun _ _ => trivial) (Nat.zero_le _)

end System

end Reentrant
