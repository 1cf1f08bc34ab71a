import Mathlib.Data.List.Perm.Basic
import Lochan.Reentrant.Machine

/-!
# The state that operations share with user code

A `World` holds the state of a channel with its handles and futures, the cells that
are borrowed at the moment, and a log of everything that has happened, newest first.
The log is what the statements about runs speak of; no operation reads it.

The wakers of parked tasks are woken here by one function for both channels, with
every panic caught and the first one resumed at the end.
-/

namespace Lochan

open Reentrant

/-- The identity of a waker; its clones share it. -/
abbrev Waker := Nat

/-- A panic payload: a plain one, or one whose own destructor panics with another
payload. -/
inductive Panic where
  | message (text : String)
  | toxic (inner : Panic)
deriving DecidableEq

/-- The half of a channel whose parked tasks are woken. -/
inductive Side where
  | senders
  | receivers
deriving DecidableEq

/-- The user code a channel runs: the functions of wakers, and the destructors of
wakers, payloads and panic payloads. -/
inductive Callback (α : Type) where
  | clone (waker : Waker)
  | wake (side : Side) (waker : Waker)
  | wakeByRef (waker : Waker)
  | dropWaker (waker : Waker)
  | dropItem (item : α)
  /-- The destructor of an item that draining took out of the channel. -/
  | dropQueued (item : α)
  | dropPanic (payload : Panic)

/-- The waker a callback invokes. -/
def Callback.invokes {α : Type} : Callback α → Option Waker
  | .wake _ waker | .wakeByRef waker => some waker
  | _ => none

/-- The cells of a channel that are borrowed while they are accessed. -/
inductive Cell where
  | flavor
  | redelivery
  | recvWakers
  | recvWaker
  | sendWakers
deriving DecidableEq

/-- What a log records. Operations `ω` with results `ρ` begin, and return or unwind
later, naming the length of the log when they began. -/
inductive Event (ω ρ α : Type) where
  | began (op : ω)
  | returned (start : Nat) (op : ω) (result : ρ)
  | unwound (start : Nat) (op : ω)
  | called (callback : Callback α)
  | panicked (callback : Callback α)
  /-- The waker that was registered for a single receiver when an item was pushed. -/
  | watched (waker : Option Waker)
  /-- An item was accepted into the queue; a send future that pushed it is named. -/
  | pushed (future : Option Nat) (item : α)
  /-- An item was handed out to a receiver. -/
  | took (item : α)
  /-- A receive found nothing, and the channel held these items. -/
  | missed (held : List α)
  /-- A wake of the parked senders unwound before a receive took its item back. -/
  | stranded
  /-- A registration id was issued. -/
  | registered (side : Side)
  /-- A send future committed its outcome. -/
  | committed (send : Nat) (accepted : Bool)
  /-- The channel was closed while it held these items. -/
  | closed (held : List α)
  /-- The last receiver began to drop, with these senders parked and items held. -/
  | lastReceiver (receiver : Nat) (parked : List Waker) (held : List α)
  /-- The shared state was freed while it held these items. -/
  | freed (held : List α)
  /-- An `expect` found nothing. -/
  | expectFailed (text : String)

/-- The state `χ` of a channel, the cells borrowed, and the log, newest event first. -/
structure World (χ ω ρ α : Type) where
  state : χ
  held : List Cell
  log : List (Event ω ρ α)

/-- A program of a channel. -/
abbrev Act (χ ω ρ α β : Type) := Prog (World χ ω ρ α) (Callback α) Panic β

variable {χ ω ρ α β : Type}

namespace World

/-- The world in which an event has happened. -/
def logged (world : World χ ω ρ α) (event : Event ω ρ α) : World χ ω ρ α :=
  { world with log := event :: world.log }

/-- An event leaves the state of the channel as it is. -/
@[simp] theorem logged_state (world : World χ ω ρ α) (event : Event ω ρ α) :
    (world.logged event).state = world.state := rfl

/-- An event borrows no cell. -/
@[simp] theorem logged_held (world : World χ ω ρ α) (event : Event ω ρ α) :
    (world.logged event).held = world.held := rfl

/-- The newest event comes first. -/
@[simp] theorem logged_log (world : World χ ω ρ α) (event : Event ω ρ α) :
    (world.logged event).log = event :: world.log := rfl

/-- The world after a write of the state of the channel. -/
def onState (world : World χ ω ρ α) (update : χ → χ) : World χ ω ρ α :=
  { world with state := update world.state }

/-- A write replaces the state. -/
@[simp] theorem onState_state (world : World χ ω ρ α) (update : χ → χ) :
    (world.onState update).state = update world.state := rfl

/-- A write borrows no cell. -/
@[simp] theorem onState_held (world : World χ ω ρ α) (update : χ → χ) :
    (world.onState update).held = world.held := rfl

/-- A write is not an event. -/
@[simp] theorem onState_log (world : World χ ω ρ α) (update : χ → χ) :
    (world.onState update).log = world.log := rfl

/-- The world after an operation that did nothing but answer. -/
def answered (world : World χ ω ρ α) (op : ω) (result : ρ) : World χ ω ρ α :=
  (world.logged (.began op)).logged (.returned world.log.length op result)

end World

/-- The items a log yields under a partial projection, oldest first. -/
def collect (project : Event ω ρ α → Option β) (log : List (Event ω ρ α)) : List β :=
  (log.filterMap project).reverse

/-- An empty log yields nothing. -/
@[simp] theorem collect_nil (project : Event ω ρ α → Option β) : collect project [] = [] := rfl

/-- The newest event yields the last item. -/
@[simp] theorem collect_cons (project : Event ω ρ α → Option β) (event : Event ω ρ α)
    (log : List (Event ω ρ α)) :
    collect project (event :: log) = collect project log ++ (project event).toList := by
  cases found : project event <;> simp [collect, found]

/-- What happened later yields the later items. -/
theorem collect_append (project : Event ω ρ α → Option β) (newer older : List (Event ω ρ α)) :
    collect project (newer ++ older) = collect project older ++ collect project newer := by
  simp [collect]

/-- The item that an event pushes. -/
def Event.pushed? : Event ω ρ α → Option α
  | .pushed _ item => some item
  | _ => none

/-- The item that an event hands out. -/
def Event.took? : Event ω ρ α → Option α
  | .took item => some item
  | _ => none

/-- The item that draining drops with an event. -/
def Event.drained? : Event ω ρ α → Option α
  | .called (.dropQueued item) => some item
  | _ => none

/-- The items accepted into the queue, in the order of their pushes. -/
def accepted (log : List (Event ω ρ α)) : List α := collect Event.pushed? log

/-- The items handed out, in the order they were handed out. -/
def delivered (log : List (Event ω ρ α)) : List α := collect Event.took? log

/-- The items that draining dropped, in that order. -/
def drained (log : List (Event ω ρ α)) : List α := collect Event.drained? log

/-- The number of registration ids issued on a side. -/
def registrations (side : Side) : List (Event ω ρ α) → Nat
  | .registered issued :: log => registrations side log + if issued = side then 1 else 0
  | _ :: log => registrations side log
  | [] => 0

/-! ### Primitive actions -/

/-- Puts an event into the log. -/
def emit (event : Event ω ρ α) : Act χ ω ρ α Unit := Prog.modify (World.logged · event)

/-- Reads the state of the channel. -/
def getState : Act χ ω ρ α χ := do return (← Prog.read).state

/-- Writes the state of the channel. -/
def modifyState (update : χ → χ) : Act χ ω ρ α Unit := Prog.modify (World.onState · update)

/-- Runs user code; a panic in it unwinds the program. -/
def callback (code : Callback α) : Act χ ω ρ α Unit := do
  emit (.called code)
  Prog.user code fun
    | .ok _ => .ret ()
    | .error payload => do
      emit (.panicked code)
      Prog.unwind payload

/-- Accesses a cell: the cell is borrowed until the access is over, and accessing a
borrowed cell faults. -/
def borrowing (cell : Cell) (access : Act χ ω ρ α β) : Act χ ω ρ α β := do
  if cell ∈ (← Prog.read).held then Prog.fault
  else
    Prog.modify fun world => { world with held := cell :: world.held }
    access.ensuring (Prog.modify fun world => { world with held := world.held.erase cell })

/-- Unwraps a value that is always present. -/
def expect (text : String) : Option β → Act χ ω ρ α β
  | some value => return value
  | none => do
    emit (.expectFailed text)
    Prog.unwind (.message text)

/-- Runs the destructor of one value and then those of the values behind it, which
run even if the first destructor panics. -/
def dropGlue (first rest : Act χ ω ρ α Unit) : Act χ ω ρ α Unit := first.ensuring rest

/-- Drops items one after the other; a panic leaks the rest. -/
def dropItems : List α → Act χ ω ρ α Unit
  | [] => return
  | item :: rest => do
    callback (.dropItem item)
    dropItems rest

/-- Drops wakers one after the other. -/
def dropWakers : List Waker → Act χ ω ρ α Unit
  | [] => return
  | waker :: rest => dropGlue (callback (.dropWaker waker)) (dropWakers rest)

/-- Disposes of a caught panic payload that will not be resumed: its destructor runs
with panics caught, and the payload of such a panic is dropped in turn. -/
def dropPanicPayload (payload : Panic) : Act χ ω ρ α Unit := do
  match ← (callback (.dropPanic payload)).attempt with
  | .ok _ => return
  | .error inner => callback (.dropPanic inner)

/-- The loop of `wakeAll`: `firstPanic` is resumed once every waker has been woken. A
panic out of `dropPanicPayload` leaves the loop, and drops what is left. -/
def wakeEach (side : Side) : List (UInt64 × Waker) → Option Panic → Act χ ω ρ α Unit
  | [], none => return
  | [], some payload => Prog.unwind payload
  | (_, waker) :: rest, firstPanic => do
    match ← (callback (.wake side waker)).attempt with
    | .ok _ => wakeEach side rest firstPanic
    | .error payload =>
      match firstPanic with
      | none => wakeEach side rest (some payload)
      | some first =>
        (dropPanicPayload payload).guarded
          (dropGlue (dropWakers (rest.map Prod.snd)) (callback (.dropPanic first)))
        wakeEach side rest (some first)

/-- Wakes every waker in `wakers`, catching panics so that none strands the rest. -/
def wakeAll (side : Side) (wakers : List (UInt64 × Waker)) : Act χ ω ρ α Unit :=
  wakeEach side wakers none

/-! ### Lists of registrations -/

/-- Takes one entry out of a list, moving the last entry into its place. -/
def swapRemove (entries : List β) (position : Nat) : Option β × List β :=
  match entries[position]?, entries.getLast? with
  | some entry, some last => (some entry, (entries.set position last).dropLast)
  | _, _ => (none, entries)

/-- Takes out the first entry registered under an id. -/
def removeById (entries : List (UInt64 × Waker)) (id : UInt64) :
    Option (UInt64 × Waker) × List (UInt64 × Waker) :=
  match entries.findIdx? (·.1 == id) with
  | none => (none, entries)
  | some position => swapRemove entries position

/-- Taking out an entry leaves the other ones, in some order. -/
theorem swapRemove_perm {entries : List β} {position : Nat} (inBounds : position < entries.length) :
    ∃ rest, swapRemove entries position = (some entries[position], rest) ∧
      entries.Perm (entries[position] :: rest) := by
  obtain ⟨init, last, rfl⟩ := List.eq_nil_or_concat' entries |>.resolve_left
    (List.ne_nil_of_length_pos (Nat.zero_lt_of_lt inBounds))
  refine ⟨((init ++ [last]).set position last).dropLast, by
    rw [swapRemove, List.getElem?_eq_getElem inBounds, List.getLast?_concat], ?_⟩
  have bound : position ≤ init.length := by simpa [Nat.lt_succ_iff] using inBounds
  rcases Nat.lt_or_eq_of_le bound with inside | atEnd
  · rw [List.set_append_left _ _ inside, List.dropLast_concat, List.getElem_append_left inside]
    have front : (last :: init).Perm (last :: init[position] :: init.eraseIdx position) :=
      (List.getElem_cons_eraseIdx_perm inside).symm.cons last
    have back : (init[position] :: last :: init.eraseIdx position).Perm
        (init[position] :: init.set position last) :=
      (List.set_perm_cons_eraseIdx inside last).symm.cons _
    exact (List.perm_append_singleton last init).trans
      (front.trans ((List.Perm.swap ..).trans back))
  · subst atEnd
    simp

/-- Nothing is taken out under an id that no entry has. -/
theorem removeById_absent {entries : List (UInt64 × Waker)} {id : UInt64}
    (absent : id ∉ entries.map Prod.fst) : removeById entries id = (none, entries) := by
  have none : entries.findIdx? (·.1 == id) = none := by
    rw [List.findIdx?_eq_none_iff]
    intro entry member
    exact beq_false_of_ne fun same => absent (List.mem_map.mpr ⟨entry, member, same⟩)
  simp [removeById, none]

/-- The entry under an id is taken out, and the other ones are left. -/
theorem removeById_present {entries : List (UInt64 × Waker)} {id : UInt64}
    (present : id ∈ entries.map Prod.fst) :
    ∃ waker rest, removeById entries id = (some (id, waker), rest) ∧
      entries.Perm ((id, waker) :: rest) := by
  cases found : entries.findIdx? (·.1 == id) with
  | none =>
      obtain ⟨entry, member, rfl⟩ := List.mem_map.mp present
      have := List.findIdx?_eq_none_iff.mp found entry member
      simp at this
  | some position =>
      obtain ⟨inBounds, matches_, -⟩ := List.findIdx?_eq_some_iff_getElem.mp found
      obtain ⟨rest, removes, perm⟩ := swapRemove_perm inBounds
      obtain rfl : entries[position].1 = id := by simpa using matches_
      exact ⟨entries[position].2, rest, by simp only [removeById, found, removes], perm⟩

end Lochan
