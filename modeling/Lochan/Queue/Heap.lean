import Lochan.Queue.BlockList
import Lochan.Queue.Fifo

/-!
# The segmented queue in memory

The operations of the segmented queue as the program performs them, one access to memory
after the other. An access to a block that was never allocated or was freed faults, and so
does one outside the slots of a block, a read of a slot without an item, and everything else
that the program rules out. Every access is recorded.
-/

namespace Lochan.Queue

variable {α : Type} {N : Nat}

/-- Why a step of the list has no result. -/
inductive Fault where
  /-- There is no live block at the address. -/
  | dangling (address : Nat)
  | outOfBounds (slot : Nat)
  | uninitialized (address slot : Nat)
  | underflow
  | expect (text : String)
  /-- A loop went on for longer than it was given. -/
  | unfinished
deriving DecidableEq

/-- An access to memory. -/
inductive Access (α : Type) where
  | allocated (address : Nat)
  /-- The header of a block was read or written. -/
  | visited (address : Nat)
  | wrote (address slot : Nat) (item : α)
  | took (address slot : Nat) (item : α)
  /-- The destructor of a block dropped an item. -/
  | dropped (address slot : Nat) (item : α)
  /-- A block was freed; the window of its unread slots. -/
  | freed (address beginIdx endIdx : Nat)

/-- A list in memory, with the accesses to it, newest first. -/
structure Heap (N : Nat) (α : Type) where
  list : RawBlockList N α
  trace : List (Access α)

/-- A program on the memory of a list. -/
abbrev Mem (N : Nat) (α β : Type) := StateT (Heap N α) (Except Fault) β

namespace Heap

/-- The heap in which an access has been recorded. -/
def recorded (heap : Heap N α) (access : Access α) : Heap N α :=
  { heap with trace := access :: heap.trace }

/-- The heap with a block at an address, or with none. -/
def withBlock (heap : Heap N α) (address : Nat) (block : Option (Block α)) : Heap N α :=
  { heap with list := { heap.list with blocks := Function.update heap.list.blocks address block } }

/-! ### Accesses -/

/-- Reads the list. -/
def getList : Mem N α (RawBlockList N α) := do return (← get).list

/-- Changes the list. -/
def modifyList (change : RawBlockList N α → RawBlockList N α) : Mem N α Unit :=
  modify fun heap => { heap with list := change heap.list }

/-- The block at an address. -/
def deref (address : Nat) : Mem N α (Block α) := do
  match (← getList).blocks address with
  | none => throw (.dangling address)
  | some block =>
    modify (·.recorded (.visited address))
    return block

/-- Changes the header of a block. -/
def update (address : Nat) (change : Block α → Block α) : Mem N α Unit := do
  let block ← deref address
  modify (·.withBlock address (some (change block)))

/-- Writes an item into a slot. -/
def write (address slot : Nat) (item : α) : Mem N α Unit := do
  match (← getList).blocks address with
  | none => throw (.dangling address)
  | some block =>
    if slot < N then
      modify fun heap =>
        (heap.withBlock address
          (some { block with values := Function.update block.values slot (some item) })).recorded
          (.wrote address slot item)
    else throw (.outOfBounds slot)

/-- Moves an item out of a slot, as the access says. -/
def moveOut (address slot : Nat) (access : α → Access α) : Mem N α α := do
  match (← getList).blocks address with
  | none => throw (.dangling address)
  | some block =>
    if slot < N then
      match block.values slot with
      | none => throw (.uninitialized address slot)
      | some item =>
        modify fun heap =>
          (heap.withBlock address
            (some { block with values := Function.update block.values slot none })).recorded
            (access item)
        return item
    else throw (.outOfBounds slot)

/-- `Block::alloc`: a block whose slots are not initialized. -/
def alloc : Mem N α Nat := do
  let new := (← getList).allocated
  modify fun heap =>
    { list := { heap.list with blocks := Function.update heap.list.blocks new (some .alloc),
                               allocated := new + 1 },
      trace := .allocated new :: heap.trace }
  return new

/-- Drops the items in some slots of a block. -/
def dropSlots (address : Nat) : List Nat → Mem N α Unit
  | [] => return
  | slot :: rest => do
    let _ ← moveOut address slot (.dropped address slot)
    dropSlots address rest

/-- Frees a block; its destructor drops the items it has not given out. -/
def free (address : Nat) : Mem N α Unit := do
  let block ← deref address
  dropSlots address (List.range' block.beginIdx (block.endIdx - block.beginIdx))
  modify fun heap =>
    (heap.withBlock address none).recorded (.freed address block.beginIdx block.endIdx)

/-! ### The list -/

/-- `new()`: one block, which is both the head and the tail. -/
def new : Heap N α := ⟨.new, [.allocated 0]⟩

/-- Appends an item. -/
def push (item : α) : Mem N α Unit := do
  let tailAddress := (← getList).tail
  let tail ← deref tailAddress
  if tail.endIdx < N then
    write tailAddress tail.endIdx item
    update tailAddress fun block => { block with endIdx := tail.endIdx + 1 }
  else
    -- The tail block is full: a fresh block starts with this item.
    let new ← alloc
    write new 0 item
    update new fun block => { block with endIdx := 1 }
    update tailAddress fun block => { block with next := some new }
    modifyList fun list => { list with tail := new }
  modifyList fun list => { list with len := list.len + 1 }

/-- The loop of `pop`, which frees the drained blocks in front of the oldest item; for at most
`fuel` iterations. -/
def popLoop : Nat → Mem N α (Option α)
  | 0 => throw .unfinished
  | fuel + 1 => do
    let headAddress := (← getList).head
    let head ← deref headAddress
    if head.beginIdx < head.endIdx then
      let item ← moveOut headAddress head.beginIdx (.took headAddress head.beginIdx)
      update headAddress fun block => { block with beginIdx := head.beginIdx + 1 }
      if 0 < (← getList).len then modifyList fun list => { list with len := list.len - 1 }
      else throw .underflow
      return some item
    else if headAddress = (← getList).tail then return none
    else
      match head.next with
      | none => throw (.expect "a non-tail block always has a next")
      | some next =>
        modifyList fun list => { list with head := next }
        free headAddress
        popLoop fuel

/-- The loop of the destructor of the list, which frees every block; for at most `fuel`
iterations. -/
def dropLoop : Nat → Option Nat → Mem N α Unit
  | _, none => return
  | 0, some _ => throw .unfinished
  | fuel + 1, some address => do
    let block ← deref address
    free address
    dropLoop fuel block.next

/-- The destructor of the list. -/
def drop (fuel : Nat) : Mem N α Unit := do dropLoop fuel (some (← getList).head)

/-- Runs one operation; the loop of `pop` may go on for `fuel` iterations. -/
def step (fuel : Nat) (heap : Heap N α) : QueueOp α → Except Fault (Outcome α × Heap N α)
  | .push item => do
    let ((), next) ← (push item).run heap
    return (.pushed (.ok ()), next)
  | .pop => do
    let (item, next) ← (popLoop fuel).run heap
    return (.popped item, next)

/-- The number of live blocks. -/
def live (heap : Heap N α) : Nat :=
  ((List.range heap.list.allocated).filter fun address => (heap.list.blocks address).isSome).length

end Heap

/-! ### What the accesses say -/

namespace Access

/-- The blocks that were allocated. -/
def allocations : List (Access α) → List Nat
  | .allocated address :: past => address :: allocations past
  | _ :: past => allocations past
  | [] => []

/-- The blocks that were freed. -/
def frees : List (Access α) → List Nat
  | .freed address _ _ :: past => address :: frees past
  | _ :: past => frees past
  | [] => []

/-- The items written to a slot. -/
def writes (address slot : Nat) : List (Access α) → List α
  | .wrote block written item :: past =>
    if block = address ∧ written = slot then item :: writes address slot past
    else writes address slot past
  | _ :: past => writes address slot past
  | [] => []

/-- The items moved out of a slot. -/
def removals (address slot : Nat) : List (Access α) → List α
  | .took block taken item :: past | .dropped block taken item :: past =>
    if block = address ∧ taken = slot then item :: removals address slot past
    else removals address slot past
  | _ :: past => removals address slot past
  | [] => []

/-- The items written, oldest first. -/
def written : List (Access α) → List α
  | .wrote _ _ item :: past => written past ++ [item]
  | _ :: past => written past
  | [] => []

/-- The items read, oldest first. -/
def taken : List (Access α) → List α
  | .took _ _ item :: past => taken past ++ [item]
  | _ :: past => taken past
  | [] => []

/-- The items dropped by destructors of blocks, oldest first. -/
def discarded : List (Access α) → List α
  | .dropped _ _ item :: past => discarded past ++ [item]
  | _ :: past => discarded past
  | [] => []

/-- The block is live: it was allocated and has not been freed. -/
def Live (address : Nat) (past : List (Access α)) : Prop :=
  address ∈ allocations past ∧ address ∉ frees past

/-- A slot holds the item of the one write to it. -/
def Holds (address slot : Nat) (item : α) (past : List (Access α)) : Prop :=
  writes address slot past = [item] ∧ removals address slot past = []

/-- What holds whenever memory is accessed: an allocated block is new, an accessed one is live;
a slot is written once, within its block, and read or dropped at most once, after it was written
with that item. -/
def Lawful (N : Nat) : List (Access α) → Prop
  | .allocated address :: past => address ∉ allocations past ∧ Lawful N past
  | .visited address :: past | .freed address _ _ :: past => Live address past ∧ Lawful N past
  | .wrote address slot _ :: past =>
    (Live address past ∧ slot < N ∧ writes address slot past = []) ∧ Lawful N past
  | .took address slot item :: past | .dropped address slot item :: past =>
    (Live address past ∧ slot < N ∧ Holds address slot item past) ∧ Lawful N past
  | [] => True

/-- The number of live blocks. -/
def blocks (trace : List (Access α)) : Nat := (allocations trace).length - (frees trace).length

/-- The number of items in the slots. -/
def items (trace : List (Access α)) : Nat :=
  (written trace).length - ((taken trace).length + (discarded trace).length)

/-- At no time were there more than two blocks besides those that the items fill. -/
def Sparse (N : Nat) : List (Access α) → Prop
  | [] => True
  | access :: past => blocks (access :: past) ≤ items (access :: past) / N + 2 ∧ Sparse N past

end Access

end Lochan.Queue
