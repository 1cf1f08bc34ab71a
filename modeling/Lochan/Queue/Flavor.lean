import Lochan.Queue.Ring
import Lochan.Queue.BlockList

/-!
# The storage behind a channel

A fixed ring for a bounded channel and a segmented list for an unbounded one. Both
channel cores drive either one through the operations below, and rely on nothing but
the lists they stand for.
-/

namespace Lochan.Queue

variable {α : Type}

/-- The slots of a block in an unbounded channel. -/
def blockSize : Nat := 32

/-- The storage of a channel: a ring for a bounded one, a list of blocks for an unbounded one. -/
inductive Flavor (α : Type) where
  | bounded (ring : Ring α)
  | unbounded (list : BlockList blockSize α)

namespace Flavor

/-- The storage of a bounded channel. -/
def mkBounded (cap : Nat) (positive : 0 < cap) : Flavor α := .bounded (.withCapacity cap positive)

/-- The storage of an unbounded channel. -/
def mkUnbounded : Flavor α := .unbounded (.new (by decide))

/-- The queued items, oldest first. -/
def toList : Flavor α → List α
  | .bounded ring => ring.toList
  | .unbounded list => list.toList

/-- The number of items. -/
def len : Flavor α → Nat
  | .bounded ring => ring.len
  | .unbounded list => list.len

/-- Whether there are no items. -/
def isEmpty : Flavor α → Bool
  | .bounded ring => ring.isEmpty
  | .unbounded list => list.isEmpty

/-- The capacity, if there is one. -/
def cap : Flavor α → Option Nat
  | .bounded ring => some ring.cap
  | .unbounded _ => none

/-- Whether the capacity is used up. -/
def isFull : Flavor α → Bool
  | .bounded ring => ring.isFull
  | .unbounded _ => false

/-- Pushes, or hands the item back when a bounded channel is full. -/
def tryPush (flavor : Flavor α) (item : α) : Flavor α × Except α Unit :=
  match flavor with
  | .bounded ring => (.bounded (ring.push item).1, (ring.push item).2)
  | .unbounded list => (.unbounded (list.push item), .ok ())

/-- Pops the oldest item; also the items that storage freed on the way drops. -/
def pop : Flavor α → Flavor α × Option α × List α
  | .bounded ring => (.bounded ring.pop.1, ring.pop.2, [])
  | .unbounded list => (.unbounded list.pop.1, list.pop.2.1, list.pop.2.2)

/-- A bounded channel begins empty. -/
@[simp] theorem mkBounded_toList {cap : Nat} (positive : 0 < cap) :
    (mkBounded cap positive : Flavor α).toList = [] := Ring.withCapacity_toList positive

/-- A bounded channel has the capacity that it is created with. -/
@[simp] theorem mkBounded_cap {cap : Nat} (positive : 0 < cap) :
    (mkBounded cap positive : Flavor α).cap = some cap := by
  simp [mkBounded, Flavor.cap, Ring.cap, Ring.withCapacity, RawRing.cap, RawRing.withCapacity]

/-- An unbounded channel begins empty. -/
@[simp] theorem mkUnbounded_toList : (mkUnbounded : Flavor α).toList = [] :=
  BlockList.new_toList _

/-- The length is the number of items. -/
theorem len_eq (flavor : Flavor α) : flavor.len = flavor.toList.length := by
  cases flavor with
  | bounded ring => exact ring.len_eq
  | unbounded list => exact list.len_eq

/-- The storage is empty when it holds no items. -/
theorem isEmpty_eq (flavor : Flavor α) : flavor.isEmpty = flavor.toList.isEmpty := by
  cases flavor with
  | bounded ring => exact ring.isEmpty_eq
  | unbounded list => exact list.isEmpty_eq

/-- The storage is full when it holds as many items as its capacity. -/
theorem isFull_iff (flavor : Flavor α) :
    flavor.isFull = true ↔ flavor.cap = some flavor.toList.length := by
  cases flavor with
  | bounded ring => simp [isFull, cap, toList, ring.isFull_iff, eq_comm]
  | unbounded list => simp [isFull, cap]

/-- A bounded queue never holds more than its capacity. -/
theorem length_le_cap {flavor : Flavor α} {bound : Nat} (capped : flavor.cap = some bound) :
    flavor.toList.length ≤ bound := by
  cases flavor with
  | bounded ring =>
      cases capped
      exact ring.length_le_cap
  | unbounded list => cases capped

/-- A push into a full queue hands the item back and changes nothing. -/
theorem tryPush_full {flavor : Flavor α} (full : flavor.isFull = true) (item : α) :
    flavor.tryPush item = (flavor, .error item) := by
  cases flavor with
  | bounded ring => simp [tryPush, Ring.push_full full]
  | unbounded list => cases full

/-- A push into a queue with room appends the item. -/
theorem tryPush_room {flavor : Flavor α} (room : flavor.isFull = false) (item : α) :
    ∃ pushed, flavor.tryPush item = (pushed, .ok ()) ∧ pushed.toList = flavor.toList ++ [item] ∧
      pushed.cap = flavor.cap := by
  cases flavor with
  | bounded ring =>
      obtain ⟨accepted, contents, size⟩ := Ring.push_room room item
      exact ⟨_, Prod.ext rfl accepted, contents, congrArg some size⟩
  | unbounded list => exact ⟨_, rfl, list.push_toList item, rfl⟩

/-- A pop takes the oldest item out, and no storage it frees drops an item. -/
theorem pop_eq (flavor : Flavor α) :
    ∃ popped, flavor.pop = (popped, flavor.toList.head?, []) ∧
      popped.toList = flavor.toList.tail ∧ popped.cap = flavor.cap := by
  cases flavor with
  | bounded ring =>
      obtain ⟨item, contents, size⟩ := ring.pop_eq
      exact ⟨.bounded ring.pop.1, by simp [pop, item, toList], contents, congrArg some size⟩
  | unbounded list =>
      obtain ⟨item, contents⟩ := list.pop_eq
      exact ⟨.unbounded list.pop.1, by simp [pop, item, toList], contents, rfl⟩

/-- A push does not change the capacity. -/
theorem tryPush_cap (flavor : Flavor α) (item : α) : (flavor.tryPush item).1.cap = flavor.cap := by
  cases full : flavor.isFull with
  | true => rw [tryPush_full full]
  | false =>
      obtain ⟨pushed, accepts, -, same⟩ := tryPush_room full item
      rw [accepts]
      exact same

/-- A pop does not change the capacity. -/
theorem pop_cap (flavor : Flavor α) : flavor.pop.1.cap = flavor.cap := by
  obtain ⟨popped, takes, -, same⟩ := flavor.pop_eq
  rw [takes]
  exact same

end Flavor

end Lochan.Queue
