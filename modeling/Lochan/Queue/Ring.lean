import Mathlib.Data.List.Basic
import Mathlib.Data.Nat.ModEq
import Mathlib.Tactic.Linarith

/-!
# Fixed-capacity ring buffer

The ring behind a bounded channel: exactly `cap` slots, of which the `len` slots
from `head` on, taken modulo `cap`, are initialized. `RawRing` is the ring as the
program manipulates it; `Ring` carries the proof that the initialized slots hold a
list, so that every read of a slot finds an item there.
-/

namespace Lochan.Queue

variable {α : Type}

/-- A ring of slots; an uninitialized slot is `none`. -/
structure RawRing (α : Type) where
  slots : List (Option α)
  head : Nat
  len : Nat

namespace RawRing

/-- A ring of `cap` vacant slots. -/
def withCapacity (cap : Nat) : RawRing α := ⟨List.replicate cap none, 0, 0⟩

/-- The number of slots. -/
def cap (ring : RawRing α) : Nat := ring.slots.length

/-- Whether every slot is occupied. -/
def isFull (ring : RawRing α) : Bool := ring.len == ring.cap

/-- Appends an item, or hands it back when the ring is full. `none` if the slot is
out of bounds. -/
def push (ring : RawRing α) (item : α) : Option (RawRing α × Except α Unit) :=
  if ring.isFull then some (ring, .error item)
  else
    let tail := (ring.head + ring.len) % ring.cap
    if tail < ring.slots.length then
      some ({ ring with slots := ring.slots.set tail (some item), len := ring.len + 1 }, .ok ())
    else none

/-- Removes the oldest item. `none` if the slot read is out of bounds or
uninitialized. -/
def pop (ring : RawRing α) : Option (RawRing α × Option α) :=
  if ring.len = 0 then some (ring, none)
  else match ring.slots[ring.head]? with
    | some (some item) =>
      some (⟨ring.slots.set ring.head none, (ring.head + 1) % ring.cap, ring.len - 1⟩, some item)
    | _ => none

/-- The queued items, oldest first. -/
def items (ring : RawRing α) : List α :=
  (List.range ring.len).filterMap fun offset =>
    ring.slots[(ring.head + offset) % ring.cap]?.join

/-- The ring holds exactly these items, oldest first: the slots from `head` on hold
them, and the other slots are uninitialized. -/
structure Represents (ring : RawRing α) (queue : List α) : Prop where
  head_lt : ring.head < ring.cap
  len_eq : ring.len = queue.length
  len_le : ring.len ≤ ring.cap
  slot : ∀ offset < ring.cap,
    ring.slots[(ring.head + offset) % ring.cap]? = some queue[offset]?

/-- A new ring is an empty queue. -/
theorem withCapacity_represents {cap : Nat} (positive : 0 < cap) :
    (withCapacity cap : RawRing α).Represents [] := by
  have size : (withCapacity cap : RawRing α).cap = cap := List.length_replicate
  refine ⟨by rw [size]; exact positive, rfl, Nat.zero_le _, ?_⟩
  intro offset below
  rw [size] at below ⊢
  simp [withCapacity, Nat.mod_eq_of_lt below, below]

/-- Reading the slots from the head on yields the queue. -/
theorem Represents.items_eq {ring : RawRing α} {queue : List α}
    (represents : ring.Represents queue) : ring.items = queue := by
  have slots : ∀ count ≤ queue.length,
      (List.range count).filterMap (fun offset =>
        ring.slots[(ring.head + offset) % ring.cap]?.join) = queue.take count := by
    intro count bounded
    induction count with
    | zero => simp
    | succ count ih =>
        have below : count < queue.length := bounded
        have inside : count < ring.cap := by
          have := represents.len_eq
          have := represents.len_le
          omega
        rw [List.range_succ, List.filterMap_append, ih (Nat.le_of_succ_le bounded),
          List.take_add_one]
        simp only [List.filterMap_cons, List.filterMap_nil, represents.slot count inside,
          Option.join_some, List.getElem?_eq_getElem below, Option.toList_some]
  unfold items
  rw [represents.len_eq, slots _ le_rfl, List.take_length]

/-- Two offsets below the capacity name the same slot only if they are equal. -/
theorem slot_injective {cap head first second : Nat} (firstLt : first < cap)
    (secondLt : second < cap) (same : (head + first) % cap = (head + second) % cap) :
    first = second := by
  have congruent : first ≡ second [MOD cap] := Nat.ModEq.add_left_cancel' head same
  exact Nat.ModEq.eq_of_lt_of_lt congruent firstLt secondLt

/-- A ring is full when the queue is as long as there are slots. -/
theorem Represents.isFull_iff {ring : RawRing α} {queue : List α}
    (represents : ring.Represents queue) : ring.isFull = true ↔ queue.length = ring.cap := by
  simp [isFull, represents.len_eq]

/-- A push into a full ring hands the item back and changes nothing. -/
theorem push_full {ring : RawRing α} (full : ring.isFull = true) (item : α) :
    ring.push item = some (ring, .error item) := by
  simp [push, full]

/-- A push into a ring with room appends the item. -/
theorem Represents.push_room {ring : RawRing α} {queue : List α}
    (represents : ring.Represents queue) (room : ring.isFull = false) (item : α) :
    ∃ pushed, ring.push item = some (pushed, .ok ()) ∧ pushed.Represents (queue ++ [item]) ∧
      pushed.cap = ring.cap := by
  have free : queue.length < ring.cap := by
    have := represents.len_eq
    have := represents.len_le
    have : ring.len ≠ ring.cap := by simpa [isFull] using room
    omega
  have bounded : (ring.head + ring.len) % ring.cap < ring.slots.length :=
    Nat.mod_lt _ (Nat.zero_lt_of_lt free)
  let pushed : RawRing α :=
    { ring with slots := ring.slots.set ((ring.head + ring.len) % ring.cap) (some item),
                len := ring.len + 1 }
  have size : pushed.cap = ring.cap := List.length_set ..
  refine ⟨pushed, by simp [push, room, bounded, pushed], ?_, size⟩
  refine ⟨by rw [size]; exact represents.head_lt, by simp [pushed, represents.len_eq], ?_, ?_⟩
  · have := represents.len_eq
    change ring.len + 1 ≤ pushed.cap
    omega
  intro offset below
  rw [size] at below ⊢
  change (ring.slots.set ((ring.head + ring.len) % ring.cap) (some item))[_]? = _
  rw [represents.len_eq] at bounded ⊢
  by_cases same : offset = queue.length
  · subst same
    rw [List.getElem?_set_self bounded, List.getElem?_concat_length]
  · have apart : (ring.head + queue.length) % ring.cap ≠ (ring.head + offset) % ring.cap :=
      fun equal => same (slot_injective free below equal).symm
    rw [List.getElem?_set_ne apart, represents.slot offset below]
    rcases Nat.lt_or_gt_of_ne same with inside | outside
    · rw [List.getElem?_append_left inside]
    · rw [List.getElem?_eq_none (by omega), List.getElem?_eq_none (by simp; omega)]

/-- A pop of an empty ring changes nothing. -/
theorem Represents.pop_nil {ring : RawRing α} (represents : ring.Represents []) :
    ring.pop = some (ring, none) := by
  simp [pop, represents.len_eq]

/-- A pop of a non-empty ring takes the oldest item out. -/
theorem Represents.pop_cons {ring : RawRing α} {item : α} {queue : List α}
    (represents : ring.Represents (item :: queue)) :
    ∃ popped, ring.pop = some (popped, some item) ∧ popped.Represents queue ∧
      popped.cap = ring.cap := by
  have positive : 0 < ring.cap := Nat.zero_lt_of_lt represents.head_lt
  have nonempty : ring.len ≠ 0 := by simp [represents.len_eq]
  have first : ring.slots[ring.head]? = some (some item) := by
    simpa [Nat.mod_eq_of_lt represents.head_lt] using represents.slot 0 positive
  let popped : RawRing α :=
    ⟨ring.slots.set ring.head none, (ring.head + 1) % ring.cap, ring.len - 1⟩
  have size : popped.cap = ring.cap := List.length_set ..
  refine ⟨popped, by simp [pop, nonempty, first, popped], ?_, size⟩
  refine ⟨by rw [size]; exact Nat.mod_lt _ positive, by simp [popped, represents.len_eq], ?_, ?_⟩
  · have := represents.len_le
    change ring.len - 1 ≤ popped.cap
    omega
  intro offset below
  rw [size] at below ⊢
  change (ring.slots.set ring.head none)[((ring.head + 1) % ring.cap + offset) % ring.cap]? = _
  rw [Nat.mod_add_mod]
  by_cases last : offset + 1 = ring.cap
  · have wrapped : (ring.head + 1 + offset) % ring.cap = ring.head := by
      rw [show ring.head + 1 + offset = ring.head + ring.cap by omega, Nat.add_mod_right,
        Nat.mod_eq_of_lt represents.head_lt]
    have short : queue.length ≤ offset := by
      have := represents.len_eq
      have := represents.len_le
      simp only [List.length_cons] at *
      omega
    rw [wrapped, List.getElem?_set_self represents.head_lt, List.getElem?_eq_none short]
  · have inside : offset + 1 < ring.cap := by omega
    have apart : ring.head ≠ (ring.head + (offset + 1)) % ring.cap := by
      intro equal
      have same : (ring.head + 0) % ring.cap = (ring.head + (offset + 1)) % ring.cap := by
        rw [Nat.add_zero, Nat.mod_eq_of_lt represents.head_lt]
        exact equal
      have := slot_injective positive inside same
      omega
    rw [show ring.head + 1 + offset = ring.head + (offset + 1) by omega,
      List.getElem?_set_ne apart, represents.slot (offset + 1) inside, List.getElem?_cons_succ]

end RawRing

/-- A ring together with the proof that its initialized slots hold a list. -/
structure Ring (α : Type) where
  raw : RawRing α
  valid : ∃ queue, raw.Represents queue

namespace Ring

/-- The items in the ring, oldest first. -/
def toList (ring : Ring α) : List α := ring.raw.items

/-- A ring holds its items. -/
theorem represents (ring : Ring α) : ring.raw.Represents ring.toList := by
  obtain ⟨queue, represents⟩ := ring.valid
  rwa [toList, represents.items_eq]

/-- An empty ring of a capacity that is not zero. -/
def withCapacity (cap : Nat) (positive : 0 < cap) : Ring α :=
  ⟨.withCapacity cap, [], RawRing.withCapacity_represents positive⟩

/-- The capacity of the ring. -/
def cap (ring : Ring α) : Nat := ring.raw.cap

/-- The number of items. -/
def len (ring : Ring α) : Nat := ring.raw.len

/-- Whether there are no items. -/
def isEmpty (ring : Ring α) : Bool := ring.raw.len == 0

/-- Whether there is no vacant slot. -/
def isFull (ring : Ring α) : Bool := ring.raw.isFull

/-- A push never writes out of bounds, and leaves a ring behind that holds a list. -/
theorem push_valid (ring : Ring α) (item : α) :
    ∃ result, ring.raw.push item = some result ∧ ∃ queue, result.1.Represents queue := by
  cases room : ring.raw.isFull with
  | true => exact ⟨_, RawRing.push_full room item, ring.valid⟩
  | false =>
      obtain ⟨pushed, pushes, represents, -⟩ := ring.represents.push_room room item
      exact ⟨_, pushes, _, represents⟩

/-- A pop never reads an uninitialized slot, and leaves a ring behind that holds a
list. -/
theorem pop_valid (ring : Ring α) :
    ∃ result, ring.raw.pop = some result ∧ ∃ queue, result.1.Represents queue := by
  have represents := ring.represents
  revert represents
  cases ring.toList with
  | nil => exact fun represents => ⟨_, represents.pop_nil, ring.valid⟩
  | cons item queue =>
      intro represents
      obtain ⟨popped, pops, represents, -⟩ := represents.pop_cons
      exact ⟨_, pops, _, represents⟩

/-- Appends an item, or hands it back if the ring is full. -/
def push (ring : Ring α) (item : α) : Ring α × Except α Unit :=
  match found : ring.raw.push item with
  | some (pushed, result) => (⟨pushed, by
      obtain ⟨_, equation, valid⟩ := ring.push_valid item
      cases equation.symm.trans found
      exact valid⟩, result)
  | none => (ring, .error item)

/-- Takes the oldest item out. -/
def pop (ring : Ring α) : Ring α × Option α :=
  match found : ring.raw.pop with
  | some (popped, item) => (⟨popped, by
      obtain ⟨_, equation, valid⟩ := ring.pop_valid
      cases equation.symm.trans found
      exact valid⟩, item)
  | none => (ring, none)

/-- Pushing never faults, and it does what it does to the slots. -/
theorem push_raw (ring : Ring α) (item : α) :
    ring.raw.push item = some ((ring.push item).1.raw, (ring.push item).2) := by
  obtain ⟨result, equation, -⟩ := ring.push_valid item
  unfold push
  split
  · assumption
  · rename_i impossible
    cases equation.symm.trans impossible

/-- Popping never faults, and it does what it does to the slots. -/
theorem pop_raw (ring : Ring α) : ring.raw.pop = some (ring.pop.1.raw, ring.pop.2) := by
  obtain ⟨result, equation, -⟩ := ring.pop_valid
  unfold pop
  split
  · assumption
  · rename_i impossible
    cases equation.symm.trans impossible

/-- A new ring holds nothing. -/
@[simp] theorem withCapacity_toList {cap : Nat} (positive : 0 < cap) :
    (withCapacity cap positive : Ring α).toList = [] :=
  (RawRing.withCapacity_represents positive).items_eq

/-- The length is the number of items. -/
theorem len_eq (ring : Ring α) : ring.len = ring.toList.length := ring.represents.len_eq

/-- A ring is empty when it holds no items. -/
theorem isEmpty_eq (ring : Ring α) : ring.isEmpty = ring.toList.isEmpty := by
  rw [Bool.eq_iff_iff]
  simp [isEmpty, ring.represents.len_eq]

/-- A ring is full when it holds as many items as its capacity. -/
theorem isFull_iff (ring : Ring α) : ring.isFull = true ↔ ring.toList.length = ring.cap :=
  ring.represents.isFull_iff

/-- A ring never holds more items than its capacity. -/
theorem length_le_cap (ring : Ring α) : ring.toList.length ≤ ring.cap := by
  have := ring.represents.len_le
  rwa [ring.represents.len_eq] at this

/-- A push into a full ring hands the item back and changes nothing. -/
theorem push_full {ring : Ring α} (full : ring.isFull = true) (item : α) :
    ring.push item = (ring, .error item) := by
  have raw := ring.push_raw item
  rw [RawRing.push_full full] at raw
  obtain ⟨_, valid⟩ := ring
  cases pushed : push ⟨_, valid⟩ item with
  | mk after result =>
      obtain ⟨_, _⟩ := after
      rw [pushed] at raw
      cases raw
      rfl

/-- A push into a ring with room appends the item. -/
theorem push_room {ring : Ring α} (room : ring.isFull = false) (item : α) :
    (ring.push item).2 = .ok () ∧ (ring.push item).1.toList = ring.toList ++ [item] ∧
      (ring.push item).1.cap = ring.cap := by
  obtain ⟨pushed, pushes, represents, size⟩ := ring.represents.push_room room item
  have raw := ring.push_raw item
  rw [pushes] at raw
  simp only [Option.some.injEq, Prod.mk.injEq] at raw
  exact ⟨raw.2.symm, by rw [toList, ← raw.1]; exact represents.items_eq, by
    rw [cap, ← raw.1]; exact size⟩

/-- A pop takes the oldest item out. -/
theorem pop_eq (ring : Ring α) :
    ring.pop.2 = ring.toList.head? ∧ ring.pop.1.toList = ring.toList.tail ∧
      ring.pop.1.cap = ring.cap := by
  have raw := ring.pop_raw
  have represents := ring.represents
  cases queue : ring.toList with
  | nil =>
      rw [queue] at represents
      rw [represents.pop_nil] at raw
      simp only [Option.some.injEq, Prod.mk.injEq] at raw
      exact ⟨raw.2.symm, by rw [toList, ← raw.1]; exact represents.items_eq, by
        rw [cap, ← raw.1]; rfl⟩
  | cons item rest =>
      rw [queue] at represents
      obtain ⟨popped, pops, represents, size⟩ := represents.pop_cons
      rw [pops] at raw
      simp only [Option.some.injEq, Prod.mk.injEq] at raw
      exact ⟨raw.2.symm, by rw [toList, ← raw.1]; exact represents.items_eq, by
        rw [cap, ← raw.1]; exact size⟩

end Ring

end Lochan.Queue
