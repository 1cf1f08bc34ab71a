import Lochan.Queue.Fifo
import Lochan.Queue.Ring

/-!
# The ring buffer in machine words

The ring as the program computes it, in 64-bit words. An operation that overflows,
leaves the bounds of the slots or reads a slot without an item faults, and every write
and every read of a slot is recorded.
-/

namespace Lochan.Queue

variable {α : Type}

/-- Why a step of the ring has no result. -/
inductive RingFault where
  | overflow
  | underflow
  | remainderByZero
  | outOfBounds
  | uninitialized
  | unfinished
deriving DecidableEq

/-- An addition that faults when it overflows. -/
def checkedAdd (first second : UInt64) : Except RingFault UInt64 :=
  if first.toNat + second.toNat < 2 ^ 64 then .ok (first + second) else .error .overflow

/-- A subtraction that faults when it overflows. -/
def checkedSub (first second : UInt64) : Except RingFault UInt64 :=
  if second ≤ first then .ok (first - second) else .error .underflow

/-- A remainder that faults on a division by zero. -/
def checkedRem (first second : UInt64) : Except RingFault UInt64 :=
  if second = 0 then .error .remainderByZero else .ok (first % second)

/-- An access to a slot. -/
inductive SlotAccess (α : Type) where
  | wrote (slot : Nat) (item : α)
  | took (slot : Nat) (item : α)

namespace SlotAccess

/-- The item that was written to a slot and not read since. -/
def holds (slot : Nat) : List (SlotAccess α) → Option α
  | .wrote written item :: past => if written = slot then some item else holds slot past
  | .took taken _ :: past => if taken = slot then none else holds slot past
  | [] => none

/-- What holds whenever one of `cap` slots is accessed: it is in bounds, a write finds no
item in it, and a read finds the item it reads. -/
def Lawful (cap : Nat) : List (SlotAccess α) → Prop
  | .wrote slot _ :: past => (slot < cap ∧ holds slot past = none) ∧ Lawful cap past
  | .took slot item :: past => (slot < cap ∧ holds slot past = some item) ∧ Lawful cap past
  | [] => True

/-- The items written, oldest first. -/
def written : List (SlotAccess α) → List α
  | .wrote _ item :: past => written past ++ [item]
  | .took _ _ :: past => written past
  | [] => []

/-- The items read, oldest first. -/
def taken : List (SlotAccess α) → List α
  | .took _ item :: past => taken past ++ [item]
  | .wrote _ _ :: past => taken past
  | [] => []

end SlotAccess

/-- A ring in machine words, with the accesses to its slots, newest first. -/
structure WordRing (α : Type) where
  slots : List (Option α)
  head : UInt64
  len : UInt64
  trace : List (SlotAccess α)

namespace WordRing

/-- A ring of `cap` vacant slots. -/
def withCapacity (cap : UInt64) : WordRing α := ⟨List.replicate cap.toNat none, 0, 0, []⟩

/-- The number of slots, as a word. -/
def cap (ring : WordRing α) : UInt64 := .ofNat ring.slots.length

/-- Whether every slot is occupied. -/
def isFull (ring : WordRing α) : Bool := ring.len == ring.cap

/-- Appends an item, or hands it back when the ring is full. -/
def push (ring : WordRing α) (item : α) : Except RingFault (Except α Unit × WordRing α) := do
  if ring.isFull then return (.error item, ring)
  else
    let sum ← checkedAdd ring.head ring.len
    let tail ← checkedRem sum ring.cap
    if tail.toNat < ring.slots.length then
      let len ← checkedAdd ring.len 1
      return (.ok (),
        { ring with slots := ring.slots.set tail.toNat (some item), len := len,
                    trace := .wrote tail.toNat item :: ring.trace })
    else throw .outOfBounds

/-- Removes the oldest item. -/
def pop (ring : WordRing α) : Except RingFault (Option α × WordRing α) := do
  if ring.len = 0 then return (none, ring)
  else
    match ring.slots[ring.head.toNat]? with
    | none => throw .outOfBounds
    | some none => throw .uninitialized
    | some (some item) =>
      let sum ← checkedAdd ring.head 1
      let head ← checkedRem sum ring.cap
      let len ← checkedSub ring.len 1
      return (some item,
        { slots := ring.slots.set ring.head.toNat none, head := head, len := len,
          trace := .took ring.head.toNat item :: ring.trace })

/-- Pops until the ring is empty, at most `fuel` times; also the items taken out. -/
def clear : Nat → WordRing α → Except RingFault (List α × WordRing α)
  | 0, _ => throw .unfinished
  | fuel + 1, ring => do
    match ← ring.pop with
    | (none, ring) => return ([], ring)
    | (some item, ring) =>
      let (items, last) ← clear fuel ring
      return (item :: items, last)

/-- An operation of the ring, which may fault. -/
def step (ring : WordRing α) : QueueOp α → Except RingFault (Outcome α × WordRing α)
  | .push item => do
    let (result, next) ← ring.push item
    return (.pushed result, next)
  | .pop => do
    let (item, next) ← ring.pop
    return (.popped item, next)

/-- The ring with its words read as numbers. -/
def toRaw (ring : WordRing α) : RawRing α := ⟨ring.slots, ring.head.toNat, ring.len.toNat⟩

/-- The ring holds the queue of a plain list that it has followed from its creation, with
`cap` slots. -/
structure Follows (cap : Nat) (fifo : Fifo α) (ring : WordRing α) : Prop where
  represents : ring.toRaw.Represents fifo.queue
  size : ring.slots.length = cap
  holds : ∀ slot < cap, ring.slots[slot]? = some (SlotAccess.holds slot ring.trace)
  lawful : SlotAccess.Lawful cap ring.trace
  written : SlotAccess.written ring.trace = fifo.entered
  taken : SlotAccess.taken ring.trace = fifo.left

section Words

variable {cap : Nat} {fifo : Fifo α} {ring : WordRing α}

/-- A capacity that fits into a word is the number of slots. -/
theorem cap_toNat (small : ring.slots.length < 2 ^ 63) : ring.cap.toNat = ring.slots.length :=
  UInt64.toNat_ofNat_of_lt' (by
    show ring.slots.length < 2 ^ 64
    omega)

/-- A ring is full in words when it is full in numbers. -/
theorem isFull_toRaw (small : ring.slots.length < 2 ^ 63) : ring.isFull = ring.toRaw.isFull := by
  rw [Bool.eq_iff_iff, isFull, RawRing.isFull, beq_iff_eq, beq_iff_eq, ← UInt64.toNat_inj,
    cap_toNat small]
  rfl

/-- Sums of words below `2 ^ 63` do not overflow. -/
theorem checkedAdd_eq (first second : UInt64) (fits : first.toNat + second.toNat < 2 ^ 64) :
    checkedAdd first second = .ok (first + second) ∧
      (first + second).toNat = first.toNat + second.toNat := by
  refine ⟨if_pos fits, ?_⟩
  rw [UInt64.toNat_add, Nat.mod_eq_of_lt fits]

/-- A remainder by a divisor that is not zero does not fault. -/
theorem checkedRem_eq (first second : UInt64) (some : second.toNat ≠ 0) :
    checkedRem first second = .ok (first % second) ∧
      (first % second).toNat = first.toNat % second.toNat := by
  refine ⟨if_neg ?_, UInt64.toNat_mod ..⟩
  rintro rfl
  exact some rfl

/-- A subtraction of a smaller number does not fault. -/
theorem checkedSub_eq (first second : UInt64) (fits : second.toNat ≤ first.toNat) :
    checkedSub first second = .ok (first - second) ∧
      (first - second).toNat = first.toNat - second.toNat := by
  have order : second ≤ first := UInt64.le_iff_toNat_le.mpr fits
  exact ⟨if_pos order, UInt64.toNat_sub_of_le _ _ order⟩

/-- A push into a full ring hands the item back and changes nothing. -/
theorem push_full (small : ring.slots.length < 2 ^ 63) (full : ring.toRaw.isFull = true)
    (item : α) : ring.push item = .ok (.error item, ring) := by
  unfold push
  rw [isFull_toRaw small, full]
  rfl

/-- A push into a ring with room writes the slot that the numbers name. -/
theorem push_room (small : ring.slots.length < 2 ^ 63) {queue : List α}
    (represents : ring.toRaw.Represents queue) (room : ring.toRaw.isFull = false) (item : α) :
    ∃ after, ring.push item = .ok (.ok (), after) ∧
      ring.toRaw.push item = some (after.toRaw, .ok ()) ∧
      after.slots = ring.slots.set ((ring.head.toNat + ring.len.toNat) % ring.slots.length)
        (some item) ∧
      after.trace = .wrote ((ring.head.toNat + ring.len.toNat) % ring.slots.length) item ::
        ring.trace := by
  have headLt : ring.head.toNat < ring.slots.length := represents.head_lt
  have lenLe : ring.len.toNat ≤ ring.slots.length := represents.len_le
  have size := cap_toNat small
  obtain ⟨added, sum⟩ := checkedAdd_eq ring.head ring.len (by omega)
  obtain ⟨divided, tail⟩ := checkedRem_eq (ring.head + ring.len) ring.cap (by omega)
  rw [sum, size] at tail
  have one : (1 : UInt64).toNat = 1 := rfl
  obtain ⟨grown, more⟩ := checkedAdd_eq ring.len 1 (by omega)
  have bounded : (ring.head.toNat + ring.len.toNat) % ring.slots.length < ring.slots.length :=
    Nat.mod_lt _ (Nat.zero_lt_of_lt headLt)
  refine ⟨⟨ring.slots.set ((ring.head.toNat + ring.len.toNat) % ring.slots.length) (some item),
    ring.head, ring.len + 1,
    .wrote ((ring.head.toNat + ring.len.toNat) % ring.slots.length) item :: ring.trace⟩,
    ?_, ?_, rfl, rfl⟩
  · unfold push
    rw [isFull_toRaw small, room]
    simp only [Bool.false_eq_true, ↓reduceIte, added, divided, tail, grown, bounded, bind,
      Except.bind, pure, Except.pure]
  · unfold RawRing.push
    rw [room]
    simp only [toRaw, RawRing.cap, bounded, Bool.false_eq_true, ↓reduceIte, more, one]

/-- A pop of an empty ring changes nothing. -/
theorem pop_nil (represents : ring.toRaw.Represents []) : ring.pop = .ok (none, ring) := by
  have empty : ring.len = 0 := UInt64.toNat_inj.mp represents.len_eq
  unfold pop
  rw [if_pos empty]
  rfl

/-- A pop of a ring with items reads the slot that the numbers name. -/
theorem pop_cons (small : ring.slots.length < 2 ^ 63) {item : α} {queue : List α}
    (represents : ring.toRaw.Represents (item :: queue)) :
    ∃ after, ring.pop = .ok (some item, after) ∧
      ring.toRaw.pop = some (after.toRaw, some item) ∧
      after.slots = ring.slots.set ring.head.toNat none ∧
      after.trace = .took ring.head.toNat item :: ring.trace := by
  have headLt : ring.head.toNat < ring.slots.length := represents.head_lt
  have length : ring.len.toNat = queue.length + 1 := represents.len_eq
  have some : ring.len ≠ 0 := by
    intro none
    rw [none] at length
    exact absurd length (by simp)
  have first : ring.slots[ring.head.toNat]? = .some (.some item) := by
    have slot := represents.slot 0 (Nat.zero_lt_of_lt headLt)
    simpa [toRaw, RawRing.cap, Nat.mod_eq_of_lt headLt] using slot
  have size := cap_toNat small
  have one : (1 : UInt64).toNat = 1 := rfl
  obtain ⟨added, sum⟩ := checkedAdd_eq ring.head 1 (by omega)
  obtain ⟨divided, head⟩ := checkedRem_eq (ring.head + 1) ring.cap (by omega)
  rw [sum, size, one] at head
  obtain ⟨shrunk, fewer⟩ := checkedSub_eq ring.len 1 (by omega)
  refine ⟨⟨ring.slots.set ring.head.toNat none, (ring.head + 1) % ring.cap, ring.len - 1,
    .took ring.head.toNat item :: ring.trace⟩, ?_, ?_, rfl, rfl⟩
  · unfold pop
    rw [if_neg some]
    simp only [first, added, divided, shrunk, bind, Except.bind, pure, Except.pure]
  · unfold RawRing.pop
    rw [if_neg (by
      show ring.len.toNat ≠ 0
      omega)]
    simp only [toRaw, RawRing.cap, first, head, fewer, one]

/-- A new ring holds nothing. -/
theorem withCapacity_follows {size : UInt64} (positive : 0 < size.toNat) :
    Follows size.toNat .empty (withCapacity size : WordRing α) where
  represents := RawRing.withCapacity_represents positive
  size := List.length_replicate
  holds slot below := by
    rw [withCapacity, List.getElem?_replicate, if_pos below]
    rfl
  lawful := trivial
  written := rfl
  taken := rfl

/-- What a slot holds after an access to it or to another one. -/
theorem Follows.holds_set (follows : Follows cap fifo ring) {written : Nat} {item : Option α}
    {access : SlotAccess α} (below : written < cap)
    (records : ∀ slot, SlotAccess.holds slot (access :: ring.trace) =
      if written = slot then item else SlotAccess.holds slot ring.trace) :
    ∀ slot < cap, (ring.slots.set written item)[slot]? =
      some (SlotAccess.holds slot (access :: ring.trace)) := by
  intro slot inside
  rw [records slot]
  by_cases same : written = slot
  · subst same
    rw [List.getElem?_set_self (follows.size ▸ below), if_pos rfl]
  · rw [List.getElem?_set_ne same, if_neg same]
    exact follows.holds slot inside

/-- A push follows the plain list. -/
theorem Follows.push (follows : Follows cap fifo ring) (small : cap < 2 ^ 63) (item : α) :
    ∃ next, ring.step (.push item) = .ok ((fifo.step (some cap) (.push item)).1, next) ∧
      Follows cap (fifo.step (some cap) (.push item)).2 next := by
  obtain ⟨represents, size, holds, lawful, written, taken⟩ := id follows
  have small : ring.slots.length < 2 ^ 63 := size ▸ small
  have length : ring.len.toNat = fifo.queue.length := represents.len_eq
  have isFull : ring.toRaw.isFull = true ↔ fifo.queue.length = cap := by
    rw [represents.isFull_iff, ← size]
    rfl
  unfold WordRing.step Fifo.step
  by_cases full : cap = fifo.queue.length
  · refine ⟨ring, ?_, ?_⟩
    · simp only [push_full small (isFull.mpr full.symm), full, ↓reduceIte]
      rfl
    · simpa only [full, ↓reduceIte] using follows
  · have room : ring.toRaw.isFull = false := eq_false_of_ne_true fun isOver =>
      full (isFull.mp isOver).symm
    obtain ⟨after, pushes, raw, slots, trace⟩ := push_room small represents room item
    obtain ⟨pushed, raw', represents', -⟩ := represents.push_room room item
    obtain rfl : after.toRaw = pushed := congrArg Prod.fst (Option.some.inj (raw.symm.trans raw'))
    have headLt : ring.head.toNat < ring.slots.length := represents.head_lt
    have below : (ring.head.toNat + ring.len.toNat) % ring.slots.length < cap :=
      size ▸ Nat.mod_lt _ (Nat.zero_lt_of_lt headLt)
    -- The slot behind the queue holds nothing.
    have vacant : SlotAccess.holds ((ring.head.toNat + ring.len.toNat) % ring.slots.length)
        ring.trace = none := by
      have room : ring.len.toNat < ring.slots.length :=
        Nat.lt_of_le_of_ne represents.len_le fun same =>
          full (size.symm.trans (same.symm.trans length))
      have slot := represents.slot ring.len.toNat room
      rw [length, List.getElem?_eq_none (Nat.le_refl _), ← length] at slot
      exact Option.some.inj ((holds _ below).symm.trans slot)
    refine ⟨after, ?_, ?_⟩
    · simp only [pushes, Option.some.injEq, full, ↓reduceIte]
      rfl
    · simp only [Option.some.injEq, full, ↓reduceIte]
      exact
        { represents := represents'
          size := by rw [slots, List.length_set, size]
          holds := by
            rw [slots, trace]
            exact follows.holds_set below fun _ => rfl
          lawful := by
            rw [trace]
            exact ⟨⟨below, vacant⟩, lawful⟩
          written := by
            rw [trace, SlotAccess.written, written]
          taken := by
            rw [trace, SlotAccess.taken, taken] }

/-- A pop follows the plain list. -/
theorem Follows.pop (follows : Follows cap fifo ring) (small : cap < 2 ^ 63) :
    ∃ next, ring.pop = .ok (fifo.queue.head?, next) ∧
      Follows cap (fifo.step (some cap) .pop).2 next := by
  obtain ⟨represents, size, holds, lawful, written, taken⟩ := id follows
  have small : ring.slots.length < 2 ^ 63 := size ▸ small
  unfold Fifo.step
  cases queue : fifo.queue with
  | nil =>
      rw [queue] at represents
      refine ⟨ring, pop_nil represents, ?_⟩
      exact { represents, size, holds, lawful, written, taken := by simpa using taken }
  | cons item rest =>
      rw [queue] at represents
      obtain ⟨after, pops, raw, slots, trace⟩ := pop_cons small represents
      obtain ⟨popped, raw', represents', -⟩ := represents.pop_cons
      obtain rfl : after.toRaw = popped :=
        congrArg Prod.fst (Option.some.inj (raw.symm.trans raw'))
      have below : ring.head.toNat < cap := size ▸ represents.head_lt
      have full : SlotAccess.holds ring.head.toNat ring.trace = some item := by
        have headLt : ring.head.toNat < ring.slots.length := represents.head_lt
        have slot := represents.slot 0 (Nat.zero_lt_of_lt headLt)
        have first : ring.slots[ring.head.toNat]? = some (some item) := by
          simpa [toRaw, RawRing.cap, Nat.mod_eq_of_lt headLt] using slot
        exact Option.some.inj ((holds _ below).symm.trans first)
      refine ⟨after, pops, ?_⟩
      exact
        { represents := represents'
          size := by rw [slots, List.length_set, size]
          holds := by
            rw [slots, trace]
            exact follows.holds_set below fun _ => rfl
          lawful := by
            rw [trace]
            exact ⟨⟨below, full⟩, lawful⟩
          written := by rw [trace, SlotAccess.written, written]
          taken := by
            rw [trace, SlotAccess.taken, taken]
            rfl }

/-- A step of the ring does what it does to the list, and does not fault. -/
theorem Follows.step (follows : Follows cap fifo ring) (small : cap < 2 ^ 63) (op : QueueOp α) :
    ∃ next, ring.step op = .ok ((fifo.step (some cap) op).1, next) ∧
      Follows cap (fifo.step (some cap) op).2 next := by
  cases op with
  | push item => exact follows.push small item
  | pop =>
      obtain ⟨next, pops, follows'⟩ := follows.pop small
      refine ⟨next, ?_, follows'⟩
      unfold WordRing.step
      rw [pops]
      rfl

/-- Clearing takes out every item, oldest first. -/
theorem Follows.clear (follows : Follows cap fifo ring) (small : cap < 2 ^ 63) {fuel : Nat}
    (enough : fifo.queue.length < fuel) :
    ∃ last, ring.clear fuel = .ok (fifo.queue, last) ∧
      Follows cap ⟨[], fifo.entered, fifo.left ++ fifo.queue⟩ last := by
  obtain ⟨queue, entered, left⟩ := fifo
  induction queue generalizing ring left fuel with
  | nil =>
      obtain ⟨fuel, rfl⟩ := Nat.exists_eq_add_of_lt enough
      obtain ⟨next, pops, follows'⟩ := follows.pop small
      refine ⟨next, ?_, by simpa [Fifo.step] using follows'⟩
      unfold WordRing.clear
      rw [pops]
      rfl
  | cons item rest ih =>
      obtain ⟨fuel, rfl⟩ : ∃ less, fuel = less + 1 := Nat.exists_eq_succ_of_ne_zero (by
        rintro rfl
        exact Nat.not_lt_zero _ enough)
      obtain ⟨next, pops, follows'⟩ := follows.pop small
      have fewer : rest.length < fuel := Nat.lt_of_succ_lt_succ enough
      obtain ⟨last, clears, follows''⟩ := ih (left ++ [item]) follows' fewer
      refine ⟨last, ?_, by simpa using follows''⟩
      unfold WordRing.clear
      rw [pops]
      show (WordRing.clear fuel next >>= _) = _
      rw [clears]
      rfl

end Words

/-- A ring of less than `2 ^ 63` slots answers as a plain list of at most as many items. No
arithmetic overflows and no index is out of bounds; a write finds its slot without an item, and a
read finds the item that was written there. A push into a full ring changes nothing, and clearing
the ring ends, having taken out every item once, oldest first. -/
theorem is_a_bounded_fifo {size : UInt64} (positive : 0 < size.toNat)
    (small : size.toNat < 2 ^ 63) (ops : List (QueueOp α)) :
    ∃ ring, runOps WordRing.step (withCapacity size) ops =
        .ok ((Fifo.empty.run (some size.toNat) ops).1, ring) ∧
      SlotAccess.Lawful size.toNat ring.trace ∧
      SlotAccess.written ring.trace = (Fifo.empty.run (some size.toNat) ops).2.entered ∧
      SlotAccess.taken ring.trace = (Fifo.empty.run (some size.toNat) ops).2.left ∧
      ring.len.toNat = (Fifo.empty.run (some size.toNat) ops).2.queue.length ∧
      (∀ item, (Fifo.empty.run (some size.toNat) ops).2.queue.length = size.toNat ↔
        ring.push item = .ok (.error item, ring)) ∧
      ∀ fuel, ring.len.toNat < fuel → ∃ last,
        ring.clear fuel = .ok ((Fifo.empty.run (some size.toNat) ops).2.queue, last) ∧
          last.len = 0 ∧ SlotAccess.Lawful size.toNat last.trace := by
  obtain ⟨ring, runs, follows⟩ := runOps_follows
    (fun _ _ op (follows : Follows size.toNat _ _) => follows.step small op)
    (withCapacity_follows positive) ops
  have length : ring.len.toNat = (Fifo.empty.run (some size.toNat) ops).2.queue.length :=
    follows.represents.len_eq
  refine ⟨ring, runs, follows.lawful, follows.written, follows.taken, length, fun item => ?_,
    fun fuel enough => ?_⟩
  · have isFull : ring.toRaw.isFull = true ↔
        (Fifo.empty.run (some size.toNat) ops).2.queue.length = size.toNat := by
      rw [follows.represents.isFull_iff, ← follows.size]
      rfl
    have small : ring.slots.length < 2 ^ 63 := follows.size ▸ small
    rw [← isFull]
    refine ⟨fun full => push_full small full item, fun pushes => by_contra fun room => ?_⟩
    obtain ⟨after, pushes', -⟩ := push_room small follows.represents (eq_false_of_ne_true room) item
    cases pushes.symm.trans pushes'
  · obtain ⟨last, clears, ended⟩ := follows.clear small (length ▸ enough)
    refine ⟨last, clears, ?_, ended.lawful⟩
    exact UInt64.toNat_inj.mp ended.represents.len_eq

/-- Two slots: the third push is handed back, and the fourth wraps around. -/
theorem is_a_bounded_fifo_wrapped :
    ∃ ring, runOps WordRing.step (withCapacity 2)
        [.push 1, .push 2, .push 3, .pop, .push 4, .pop] =
        .ok ([.pushed (.ok ()), .pushed (.ok ()), .pushed (.error 3), .popped (some 1),
          .pushed (.ok ()), .popped (some 2)], ring) ∧ ring.len.toNat = 1 := by
  have two : 0 < (2 : UInt64).toNat := by decide
  have small : (2 : UInt64).toNat < 2 ^ 63 := by decide
  obtain ⟨ring, runs, -, -, -, length, -⟩ := is_a_bounded_fifo two small
    [.push 1, .push 2, .push 3, .pop, .push 4, .pop]
  exact ⟨ring, runs, length⟩

end WordRing

end Lochan.Queue
