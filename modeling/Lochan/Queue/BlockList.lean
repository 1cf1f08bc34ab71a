import Mathlib.Data.List.Nodup
import Mathlib.Data.List.Range
import Mathlib.Data.List.Perm.Subperm
import Mathlib.Logic.Function.Basic

/-!
# Segmented queue

The queue behind an unbounded channel: a singly-linked chain of blocks of `N`
slots. The producer writes into the tail block and links a fresh block when it is
full; the consumer reads from the head block and frees it once it is drained.

`RawBlockList` is the chain as the program manipulates it, with an explicit map from
addresses to live blocks; a step that follows a dangling link, reads an
uninitialized slot or leaves the bounds of a block has no result. `BlockList`
carries the proof that the chain holds a list.
-/

namespace Lochan.Queue

variable {α : Type} {N : Nat}

/-- A block: its slots in `[beginIdx, endIdx)` are initialized. -/
structure Block (α : Type) where
  next : Option Nat
  values : Nat → Option α
  beginIdx : Nat
  endIdx : Nat

namespace Block

/-- A block as it is allocated: all slots vacant, and no next block. -/
def alloc : Block α := ⟨none, fun _ => none, 0, 0⟩

/-- The block after a write into its first free slot. -/
def write (block : Block α) (item : α) : Block α :=
  { block with values := Function.update block.values block.endIdx (some item),
               endIdx := block.endIdx + 1 }

/-- The block after its oldest item is read out. -/
def advance (block : Block α) : Block α :=
  { block with values := Function.update block.values block.beginIdx none,
               beginIdx := block.beginIdx + 1 }

/-- The unread items of a block, oldest first: what its destructor drops. -/
def items (block : Block α) : List α :=
  (List.range' block.beginIdx (block.endIdx - block.beginIdx)).filterMap block.values

/-- The window of a block is in bounds, and exactly its slots are initialized. -/
structure WellFormed (N : Nat) (block : Block α) : Prop where
  begin_le : block.beginIdx ≤ block.endIdx
  end_le : block.endIdx ≤ N
  initialized : ∀ slot, (block.values slot).isSome ↔ block.beginIdx ≤ slot ∧ slot < block.endIdx

/-- A block that was just allocated is well formed. -/
theorem alloc_wellFormed : (alloc : Block α).WellFormed N :=
  ⟨le_rfl, Nat.zero_le _, by simp [alloc]⟩

/-- Writing into a block with room leaves it well formed. -/
theorem WellFormed.write {block : Block α} (valid : block.WellFormed N)
    (room : block.endIdx < N) (item : α) : (block.write item).WellFormed N := by
  refine ⟨Nat.le_succ_of_le valid.begin_le, room, ?_⟩
  intro slot
  have := valid.begin_le
  by_cases written : slot = block.endIdx
  · subst written
    simp only [Block.write, Function.update_self, Option.isSome_some, true_iff]
    omega
  · simp only [Block.write, Function.update_of_ne written, valid.initialized slot]
    omega

/-- Reading a block with unread items leaves it well formed. -/
theorem WellFormed.advance {block : Block α} (valid : block.WellFormed N)
    (unread : block.beginIdx < block.endIdx) : block.advance.WellFormed N := by
  refine ⟨unread, valid.end_le, ?_⟩
  intro slot
  by_cases taken : slot = block.beginIdx
  · subst taken
    simp only [Block.advance, Function.update_self, Option.isSome_none, Bool.false_eq_true,
      false_iff]
    omega
  · simp only [Block.advance, Function.update_of_ne taken, valid.initialized slot]
    omega

/-- The item that is written comes last. -/
theorem items_write {block : Block α} (valid : block.WellFormed N) (item : α) :
    (block.write item).items = block.items ++ [item] := by
  have size : block.endIdx + 1 - block.beginIdx = block.endIdx - block.beginIdx + 1 := by
    have := valid.begin_le
    omega
  have last : block.beginIdx + (block.endIdx - block.beginIdx) = block.endIdx := by
    have := valid.begin_le
    omega
  simp only [items, write, size, List.range'_concat, List.filterMap_append, Nat.one_mul, last,
    List.filterMap_cons, Function.update_self, List.filterMap_nil]
  congr 1
  apply List.filterMap_congr
  intro slot member
  rw [List.mem_range'_1] at member
  exact Function.update_of_ne (by omega) _ _

/-- The oldest unread item of a block, and the items behind it. -/
theorem items_advance {block : Block α} (valid : block.WellFormed N)
    (unread : block.beginIdx < block.endIdx) :
    ∃ item, block.values block.beginIdx = some item ∧
      block.items = item :: block.advance.items := by
  obtain ⟨item, first⟩ := Option.isSome_iff_exists.mp
    ((valid.initialized block.beginIdx).mpr ⟨le_rfl, unread⟩)
  refine ⟨item, first, ?_⟩
  have size : block.endIdx - block.beginIdx = block.endIdx - (block.beginIdx + 1) + 1 := by omega
  simp only [items, advance, size, List.range'_succ, List.filterMap_cons, first]
  congr 1
  apply List.filterMap_congr
  intro slot member
  rw [List.mem_range'_1] at member
  exact (Function.update_of_ne (by omega) _ _).symm

/-- A drained block has no unread items. -/
theorem items_drained {block : Block α} (drained : ¬ block.beginIdx < block.endIdx) :
    block.items = [] := by
  simp [items, Nat.sub_eq_zero_of_le (Nat.le_of_not_lt drained)]

end Block

/-- A chain of blocks. An address without a block was never allocated, or was
freed. -/
structure RawBlockList (N : Nat) (α : Type) where
  blocks : Nat → Option (Block α)
  /-- The number of blocks ever allocated; the next address. -/
  allocated : Nat
  head : Nat
  tail : Nat
  len : Nat

namespace RawBlockList

/-- A list of one block that is vacant. -/
def new : RawBlockList N α := ⟨Function.update (fun _ => none) 0 (some .alloc), 1, 0, 0, 0⟩

/-- Appends an item. -/
def push (list : RawBlockList N α) (item : α) : Option (RawBlockList N α) :=
  match list.blocks list.tail with
  | none => none
  | some tail =>
    if tail.endIdx < N then
      some { list with blocks := Function.update list.blocks list.tail (some (tail.write item)),
                       len := list.len + 1 }
    else if 0 < N then
      let new := list.allocated
      let linked := Function.update list.blocks new (some (Block.alloc.write item))
      some { list with blocks := Function.update linked list.tail
                         (some { tail with next := some new }),
                       allocated := new + 1, tail := new, len := list.len + 1 }
    else none

/-- Removes the oldest item, freeing the drained blocks in front of it: the list, the
item, and the items the freed blocks drop. -/
def popLoop : Nat → RawBlockList N α → Option (RawBlockList N α × Option α × List α)
  | 0, _ => none
  | fuel + 1, list =>
    match list.blocks list.head with
    | none => none
    | some head =>
      if head.beginIdx < head.endIdx then
        match head.values head.beginIdx with
        | none => none
        | some item =>
          if head.beginIdx < N ∧ 0 < list.len then
            some ({ list with blocks := Function.update list.blocks list.head (some head.advance),
                              len := list.len - 1 }, some item, [])
          else none
      else if list.head = list.tail then some (list, none, [])
      else match head.next with
        | none => none
        | some next =>
          (popLoop fuel { list with blocks := Function.update list.blocks list.head none,
                                    head := next }).map
            fun (popped, item, dropped) => (popped, item, head.items ++ dropped)

/-- Removes the oldest item; every iteration but the last frees a block. -/
def pop (list : RawBlockList N α) : Option (RawBlockList N α × Option α × List α) :=
  popLoop list.allocated list

/-- The items of the chain from an address on, following at most `fuel` blocks. -/
def itemsFrom (blocks : Nat → Option (Block α)) : Nat → Nat → List α
  | 0, _ => []
  | fuel + 1, address =>
    match blocks address with
    | none => []
    | some block => block.items ++ match block.next with
      | none => []
      | some next => itemsFrom blocks fuel next

/-- The queued items, oldest first. -/
def items (list : RawBlockList N α) : List α := itemsFrom list.blocks list.allocated list.head

/-- The chain from an address to the tail, with its addresses and its items: every
block but the tail is written to its end, and every block but the first is unread
and holds an item. -/
inductive Chain (N : Nat) (blocks : Nat → Option (Block α)) (tail : Nat) :
    Nat → List Nat → List α → Prop where
  | last {block} (live : blocks tail = some block) (valid : block.WellFormed N)
      (unlinked : block.next = none) : Chain N blocks tail tail [tail] block.items
  | cons {address next block nextBlock addresses queue} (live : blocks address = some block)
      (valid : block.WellFormed N) (full : block.endIdx = N) (linked : block.next = some next)
      (nextLive : blocks next = some nextBlock) (nextUnread : nextBlock.beginIdx = 0)
      (nextNonempty : 0 < nextBlock.endIdx) (apart : address ∉ addresses)
      (rest : Chain N blocks tail next addresses queue) :
      Chain N blocks tail address (address :: addresses) (block.items ++ queue)

namespace Chain

variable {blocks blocks' : Nat → Option (Block α)} {tail address : Nat} {addresses : List Nat}
  {queue : List α}

/-- The tail is a block of the chain. -/
theorem tail_mem (chain : Chain N blocks tail address addresses queue) : tail ∈ addresses := by
  induction chain with
  | last => exact List.mem_singleton_self _
  | cons _ _ _ _ _ _ _ _ _ ih => exact List.mem_cons_of_mem _ ih

/-- The head is a block of the chain. -/
theorem head_mem (chain : Chain N blocks tail address addresses queue) :
    address ∈ addresses := by
  cases chain with
  | last => exact List.mem_singleton_self _
  | cons => exact List.mem_cons_self ..

/-- The tail block of a chain is well-formed. -/
theorem tail_wellFormed (chain : Chain N blocks tail address addresses queue) {block : Block α}
    (live : blocks tail = some block) : block.WellFormed N := by
  induction chain with
  | last found valid _ => cases found.symm.trans live; exact valid
  | cons _ _ _ _ _ _ _ _ _ ih => exact ih

/-- No block occurs twice in a chain. -/
theorem nodup (chain : Chain N blocks tail address addresses queue) : addresses.Nodup := by
  induction chain with
  | last => exact List.nodup_singleton _
  | cons _ _ _ _ _ _ _ apart _ ih => exact List.nodup_cons.mpr ⟨apart, ih⟩

/-- A chain only depends on the blocks at its addresses. -/
theorem congr (chain : Chain N blocks tail address addresses queue)
    (same : ∀ member ∈ addresses, blocks' member = blocks member) :
    Chain N blocks' tail address addresses queue := by
  induction chain with
  | last live valid unlinked =>
      exact .last ((same _ (List.mem_singleton_self _)).trans live) valid unlinked
  | cons live valid full linked nextLive nextUnread nextNonempty apart rest ih =>
      have below := fun member inside => same member (List.mem_cons_of_mem _ inside)
      exact .cons ((same _ (List.mem_cons_self ..)).trans live) valid full linked
        ((below _ rest.head_mem).trans nextLive) nextUnread nextNonempty apart (ih below)

/-- Writing into the tail block appends to the chain. -/
theorem write (chain : Chain N blocks tail address addresses queue) {block : Block α}
    (live : blocks tail = some block) (room : block.endIdx < N) (item : α) :
    Chain N (Function.update blocks tail (some (block.write item))) tail address addresses
      (queue ++ [item]) := by
  induction chain with
  | last found valid unlinked =>
      cases found.symm.trans live
      rw [← Block.items_write valid item]
      exact .last (Function.update_self ..) (valid.write room item) unlinked
  | @cons address next head nextBlock addresses queue found valid full linked nextLive nextUnread
      nextNonempty apart rest ih =>
      have different : address ≠ tail := fun same => apart (same ▸ rest.tail_mem)
      rw [List.append_assoc]
      by_cases isTail : next = tail
      · subst isTail
        cases nextLive.symm.trans live
        exact .cons ((Function.update_of_ne different ..).trans found) valid full linked
          (Function.update_self ..) nextUnread (Nat.zero_lt_succ _) apart ih
      · exact .cons ((Function.update_of_ne different ..).trans found) valid full linked
          ((Function.update_of_ne isTail ..).trans nextLive) nextUnread nextNonempty apart ih

/-- Linking a fresh block behind a full tail block appends to the chain. -/
theorem link (chain : Chain N blocks tail address addresses queue) {block : Block α} {new : Nat}
    (live : blocks tail = some block) (full : block.endIdx = N) (positive : 0 < N)
    (fresh : new ∉ addresses) (item : α) :
    Chain N
      (Function.update (Function.update blocks new (some (Block.alloc.write item))) tail
        (some { block with next := some new }))
      new address (addresses ++ [new]) (queue ++ [item]) := by
  have allocValid : (Block.alloc : Block α).WellFormed N := Block.alloc_wellFormed
  have newBlock : (Block.alloc.write item).items = [item] := by
    rw [Block.items_write allocValid item]
    rfl
  have newValid : (Block.alloc.write item).WellFormed N :=
    allocValid.write positive item
  induction chain with
  | last found valid unlinked =>
      cases found.symm.trans live
      have different : new ≠ tail := fun same => fresh (same ▸ List.mem_singleton_self _)
      have atNew : Function.update (Function.update blocks new (some (Block.alloc.write item)))
          tail (some { block with next := some new }) new = some (Block.alloc.write item) := by
        rw [Function.update_of_ne different, Function.update_self]
      rw [← newBlock]
      have linked : ({ block with next := some new } : Block α).WellFormed N :=
        ⟨valid.begin_le, valid.end_le, valid.initialized⟩
      have apart : tail ∉ [new] := by simpa using different.symm
      have atTail : Function.update (Function.update blocks new (some (Block.alloc.write item)))
          tail (some { block with next := some new }) tail =
            some { block with next := some new } := Function.update_self ..
      show Chain N _ new tail [tail, new] (({ block with next := some new } : Block α).items ++ _)
      exact .cons atTail linked full rfl atNew rfl (Nat.zero_lt_succ _) apart
        (.last atNew newValid rfl)
  | @cons address next head nextBlock addresses queue found valid headFull linked nextLive
      nextUnread nextNonempty apart rest ih =>
      have different : address ≠ tail := fun same => apart (same ▸ rest.tail_mem)
      have fresh' : address ≠ new := fun same => fresh (same ▸ List.mem_cons_self ..)
      have freshRest : new ∉ addresses := fun member => fresh (List.mem_cons_of_mem _ member)
      have nextFresh : next ≠ new := fun same => freshRest (same ▸ rest.head_mem)
      have apart' : address ∉ addresses ++ [new] := by
        simp only [List.mem_append, List.mem_singleton, not_or]
        exact ⟨apart, fresh'⟩
      have atHead : Function.update (Function.update blocks new (some (Block.alloc.write item)))
          tail (some { block with next := some new }) address = some head := by
        rw [Function.update_of_ne different, Function.update_of_ne fresh', found]
      rw [List.append_assoc, List.cons_append]
      by_cases isTail : next = tail
      · subst isTail
        cases nextLive.symm.trans live
        exact .cons atHead valid headFull linked (Function.update_self ..) nextUnread nextNonempty
          apart' (ih freshRest)
      · refine .cons atHead valid headFull linked ?_ nextUnread nextNonempty apart' (ih freshRest)
        rw [Function.update_of_ne isTail, Function.update_of_ne nextFresh, nextLive]

/-- Walking along the chain yields its items. -/
theorem itemsFrom_eq (chain : Chain N blocks tail address addresses queue) {fuel : Nat}
    (enough : addresses.length ≤ fuel) : itemsFrom blocks fuel address = queue := by
  induction chain generalizing fuel with
  | last live _ unlinked =>
      obtain ⟨fuel, rfl⟩ := Nat.exists_eq_add_of_le' (show 1 ≤ fuel from enough)
      simp [itemsFrom, live, unlinked]
  | cons live _ _ linked _ _ _ _ _ ih =>
      obtain ⟨fuel, rfl⟩ := Nat.exists_eq_add_of_le' (show 1 ≤ fuel by
        simp only [List.length_cons] at enough; omega)
      simp only [List.length_cons, Nat.add_le_add_iff_right] at enough
      simp only [itemsFrom, live, linked, ih enough]

end Chain

/-- The list holds exactly these items, oldest first, and owns exactly the blocks of
its chain. -/
def Represents (list : RawBlockList N α) (queue : List α) : Prop :=
  ∃ addresses, Chain N list.blocks list.tail list.head addresses queue ∧
    list.len = queue.length ∧
    (∀ address, (list.blocks address).isSome ↔ address ∈ addresses) ∧
    ∀ address ∈ addresses, address < list.allocated

/-- A new list holds nothing. -/
theorem new_represents : (new : RawBlockList N α).Represents [] := by
  refine ⟨[0], ?_, rfl, ?_, by simp [new]⟩
  · have live : (new : RawBlockList N α).blocks 0 = some .alloc := by simp [new]
    exact .last live Block.alloc_wellFormed rfl
  · intro address
    by_cases zero : address = 0
    · subst zero
      simp [new]
    · simp [new, zero]

/-- A list whose members are distinct and below a bound is no longer than the bound. -/
theorem length_le_of_nodup {addresses : List Nat} {bound : Nat} (nodup : addresses.Nodup)
    (below : ∀ address ∈ addresses, address < bound) : addresses.length ≤ bound := by
  have inside : addresses ⊆ List.range bound := fun address member =>
    List.mem_range.mpr (below address member)
  simpa using (List.subperm_of_subset nodup inside).length_le

/-- Walking from the head yields the queue. -/
theorem Represents.items_eq {list : RawBlockList N α} {queue : List α}
    (represents : list.Represents queue) : list.items = queue := by
  obtain ⟨addresses, chain, -, -, below⟩ := represents
  exact chain.itemsFrom_eq (length_le_of_nodup chain.nodup below)

/-- A push appends the item. -/
theorem Represents.push {list : RawBlockList N α} {queue : List α}
    (represents : list.Represents queue) (positive : 0 < N) (item : α) :
    ∃ pushed, list.push item = some pushed ∧ pushed.Represents (queue ++ [item]) := by
  obtain ⟨addresses, chain, length, owned, below⟩ := represents
  obtain ⟨tail, live⟩ := Option.isSome_iff_exists.mp ((owned _).mpr chain.tail_mem)
  by_cases room : tail.endIdx < N
  · let pushed : RawBlockList N α :=
      { list with blocks := Function.update list.blocks list.tail (some (tail.write item)),
                  len := list.len + 1 }
    refine ⟨pushed, by simp only [RawBlockList.push, live, room, ↓reduceIte, pushed], addresses,
      chain.write live room item, by simp [pushed, length], ?_, below⟩
    intro address
    by_cases isTail : address = list.tail
    · subst isTail
      simp [pushed, chain.tail_mem]
    · simp only [pushed, Function.update_of_ne isTail, owned]
  · have full : tail.endIdx = N :=
      le_antisymm (chain.tail_wellFormed live).end_le (Nat.le_of_not_lt room)
    have fresh : list.allocated ∉ addresses := fun member => Nat.lt_irrefl _ (below _ member)
    let pushed : RawBlockList N α :=
      { list with blocks := Function.update (Function.update list.blocks list.allocated
                    (some (Block.alloc.write item))) list.tail
                    (some { tail with next := some list.allocated }),
                  allocated := list.allocated + 1, tail := list.allocated, len := list.len + 1 }
    refine ⟨pushed, by simp only [RawBlockList.push, live, room, positive, ↓reduceIte, pushed],
      addresses ++ [list.allocated], chain.link live full positive fresh item,
      by simp [pushed, length], ?_, ?_⟩
    · intro address
      by_cases isTail : address = list.tail
      · subst isTail
        simp [pushed, chain.tail_mem]
      · by_cases isNew : address = list.allocated
        · subst isNew
          simp [pushed, Function.update_of_ne isTail]
        · simp [pushed, Function.update_of_ne isTail, owned, isNew]
    · intro address member
      rcases List.mem_append.mp member with old | new
      · exact Nat.lt_succ_of_lt (below _ old)
      · rw [List.mem_singleton.mp new]
        exact Nat.lt_succ_self _

/-- A chain without its first block, that block freed. -/
theorem free_head_owned {blocks : Nat → Option (Block α)} {address : Nat} {addresses : List Nat}
    (owned : ∀ member, (blocks member).isSome ↔ member ∈ address :: addresses)
    (apart : address ∉ addresses) (member : Nat) :
    (Function.update blocks address none member).isSome ↔ member ∈ addresses := by
  by_cases same : member = address
  · subst same
    simp [apart]
  · simp [owned, same]

/-- The chain after the oldest item of its first block is read out. -/
theorem Chain.advance {blocks : Nat → Option (Block α)} {tail address : Nat}
    {addresses : List Nat} {queue : List α}
    (chain : Chain N blocks tail address addresses queue) {block : Block α}
    (live : blocks address = some block) (unread : block.beginIdx < block.endIdx) :
    ∃ item rest, queue = item :: rest ∧ block.values block.beginIdx = some item ∧
      block.beginIdx < N ∧
      Chain N (Function.update blocks address (some block.advance)) tail address
        addresses rest := by
  cases chain with
  | last found valid unlinked =>
      cases found.symm.trans live
      obtain ⟨item, first, items⟩ := Block.items_advance valid unread
      exact ⟨item, _, items, first, lt_of_lt_of_le unread valid.end_le,
        .last (Function.update_self ..) (valid.advance unread) unlinked⟩
  | @cons _ next _ _ addresses queue found valid full linked nextLive nextUnread nextNonempty apart
      rest =>
      cases found.symm.trans live
      obtain ⟨item, first, items⟩ := Block.items_advance valid unread
      have different : next ≠ address := fun same => apart (same ▸ rest.head_mem)
      refine ⟨item, block.advance.items ++ queue, by rw [items]; rfl, first,
        lt_of_lt_of_le unread valid.end_le, ?_⟩
      refine .cons (Function.update_self ..) (valid.advance unread) full linked
        ((Function.update_of_ne different ..).trans nextLive) nextUnread nextNonempty apart
        (rest.congr ?_)
      intro member inside
      have different : member ≠ address := fun same => apart (same ▸ inside)
      exact Function.update_of_ne different ..

/-- A pop whose first block has an unread item takes that item out. -/
theorem popLoop_unread {list : RawBlockList N α} {queue : List α}
    (represents : list.Represents queue) {head : Block α}
    (live : list.blocks list.head = some head) (unread : head.beginIdx < head.endIdx)
    (fuel : Nat) :
    ∃ popped, popLoop (fuel + 1) list = some (popped, queue.head?, []) ∧
      popped.Represents queue.tail := by
  obtain ⟨addresses, chain, length, owned, below⟩ := represents
  obtain ⟨item, rest, rfl, first, inBounds, advanced⟩ := chain.advance live unread
  have positive : 0 < list.len := by simp [length]
  let popped : RawBlockList N α :=
    { list with blocks := Function.update list.blocks list.head (some head.advance),
                len := list.len - 1 }
  refine ⟨popped, by
    simp only [popLoop, live, unread, first, inBounds, positive, and_self, ↓reduceIte, popped,
      List.head?_cons], addresses, advanced, by simp [popped, length], ?_, below⟩
  intro address
  by_cases isHead : address = list.head
  · subst isHead
    simp [popped, chain.head_mem]
  · simp only [popped, Function.update_of_ne isHead, owned]

/-- A list without items has one block. -/
theorem Represents.empty {list : RawBlockList N α} {queue : List α}
    (represents : list.Represents queue) {head : Block α}
    (live : list.blocks list.head = some head) (drained : ¬ head.beginIdx < head.endIdx)
    (last : list.head = list.tail) : queue = [] := by
  obtain ⟨addresses, chain, -, -, -⟩ := represents
  generalize start : list.head = address at chain
  cases chain with
  | last found valid unlinked =>
      rw [start] at live
      cases found.symm.trans live
      exact Block.items_drained drained
  | cons _ _ _ _ _ _ _ apart rest => exact absurd (start.symm.trans last ▸ rest.tail_mem) apart

/-- A drained first block may be freed; an unread block follows it. -/
theorem Represents.free_head {list : RawBlockList N α} {queue : List α}
    (represents : list.Represents queue) {head : Block α}
    (live : list.blocks list.head = some head) (drained : ¬ head.beginIdx < head.endIdx)
    (more : list.head ≠ list.tail) :
    ∃ next nextBlock, head.next = some next ∧ next ≠ list.head ∧
      list.blocks next = some nextBlock ∧ nextBlock.beginIdx < nextBlock.endIdx ∧
      Represents
        ({ list with blocks := Function.update list.blocks list.head none, head := next } :
          RawBlockList N α) queue := by
  obtain ⟨addresses, chain, length, owned, below⟩ := represents
  generalize start : list.head = address at chain
  rw [start] at live more
  cases chain with
  | last => exact absurd rfl more
  | @cons _ next _ nextBlock addresses queue found valid full linked nextLive nextUnread
      nextNonempty apart rest =>
      cases found.symm.trans live
      have different : next ≠ address := fun same => apart (same ▸ rest.head_mem)
      have empty := Block.items_drained drained
      rw [empty, List.nil_append] at length ⊢
      refine ⟨next, nextBlock, linked, different, nextLive, nextUnread ▸ nextNonempty,
        addresses, rest.congr ?_, length, free_head_owned owned apart, fun member inside =>
          below member (List.mem_cons_of_mem _ inside)⟩
      intro member inside
      have different : member ≠ address := fun same => apart (same ▸ inside)
      exact Function.update_of_ne different ..

/-- A pop takes the oldest item out, and the blocks it frees hold none. -/
theorem Represents.pop {list : RawBlockList N α} {queue : List α}
    (represents : list.Represents queue) :
    ∃ popped, list.pop = some (popped, queue.head?, []) ∧ popped.Represents queue.tail := by
  obtain ⟨addresses, chain, length, owned, below⟩ := id represents
  obtain ⟨head, live⟩ := Option.isSome_iff_exists.mp ((owned _).mpr chain.head_mem)
  have size := length_le_of_nodup chain.nodup below
  have positive : 0 < addresses.length := List.length_pos_of_mem chain.head_mem
  obtain ⟨fuel, allocated⟩ := Nat.exists_eq_add_of_le' (show 1 ≤ list.allocated by omega)
  unfold RawBlockList.pop
  rw [allocated]
  by_cases unread : head.beginIdx < head.endIdx
  · exact popLoop_unread represents live unread fuel
  have drained := Block.items_drained unread
  by_cases last : list.head = list.tail
  · obtain rfl := represents.empty live unread last
    have found : list.blocks list.tail = some head := last ▸ live
    exact ⟨list, by simp [popLoop, last, found, unread], represents⟩
  · obtain ⟨next, nextBlock, linked, different, nextLive, nextUnread, freed⟩ :=
      represents.free_head live unread last
    have two : 2 ≤ addresses.length := by
      have apart : next ∈ addresses := (owned next).mp (by simp [nextLive])
      obtain ⟨front, back, rfl⟩ := List.append_of_mem chain.head_mem
      have inside : next ∈ front ∨ next ∈ back := by simpa [different] using apart
      rcases inside with inside | inside
      all_goals
        have := List.length_pos_of_mem inside
        simp only [List.length_append, List.length_cons]
        omega
    obtain ⟨fuel, rfl⟩ := Nat.exists_eq_add_of_le' (show 1 ≤ fuel by omega)
    obtain ⟨popped, pops, represents⟩ := popLoop_unread freed
      ((Function.update_of_ne different ..).trans nextLive) nextUnread fuel
    refine ⟨popped, ?_, represents⟩
    rw [popLoop]
    simp only [live, unread, ↓reduceIte, last, linked, pops, Option.map_some, drained,
      List.nil_append]

end RawBlockList

/-- A chain of blocks together with the proof that it holds a list. -/
structure BlockList (N : Nat) (α : Type) where
  raw : RawBlockList N α
  positive : 0 < N
  valid : ∃ queue, raw.Represents queue

namespace BlockList

/-- The items in the list, oldest first. -/
def toList (list : BlockList N α) : List α := list.raw.items

/-- A list holds its items. -/
theorem represents (list : BlockList N α) : list.raw.Represents list.toList := by
  obtain ⟨queue, represents⟩ := list.valid
  rwa [toList, represents.items_eq]

/-- An empty list whose blocks have slots. -/
def new (positive : 0 < N) : BlockList N α := ⟨.new, positive, [], RawBlockList.new_represents⟩

/-- The number of items. -/
def len (list : BlockList N α) : Nat := list.raw.len

/-- Whether there are no items. -/
def isEmpty (list : BlockList N α) : Bool := list.raw.len == 0

/-- Appends an item, in a new block if the last one is full. -/
def push (list : BlockList N α) (item : α) : BlockList N α :=
  match found : list.raw.push item with
  | some pushed => ⟨pushed, list.positive, by
      obtain ⟨_, equation, represents⟩ := list.represents.push list.positive item
      cases equation.symm.trans found
      exact ⟨_, represents⟩⟩
  | none => list

/-- Removes the oldest item; also the items dropped by the blocks freed on the way. -/
def pop (list : BlockList N α) : BlockList N α × Option α × List α :=
  match found : list.raw.pop with
  | some (popped, item, dropped) => (⟨popped, list.positive, by
      obtain ⟨_, equation, represents⟩ := list.represents.pop
      cases equation.symm.trans found
      exact ⟨_, represents⟩⟩, item, dropped)
  | none => (list, none, [])

/-- A new list holds nothing. -/
@[simp] theorem new_toList (positive : 0 < N) : (new positive : BlockList N α).toList = [] :=
  RawBlockList.new_represents.items_eq

/-- The length is the number of items. -/
theorem len_eq (list : BlockList N α) : list.len = list.toList.length := by
  obtain ⟨_, _, length, _⟩ := list.represents
  exact length

/-- A list is empty when it holds no items. -/
theorem isEmpty_eq (list : BlockList N α) : list.isEmpty = list.toList.isEmpty := by
  have length : list.raw.len = list.toList.length := list.len_eq
  rw [Bool.eq_iff_iff]
  simp [isEmpty, length]

/-- A push never fails, and appends the item. -/
theorem push_toList (list : BlockList N α) (item : α) :
    (list.push item).toList = list.toList ++ [item] := by
  obtain ⟨pushed, pushes, represents⟩ := list.represents.push list.positive item
  unfold push
  split
  · rename_i found
    cases pushes.symm.trans found
    exact represents.items_eq
  · rename_i impossible
    cases pushes.symm.trans impossible

/-- A pop takes the oldest item out, and the blocks it frees drop none. -/
theorem pop_eq (list : BlockList N α) :
    list.pop.2 = (list.toList.head?, []) ∧ list.pop.1.toList = list.toList.tail := by
  obtain ⟨popped, pops, represents⟩ := list.represents.pop
  unfold pop
  split
  · rename_i found
    cases pops.symm.trans found
    exact ⟨rfl, represents.items_eq⟩
  · rename_i impossible
    cases pops.symm.trans impossible

end BlockList

end Lochan.Queue
