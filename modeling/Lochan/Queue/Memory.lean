import Lochan.Queue.Heap

/-!
# The segmented queue accesses memory lawfully

A list in memory follows a plain list. Its accesses are lawful, it never has more than two
blocks besides those that its items fill, and its destructor leaves no block behind.
-/

namespace Lochan.Queue

variable {α : Type} {N : Nat}

/-! ### How many blocks a chain has -/

/-- A block holds the items between its indices. -/
theorem Block.items_length {block : Block α} (valid : block.WellFormed N) :
    block.items.length = block.endIdx - block.beginIdx := by
  have present : ∀ slot ∈ List.range' block.beginIdx (block.endIdx - block.beginIdx),
      (block.values slot).isSome := by
    intro slot member
    rw [List.mem_range'_1] at member
    exact (valid.initialized slot).mpr ⟨member.1, by omega⟩
  unfold Block.items
  rw [List.filterMap_length_eq_length.mpr present, List.length_range']

namespace RawBlockList.Chain

variable {blocks : Nat → Option (Block α)} {tail address : Nat} {addresses : List Nat}
  {queue : List α}

/-- The head of a chain is well formed. -/
theorem head_wellFormed (chain : Chain N blocks tail address addresses queue) {block : Block α}
    (live : blocks address = some block) : block.WellFormed N := by
  cases chain with
  | last found valid _ =>
      cases found.symm.trans live
      exact valid
  | cons found valid =>
      cases found.symm.trans live
      exact valid

/-- Every block of an unread chain but the last is filled with items. -/
theorem unread_length (chain : Chain N blocks tail address addresses queue) {block : Block α}
    (live : blocks address = some block) (unread : block.beginIdx = 0) :
    (addresses.length - 1) * N ≤ queue.length := by
  induction chain generalizing block with
  | last => simp
  | @cons address next head nextBlock addresses queue found valid full linked nextLive nextUnread
      nextNonempty apart rest ih =>
      cases found.symm.trans live
      have more := ih nextLive nextUnread
      have size := Block.items_length valid
      have some := List.length_pos_of_mem rest.head_mem
      rw [List.length_append, size, full, unread]
      obtain ⟨count, length⟩ := Nat.exists_eq_succ_of_ne_zero (Nat.ne_of_gt some)
      rw [length] at more
      rw [List.length_cons, length, Nat.succ_sub_one, Nat.succ_mul]
      simp only [Nat.succ_eq_add_one, Nat.add_sub_cancel] at more
      omega

/-- Every block of a chain but the first and the last is filled with items. -/
theorem length_le (chain : Chain N blocks tail address addresses queue) :
    (addresses.length - 2) * N ≤ queue.length := by
  cases chain with
  | last => simp
  | cons found valid full linked nextLive nextUnread nextNonempty apart rest =>
      have more := rest.unread_length nextLive nextUnread
      rw [List.length_append, List.length_cons]
      exact Nat.le_trans more (Nat.le_add_left ..)

/-- With its last block full, every block of an unread chain is filled with items. -/
theorem unread_full_length (chain : Chain N blocks tail address addresses queue)
    {block last : Block α} (live : blocks address = some block) (unread : block.beginIdx = 0)
    (ends : blocks tail = some last) (full : last.endIdx = N) :
    addresses.length * N ≤ queue.length := by
  induction chain generalizing block with
  | last found valid =>
      cases found.symm.trans live
      cases found.symm.trans ends
      rw [Block.items_length valid, full, unread, List.length_singleton]
      omega
  | @cons address next head nextBlock addresses queue found valid isFull linked nextLive nextUnread
      nextNonempty apart rest ih =>
      cases found.symm.trans live
      have more := ih nextLive nextUnread
      rw [List.length_append, Block.items_length valid, isFull, unread, List.length_cons,
        Nat.succ_mul]
      omega

/-- With its last block full, every block of a chain but the first is filled with items. -/
theorem full_length (chain : Chain N blocks tail address addresses queue) {last : Block α}
    (ends : blocks tail = some last) (full : last.endIdx = N) :
    (addresses.length - 1) * N ≤ queue.length := by
  cases chain with
  | last => simp
  | cons found valid isFull linked nextLive nextUnread nextNonempty apart rest =>
      have more := rest.unread_full_length nextLive nextUnread ends full
      rw [List.length_append, List.length_cons]
      exact Nat.le_trans more (Nat.le_add_left ..)

end RawBlockList.Chain

/-! ### What lawful accesses say -/

namespace Access

variable {past : List (Access α)} {address : Nat}

/-- No address is allocated twice. -/
theorem Lawful.allocations_nodup (lawful : Lawful N past) : (allocations past).Nodup := by
  induction past with
  | nil => exact List.nodup_nil
  | cons access past ih =>
      cases access with
      | allocated address => exact List.nodup_cons.mpr ⟨lawful.1, ih lawful.2⟩
      | _ => exact ih lawful.2

/-- No address is freed twice. -/
theorem Lawful.frees_nodup (lawful : Lawful N past) : (frees past).Nodup := by
  induction past with
  | nil => exact List.nodup_nil
  | cons access past ih =>
      cases access with
      | freed address => exact List.nodup_cons.mpr ⟨lawful.1.2, ih lawful.2⟩
      | _ => exact ih lawful.2

/-- Nothing is moved out of a slot that was not written. -/
theorem Lawful.unwritten {slot : Nat} (lawful : Lawful N past)
    (unwritten : writes address slot past = []) : removals address slot past = [] := by
  induction past with
  | nil => rfl
  | cons access past ih =>
      cases access with
      | wrote block written item =>
          simp only [writes] at unwritten
          split at unwritten
          · cases unwritten
          · exact ih lawful.2 unwritten
      | took block taken item | dropped block taken item =>
          have unwritten : writes address slot past = [] := unwritten
          simp only [removals]
          split
          · rename_i same
            obtain ⟨rfl, rfl⟩ := same
            obtain ⟨⟨-, -, written, -⟩, -⟩ := lawful
            cases unwritten.symm.trans written
          · exact ih lawful.2 unwritten
      | _ => exact ih lawful.2 unwritten

/-- The accesses leave this many live blocks and this many items in their slots. -/
structure Counts (past : List (Access α)) (live count : Nat) : Prop where
  blocks : (allocations past).length = (frees past).length + live
  items : (written past).length = (taken past).length + (discarded past).length + count

namespace Counts

variable {live count : Nat}

/-- Visiting a block changes no count. -/
theorem visited (counts : Counts past live count) (address : Nat) :
    Counts (.visited address :: past) live count := ⟨counts.blocks, counts.items⟩

/-- A block that is allocated counts as live. -/
theorem allocated (counts : Counts past live count) (address : Nat) :
    Counts (.allocated address :: past) (live + 1) count := by
  refine ⟨?_, counts.items⟩
  have := counts.blocks
  simp only [allocations, frees, List.length_cons]
  omega

/-- A block that is freed counts no more. -/
theorem freed (counts : Counts past (live + 1) count) (address beginIdx endIdx : Nat) :
    Counts (.freed address beginIdx endIdx :: past) live count := by
  refine ⟨?_, counts.items⟩
  have := counts.blocks
  simp only [allocations, frees, List.length_cons]
  omega

/-- An item that is written counts. -/
theorem wrote (counts : Counts past live count) (address slot : Nat) (item : α) :
    Counts (.wrote address slot item :: past) live (count + 1) := by
  refine ⟨counts.blocks, ?_⟩
  have := counts.items
  simp only [written, taken, discarded, List.length_append, List.length_singleton]
  omega

/-- An item that is taken counts no more. -/
theorem took (counts : Counts past live (count + 1)) (address slot : Nat) (item : α) :
    Counts (.took address slot item :: past) live count := by
  refine ⟨counts.blocks, ?_⟩
  have := counts.items
  simp only [written, taken, discarded, List.length_append, List.length_singleton]
  omega

/-- An item that is dropped counts no more. -/
theorem dropped (counts : Counts past live (count + 1)) (address slot : Nat) (item : α) :
    Counts (.dropped address slot item :: past) live count := by
  refine ⟨counts.blocks, ?_⟩
  have := counts.items
  simp only [written, taken, discarded, List.length_append, List.length_singleton]
  omega

/-- As long as every block but two is filled, the accesses stay sparse. -/
theorem sparse {access : Access α} (counts : Counts (access :: past) live count)
    (positive : 0 < N) (filled : (live - 2) * N ≤ count) (before : Sparse N past) :
    Sparse N (access :: past) := by
  refine ⟨?_, before⟩
  have blocks : Access.blocks (access :: past) = live := by
    rw [Access.blocks, counts.blocks, Nat.add_sub_cancel_left]
  have items : Access.items (access :: past) = count := by
    rw [Access.items, counts.items, Nat.add_sub_cancel_left]
  rw [blocks, items]
  have := (Nat.le_div_iff_mul_le positive).mpr filled
  omega

end Counts

end Access

/-! ### What the memory holds -/

namespace Heap

open Access

variable {heap : Heap N α} {address slot : Nat} {block : Block α} {item : α}

/-- The block that was placed is found. -/
theorem withBlock_self {value : Option (Block α)} :
    (heap.withBlock address value).list.blocks address = value := Function.update_self ..

/-- Other blocks are found where they were. -/
theorem withBlock_other {value : Option (Block α)} {other : Nat} (different : other ≠ address) :
    (heap.withBlock address value).list.blocks other = heap.list.blocks other :=
  Function.update_of_ne different ..

/-- The heap after a block was allocated. -/
def grown (heap : Heap N α) : Heap N α :=
  ⟨{ heap.list with
      blocks := Function.update heap.list.blocks heap.list.allocated (some .alloc)
      allocated := heap.list.allocated + 1 },
    .allocated heap.list.allocated :: heap.trace⟩

/-- The block that a heap has grown by is vacant. -/
theorem grown_self : heap.grown.list.blocks heap.list.allocated = some .alloc :=
  Function.update_self ..

/-- Other blocks are found where they were. -/
theorem grown_other (different : address ≠ heap.list.allocated) :
    heap.grown.list.blocks address = heap.list.blocks address :=
  Function.update_of_ne different ..

/-- The accesses so far explain the blocks and their slots. -/
structure Recorded (heap : Heap N α) : Prop where
  lawful : Lawful N heap.trace
  allocated : ∀ address, address ∈ allocations heap.trace ↔ address < heap.list.allocated
  freed : ∀ address, address ∈ frees heap.trace ↔
    address < heap.list.allocated ∧ heap.list.blocks address = none
  fresh : ∀ address slot, heap.list.allocated ≤ address →
    writes address slot heap.trace = [] ∧ removals address slot heap.trace = []
  below : ∀ address block, heap.list.blocks address = some block → address < heap.list.allocated
  holds : ∀ address block slot item, heap.list.blocks address = some block →
    block.values slot = some item → Holds address slot item heap.trace

namespace Recorded

/-- A block that is found is live. -/
theorem live (recorded : Recorded heap) (found : heap.list.blocks address = some block) :
    Live address heap.trace := by
  refine ⟨(recorded.allocated address).mpr (recorded.below address block found), fun isFreed => ?_⟩
  cases found.symm.trans ((recorded.freed address).mp isFreed).2

/-- The live blocks are those that were allocated and not freed. -/
theorem count (recorded : Recorded heap) {addresses : List Nat} (nodup : addresses.Nodup)
    (owned : ∀ address, (heap.list.blocks address).isSome ↔ address ∈ addresses) :
    (allocations heap.trace).length = (frees heap.trace).length + addresses.length := by
  have apart : (frees heap.trace).Disjoint addresses := by
    intro address isFreed member
    have gone := ((recorded.freed address).mp isFreed).2
    have alive := (owned address).mpr member
    rw [gone] at alive
    cases alive
  have perm : (frees heap.trace ++ addresses).Perm (allocations heap.trace) := by
    refine (List.perm_ext_iff_of_nodup
      (recorded.lawful.frees_nodup.append nodup apart) recorded.lawful.allocations_nodup).mpr ?_
    intro address
    rw [List.mem_append, recorded.allocated, recorded.freed, ← owned]
    constructor
    · rintro (⟨below, -⟩ | alive)
      · exact below
      · obtain ⟨block, found⟩ := Option.isSome_iff_exists.mp alive
        exact recorded.below address block found
    · intro below
      cases found : heap.list.blocks address with
      | none => exact .inl ⟨below, rfl⟩
      | some block => exact .inr rfl
  rw [← perm.length_eq, List.length_append]

/-- A visit of a block that is found is recorded. -/
theorem visit (recorded : Recorded heap) (found : heap.list.blocks address = some block) :
    Recorded (heap.recorded (.visited address)) :=
  { recorded with lawful := ⟨recorded.live found, recorded.lawful⟩ }

/-- A live block and the accesses change together. -/
theorem change (recorded : Recorded heap) (found : heap.list.blocks address = some block)
    {after : Block α} {trace : List (Access α)} (lawful : Lawful N trace)
    (allocated : allocations trace = allocations heap.trace)
    (freed : frees trace = frees heap.trace)
    (others : ∀ other slot, other ≠ address →
      writes other slot trace = writes other slot heap.trace ∧
        removals other slot trace = removals other slot heap.trace)
    (holds : ∀ slot item, after.values slot = some item → Holds address slot item trace) :
    Recorded (⟨(heap.withBlock address (some after)).list, trace⟩ : Heap N α) where
  lawful := lawful
  allocated other := by
    show other ∈ allocations trace ↔ _
    rw [allocated]
    exact recorded.allocated other
  freed other := by
    show other ∈ frees trace ↔ _
    rw [freed, recorded.freed]
    refine and_congr_right fun _ => ?_
    by_cases same : other = address
    · subst same
      simp [withBlock, found]
    · simp [withBlock, Function.update_of_ne same]
  fresh other slot above := by
    have different : other ≠ address := by
      rintro rfl
      exact Nat.not_lt_of_le above (recorded.below other block found)
    show writes other slot trace = [] ∧ removals other slot trace = []
    rw [(others other slot different).1, (others other slot different).2]
    exact recorded.fresh other slot above
  below other _ live := by
    by_cases same : other = address
    · subst same
      exact recorded.below other block found
    · exact recorded.below other _ ((withBlock_other same).symm.trans live)
  holds other _ slot item live full := by
    by_cases same : other = address
    · subst same
      obtain rfl := Option.some.inj (withBlock_self.symm.trans live)
      exact holds slot item full
    · show writes other slot trace = [item] ∧ removals other slot trace = []
      rw [(others other slot same).1, (others other slot same).2]
      exact recorded.holds other _ slot item ((withBlock_other same).symm.trans live) full

/-- The header of a block says nothing about its slots. -/
theorem header (recorded : Recorded heap) (found : heap.list.blocks address = some block)
    {after : Block α} (values : after.values = block.values) :
    Recorded (heap.withBlock address (some after)) :=
  recorded.change found recorded.lawful rfl rfl (fun _ _ _ => ⟨rfl, rfl⟩) fun slot item full =>
    recorded.holds address block slot item found (values ▸ full)

/-- A write into a slot that was never written. -/
theorem write (recorded : Recorded heap) (found : heap.list.blocks address = some block)
    (inside : slot < N) (unwritten : writes address slot heap.trace = []) :
    Recorded ((heap.withBlock address
      (some { block with values := Function.update block.values slot (some item) })).recorded
      (.wrote address slot item)) := by
  refine recorded.change found ⟨⟨recorded.live found, inside, unwritten⟩, recorded.lawful⟩ rfl rfl
    (fun other place different => ?_) fun place held full => ?_
  · have different : ¬ (address = other ∧ slot = place) := fun both => different both.1.symm
    exact ⟨if_neg different, rfl⟩
  · by_cases here : place = slot
    · subst here
      have full : Function.update block.values place (some item) place = some held := full
      obtain rfl : item = held := by simpa using full
      refine ⟨?_, recorded.lawful.unwritten unwritten⟩
      simp [withBlock, writes, unwritten]
    · have different : ¬ (address = address ∧ slot = place) := fun both => here both.2.symm
      obtain ⟨once, kept⟩ := recorded.holds address block place held found
        ((Function.update_of_ne here ..).symm.trans full)
      exact ⟨(if_neg different).trans once, kept⟩

/-- Moving an item out of a slot, to hand it out or to drop it. -/
theorem moveOut (recorded : Recorded heap) (found : heap.list.blocks address = some block)
    (inside : slot < N) (full : block.values slot = some item) {access : α → Access α}
    (moves : access = .took address slot ∨ access = .dropped address slot) :
    Recorded ((heap.withBlock address
      (some { block with values := Function.update block.values slot none })).recorded
      (access item)) := by
  have held := recorded.holds address block slot item found full
  have written : ∀ other place, writes other place (access item :: heap.trace) =
      writes other place heap.trace := by
    rcases moves with rfl | rfl <;> exact fun _ _ => rfl
  have removed : ∀ other place, ¬ (address = other ∧ slot = place) →
      removals other place (access item :: heap.trace) = removals other place heap.trace := by
    intro other place different
    rcases moves with rfl | rfl <;> exact if_neg different
  refine recorded.change found ?_ ?_ ?_ (fun other place different => ?_) fun place held full => ?_
  · rcases moves with rfl | rfl <;> exact ⟨⟨recorded.live found, inside, held⟩, recorded.lawful⟩
  · rcases moves with rfl | rfl <;> rfl
  · rcases moves with rfl | rfl <;> rfl
  · exact ⟨written other place, removed other place fun both => different both.1.symm⟩
  · have here : place ≠ slot := by
      rintro rfl
      cases (Function.update_self ..).symm.trans full
    obtain ⟨once, kept⟩ := recorded.holds address block place held found
      ((Function.update_of_ne here ..).symm.trans full)
    exact ⟨(written address place).trans once,
      (removed address place fun both => here both.2.symm).trans kept⟩

/-- Growing the heap is recorded. -/
theorem alloc (recorded : Recorded heap) : Recorded heap.grown where
  lawful := by
    refine ⟨fun before => ?_, recorded.lawful⟩
    exact Nat.lt_irrefl _ ((recorded.allocated _).mp before)
  allocated other := by
    show other ∈ heap.list.allocated :: allocations heap.trace ↔ other < heap.list.allocated + 1
    rw [List.mem_cons, recorded.allocated]
    omega
  freed other := by
    show other ∈ frees heap.trace ↔
      other < heap.list.allocated + 1 ∧ heap.grown.list.blocks other = none
    rw [recorded.freed]
    by_cases same : other = heap.list.allocated
    · subst same
      simp [grown_self]
    · rw [grown_other same]
      refine and_congr_left fun _ => ?_
      omega
  fresh other place above := recorded.fresh other place (Nat.le_of_succ_le above)
  below other _ live := by
    by_cases same : other = heap.list.allocated
    · exact same ▸ Nat.lt_succ_self _
    · exact Nat.lt_succ_of_lt (recorded.below other _ ((grown_other same).symm.trans live))
  holds other _ place held live full := by
    by_cases same : other = heap.list.allocated
    · subst same
      obtain rfl := Option.some.inj (grown_self.symm.trans live)
      cases full
    · exact recorded.holds other _ place held ((grown_other same).symm.trans live) full

/-- A block is freed once. -/
theorem free (recorded : Recorded heap) (found : heap.list.blocks address = some block)
    {beginIdx endIdx : Nat} :
    Recorded ((heap.withBlock address none).recorded (.freed address beginIdx endIdx)) where
  lawful := ⟨recorded.live found, recorded.lawful⟩
  allocated := recorded.allocated
  freed other := by
    show other ∈ address :: frees heap.trace ↔ _
    rw [List.mem_cons, recorded.freed]
    by_cases same : other = address
    · subst same
      simp [withBlock, Heap.recorded, recorded.below other block found]
    · simp [withBlock, Heap.recorded, same]
  fresh := recorded.fresh
  below other _ live := by
    by_cases same : other = address
    · subst same
      cases withBlock_self.symm.trans live
    · exact recorded.below other _ ((withBlock_other same).symm.trans live)
  holds other _ place held live full := by
    by_cases same : other = address
    · subst same
      cases withBlock_self.symm.trans live
    · exact recorded.holds other _ place held ((withBlock_other same).symm.trans live) full

end Recorded

/-! ### Single accesses -/

/-- A live block is read, and the visit recorded. -/
theorem run_deref (live : heap.list.blocks address = some block) :
    (deref address).run heap = .ok (block, heap.recorded (.visited address)) := by
  simp only [deref, getList, StateT.run_bind, StateT.run_get, pure_bind, StateT.run_pure, live]
  rfl

/-- A live block is changed, and the visit recorded. -/
theorem run_update (live : heap.list.blocks address = some block) (change : Block α → Block α) :
    (update address change).run heap =
      .ok ((), (heap.recorded (.visited address)).withBlock address (some (change block))) := by
  simp only [update, StateT.run_bind, run_deref live]
  rfl

/-- A slot of a live block is written, and the write recorded. -/
theorem run_write (live : heap.list.blocks address = some block) (below : slot < N) (item : α) :
    (write address slot item).run heap =
      .ok ((), (heap.withBlock address
        (some { block with values := Function.update block.values slot (some item) })).recorded
        (.wrote address slot item)) := by
  simp only [write, getList, StateT.run_bind, StateT.run_get, pure_bind, StateT.run_pure, live,
    below, ↓reduceIte]
  rfl

/-- A full slot of a live block is emptied, and the access recorded. -/
theorem run_moveOut (live : heap.list.blocks address = some block) (below : slot < N)
    (full : block.values slot = some item) (access : α → Access α) :
    (moveOut address slot access).run heap =
      .ok (item, (heap.withBlock address
        (some { block with values := Function.update block.values slot none })).recorded
        (access item)) := by
  simp only [moveOut, getList, StateT.run_bind, StateT.run_get, pure_bind, StateT.run_pure, live,
    below, full, ↓reduceIte]
  rfl

/-! ### Operations -/

/-- The list holds the queue of a plain list that it has followed from its creation. No freed
block held an item. -/
structure Follows (fifo : Fifo α) (heap : Heap N α) : Prop where
  recorded : Recorded heap
  represents : heap.list.Represents fifo.queue
  untouched : ∀ address block slot, heap.list.blocks address = some block →
    block.endIdx ≤ slot → writes address slot heap.trace = []
  conserves : fifo.Conserves
  written : written heap.trace = fifo.entered
  taken : taken heap.trace = fifo.left
  discarded : discarded heap.trace = []
  sparse : Sparse N heap.trace
  drained : ∀ address beginIdx endIdx, .freed address beginIdx endIdx ∈ heap.trace →
    beginIdx = endIdx

/-- The record counts the blocks of the heap and the items of the queue. -/
theorem Follows.counts {fifo : Fifo α} (follows : Follows fifo heap) {addresses : List Nat}
    (nodup : addresses.Nodup)
    (owned : ∀ address, (heap.list.blocks address).isSome ↔ address ∈ addresses) :
    Counts heap.trace addresses.length fifo.queue.length where
  blocks := follows.recorded.count nodup owned
  items := by
    rw [follows.written, follows.taken, follows.discarded, follows.conserves, List.length_append]
    rfl

/-- A new heap holds nothing. -/
theorem new_follows : Follows .empty (new : Heap N α) where
  recorded :=
    { lawful := ⟨List.not_mem_nil, trivial⟩
      allocated := fun address => by
        show address ∈ [0] ↔ address < 1
        simp
      freed := fun address => by
        show address ∈ ([] : List Nat) ↔ address < 1 ∧
          Function.update (fun _ => none) 0 (some (.alloc : Block α)) address = none
        by_cases zero : address = 0
        · subst zero
          simp
        · simp only [List.not_mem_nil, false_iff, not_and]
          omega
      fresh := fun _ _ _ => ⟨rfl, rfl⟩
      below := fun address block live => by
        have live : (Function.update (fun _ => none) 0 (some .alloc)) address = some block := live
        by_cases zero : address = 0
        · exact zero ▸ Nat.one_pos
        · rw [Function.update_of_ne zero] at live
          cases live
      holds := fun address block slot item live full => by
        have live : (Function.update (fun _ => none) 0 (some .alloc)) address = some block := live
        by_cases zero : address = 0
        · subst zero
          rw [Function.update_self] at live
          cases live
          cases full
        · rw [Function.update_of_ne zero] at live
          cases live }
  represents := RawBlockList.new_represents
  untouched _ _ _ _ _ := rfl
  conserves := Fifo.empty_conserves
  written := rfl
  taken := rfl
  discarded := rfl
  sparse := ⟨Nat.le_trans (Nat.le_succ 1) (Nat.le_add_left ..), trivial⟩
  drained _ _ _ member := by cases member with | tail _ member => cases member

/-- A step that succeeds hands its result on. -/
theorem ok_bind {β γ : Type} (value : β) (next : β → Except Fault γ) :
    (Except.ok value >>= next) = next value := rfl

section Push

variable {fifo : Fifo α}

/-- The heap with one more item counted. -/
abbrev counted (heap : Heap N α) : Heap N α :=
  { heap with list := { heap.list with len := heap.list.len + 1 } }

/-- The block with an item in its first free slot, not counted in its window. -/
abbrev filled (block : Block α) (item : α) : Block α :=
  { block with values := Function.update block.values block.endIdx (some item) }

/-- The heap after an item was written into the tail block. -/
abbrev storing (heap : Heap N α) (block : Block α) (item : α) : Heap N α :=
  ((heap.recorded (.visited heap.list.tail)).withBlock heap.list.tail
    (some (filled block item))).recorded (.wrote heap.list.tail block.endIdx item)

/-- The heap after a push into a tail block with room. -/
abbrev pushed (heap : Heap N α) (block : Block α) (item : α) : Heap N α :=
  counted (((storing heap block item).recorded (.visited heap.list.tail)).withBlock heap.list.tail
    (some (block.write item)))

/-- A push writes into the last block while that has room. -/
theorem run_push_room (live : heap.list.blocks heap.list.tail = some block)
    (room : block.endIdx < N) :
    (push item).run heap = .ok ((), pushed heap block item) := by
  have found : (heap.recorded (.visited heap.list.tail)).list.blocks heap.list.tail =
    some block := live
  have writes := run_write found room item
  have there : (storing heap block item).list.blocks heap.list.tail = some (filled block item) :=
    withBlock_self
  have bumps := run_update there fun block' => { block' with endIdx := block.endIdx + 1 }
  simp only [push, getList, modifyList, StateT.run_bind, StateT.run_get, StateT.run_pure, pure_bind,
    run_deref live, ok_bind, room, ↓reduceIte, writes, bumps, StateT.run_modify]
  rfl

/-- The heap after a fresh block was linked behind a full tail block. -/
abbrev linked (heap : Heap N α) (block : Block α) (item : α) : Heap N α :=
  let new := heap.list.allocated
  let grown := (heap.recorded (.visited heap.list.tail)).grown
  let written := (grown.withBlock new (some (filled .alloc item))).recorded (.wrote new 0 item)
  let started := (written.recorded (.visited new)).withBlock new (some (Block.alloc.write item))
  (started.recorded (.visited heap.list.tail)).withBlock heap.list.tail
    (some { block with next := some new })

/-- The heap after a push behind a full tail block. -/
abbrev extended (heap : Heap N α) (block : Block α) (item : α) : Heap N α :=
  counted
    ⟨{ (linked heap block item).list with tail := heap.list.allocated },
      (linked heap block item).trace⟩

/-- A push allocates a block when the last one has no room. -/
theorem run_push_full (live : heap.list.blocks heap.list.tail = some block)
    (full : ¬ block.endIdx < N) (positive : 0 < N) (below : heap.list.tail < heap.list.allocated) :
    (push item).run heap = .ok ((), extended heap block item) := by
  have different : heap.list.tail ≠ heap.list.allocated := Nat.ne_of_lt below
  let grown := (heap.recorded (.visited heap.list.tail)).grown
  let written := (grown.withBlock heap.list.allocated (some (filled .alloc item))).recorded
    (.wrote heap.list.allocated 0 item)
  let started := (written.recorded (.visited heap.list.allocated)).withBlock heap.list.allocated
    (some (Block.alloc.write item))
  have fresh : grown.list.blocks heap.list.allocated = some .alloc := grown_self
  have there : written.list.blocks heap.list.allocated = some (filled .alloc item) := withBlock_self
  have found : started.list.blocks heap.list.tail = some block := by
    refine (withBlock_other different).trans ?_
    refine (withBlock_other different).trans ?_
    exact (grown_other different).trans live
  have allocates : (alloc : Mem N α Nat).run (heap.recorded (.visited heap.list.tail)) =
      .ok (heap.list.allocated, grown) := rfl
  have writes : (write heap.list.allocated 0 item).run grown = .ok ((), written) :=
    run_write fresh positive item
  have starts : (update heap.list.allocated fun block' => { block' with endIdx := 1 }).run written =
      .ok ((), started) := run_update there _
  have links := run_update found fun block' => { block' with next := some heap.list.allocated }
  simp only [push, getList, modifyList, StateT.run_bind, StateT.run_get, StateT.run_pure, pure_bind,
    run_deref live, ok_bind, full, ↓reduceIte, allocates, writes, starts, links, StateT.run_modify]
  rfl

/-- A push into a tail block with room follows the plain list. -/
theorem Follows.push_room (follows : Follows fifo heap) (positive : 0 < N) (item : α)
    (live : heap.list.blocks heap.list.tail = some block) (room : block.endIdx < N) :
    heap.list.push item = some (pushed heap block item).list ∧
      Follows (fifo.step none (.push item)).2 (pushed heap block item) := by
  have unwritten := follows.untouched heap.list.tail block block.endIdx live (Nat.le_refl _)
  have stored : Recorded (storing heap block item) :=
    (follows.recorded.visit live).write live room unwritten
  have there : (storing heap block item).list.blocks heap.list.tail = some (filled block item) :=
    withBlock_self
  have noted : Recorded (((storing heap block item).recorded (.visited heap.list.tail)).withBlock
      heap.list.tail (some (block.write item))) := (stored.visit there).header there rfl
  have list : heap.list.push item = some (pushed heap block item).list := by
    simp only [RawBlockList.push, live, room, ↓reduceIte, withBlock, Heap.recorded,
      Function.update_idem]
  obtain ⟨after, pushes, represents⟩ := follows.represents.push positive item
  obtain rfl := Option.some.inj (list.symm.trans pushes)
  obtain ⟨addresses, chain, -, owned, -⟩ := follows.represents
  have visits := (follows.counts chain.nodup owned).visited heap.list.tail
  have writes := visits.wrote heap.list.tail block.endIdx item
  have filled := Nat.le_succ_of_le chain.length_le
  refine ⟨list, ?_⟩
  exact
    { recorded := { noted with }
      represents
      untouched := fun address other slot found above => by
        by_cases same : address = heap.list.tail
        · subst same
          obtain rfl : block.write item = other := Option.some.inj (withBlock_self.symm.trans found)
          have above : block.endIdx + 1 ≤ slot := above
          have different : ¬ (heap.list.tail = heap.list.tail ∧ block.endIdx = slot) := by omega
          refine (if_neg different).trans ?_
          exact follows.untouched _ block slot live (Nat.le_of_succ_le above)
        · have different : ¬ (heap.list.tail = address ∧ block.endIdx = slot) :=
            fun both => same both.1.symm
          have found : heap.list.blocks address = some other :=
            (withBlock_other same).symm.trans ((withBlock_other same).symm.trans found)
          exact (if_neg different).trans (follows.untouched address other slot found above)
      conserves := follows.conserves.step (.push item)
      written := congrArg (· ++ [item]) follows.written
      taken := follows.taken
      discarded := follows.discarded
      sparse := (writes.visited _).sparse positive filled (writes.sparse positive filled
        (visits.sparse positive chain.length_le follows.sparse))
      drained := fun address beginIdx endIdx member =>
        follows.drained address beginIdx endIdx
          (by simpa [withBlock, Heap.recorded, Heap.grown] using member) }

/-- A push behind a full tail block follows the plain list. -/
theorem Follows.push_full (follows : Follows fifo heap) (positive : 0 < N) (item : α)
    (live : heap.list.blocks heap.list.tail = some block) (full : ¬ block.endIdx < N) :
    heap.list.push item = some (extended heap block item).list ∧
      Follows (fifo.step none (.push item)).2 (extended heap block item) := by
  have below := follows.recorded.below _ block live
  have different : heap.list.tail ≠ heap.list.allocated := Nat.ne_of_lt below
  let grown := (heap.recorded (.visited heap.list.tail)).grown
  let written := (grown.withBlock heap.list.allocated (some (filled .alloc item))).recorded
    (.wrote heap.list.allocated 0 item)
  let started := (written.recorded (.visited heap.list.allocated)).withBlock heap.list.allocated
    (some (Block.alloc.write item))
  have fresh : grown.list.blocks heap.list.allocated = some .alloc := grown_self
  have there : written.list.blocks heap.list.allocated = some (filled .alloc item) := withBlock_self
  have found : started.list.blocks heap.list.tail = some block := by
    refine (withBlock_other different).trans ?_
    refine (withBlock_other different).trans ?_
    exact (grown_other different).trans live
  have unwritten : ∀ slot, writes heap.list.allocated slot heap.trace = [] := fun slot =>
    (follows.recorded.fresh _ slot (Nat.le_refl _)).1
  have allocates : Recorded grown := (follows.recorded.visit live).alloc
  have stores : Recorded written := allocates.write fresh positive (unwritten 0)
  have starts : Recorded started := (stores.visit there).header there rfl
  have links : Recorded (linked heap block item) := (starts.visit found).header found rfl
  have list : heap.list.push item = some (extended heap block item).list := by
    simp only [RawBlockList.push, live, full, positive, ↓reduceIte]
    simp only [linked, withBlock, Heap.recorded, Heap.grown, Function.update_idem]
  obtain ⟨after, pushes, represents⟩ := follows.represents.push positive item
  obtain rfl := Option.some.inj (list.symm.trans pushes)
  obtain ⟨addresses, chain, -, owned, -⟩ := follows.represents
  have isFull : block.endIdx = N :=
    Nat.le_antisymm (chain.tail_wellFormed live).end_le (Nat.le_of_not_lt full)
  have visits := (follows.counts chain.nodup owned).visited heap.list.tail
  have allocated := visits.allocated heap.list.allocated
  have filled : (addresses.length + 1 - 2) * N ≤ fifo.queue.length := chain.full_length live isFull
  have writes := allocated.wrote heap.list.allocated 0 item
  have filled' := Nat.le_succ_of_le filled
  have sparse := writes.sparse positive filled' (allocated.sparse positive filled
    (visits.sparse positive chain.length_le follows.sparse))
  refine ⟨list, ?_⟩
  exact
    { recorded := { links with }
      represents
      untouched := fun address other slot present above => by
        have present : (linked heap block item).list.blocks address = some other := present
        by_cases isNew : heap.list.allocated = address ∧ 0 = slot
        · obtain ⟨rfl, rfl⟩ := isNew
          obtain rfl : Block.alloc.write item = other := Option.some.inj
            (withBlock_self.symm.trans ((withBlock_other different.symm).symm.trans present))
          exact absurd above (Nat.not_succ_le_zero 0)
        · refine (if_neg isNew).trans ?_
          by_cases isTail : address = heap.list.tail
          · subst isTail
            obtain rfl := Option.some.inj (withBlock_self.symm.trans present)
            exact follows.untouched _ block slot live above
          · by_cases same : address = heap.list.allocated
            · exact same ▸ unwritten slot
            · have inStarted : started.list.blocks address = some other :=
                (withBlock_other isTail).symm.trans present
              have inWritten : written.list.blocks address = some other :=
                (withBlock_other same).symm.trans inStarted
              have inGrown : grown.list.blocks address = some other :=
                (withBlock_other same).symm.trans inWritten
              exact follows.untouched address other slot
                ((grown_other same).symm.trans inGrown) above
      conserves := follows.conserves.step (.push item)
      written := congrArg (· ++ [item]) follows.written
      taken := follows.taken
      discarded := follows.discarded
      sparse := ((writes.visited _).visited _).sparse positive filled'
        ((writes.visited _).sparse positive filled' sparse)
      drained := fun address beginIdx endIdx member =>
        follows.drained address beginIdx endIdx
          (by simpa [linked, withBlock, Heap.recorded, Heap.grown] using member) }

/-- A push follows the plain list, and computes what it does without the accesses. -/
theorem Follows.push (follows : Follows fifo heap) (positive : 0 < N) (item : α) :
    ∃ next, (push item).run heap = .ok ((), next) ∧ heap.list.push item = some next.list ∧
      Follows (fifo.step none (.push item)).2 next := by
  obtain ⟨addresses, chain, -, owned, -⟩ := follows.represents
  obtain ⟨block, live⟩ := Option.isSome_iff_exists.mp ((owned _).mpr chain.tail_mem)
  by_cases room : block.endIdx < N
  · obtain ⟨list, follows'⟩ := follows.push_room positive item live room
    exact ⟨_, run_push_room live room, list, follows'⟩
  · obtain ⟨list, follows'⟩ := follows.push_full positive item live room
    have below := follows.recorded.below _ block live
    exact ⟨_, run_push_full live room positive below, list, follows'⟩

end Push

/-! ### Freeing a block -/

section Free

variable {live count : Nat}

/-- Dropping the items of a stretch of slots. -/
theorem run_dropSlots (start length : Nat) (recorded : Recorded heap)
    (found : heap.list.blocks address = some block) (inside : start + length ≤ N)
    (full : ∀ slot, start ≤ slot → slot < start + length → (block.values slot).isSome)
    (counts : Counts heap.trace live (length + count)) (positive : 0 < N)
    (filled : (live - 2) * N ≤ count) (sparse : Sparse N heap.trace) :
    ∃ after values, (dropSlots address (List.range' start length)).run heap = .ok ((), after) ∧
      after.list = (heap.withBlock address (some { block with values })).list ∧
      Recorded after ∧ Counts after.trace live count ∧ Sparse N after.trace ∧
      written after.trace = written heap.trace ∧ taken after.trace = taken heap.trace ∧
      discarded after.trace = discarded heap.trace ++
        (List.range' start length).filterMap block.values ∧
      (length = 0 → after.trace = heap.trace) := by
  induction length generalizing heap block start with
  | zero =>
      refine ⟨heap, block.values, rfl, ?_, recorded, Nat.zero_add count ▸ counts, sparse, rfl, rfl,
        (List.append_nil _).symm, fun _ => rfl⟩
      show _ = { heap.list with blocks := Function.update heap.list.blocks address (some block) }
      rw [← found, Function.update_eq_self]
  | succ length ih =>
      obtain ⟨item, held⟩ := Option.isSome_iff_exists.mp
        (full start (Nat.le_refl _) (Nat.lt_add_of_pos_right (Nat.succ_pos _)))
      have below : start < N := by omega
      have moves := run_moveOut found below held (.dropped address start)
      have recorded' : Recorded ((heap.withBlock address (some { block with
          values := Function.update block.values start none })).recorded
          (.dropped address start item)) := recorded.moveOut found below held (.inr rfl)
      have counts : Counts heap.trace live (length + count + 1) := by
        rwa [Nat.add_right_comm] at counts
      have drops := counts.dropped address start item
      have filled' : (live - 2) * N ≤ length + count := Nat.le_trans filled (Nat.le_add_left ..)
      obtain ⟨after, values, runs, list, recorded'', counts', sparse', written', taken', discarded',
          -⟩ := ih (start + 1) recorded' withBlock_self (by omega)
        (fun slot above inside => by
          have different : slot ≠ start := by omega
          show (Function.update block.values start none slot).isSome
          rw [Function.update_of_ne different]
          exact full slot (by omega) (by omega))
        drops (drops.sparse positive filled' sparse)
      refine ⟨after, values, ?_, ?_, recorded'', counts', sparse', written', taken', ?_, nofun⟩
      · rw [List.range'_succ]
        simp only [dropSlots, StateT.run_bind, moves, ok_bind]
        exact runs
      · rw [list]
        simp [withBlock, Heap.recorded]
      · have rest : (List.range' (start + 1) length).filterMap
            (Function.update block.values start none) =
            (List.range' (start + 1) length).filterMap block.values := by
          apply List.filterMap_congr
          intro slot member
          rw [List.mem_range'_1] at member
          exact Function.update_of_ne (by omega) ..
        calc discarded after.trace
            = (discarded heap.trace ++ [item]) ++ (List.range' (start + 1) length).filterMap
                (Function.update block.values start none) := discarded'
          _ = discarded heap.trace ++ (List.range' start (length + 1)).filterMap block.values := by
              rw [rest, List.range'_succ, List.filterMap_cons, held, List.append_assoc]
              rfl

/-- Freeing a block drops the items it still holds. -/
theorem run_free (recorded : Recorded heap) (found : heap.list.blocks address = some block)
    (valid : block.WellFormed N)
    (counts : Counts heap.trace (live + 1) (block.items.length + count))
    (positive : 0 < N) (filled : (live + 1 - 2) * N ≤ count) (sparse : Sparse N heap.trace) :
    ∃ after, (free address).run heap = .ok ((), after) ∧
      after.list = (heap.withBlock address none).list ∧ Recorded after ∧
      Counts after.trace live count ∧ Sparse N after.trace ∧
      written after.trace = written heap.trace ∧ taken after.trace = taken heap.trace ∧
      discarded after.trace = discarded heap.trace ++ block.items ∧
      (block.items = [] → after.trace =
        .freed address block.beginIdx block.endIdx :: .visited address :: heap.trace) := by
  have order := valid.begin_le
  have bound := valid.end_le
  have size := Block.items_length valid
  have filled' : (live + 1 - 2) * N ≤ block.items.length + count :=
    Nat.le_trans filled (Nat.le_add_left ..)
  have visits := counts.visited address
  rw [size] at visits
  obtain ⟨after, values, runs, list, recorded', counts', sparse', written', taken', discarded',
      same⟩ := run_dropSlots block.beginIdx (block.endIdx - block.beginIdx)
    (recorded.visit found) found (by omega)
    (fun slot above inside => (valid.initialized slot).mpr ⟨above, by omega⟩) visits positive filled
    (visits.sparse positive (size ▸ filled') sparse)
  have there : after.list.blocks address = some { block with values } := by
    rw [list]
    exact withBlock_self
  have less : (live - 2) * N ≤ count :=
    Nat.le_trans (Nat.mul_le_mul_right _ (by omega)) filled
  have frees := counts'.freed address block.beginIdx block.endIdx
  refine ⟨(after.withBlock address none).recorded (.freed address block.beginIdx block.endIdx),
    ?_, ?_, recorded'.free there, frees, frees.sparse positive less sparse', written', taken',
    discarded', fun empty => ?_⟩
  · simp only [free, StateT.run_bind, run_deref found, ok_bind, runs]
    rfl
  · show { after.list with blocks := Function.update after.list.blocks address none } = _
    rw [list]
    simp [withBlock, Heap.recorded]
  · have none : block.endIdx - block.beginIdx = 0 := by
      rw [← size, empty]
      rfl
    exact congrArg _ (same none)

end Free

/-! ### Popping -/

section Pop

variable {fifo : Fifo α}

/-- A visit changes neither the queue nor the blocks. -/
theorem Follows.visit (follows : Follows fifo heap) (positive : 0 < N)
    (found : heap.list.blocks address = some block) :
    Follows fifo (heap.recorded (.visited address)) := by
  obtain ⟨addresses, chain, -, owned, -⟩ := follows.represents
  have visits := (follows.counts chain.nodup owned).visited address
  exact { follows with
    recorded := follows.recorded.visit found
    sparse := visits.sparse positive chain.length_le follows.sparse
    drained := fun other beginIdx endIdx member =>
      follows.drained other beginIdx endIdx (by simpa [Heap.recorded] using member) }

/-- The heap after an item was moved out of the head block. -/
abbrev taking (heap : Heap N α) (block : Block α) (item : α) : Heap N α :=
  (heap.withBlock heap.list.head
    (some { block with values := Function.update block.values block.beginIdx none })).recorded
    (.took heap.list.head block.beginIdx item)

/-- The heap after an item was popped from the head block. -/
abbrev popped (heap : Heap N α) (block : Block α) (item : α) : Heap N α :=
  let noted := ((taking heap block item).recorded (.visited heap.list.head)).withBlock
    heap.list.head (some block.advance)
  { noted with list := { noted.list with len := noted.list.len - 1 } }

/-- Taking the oldest item out of the head block. -/
theorem Follows.pop_unread (follows : Follows fifo heap) (positive : 0 < N)
    (live : heap.list.blocks heap.list.head = some block)
    (unread : block.beginIdx < block.endIdx) (fuel : Nat) :
    ∃ next, (popLoop (fuel + 1)).run heap = .ok (fifo.queue.head?, next) ∧
      (∀ steps, heap.list.popLoop (steps + 1) = some (next.list, fifo.queue.head?, [])) ∧
      Follows (fifo.step none .pop).2 next := by
  let visited := heap.recorded (.visited heap.list.head)
  have visits : Follows fifo visited := follows.visit positive live
  have live' : visited.list.blocks heap.list.head = some block := live
  obtain ⟨addresses, chain, length, owned, -⟩ := id visits.represents
  obtain ⟨item, rest, queue, held, below, advanced⟩ := chain.advance live unread
  have nonempty : 0 < heap.list.len := by
    have length : heap.list.len = fifo.queue.length := length
    rw [length, queue]
    exact Nat.succ_pos _
  have there : (taking visited block item).list.blocks heap.list.head =
      some { block with values := Function.update block.values block.beginIdx none } :=
    withBlock_self
  have moves : (moveOut heap.list.head block.beginIdx (.took heap.list.head block.beginIdx)).run
      visited = .ok (item, taking visited block item) := run_moveOut live' below held _
  have bumps := run_update there fun block' => { block' with beginIdx := block.beginIdx + 1 }
  have list : ∀ steps, heap.list.popLoop (steps + 1) =
      some ((popped visited block item).list, some item, []) := by
    intro steps
    simp only [RawBlockList.popLoop, live, unread, held, below, nonempty, and_self, ↓reduceIte]
    simp only [withBlock, Heap.recorded, Function.update_idem, visited]
  have first : fifo.queue.head? = some item := by rw [queue]; rfl
  have represents : (popped visited block item).list.Represents fifo.queue.tail := by
    obtain ⟨after, pops, represents⟩ :=
      RawBlockList.popLoop_unread follows.represents live unread fuel
    obtain rfl : (popped visited block item).list = after :=
      congrArg Prod.fst (Option.some.inj ((list fuel).symm.trans pops))
    exact represents
  have moved : Recorded (taking visited block item) :=
    visits.recorded.moveOut live' below held (.inl rfl)
  have noted : Recorded (((taking visited block item).recorded
      (.visited heap.list.head)).withBlock heap.list.head (some block.advance)) :=
    (moved.visit there).header there rfl
  have counts : Counts visited.trace addresses.length (rest.length + 1) := by
    have counts := visits.counts chain.nodup owned
    rwa [queue] at counts
  have takes := counts.took heap.list.head block.beginIdx item
  rw [first]
  refine ⟨popped visited block item, ?_, list, ?_⟩
  · simp only [popLoop, getList, modifyList, StateT.run_bind, StateT.run_get, StateT.run_pure,
      pure_bind, run_deref live, ok_bind, unread, ↓reduceIte]
    show ((moveOut heap.list.head block.beginIdx (.took heap.list.head block.beginIdx)).run
      visited >>= _) = _
    rw [moves, ok_bind, bumps, ok_bind]
    show (if 0 < heap.list.len then _ else _ : Mem N α (Option α)).run _ = _
    rw [if_pos nonempty]
    rfl
  · exact
      { recorded := { noted with }
        represents
        untouched := fun address other slot present above => by
          by_cases same : address = heap.list.head
          · subst same
            obtain rfl : block.advance = other :=
              Option.some.inj (withBlock_self.symm.trans present)
            exact follows.untouched _ block slot live above
          · have present : heap.list.blocks address = some other :=
              (withBlock_other same).symm.trans ((withBlock_other same).symm.trans present)
            exact follows.untouched address other slot present above
        conserves := follows.conserves.step .pop
        written := follows.written
        taken := by
          show Access.taken heap.trace ++ [item] = fifo.left ++ fifo.queue.head?.toList
          rw [follows.taken, first]
          rfl
        discarded := follows.discarded
        sparse := (takes.visited _).sparse positive advanced.length_le
          (takes.sparse positive advanced.length_le visits.sparse)
        drained := fun address beginIdx endIdx member => visits.drained address beginIdx endIdx
          (by simpa [withBlock, Heap.recorded] using member) }

/-- The heap with the head moved on to another block. -/
abbrev moved (heap : Heap N α) (next : Nat) : Heap N α :=
  ⟨{ heap.list with head := next }, heap.trace⟩

/-- Freeing the drained head block, which holds no item. -/
theorem Follows.free_head (follows : Follows fifo heap) (positive : 0 < N)
    (live : heap.list.blocks heap.list.head = some block)
    (drained : ¬ block.beginIdx < block.endIdx) (more : heap.list.head ≠ heap.list.tail) :
    ∃ next nextBlock after, block.next = some next ∧
      (free heap.list.head).run (moved heap next) = .ok ((), after) ∧
      after.list = ((moved heap next).withBlock heap.list.head none).list ∧
      after.list.blocks next = some nextBlock ∧ nextBlock.beginIdx < nextBlock.endIdx ∧
      next ≠ heap.list.head ∧ next < heap.list.allocated ∧ Follows fifo after := by
  obtain ⟨next, nextBlock, linked, different, nextLive, nextUnread, represents⟩ :=
    follows.represents.free_head live drained more
  obtain ⟨addresses, chain, -, owned, -⟩ := follows.represents
  have valid := chain.head_wellFormed live
  have empty := Block.items_drained drained
  obtain ⟨count, size⟩ := Nat.exists_eq_succ_of_ne_zero
    (Nat.ne_of_gt (List.length_pos_of_mem chain.head_mem))
  have counts : Counts heap.trace (count + 1) (block.items.length + fifo.queue.length) := by
    have counts := follows.counts chain.nodup owned
    rw [size] at counts
    rwa [empty, List.length_nil, Nat.zero_add]
  have filled : (count + 1 - 2) * N ≤ fifo.queue.length := by
    have filled := chain.length_le
    rwa [size] at filled
  have recorded : Recorded (moved heap next) := { follows.recorded with }
  obtain ⟨after, frees, list, recorded', -, sparse, written, taken, discarded, trace⟩ :=
    run_free recorded live valid counts positive filled follows.sparse
  have nextLive' : after.list.blocks next = some nextBlock := by
    rw [list]
    exact (Function.update_of_ne different ..).trans nextLive
  refine ⟨next, nextBlock, after, linked, frees, list, nextLive', nextUnread, different,
    follows.recorded.below next nextBlock nextLive, ?_⟩
  have trace := trace empty
  exact
    { recorded := recorded'
      represents := list ▸ represents
      untouched := fun address other slot present above => by
        rw [list] at present
        have present : (Function.update heap.list.blocks heap.list.head none) address =
            some other := present
        have different : address ≠ heap.list.head := by
          rintro rfl
          cases (Function.update_self ..).symm.trans present
        rw [Function.update_of_ne different] at present
        rw [trace]
        exact follows.untouched address other slot present above
      conserves := follows.conserves
      written := written.trans follows.written
      taken := taken.trans follows.taken
      discarded := by rw [discarded, empty, List.append_nil, follows.discarded]
      sparse := sparse
      drained := fun address beginIdx endIdx member => by
        have order := valid.begin_le
        rw [trace] at member
        rcases List.mem_cons.mp member with same | member
        · obtain ⟨rfl, rfl, rfl⟩ := Access.freed.inj same
          omega
        · exact follows.drained address beginIdx endIdx (by simpa using member) }

/-- A pop follows the plain list, within two iterations, and computes what it does without the
accesses. -/
theorem Follows.pop (follows : Follows fifo heap) (positive : 0 < N) {fuel : Nat}
    (enough : 2 ≤ fuel) :
    ∃ next, (popLoop fuel).run heap = .ok (fifo.queue.head?, next) ∧
      heap.list.pop = some (next.list, fifo.queue.head?, []) ∧
      Follows (fifo.step none .pop).2 next := by
  obtain ⟨fuel, rfl⟩ := Nat.exists_eq_add_of_le' enough
  obtain ⟨addresses, chain, -, owned, below⟩ := follows.represents
  obtain ⟨block, live⟩ := Option.isSome_iff_exists.mp ((owned _).mpr chain.head_mem)
  have room := follows.recorded.below _ block live
  obtain ⟨steps, allocated⟩ := Nat.exists_eq_add_of_lt room
  unfold RawBlockList.pop
  by_cases unread : block.beginIdx < block.endIdx
  · obtain ⟨next, pops, list, follows'⟩ := follows.pop_unread positive live unread (fuel + 1)
    exact ⟨next, pops, allocated ▸ list _, follows'⟩
  have visits := follows.visit positive live
  by_cases last : heap.list.head = heap.list.tail
  · -- The only block is drained.
    have empty := follows.represents.empty live unread last
    have found : heap.list.blocks heap.list.tail = some block := last ▸ live
    rw [empty]
    refine ⟨heap.recorded (.visited heap.list.head), ?_, ?_, ?_⟩
    · rw [popLoop]
      simp only [getList, StateT.run_bind, StateT.run_get, StateT.run_pure, pure_bind,
        run_deref live, ok_bind, unread, ↓reduceIte]
      show (if heap.list.head = heap.list.tail then _ else _ : Mem N α (Option α)).run _ = _
      rw [if_pos last]
      rfl
    · rw [allocated]
      simp only [RawBlockList.popLoop, found, unread, last, ↓reduceIte]
      rfl
    · have same : (fifo.step none .pop).2 = fifo := by
        obtain ⟨queue, entered, left⟩ := fifo
        obtain rfl : queue = [] := empty
        simp [Fifo.step]
      rw [same]
      exact visits
  · obtain ⟨next, nextBlock, freed, linked, frees, list, nextLive, nextUnread, different, inside,
      follows'⟩ := visits.free_head positive live unread last
    have head : freed.list.head = next := by
      rw [list]
      rfl
    have frees : (free heap.list.head).run
        (moved (heap.recorded (.visited heap.list.head)) next) = .ok ((), freed) := frees
    obtain ⟨after, pops, popped, follows''⟩ := follows'.pop_unread positive
      (head.symm ▸ nextLive) nextUnread fuel
    refine ⟨after, ?_, ?_, follows''⟩
    · rw [popLoop]
      simp only [getList, modifyList, StateT.run_bind, StateT.run_get, StateT.run_pure, pure_bind,
        run_deref live, ok_bind, unread, ↓reduceIte]
      show (if heap.list.head = heap.list.tail then _ else _ : Mem N α (Option α)).run _ = _
      rw [if_neg last, linked]
      simp only [StateT.run_bind, StateT.run_modify, pure_bind]
      show ((free heap.list.head).run
        (moved (heap.recorded (.visited heap.list.head)) next) >>= _) = _
      rw [frees, ok_bind]
      exact pops
    · have two : ∃ steps, heap.list.allocated = steps + 2 := by
        have room' : next < heap.list.allocated := inside
        have different' : next ≠ heap.list.head := different
        exact ⟨heap.list.allocated - 2, by omega⟩
      obtain ⟨steps, allocated⟩ := two
      have raw := popped steps
      rw [list] at raw
      rw [allocated, RawBlockList.popLoop]
      simp only [live, unread, ↓reduceIte, last, linked, Block.items_drained unread,
        List.nil_append]
      show Option.map _ (RawBlockList.popLoop (steps + 1) _) = _
      exact congrArg (Option.map _) raw

end Pop

/-- Every operation follows the plain list. -/
theorem Follows.step {fifo : Fifo α} (follows : Follows fifo heap) (positive : 0 < N) {fuel : Nat}
    (enough : 2 ≤ fuel) (op : QueueOp α) :
    ∃ next, Heap.step fuel heap op = .ok ((fifo.step none op).1, next) ∧
      Follows (fifo.step none op).2 next := by
  cases op with
  | push item =>
      obtain ⟨next, pushes, -, follows'⟩ := follows.push positive item
      exact ⟨next, by simp only [Heap.step, pushes, ok_bind]; rfl, follows'⟩
  | pop =>
      obtain ⟨next, pops, -, follows'⟩ := follows.pop positive enough
      exact ⟨next, by simp only [Heap.step, pops, ok_bind]; rfl, follows'⟩

/-! ### Dropping the list -/

/-- The destructor frees every block of the chain, and drops the items in it, oldest first. -/
theorem run_dropLoop {blocks : Nat → Option (Block α)} {tail : Nat} {addresses : List Nat}
    {queue : List α} (chain : RawBlockList.Chain N blocks tail address addresses queue)
    (recorded : Recorded heap)
    (same : ∀ member ∈ addresses, heap.list.blocks member = blocks member)
    (owned : ∀ member, (heap.list.blocks member).isSome ↔ member ∈ addresses)
    (counts : Counts heap.trace addresses.length queue.length) (positive : 0 < N)
    (sparse : Sparse N heap.trace) :
    ∃ last, (∀ fuel, addresses.length ≤ fuel →
        (dropLoop fuel (some address)).run heap = .ok ((), last)) ∧ Recorded last ∧
      (∀ member, last.list.blocks member = none) ∧ Sparse N last.trace ∧
      written last.trace = written heap.trace ∧ taken last.trace = taken heap.trace ∧
      discarded last.trace = discarded heap.trace ++ queue := by
  induction chain generalizing heap with
  | @last block found valid unlinked =>
      have live : heap.list.blocks tail = some block :=
        (same tail (List.mem_singleton_self _)).trans found
      have visits : Counts (.visited tail :: heap.trace) (0 + 1) (block.items.length + 0) :=
        counts.visited tail
      obtain ⟨after, frees, list, recorded', -, sparse', written, taken, discarded, -⟩ :=
        run_free (recorded.visit live) live valid visits positive (by simp)
          (visits.sparse positive (by simp) sparse)
      refine ⟨after, fun fuel enough => ?_, recorded', fun member => ?_, sparse', written, taken,
        discarded⟩
      · obtain ⟨fuel, rfl⟩ : ∃ less, fuel = less + 1 := Nat.exists_eq_succ_of_ne_zero (by
          rintro rfl
          exact Nat.not_succ_le_zero _ enough)
        unfold dropLoop
        simp only [StateT.run_bind, run_deref live, ok_bind, frees, unlinked]
        cases fuel <;> rfl
      · rw [list]
        by_cases here : member = tail
        · subst here
          exact withBlock_self
        · refine (withBlock_other here).trans ?_
          refine Option.not_isSome_iff_eq_none.mp fun alive => here ?_
          exact List.mem_singleton.mp ((owned member).mp alive)
  | @cons address next block nextBlock addresses queue found valid full linked nextLive nextUnread
      nextNonempty apart rest ih =>
      have live : heap.list.blocks address = some block :=
        (same address List.mem_cons_self).trans found
      have filled : (addresses.length + 1 - 2) * N ≤ queue.length :=
        rest.unread_length nextLive nextUnread
      have visits : Counts (.visited address :: heap.trace) (addresses.length + 1)
          (block.items.length + queue.length) := by
        rw [List.length_append] at counts
        exact counts.visited address
      have filled' : (addresses.length + 1 - 2) * N ≤ block.items.length + queue.length :=
        Nat.le_trans filled (Nat.le_add_left ..)
      obtain ⟨after, frees, list, recorded', counts', sparse', written, taken, discarded, -⟩ :=
        run_free (recorded.visit live) live valid visits positive filled
          (visits.sparse positive filled' sparse)
      have others : ∀ member, member ≠ address →
          after.list.blocks member = heap.list.blocks member := by
        intro member different
        rw [list]
        exact withBlock_other different
      have gone : after.list.blocks address = none := by
        rw [list]
        exact withBlock_self
      obtain ⟨last, drops, recorded'', none, sparse'', written', taken', discarded'⟩ :=
        ih recorded'
          (fun member inside => (others member fun here => apart (here ▸ inside)).trans
            (same member (List.mem_cons_of_mem _ inside)))
          (fun member => by
            by_cases here : member = address
            · subst here
              simp [gone, apart]
            · rw [others member here, owned, List.mem_cons]
              exact or_iff_right here)
          counts' sparse'
      refine ⟨last, fun fuel enough => ?_, recorded'', none, sparse'', written'.trans written,
        taken'.trans taken, ?_⟩
      · obtain ⟨fuel, rfl⟩ : ∃ less, fuel = less + 1 := Nat.exists_eq_succ_of_ne_zero (by
          rintro rfl
          exact Nat.not_succ_le_zero _ enough)
        unfold dropLoop
        simp only [StateT.run_bind, run_deref live, ok_bind, frees, linked]
        exact drops fuel (Nat.le_of_succ_le_succ enough)
      · rw [discarded', discarded, List.append_assoc]
        rfl

/-- The number of live blocks is the number of blocks of the chain. -/
theorem live_eq {addresses : List Nat} (nodup : addresses.Nodup)
    (owned : ∀ member, (heap.list.blocks member).isSome ↔ member ∈ addresses)
    (below : ∀ member ∈ addresses, member < heap.list.allocated) :
    heap.live = addresses.length := by
  refine List.Perm.length_eq ((List.perm_ext_iff_of_nodup ?_ nodup).mpr fun member => ?_)
  · exact List.nodup_range.filter _
  · rw [List.mem_filter, List.mem_range, owned]
    exact ⟨And.right, fun inside => ⟨below member inside, inside⟩⟩

/-! ### Runs -/

/-- Every run of pushes and pops answers as a plain list. A slot is written once, within its block,
and read at most once, after it was written; nothing else the program rules out happens either, and
the loop of a pop ends within two iterations. -/
theorem is_a_fifo (positive : 0 < N) (ops : List (QueueOp α)) {fuel : Nat} (enough : 2 ≤ fuel) :
    ∃ heap : Heap N α, runOps (Heap.step fuel) .new ops =
        .ok ((Fifo.empty.run none ops).1, heap) ∧
      heap.list.len = (Fifo.empty.run none ops).2.queue.length ∧
      Lawful N heap.trace ∧ written heap.trace = Fifo.pushes ops ∧
      taken heap.trace = Fifo.handed (Fifo.empty.run none ops).1 := by
  obtain ⟨heap, runs, follows⟩ := runOps_follows
    (fun _ _ op (follows : Follows _ _) => follows.step positive enough op)
    new_follows ops
  obtain ⟨-, -, length, -⟩ := id follows.represents
  refine ⟨heap, runs, length, follows.recorded.lawful, ?_, ?_⟩
  · rw [follows.written, Fifo.run_entered]
    rfl
  · rw [follows.taken, Fifo.run_left]
    rfl

/-- Blocks of two slots: the third item goes to a second block, and the first block is freed
when the third item is popped. -/
theorem is_a_fifo_boundary :
    ∃ heap : Heap 2 Nat, runOps (Heap.step 2) .new
        [.push 1, .push 2, .push 3, .pop, .pop, .pop, .pop] =
        .ok ([.pushed (.ok ()), .pushed (.ok ()), .pushed (.ok ()), .popped (some 1),
          .popped (some 2), .popped (some 3), .popped none], heap) ∧ heap.list.len = 0 := by
  have two : 0 < 2 := by decide
  obtain ⟨heap, runs, length, -⟩ := is_a_fifo two
    [.push 1, .push 2, .push 3, .pop, .pop, .pop, .pop] (Nat.le_refl 2)
  exact ⟨heap, runs, length⟩

/-- Dropping a list that follows a plain list frees every block that was ever allocated, and drops
every item that was not popped. -/
theorem Follows.drops {fifo : Fifo α} (follows : Follows fifo heap) (positive : 0 < N) :
    ∃ last, (∀ fuel, heap.live ≤ fuel → (drop fuel).run heap = .ok ((), last)) ∧
      Lawful N last.trace ∧ Sparse N last.trace ∧
      (frees last.trace).Perm (allocations last.trace) ∧
      fifo.entered = fifo.left ++ Access.discarded last.trace := by
  obtain ⟨addresses, chain, -, owned, below⟩ := id follows.represents
  have live : heap.live = addresses.length := live_eq chain.nodup owned below
  obtain ⟨last, drops, recorded, gone, sparse, -, -, discards⟩ :=
    run_dropLoop chain follows.recorded (fun _ _ => rfl) owned
      (follows.counts chain.nodup owned) positive follows.sparse
  refine ⟨last, fun fuel enough => ?_, recorded.lawful, sparse, ?_, ?_⟩
  · unfold drop
    simp only [getList, StateT.run_bind, StateT.run_get, StateT.run_pure, pure_bind]
    exact drops fuel (live ▸ enough)
  · -- Nothing is left, so what was allocated was freed.
    refine (List.perm_ext_iff_of_nodup recorded.lawful.frees_nodup
      recorded.lawful.allocations_nodup).mpr fun address => ?_
    rw [recorded.freed, recorded.allocated]
    exact and_iff_left (gone address)
  · rw [discards, follows.discarded, List.nil_append]
    exact follows.conserves

/-- In every run there are at most two blocks besides those that the items fill, and the blocks
that pops free are drained. A list that is dropped after the run has freed every block once, and
has dropped once every item that no pop has returned. -/
theorem reclaims_memory (positive : 0 < N) (ops : List (QueueOp α)) {fuel : Nat}
    (enough : 2 ≤ fuel) :
    ∃ heap : Heap N α, runOps (Heap.step fuel) .new ops =
        .ok ((Fifo.empty.run none ops).1, heap) ∧
      heap.live ≤ heap.list.len / N + 2 ∧
      (∀ address beginIdx endIdx, .freed address beginIdx endIdx ∈ heap.trace →
        beginIdx = endIdx) ∧
      discarded heap.trace = [] ∧
      ∃ last, (∀ budget, heap.live ≤ budget → (drop budget).run heap = .ok ((), last)) ∧
        Lawful N last.trace ∧ Sparse N last.trace ∧
        (allocations last.trace).Nodup ∧ (frees last.trace).Perm (allocations last.trace) ∧
        Fifo.pushes ops = Fifo.handed (Fifo.empty.run none ops).1 ++ discarded last.trace := by
  obtain ⟨heap, runs, follows⟩ := runOps_follows
    (fun _ _ op (follows : Follows _ _) => follows.step positive enough op) new_follows ops
  obtain ⟨last, drops, lawful, sparse, reclaimed, conserves⟩ := follows.drops positive
  rw [Fifo.run_entered, Fifo.run_left] at conserves
  refine ⟨heap, runs, ?_, follows.drained, follows.discarded, last, drops, lawful, sparse,
    lawful.allocations_nodup, reclaimed, conserves⟩
  obtain ⟨addresses, chain, length, owned, below⟩ := follows.represents
  have filled := (Nat.le_div_iff_mul_le positive).mpr chain.length_le
  rw [live_eq chain.nodup owned below, length]
  omega

/-- Blocks of two slots: after three pushes and a pop there are two blocks, and the list drops the
two items left in them. -/
theorem reclaims_memory_boundary :
    ∃ heap last : Heap 2 Nat, runOps (Heap.step 2) .new [.push 1, .push 2, .push 3, .pop] =
        .ok ([.pushed (.ok ()), .pushed (.ok ()), .pushed (.ok ()), .popped (some 1)], heap) ∧
      (∀ budget, heap.live ≤ budget → (drop budget).run heap = .ok ((), last)) ∧
      [1, 2, 3] = 1 :: discarded last.trace := by
  have two : 0 < 2 := by decide
  obtain ⟨heap, runs, -, -, -, last, drops, -, -, -, -, conserves⟩ := reclaims_memory two
    [.push 1, .push 2, .push 3, .pop] (Nat.le_refl 2)
  exact ⟨heap, last, runs, drops, conserves⟩

end Heap

end Lochan.Queue
